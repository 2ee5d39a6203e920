import TemplateScript.Number.Reading
import TemplateScript.Text.Case
import TemplateScript.Url.Address
import TemplateScript.Url.Domain

/-!
# Origins

The origin of a location is its scheme, its host and its port, where the port is not the one that
the scheme implies. A location without a scheme or a host has none, and neither has one that is
malformed. A host goes out in basic characters, and shows as the name that these stand for.
-/

namespace TemplateScript

/-- The scheme of a location and the authority after it: a host and, perhaps, a port. -/
structure Origin where
  scheme : List Char
  /-- The host in basic characters, or an address without brackets. -/
  host : List Char
  port : Option Int
deriving DecidableEq, Repr

namespace Origin

def isSchemeChar (c : Char) : Bool :=
  c.isAlphanum || c == '+' || c == '.' || c == '-'

/-- A scheme, and the text after its colon. -/
def splitScheme? (location : List Char) : Option (List Char × List Char) :=
  let scheme := location.takeWhile isSchemeChar
  match location.drop scheme.length with
  | ':' :: rest => if scheme.head?.any Char.isAlpha then some (scheme, rest) else none
  | _ => none

/-- What stands between two slashes and the path, without the user before an at sign. -/
def authority? : List Char → Option (List Char)
  | '/' :: '/' :: rest =>
    let authority := rest.takeWhile fun c => c != '/' && c != '?' && c != '#'
    some (authority.reverse.takeWhile (· != '@')).reverse
  | _ => none

/-- The host of an authority and the text of its port. Brackets may hold colons. -/
def splitHost (authority : List Char) : List Char × List Char :=
  let bracketed := (authority.reverse.dropWhile (· != ']')).reverse
  let host :=
    if authority.head? = some '[' ∧ bracketed ≠ [] then bracketed
    else authority.takeWhile (· != ':')
  match authority.drop host.length with
  | ':' :: port => (host, port)
  | port => (host, port)

/-- Characters that a host may hold as they are, letters and digits apart. -/
def hostPunctuation : List Char := "-._~!$&'()*+,;=\"\x60\x7b\x7d%|\\".toList

/-- A character of a host; one that it may not hold is a percent sign and its code. -/
def encodeHostChar (c : Char) : List Char :=
  if c.isAlphanum || hostPunctuation.contains c then [c]
  else '%' :: (hexPadded 2 c.toNat).map Char.toUpper

/-- The host in basic characters, or nothing if there is no such host. -/
def normalHost? (host : List Char) : Option (List Char) :=
  if host = [] then none
  else if Address.hasFourRuns host then
    if Address.isDottedQuad host then some host else none
  else if host.head? = some '[' ∧ host.getLast? = some ']' then
    let inside := host.tail.dropLast
    if Address.isGroupedAddress inside then some inside else none
  else if host.all fun c => Punycode.isBasic c.toNat then
    some ((toLowerCase host).flatMap encodeHostChar)
  else
    (Domain.encode (toLowerCase host)).toOption

/-- The port that a scheme implies. -/
def impliedPort? (scheme : List Char) : Option Int :=
  match String.ofList scheme with
  | "ftp" => some 21
  | "http" | "ws" => some 80
  | "https" | "wss" => some 443
  | _ => none

/-- The port with this text, if it is one: none where the text is empty. -/
def port? (scheme text : List Char) : Option (Option Int) :=
  if text = [] then some none
  else
    (readInteger 10 text).toOption.map fun port =>
      if impliedPort? scheme = some port then none else some port

/-- The longest location that has an origin. -/
def longestLocation : Nat := 65536

def isControl (c : Char) : Bool :=
  decide (c.toNat < 0x20) || c == '\x7f'

/-- The origin of a location, if it has one. -/
def ofLocation? (location : List Char) : Option Origin := do
  if longestLocation < location.length ∨ location.any isControl then none
  let (scheme, rest) ← splitScheme? location
  let (host, port) := splitHost (← authority? rest)
  return ⟨scheme.map Char.toLower, ← normalHost? host, ← port? scheme port⟩

/-- The host as it shows: a name whose first label is punycode is decoded. -/
def shownHost (o : Origin) : Except DomainFault (List Char) :=
  if Label.encodingSign.isPrefixOf o.host then Domain.decode o.host else .ok o.host

/-- An origin as the front of a location. Brackets go around a host with colons. -/
def render (o : Origin) : Except DomainFault String := do
  let host := String.ofList (← o.shownHost)
  let host := if o.host.contains ':' then "[" ++ host ++ "]" else host
  let port := o.port.elim "" fun port => ":" ++ toString port
  return String.ofList o.scheme ++ "://" ++ host ++ port

end Origin

/-- The written origin of a location, if it has one. -/
def originOf (location : String) : Except DomainFault (Option String) :=
  match Origin.ofLocation? location.toList with
  | none => .ok none
  | some origin => origin.render.map some

end TemplateScript
