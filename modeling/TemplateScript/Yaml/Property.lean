import TemplateScript.Number.Reading
import TemplateScript.Yaml.Fault
import TemplateScript.Yaml.Token

/-!
# Properties of nodes and documents

The names of anchors and references, the tags of nodes, and the directives before a document.
-/

namespace TemplateScript.Yaml

/-- Characters of names. -/
def isNameChar (c : Char) : Bool :=
  c.isAlphanum || c == '-' || c == '_'

/-- Characters of a tag besides escaped ones. -/
def isUriChar (c : Char) : Bool :=
  c.isAlphanum || "-;/?:@&=+$,_.!~*'()[]".toList.contains c

/-- Whether a name of an anchor may end before a character. -/
def endsName (c : Option Char) : Bool :=
  endsIndicator c || c.any "?:,]\x7d%@\x60".toList.contains

namespace Property

/-- The fault of a needed character at `s` while something is read that began at `start`. -/
def expected {α : Type} (activity : Activity) (start : Mark) (what : String) (s : Source) :
    Except Fault α :=
  .error ⟨.tokens, some (activity, some start), .expected what s.head?, s.mark⟩

def nameNeeded : String := "alphabetic or numeric character"

/-- The name behind the sign of an anchor or a reference. -/
def name (activity : Activity) (s : Source) : Except Fault (String × Source) := do
  let (name, after) := s.next.span isNameChar
  if name.isEmpty then expected activity s.mark nameNeeded s.next
  else if endsName after.head? then return (String.ofList name, after)
  else expected activity s.mark nameNeeded after

/-- The bytes of consecutive escapes, each a percent sign and two hexadecimal digits. -/
def escapedBytes (activity : Activity) (start : Mark) :
    Nat → Source → Except Fault (List UInt8 × Source)
  | 0, s => .ok ([], s)
  | limit + 1, s =>
    if s.head? ≠ some '%' then .ok ([], s)
    else
      let digits := s.next
      match digits.peek 0, digits.peek 1 with
      | some a, some b =>
        match hexValue? a, hexValue? b with
        | some high, some low => do
          let (bytes, after) ← escapedBytes activity start limit (digits.skip 2)
          return (UInt8.ofNat (16 * high + low) :: bytes, after)
        | none, _ => bad digits (some a)
        | some _, none => bad digits (some b)
      | some a, none => bad digits (if (hexValue? a).isSome then none else some a)
      | none, _ => bad digits none
where
  hexValue? (c : Char) : Option Nat :=
    if c.isDigit || ('a' ≤ c && c ≤ 'f') || ('A' ≤ c && c ≤ 'F') then alphanumericDigit? c else none
  bad (s : Source) (found : Option Char) : Except Fault (List UInt8 × Source) :=
    .error ⟨.tokens, some (activity, some start),
      .expected "URI escape sequence of 2 hexadecimal numbers" found, s.mark⟩

/-- The pieces of a tag, plain or escaped. -/
def uriPieces (activity : Activity) (start : Mark) : Nat → Source → Except Fault (String × Source)
  | 0, s => .ok ("", s)
  | limit + 1, s =>
    if s.head? = some '%' then do
      let (bytes, after) ← escapedBytes activity start s.rest.length s
      match String.fromUTF8? (ByteArray.mk bytes.toArray) with
      | none => .error ⟨.tokens, some (activity, some start), .malformedUri, s.mark⟩
      | some piece =>
        let (rest, after) ← uriPieces activity start limit after
        return (piece ++ rest, after)
    else
      let (piece, after) := s.span isUriChar
      if piece.isEmpty then .ok ("", after)
      else do
        let (rest, after) ← uriPieces activity start limit after
        return (String.ofList piece ++ rest, after)

/-- A tag or the rest of one, which is not empty. -/
def uri (scanning reading : Activity) (start : Mark) (s : Source) :
    Except Fault (String × Source) := do
  let (text, after) ← uriPieces scanning start (s.rest.length + 1) s
  if after.mark.offset = s.mark.offset then expected reading start "URI" s
  else return (text, after)

/-- A handle: an exclamation mark, or two with a name between them. -/
def handle (activity : Activity) (start : Mark) (s : Source) : Except Fault (String × Source) :=
  if s.head? ≠ some '!' then expected activity start "'!'" s
  else if s.peek 1 = some ' ' then .ok ("!", s.next)
  else
    let (name, after) := s.next.span isNameChar
    if after.head? = some '!' then .ok ("!" ++ String.ofList name ++ "!", after.next)
    else expected activity start "'!'" after

/-- Whether a second exclamation mark stands in the word at the front. -/
def hasHandle (text : List Char) : Bool :=
  (text.takeWhile fun c => !endsWord (some c)).contains '!'

/-- The tag at the front of a source. -/
def tag (s : Source) : Except Fault (TokenKind × Source) := do
  let start := s.mark
  let (kind, after) ←
    if s.peek 1 = some '<' then do
      let (whole, after) ← uri .tag .tagUri start (s.skip 2)
      if after.head? = some '>' then pure (TokenKind.tag none whole, after.next)
      else expected .tagUri start "'>'" after
    else if endsIndicator (s.peek 1) then pure (TokenKind.tag none "!", s.next)
    else do
      let (handle, after) ←
        if hasHandle s.next.rest then handle .tag start s else pure ("!", s.next)
      let (rest, after) ← uri .tag .tagUri start after
      pure (TokenKind.tag (some handle) rest, after)
  if endsWord after.head? then return (kind, after)
  else expected .tag start "' '" after

/-- One number of a version. -/
def versionNumber (start : Mark) (s : Source) : Except Fault (Nat × Source) :=
  let (digits, after) := s.span Char.isDigit
  if digits.isEmpty then expected .directive start "a digit" s
  else .ok (valueOfDigits 10 (digits.filterMap alphanumericDigit?), after)

def version (start : Mark) (s : Source) : Except Fault (Directive × Source) := do
  let (major, after) ← versionNumber start s.skipSpaces
  if after.head? ≠ some '.' then expected .directive start "a digit or '.'" after
  else
    let (minor, after) ← versionNumber start after.next
    if endsWord after.head? then return (.version major minor, after)
    else expected .directive start "a digit or ' '" after

def handleDirective (start : Mark) (s : Source) : Except Fault (Directive × Source) := do
  let (handle, after) ← handle .directive start s.skipSpaces
  if after.head? ≠ some ' ' then expected .directive start "' '" after
  else
    let (beginning, after) ← uri .directive .directiveUri start after.skipSpaces
    if endsWord after.head? then return (.handle handle beginning, after)
    else expected .directive start "' '" after

/-- The directive at the front of a source, up to the end of its line. -/
def directive (s : Source) : Except Fault (Token × Source) := do
  let start := s.mark
  let (name, after) := s.next.span isNameChar
  if name.isEmpty then expected .directive start nameNeeded s.next
  else if !endsWord after.head? then expected .directive start nameNeeded after
  else
    let (d, after) ←
      if name = "YAML".toList then version start after
      else if name = "TAG".toList then handleDirective start after
      else pure (Directive.other (String.ofList name), after)
    let token : Token := ⟨.directive d, start, after.mark⟩
    let ending := match d with
      | .other _ => after.skipWhile (!isBreak ·)
      | _ => after.skipSpaces.skipComment
    if endsLine ending.head? then return (token, ending.skipLineEnd)
    else expected .directive start "a comment or a line break" ending

end Property

end TemplateScript.Yaml
