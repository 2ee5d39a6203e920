import TemplateScript.Expr.Token

/-!
# Segments of a document

Every text splits into segments: directives, escapes, wiki links, attributes, and plain text for
all else. A directive ends at the brace that closes it outside quoted strings. A dollar sign, a
backslash or a bracket that opens nothing is plain text.
-/

namespace TemplateScript

inductive Segment where
  | directive (expression : List Char)
  /-- A backslash and a punctuation character. -/
  | escape (c : Char)
  | wikiLink (page : List Char) (label : Option (List Char))
  /-- The colon keeps the blanks after it. -/
  | attribute (name colon value : List Char)
  | text (content : List Char)
deriving DecidableEq, Repr

namespace Segment

/-- The text that a segment was split off. -/
def render : Segment → List Char
  | .directive expression => '$' :: '\x7b' :: expression ++ ['\x7d']
  | .escape c => ['\\', c]
  | .wikiLink page label => '[' :: '[' :: page ++ label.getD [] ++ [']', ']']
  | .attribute name colon value => '[' :: name ++ colon ++ value ++ [']']
  | .text content => content

/-- Where a scan for a closing brace stands: outside quotes, inside a quoted string, or behind a
backslash in one. -/
inductive Quoting where
  | outside
  | inside (quote : Char)
  | escaped (quote : Char)
deriving DecidableEq, Repr

/-- Splits a text at the brace that closes `depth` open ones and one more. -/
def splitAtClosing : Nat → Quoting → List Char → Option (List Char × List Char)
  | _, _, [] => none
  | depth, .outside, c :: rest =>
    if c = '\x7d' then
      match depth with
      | 0 => some ([], rest)
      | depth + 1 =>
        (splitAtClosing depth .outside rest).map fun (inner, after) => (c :: inner, after)
    else
      let next :=
        if c = '\x7b' then splitAtClosing (depth + 1) .outside rest
        else if c = '"' ∨ c = '\'' then splitAtClosing depth (.inside c) rest
        else splitAtClosing depth .outside rest
      next.map fun (inner, after) => (c :: inner, after)
  | depth, .inside quote, c :: rest =>
    if c = '\n' then none
    else
      let next :=
        if c = quote then splitAtClosing depth .outside rest
        else if c = '\\' then splitAtClosing depth (.escaped quote) rest
        else splitAtClosing depth (.inside quote) rest
      next.map fun (inner, after) => (c :: inner, after)
  | depth, .escaped quote, c :: rest =>
    if c = '\n' then none
    else (splitAtClosing depth (.inside quote) rest).map fun (inner, after) => (c :: inner, after)

/-- The characters of a directive's expression, of which there is at least one. -/
def directive? : List Char → Option (Segment × List Char)
  | '$' :: '\x7b' :: rest =>
    match splitAtClosing 0 .outside rest with
    | some (c :: expression, after) => some (.directive (c :: expression), after)
    | _ => none
  | _ => none

/-- Punctuation characters of ASCII. -/
def isPunctuation (c : Char) : Bool :=
  ('!' ≤ c && c ≤ '/') || (':' ≤ c && c ≤ '@') || ('[' ≤ c && c ≤ '\x60') || ('\x7b' ≤ c && c ≤ '~')

def escape? : List Char → Option (Segment × List Char)
  | '\\' :: c :: rest => if isPunctuation c then some (.escape c, rest) else none
  | _ => none

/-- The characters after `$` and an opening brace up to and with the closing one, on one line and
with at most one level of braces inside. The flag tells whether a brace is open inside. -/
def bracedTail : Bool → List Char → Option Nat
  | _, [] => none
  | nested, c :: rest =>
    if c = '\n' then none
    else if c = '\x7d' then
      if nested then (bracedTail false rest).map (· + 1) else some 1
    else if c = '\x7b' then
      if nested then none else (bracedTail true rest).map (· + 1)
    else (bracedTail nested rest).map (· + 1)

def isPageChar (c : Char) : Bool :=
  c != ']' && c != '|' && c != '\n'

/-- The length of the next piece of a page: a braced directive or one character. -/
def pagePiece : List Char → Nat
  | '$' :: '\x7b' :: rest =>
    match bracedTail false rest with
    | some count => count + 2
    | none => 1
  | c :: _ => if isPageChar c then 1 else 0
  | [] => 0

/-- The length of a page that begins here, of at most `limit` pieces. -/
def pageLength : Nat → List Char → Nat
  | 0, _ => 0
  | limit + 1, source =>
    let piece := pagePiece source
    if piece = 0 then 0 else piece + pageLength limit (source.drop piece)

/-- A bar and the rest of the line up to a bracket. -/
def label? : List Char → Option (List Char × List Char)
  | '|' :: rest =>
    some ('|' :: rest.takeWhile (fun c => c != ']' && c != '\n'),
      rest.dropWhile fun c => c != ']' && c != '\n')
  | _ => none

def wikiLink? : List Char → Option (Segment × List Char)
  | '[' :: '[' :: rest =>
    let length := pageLength rest.length rest
    let page := rest.take length
    let afterPage := rest.drop length
    let (label, afterLabel) := match label? afterPage with
      | some (label, after) => (some label, after)
      | none => (none, afterPage)
    match afterLabel with
    | ']' :: ']' :: after => if page.isEmpty then none else some (.wikiLink page label, after)
    | _ => none
  | _ => none

def isNameStart (c : Char) : Bool := c.isAlpha || c == '_'

def isNamePart (c : Char) : Bool := c.isAlphanum || c == '_' || c == '-'

/-- A name that begins with a letter or an underscore. -/
def splitName : List Char → List Char × List Char
  | [] => ([], [])
  | c :: rest =>
    if isNameStart c then (c :: rest.takeWhile isNamePart, rest.dropWhile isNamePart)
    else ([], c :: rest)

/-- Whether a text begins a directive. -/
def opensDirective : List Char → Bool
  | '$' :: '\x7b' :: _ => true
  | _ => false

/-- Takes characters that satisfy `p` up to the beginning of a directive. -/
def splitPlain (p : Char → Bool) : List Char → List Char × List Char
  | [] => ([], [])
  | c :: rest =>
    if p c && !opensDirective (c :: rest) then
      let (content, after) := splitPlain p rest
      (c :: content, after)
    else ([], c :: rest)

def isGap (c : Char) : Bool := c == ' ' || c == '\t'

def attribute? : List Char → Option (Segment × List Char)
  | '[' :: rest =>
    let (name, afterName) := splitName rest
    match afterName with
    | ':' :: afterColon =>
      let colon := ':' :: afterColon.takeWhile isGap
      let (value, afterValue) :=
        splitPlain (fun c => c != ']' && c != '\n') (afterColon.dropWhile isGap)
      match afterValue with
      | ']' :: after => if name.isEmpty then none else some (.attribute name colon value, after)
      | _ => none
    | _ => none
  | _ => none

/-- Plain text up to a character that may open something else; such a character at the front is
taken alone. -/
def takeText (source : List Char) : Segment × List Char :=
  match splitPlain (fun c => c != '\\' && c != '[') source, source with
  | (c :: content, after), _ => (.text (c :: content), after)
  | ([], _), c :: rest => (.text [c], rest)
  | ([], _), [] => (.text [], [])

/-- The segment at the front of a text and the text after it. -/
def next (source : List Char) : Segment × List Char :=
  (directive? source <|> escape? source <|> wikiLink? source <|> attribute? source).getD
    (takeText source)

/-- The segments of a text of at most `limit` characters. -/
def splitUpTo : Nat → List Char → List Segment
  | 0, _ | _, [] => []
  | limit + 1, c :: rest =>
    let (segment, after) := next (c :: rest)
    segment :: splitUpTo limit after

/-- Adjacent plain texts are one. -/
def merge : List Segment → List Segment
  | [] => []
  | .text content :: rest =>
    match merge rest with
    | .text more :: others => .text (content ++ more) :: others
    | others => .text content :: others
  | segment :: rest => segment :: merge rest

/-- The segments of a text, no two adjacent ones plain text. -/
def split (source : List Char) : List Segment :=
  merge (splitUpTo source.length source)

end Segment

end TemplateScript
