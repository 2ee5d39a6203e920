/-!
# Sources of data

A source is read from the front. Its marks count lines and columns from zero, and a line ends with
a carriage return, a line feed, both of them, or one of three further separators. Two of the
separators keep their character when lines are joined; every other line end reads as a line feed.
-/

namespace TemplateScript.Yaml

/-- A place in a source, with the number of characters before it. -/
structure Mark where
  offset : Nat
  line : Nat
  column : Nat
deriving DecidableEq, Repr, Inhabited

def isBreak (c : Char) : Bool :=
  c == '\n' || c == '\r' || c == '\u0085' || c == '\u2028' || c == '\u2029'

def isGap (c : Char) : Bool := c == ' ' || c == '\t'

/-- The end of a source counts as the end of a line. -/
def endsLine : Option Char → Bool
  | none => true
  | some c => isBreak c

/-- Whether a name or an indicator may end before a character. -/
def endsWord : Option Char → Bool
  | none => true
  | some c => c == ' ' || isBreak c

/-- The same for indicators that a tab may follow. -/
def endsIndicator (c : Option Char) : Bool :=
  endsWord c || c == some '\t'

/-- What is left of a source, and where it begins. -/
structure Source where
  rest : List Char
  mark : Mark
deriving Repr

namespace Source

def ofText (text : List Char) : Source := ⟨text, ⟨0, 0, 0⟩⟩

/-- The character after `count` others. -/
def peek (s : Source) (count : Nat) : Option Char := s.rest[count]?

def head? (s : Source) : Option Char := s.rest.head?

def column (s : Source) : Nat := s.mark.column

/-- A byte order mark takes no column, and a carriage return before a line feed ends no line. -/
def next (s : Source) : Source :=
  match s.rest with
  | [] => s
  | c :: rest =>
    let offset := s.mark.offset + 1
    if isBreak c && !(c == '\r' && rest.head? == some '\n') then
      ⟨rest, ⟨offset, s.mark.line + 1, 0⟩⟩
    else if c == '\uFEFF' then ⟨rest, ⟨offset, s.mark.line, s.mark.column⟩⟩
    else ⟨rest, ⟨offset, s.mark.line, s.mark.column + 1⟩⟩

def skip : Nat → Source → Source
  | 0, s => s
  | count + 1, s => s.next.skip count

/-- Takes the characters that satisfy `p`. -/
def span (p : Char → Bool) (s : Source) : List Char × Source :=
  let taken := s.rest.takeWhile p
  (taken, s.skip taken.length)

def skipWhile (p : Char → Bool) (s : Source) : Source := (s.span p).2

def skipSpaces (s : Source) : Source := s.skipWhile (· == ' ')

/-- Skips a comment, which ends with its line. -/
def skipComment (s : Source) : Source :=
  if s.head? = some '#' then s.skipWhile (!isBreak ·) else s

/-- Takes the end of a line with the character that it reads as. -/
def lineEnd? (s : Source) : Option (Char × Source) :=
  match s.rest with
  | '\r' :: '\n' :: _ => some ('\n', s.skip 2)
  | c :: _ =>
    if c == '\u2028' || c == '\u2029' then some (c, s.next)
    else if isBreak c then some ('\n', s.next)
    else none
  | [] => none

def skipLineEnd (s : Source) : Source :=
  match s.lineEnd? with
  | some (_, after) => after
  | none => s

/-- Whether three equal characters stand here alone. -/
def atMarker (c : Char) (s : Source) : Bool :=
  s.rest.take 3 == [c, c, c] && endsIndicator (s.peek 3)

/-- Whether a marker of documents stands here. -/
def atSeparator (s : Source) : Bool :=
  s.atMarker '-' || s.atMarker '.'

end Source

namespace Mark

/-- How many characters of a line an excerpt shows on each side of a mark. -/
def shownBeside : Nat := 36

/-- How many of them stay when more do not fit. -/
def keptBeside : Nat := 32

/-- The line of a mark, cut around it, with a caret below the mark. -/
def excerpt (mark : Mark) (source : List Char) : String :=
  let before := ((source.take mark.offset).reverse.takeWhile (!isBreak ·)).reverse
  let after := (source.drop mark.offset).takeWhile (!isBreak ·)
  let (head, before) := if before.length ≤ shownBeside then ("", before)
    else (" ... ", before.drop (before.length - keptBeside))
  let (after, tail) := if after.length ≤ shownBeside then (after, "")
    else (after.take keptBeside, " ... ")
  "    " ++ head ++ String.ofList before ++ String.ofList after ++ tail ++ "\n" ++
    String.ofList (List.replicate (4 + before.length + head.length) ' ') ++ "^"

/-- A mark as messages show it. -/
def describe (mark : Mark) (source : List Char) : String :=
  s!"  in \"<unicode string>\", line {mark.line + 1}, column {mark.column + 1}:\n" ++
    mark.excerpt source

end Mark

end TemplateScript.Yaml
