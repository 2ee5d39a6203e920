import TemplateScript.Number.Reading
import TemplateScript.Yaml.Fault

/-!
# Texts of scalars

A scalar is written plainly, in quotes or as an indented block. Where its text goes on over several
lines, a single line end reads as a space and further ones are kept; a block keeps all of them or
folds those between lines that begin with text.
-/

namespace TemplateScript.Yaml

/-- How the end of a line and the line ends after it read inside a text. -/
def folded (lineEnd : Char) (further : List Char) : List Char :=
  if lineEnd != '\n' then lineEnd :: further
  else if further.isEmpty then [' ']
  else further

/-- The signs that separate and enclose the items of flow collections. -/
def isFlowSign (c : Char) : Bool :=
  c == ',' || c == '[' || c == ']' || c == '\x7b' || c == '\x7d'

namespace Plain

/-- Whether a plain text ends before `c`, which `next` follows. -/
def stops (flow : Bool) (c : Char) (next : Option Char) : Bool :=
  isGap c || isBreak c ||
    (c == ':' && (endsIndicator next || (flow && next.any isFlowSign))) ||
    (flow && (c == '?' || isFlowSign c))

/-- The length of the plain text without gaps at the front. -/
def wordLength (flow : Bool) : List Char → Nat
  | [] => 0
  | c :: rest => if stops flow c rest.head? then 0 else wordLength flow rest + 1

/-- The line ends at the front, between spaces; none before a marker of documents, with which the
text ends. -/
def furtherLines : Nat → Source → Option (List Char) × Source
  | 0, s => (some [], s)
  | limit + 1, s =>
    let s := s.skipSpaces
    match s.lineEnd? with
    | none => (some [], s)
    | some (c, s) =>
      if s.atSeparator then (none, s)
      else
        let (further, s) := furtherLines limit s
        (further.map (c :: ·), s)

/-- What the gap before the next word reads as, which is nothing if the text ends, and whether it
holds a line end. -/
def gap (s : Source) : List Char × Bool × Source :=
  let (spaces, s) := s.span (· == ' ')
  match s.lineEnd? with
  | none => (spaces, false, s)
  | some (c, s) =>
    if s.atSeparator then ([], true, s)
    else
      match furtherLines s.rest.length s with
      | (none, s) => ([], true, s)
      | (some further, s) => (folded c further, true, s)

/-- A plain text with the mark of its end; the flag tells whether a line end follows it. -/
structure Text where
  text : List Char
  stop : Mark
  lineEnded : Bool
  after : Source

/-- Continues a text with the words that are indented by at least `indent`. -/
def continued (flow : Bool) (indent : Int) : Nat → Text → List Char → Text
  | 0, t, _ => t
  | limit + 1, t, spaces =>
    let length := wordLength flow t.after.rest
    if t.after.head? = some '#' ∨ length = 0 then t
    else
      let text := t.text ++ spaces ++ t.after.rest.take length
      let behind := t.after.skip length
      let (spaces, lineEnded, after) := gap behind
      let t := ⟨text, behind.mark, lineEnded, after⟩
      let isOutside := !flow && decide (after.column < indent)
      if spaces.isEmpty || after.head? == some '#' || isOutside then t
      else continued flow indent limit t spaces

/-- The plain text at the front of a source. -/
def read (flow : Bool) (indent : Int) (s : Source) : Text :=
  continued flow indent s.rest.length ⟨[], s.mark, false, s⟩ []

end Plain

namespace Flow

/-- The character that a letter behind a backslash stands for. -/
def replacement? (c : Char) : Option Char :=
  match c with
  | '0' => some '\x00'
  | 'a' => some '\x07'
  | 'b' => some '\x08'
  | 't' => some '\t'
  | '\t' => some '\t'
  | 'n' => some '\n'
  | 'v' => some '\x0b'
  | 'f' => some '\x0c'
  | 'r' => some '\r'
  | 'e' => some '\x1b'
  | ' ' => some ' '
  | '"' => some '"'
  | '\\' => some '\\'
  | '/' => some '/'
  | 'N' => some '\u0085'
  | '_' => some '\u00A0'
  | 'L' => some '\u2028'
  | 'P' => some '\u2029'
  | _ => none

/-- How many digits the code of a character has after a letter behind a backslash. -/
def codeLength? (c : Char) : Option Nat :=
  match c with
  | 'x' => some 2
  | 'u' => some 4
  | 'U' => some 8
  | _ => none

def fault {α : Type} (activity : Activity) (start : Mark) (problem : Problem) (s : Source) :
    Except LoadFault α :=
  .error (.malformed ⟨.tokens, some (activity, some start), problem, s.mark⟩)

/-- The line ends at the front, between gaps. -/
def furtherLines (start : Mark) : Nat → Source → Except LoadFault (List Char × Source)
  | 0, s => .ok ([], s)
  | limit + 1, s =>
    if s.atSeparator then fault .quotedScalar start .documentSeparator s
    else
      let s := s.skipWhile isGap
      match s.lineEnd? with
      | none => .ok ([], s)
      | some (c, s) => do
        let (further, s) ← furtherLines start limit s
        return (c :: further, s)

/-- What a gap inside quotes reads as. -/
def gap (start : Mark) (s : Source) : Except LoadFault (List Char × Source) :=
  let (spaces, s) := s.span isGap
  match s.head?, s.lineEnd? with
  | none, _ => fault .quotedScalar start .endOfStream s
  | some _, some (c, s) => do
    let (further, s) ← furtherLines start (s.rest.length + 1) s
    return (folded c further, s)
  | some _, none => .ok (spaces, s)

/-- The character of a code of `length` digits at the front. -/
def codeChar (start : Mark) (length : Nat) (s : Source) : Except LoadFault (Char × Source) :=
  let digits := s.rest.takeWhile isHexDigit
  if digits.length < length then
    fault .doubleQuoted start
      (.expected s!"escape sequence of {length} hexadecimal numbers" (s.peek digits.length)) s
  else
    let code := valueOfDigits 16 ((digits.take length).filterMap alphanumericDigit?)
    if code.isValidChar then .ok (Char.ofNat code, s.skip length)
    else .error (.content (if code < 0x110000 then .surrogate code else .code code))

/-- What a backslash and the text behind it read as. -/
def escape (start : Mark) (s : Source) : Except LoadFault (List Char × Source) :=
  match s.head?.bind replacement?, s.head?.bind codeLength?, s.lineEnd? with
  | some c, _, _ => .ok ([c], s.next)
  | none, some length, _ => do
    let (c, s) ← codeChar start length s.next
    return ([c], s)
  | none, none, some (_, s) => furtherLines start (s.rest.length + 1) s
  | none, none, none => fault .doubleQuoted start (.unknownEscape s.head?) s

/-- The text up to the closing quote. -/
def upToQuote (quote : Char) (start : Mark) : Nat → Source → Except LoadFault (List Char × Source)
  | 0, s => fault .quotedScalar start .endOfStream s
  | limit + 1, s =>
    match s.rest with
    | [] => fault .quotedScalar start .endOfStream s
    | c :: rest =>
      if c == quote then
        if quote == '\'' && rest.head? == some '\'' then do
          let (text, after) ← upToQuote quote start limit (s.skip 2)
          return ('\'' :: text, after)
        else .ok ([], s.next)
      else do
        let (piece, s) ←
          if c == '\\' && quote == '"' then escape start s.next
          else if isGap c || isBreak c then gap start s
          else .ok ([c], s.next)
        let (text, after) ← upToQuote quote start limit s
        return (piece ++ text, after)

/-- The quoted text at the front of a source. -/
def read (s : Source) : Except LoadFault (List Char × Source) :=
  upToQuote (s.head?.getD '"') s.mark (s.rest.length + 1) s.next

end Flow

namespace Block

/-- What becomes of the line ends after the last line of a block. -/
inductive Chomping where
  | strip | clip | keep
deriving DecidableEq, Repr

structure Header where
  chomping : Chomping
  /-- How much deeper than its parent the block is indented, if the header says so. -/
  increment : Option Nat

def fault {α : Type} (start : Mark) (problem : Problem) (s : Source) : Except Fault α :=
  .error ⟨.tokens, some (.blockScalar, some start), problem, s.mark⟩

def chomping? (s : Source) : Option (Chomping × Source) :=
  match s.head? with
  | some '+' => some (.keep, s.next)
  | some '-' => some (.strip, s.next)
  | _ => none

def increment? (start : Mark) (s : Source) : Except Fault (Option Nat × Source) :=
  match s.head? with
  | some c =>
    if c = '0' then fault start .zeroIndentation s
    else if c.isDigit then .ok (some (c.toNat - '0'.toNat), s.next)
    else .ok (none, s)
  | none => .ok (none, s)

/-- The indicators of a header, in either order. -/
def header (start : Mark) (s : Source) : Except Fault (Header × Source) := do
  let (header, s) ← match chomping? s with
    | some (chomping, s) => do
      let (increment, s) ← increment? start s
      pure (Header.mk chomping increment, s)
    | none => do
      let (increment, s) ← increment? start s
      match increment, chomping? s with
      | some _, some (chomping, s) => pure (Header.mk chomping increment, s)
      | _, _ => pure (Header.mk .clip increment, s)
  if endsWord s.head? then return (header, s)
  else fault start (.expected "chomping or indentation indicators" s.head?) s

/-- What may stand behind the indicators. -/
def headerEnd (start : Mark) (s : Source) : Except Fault Source :=
  let s := s.skipSpaces.skipComment
  if endsLine s.head? then .ok s.skipLineEnd
  else fault start (.expected "a comment or a line break" s.head?) s

/-- The line ends before the first line of a block, and its deepest indentation so far. -/
def leadingLines : Nat → Nat → Source → List Char × Nat × Mark × Source
  | 0, deepest, s => ([], deepest, s.mark, s)
  | limit + 1, deepest, s =>
    let spaced := s.skipSpaces
    let deepest := max deepest spaced.column
    match spaced.lineEnd? with
    | none => ([], deepest, s.mark, spaced)
    | some (c, after) =>
      let (further, deepest, stop, after) := leadingLines limit deepest after
      (c :: further, deepest, stop, after)

/-- Skips the spaces of an indentation. -/
def skipIndentation (indent : Nat) : Nat → Source → Source
  | 0, s => s
  | limit + 1, s =>
    if s.column < indent ∧ s.head? = some ' ' then skipIndentation indent limit s.next else s

/-- The line ends before the next line that is indented by at least `indent`. -/
def furtherLines (indent : Nat) : Nat → Source → List Char × Mark × Source
  | 0, s => ([], s.mark, s)
  | limit + 1, s =>
    let indented := skipIndentation indent s.rest.length s
    match indented.lineEnd? with
    | none => ([], s.mark, indented)
    | some (c, after) =>
      let (further, stop, after) := furtherLines indent limit after
      (c :: further, stop, after)

/-- The lines of a block: their text, the last line end, the line ends behind it, and where they
end. -/
structure Lines where
  text : List Char
  lineEnd : List Char
  further : List Char
  stop : Mark
  after : Source

/-- How a line end between two lines reads. -/
def between (folding : Bool) (lineEnd : List Char) (textual : Bool) (further : List Char) :
    List Char :=
  if folding && lineEnd == ['\n'] && textual then
    if further.isEmpty then [' '] else []
  else lineEnd

def beginsWithGap (s : Source) : Bool := s.head?.any isGap

/-- The lines indented by `indent`, which begin behind the line ends `leading`. -/
def lines (folding : Bool) (indent : Nat) : Nat → List Char → Mark → Source → Lines
  | 0, leading, stop, s => ⟨[], [], leading, stop, s⟩
  | limit + 1, leading, stop, s =>
    if s.column ≠ indent ∨ s.rest = [] then ⟨[], [], leading, stop, s⟩
    else
      let (line, behind) := s.span (!isBreak ·)
      let (lineEnd, after) := match behind.lineEnd? with
        | some (c, after) => ([c], after)
        | none => ([], behind)
      let (further, stop, after) := furtherLines indent (after.rest.length + 1) after
      if after.column = indent ∧ after.rest ≠ [] then
        let textual := !beginsWithGap s && !beginsWithGap after
        let others := lines folding indent limit further stop after
        { others with
          text := leading ++ line ++ between folding lineEnd textual further ++ others.text }
      else ⟨leading ++ line, lineEnd, further, stop, after⟩

/-- The block at the front of a source, whose parent is indented by `parent`. -/
def read (folding : Bool) (parent : Int) (s : Source) :
    Except Fault (List Char × Mark × Source) := do
  let start := s.mark
  let (header, s) ← header start s.next
  let s ← headerEnd start s
  let least := (max 1 (parent + 1)).toNat
  let limit := s.rest.length + 1
  let (leading, indent, stop, s) := match header.increment with
    | some increment =>
      let indent := least + increment - 1
      let (leading, stop, s) := furtherLines indent limit s
      (leading, indent, stop, s)
    | none =>
      let (leading, deepest, stop, s) := leadingLines limit 0 s
      (leading, max least deepest, stop, s)
  let lines := lines folding indent limit leading stop s
  let text := match header.chomping with
    | .strip => lines.text
    | .clip => lines.text ++ lines.lineEnd
    | .keep => lines.text ++ lines.lineEnd ++ lines.further
  return (text, lines.stop, lines.after)

end Block

end TemplateScript.Yaml
