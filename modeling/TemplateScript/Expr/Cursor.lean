import TemplateScript.Text.Blank
import TemplateScript.Value.Basic

/-!
# Reading tokens in order

A reader takes tokens off the front of a text. It may fail, and then an alternative is tried from
the same place. Beside its result it keeps the farthest place at which a token was missing, which
is where a syntax error is reported.
-/

namespace TemplateScript

/-- What is left of a text, and where it begins. -/
structure Cursor where
  rest : List Char
  offset : Nat
  position : Position

namespace Cursor

def ofText (text : List Char) : Cursor := ⟨text, 0, .start⟩

/-- The cursor behind the next `count` characters. -/
def skip (cursor : Cursor) (count : Nat) : Cursor where
  rest := cursor.rest.drop count
  offset := cursor.offset + count
  position := cursor.position.advance (cursor.rest.take count)

/-- The text between two cursors. -/
def textUpTo (cursor later : Cursor) : List Char :=
  cursor.rest.take (later.offset - cursor.offset)

/-- The text between two cursors as a part of the whole text. -/
def locationUpTo (cursor later : Cursor) (tag : String) : Location :=
  ⟨cursor.position, some tag, some (String.ofList (cursor.textUpTo later))⟩

end Cursor

/-- The farthest place at which a token was missing. -/
structure Reach where
  offset : Nat
  position : Position

namespace Reach

def start : Reach := ⟨0, .start⟩

def extend (reach : Reach) (cursor : Cursor) : Reach :=
  if reach.offset ≤ cursor.offset then ⟨cursor.offset, cursor.position⟩ else reach

end Reach

abbrev Reader := StateT Cursor (OptionT (StateM Reach))

namespace Reader

/-- Takes a token, which has at least one character. -/
def token (length : List Char → Nat) : Reader (List Char) := fun cursor => do
  let count := length cursor.rest
  if count = 0 then
    modifyThe Reach (·.extend cursor)
    failure
  else
    return (cursor.rest.take count, cursor.skip count)

/-- Takes all blanks that stand here. -/
def blanks : Reader Unit :=
  modify fun cursor => cursor.skip (cursor.rest.takeWhile isBlank).length

/-- Takes what follows the blanks that stand here. -/
def spaced {α : Type} (reader : Reader α) : Reader α := do
  blanks
  reader

/-- Takes the same thing again and again, at most `limit` times. -/
def manyUpTo {α : Type} (reader : Reader α) : Nat → Reader (List α)
  | 0 => pure []
  | limit + 1 =>
    (do
      let first ← reader
      let rest ← manyUpTo reader limit
      return first :: rest) <|> pure []

/-- Takes the same thing, of at least one character, as often as it stands here. -/
def many {α : Type} (reader : Reader α) : Reader (List α) := do
  manyUpTo reader (← get).rest.length

/-- The result of a reader with the location of the text that it took. -/
def located {α : Type} (tag : String) (reader : Reader α) : Reader (α × Location) := do
  let before ← get
  let result ← reader
  let after ← get
  return (result, before.locationUpTo after tag)

/-- A token with its location. -/
def locatedToken (tag : String) (length : List Char → Nat) : Reader (String × Location) := do
  let (text, loc) ← located tag (token length)
  return (String.ofList text, loc)

end Reader

end TemplateScript
