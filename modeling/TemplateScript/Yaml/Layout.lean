import TemplateScript.Yaml.Property
import TemplateScript.Yaml.Scalar

/-!
# Tokens of a source

Tokens come from signs, from indentation, and from what a colon tells about the text before it: a
colon may make a key of what stands before it on the same line, and then the token of the key, and
perhaps that of a new mapping, are put before it. A token that may still become a key is held back,
so a fault behind it comes before everything that is done with it.
-/

namespace TemplateScript.Yaml

/-- Where a key may begin. -/
structure PossibleKey where
  /-- How many tokens are before it. -/
  number : Nat
  /-- Whether the line is no part of its mapping unless the key is one. -/
  required : Bool
  mark : Mark
deriving DecidableEq, Repr

/-- How far from its beginning the colon of a key may stand. -/
def keyReach : Nat := 1024

/-- A source of which tokens were taken. -/
structure Layout where
  source : Source
  /-- The last token comes first. -/
  tokens : List Token
  /-- How many flow collections are open. -/
  flow : Nat
  /-- The column of the innermost block collection, below zero outside all of them. -/
  indent : Int
  outer : List Int
  /-- Whether a key may begin here. -/
  keyAllowed : Bool
  /-- Where keys may begin, by the number of open flow collections. -/
  keys : List (Nat × PossibleKey)

namespace Layout

def start (source : Source) : Layout := ⟨source, [], 0, -1, [], true, []⟩

def fault {α : Type} (context : Option (Activity × Option Mark)) (problem : Problem) (mark : Mark) :
    Except LoadFault α :=
  .error (.malformed ⟨.tokens, context, problem, mark⟩)

def missingColon {α : Type} (key : PossibleKey) (mark : Mark) : Except LoadFault α :=
  fault (some (.simpleKey, some key.mark)) .missingColon mark

def push (l : Layout) (kind : TokenKind) (start stop : Mark) : Layout :=
  { l with tokens := ⟨kind, start, stop⟩ :: l.tokens }

/-- Puts a token behind the first `number` ones. -/
def insert (l : Layout) (number : Nat) (token : Token) : Layout :=
  { l with tokens := l.tokens.insertIdx (l.tokens.length - number) token }

/-- Drops the keys that can no longer be completed. -/
def dropStale (l : Layout) : Except LoadFault Layout := do
  let stale (key : PossibleKey) : Bool :=
    key.mark.line != l.source.mark.line || l.source.mark.offset - key.mark.offset > keyReach
  match l.keys.find? fun entry => stale entry.2 && entry.2.required with
  | some (_, key) => missingColon key l.source.mark
  | none => return { l with keys := l.keys.filter fun entry => !stale entry.2 }

/-- Gives up the key that may begin at the present level. -/
def dropKey (l : Layout) : Except LoadFault Layout :=
  match l.keys.lookup l.flow with
  | some key =>
    if key.required then missingColon key l.source.mark
    else .ok { l with keys := l.keys.filter fun entry => entry.1 != l.flow }
  | none => .ok l

/-- Notes that a key may begin here. -/
def noteKey (l : Layout) : Except LoadFault Layout := do
  if l.keyAllowed then
    let required := l.flow = 0 && l.indent = l.source.column
    let l ← l.dropKey
    return { l with keys := l.keys ++ [(l.flow, ⟨l.tokens.length, required, l.source.mark⟩)] }
  else return l

/-- Closes the block collections that are indented deeper than a column. -/
def unwindTo (column : Int) : Nat → Layout → Layout
  | 0, l => l
  | limit + 1, l =>
    if column < l.indent then
      let mark := l.source.mark
      unwindTo column limit
        { l.push .blockEnd mark mark with indent := l.outer.headD (-1), outer := l.outer.tail }
    else l

/-- Indentation has no meaning inside a flow collection. -/
def unwind (l : Layout) (column : Int) : Layout :=
  if l.flow = 0 then l.unwindTo column (l.outer.length + 1) else l

/-- Opens a block collection at a column, unless one is open there. -/
def deepen (l : Layout) (column : Nat) : Option Layout :=
  if l.indent < column then some { l with indent := column, outer := l.indent :: l.outer } else none

/-- Takes a token of `count` characters. -/
def sign (l : Layout) (kind : TokenKind) (count : Nat) : Layout :=
  let after := l.source.skip count
  { l.push kind l.source.mark after.mark with source := after }

/-- Skips what stands between tokens. A new line in a block allows keys again. -/
def skipBlanks : Nat → Layout → Layout
  | 0, l => l
  | limit + 1, l =>
    let source := l.source.skipSpaces.skipComment
    match source.lineEnd? with
    | some (_, after) =>
      skipBlanks limit { l with source := after, keyAllowed := l.keyAllowed || l.flow = 0 }
    | none => { l with source }

def skipToToken (l : Layout) : Layout :=
  let source := if l.source.mark.offset = 0 ∧ l.source.head? = some '\uFEFF' then l.source.next
    else l.source
  skipBlanks (source.rest.length + 1) { l with source }

/-- Leaves all block collections. -/
def leaveBlocks (l : Layout) : Except LoadFault Layout := do
  let l ← (l.unwind (-1)).dropKey
  return { l with keyAllowed := false }

def streamEnd (l : Layout) : Except LoadFault Layout := do
  let l ← l.leaveBlocks
  return { l.sign .streamEnd 0 with keys := [] }

def directive (l : Layout) : Except LoadFault Layout := do
  let l ← l.leaveBlocks
  let (token, source) ← (Property.directive l.source).mapError .malformed
  return { l with source, tokens := token :: l.tokens }

def documentMarker (l : Layout) (kind : TokenKind) : Except LoadFault Layout := do
  return (← l.leaveBlocks).sign kind 3

def openFlow (l : Layout) (kind : TokenKind) : Except LoadFault Layout := do
  let l ← l.noteKey
  return { l with flow := l.flow + 1, keyAllowed := true }.sign kind 1

def closeFlow (l : Layout) (kind : TokenKind) : Except LoadFault Layout := do
  let l ← l.dropKey
  return { l with flow := l.flow - 1, keyAllowed := false }.sign kind 1

def flowEntry (l : Layout) : Except LoadFault Layout := do
  return (← { l with keyAllowed := true }.dropKey).sign .flowEntry 1

/-- Opens a block collection where the present line is indented deeper. -/
def openBlock (l : Layout) (kind : TokenKind) : Layout :=
  match l.deepen l.source.column with
  | some l => l.push kind l.source.mark l.source.mark
  | none => l

def blockEntry (l : Layout) : Except LoadFault Layout := do
  let l ← if l.flow = 0 then
      if l.keyAllowed then pure (l.openBlock .blockSequenceStart)
      else fault none .entryNotAllowed l.source.mark
    else pure l
  return (← { l with keyAllowed := true }.dropKey).sign .blockEntry 1

def complexKey (l : Layout) : Except LoadFault Layout := do
  let l ← if l.flow = 0 then
      if l.keyAllowed then pure (l.openBlock .blockMappingStart)
      else fault none .keyNotAllowed l.source.mark
    else pure l
  return (← { l with keyAllowed := l.flow = 0 }.dropKey).sign .key 1

/-- Makes a key of what began at a possible one. -/
def completeKey (l : Layout) (key : PossibleKey) : Layout :=
  let l := { l with keys := l.keys.filter fun entry => entry.1 != l.flow }
  let l := l.insert key.number ⟨.key, key.mark, key.mark⟩
  let l := if l.flow = 0 then
      match l.deepen key.mark.column with
      | some l => l.insert key.number ⟨.blockMappingStart, key.mark, key.mark⟩
      | none => l
    else l
  { l with keyAllowed := false }

def value (l : Layout) : Except LoadFault Layout := do
  let l ← match l.keys.lookup l.flow with
    | some key => pure (l.completeKey key)
    | none => do
      let l ← if l.flow = 0 then
          if l.keyAllowed then pure (l.openBlock .blockMappingStart)
          else fault none .valueNotAllowed l.source.mark
        else pure l
      { l with keyAllowed := l.flow = 0 }.dropKey
  return l.sign .value 1

/-- Takes a token that a key may begin with. -/
def property (l : Layout) (read : Source → Except LoadFault (TokenKind × Source)) :
    Except LoadFault Layout := do
  let l ← l.noteKey
  let (kind, after) ← read l.source
  let l := l.push kind l.source.mark after.mark
  return { l with source := after, keyAllowed := false }

def named (activity : Activity) (kind : String → TokenKind) (s : Source) :
    Except LoadFault (TokenKind × Source) := do
  let (name, after) ← (Property.name activity s).mapError .malformed
  return (kind name, after)

def quoted (s : Source) : Except LoadFault (TokenKind × Source) := do
  let (text, after) ← Flow.read s
  return (.scalar text false, after)

def block (l : Layout) (folding : Bool) : Except LoadFault Layout := do
  let l ← { l with keyAllowed := true }.dropKey
  let (text, stop, after) ← (Block.read folding l.indent l.source).mapError .malformed
  return { l.push (.scalar text false) l.source.mark stop with source := after }

def plain (l : Layout) : Except LoadFault Layout := do
  let l ← l.noteKey
  let t := Plain.read (l.flow != 0) (l.indent + 1) l.source
  let l := l.push (.scalar t.text true) l.source.mark t.stop
  return { l with source := t.after, keyAllowed := t.lineEnded }

/-- Characters that no plain text begins with, though some may if a text follows. -/
def isSign (c : Char) : Bool :=
  "-?:,[]\x7b\x7d#&*!|>'\"%@\x60".toList.contains c

def beginsPlain (l : Layout) (c : Char) : Bool :=
  !(isSign c || isGap c || isBreak c) ||
    (!endsIndicator (l.source.peek 1) && (c == '-' || (l.flow == 0 && (c == '?' || c == ':'))))

/-- Takes the next token, or several that belong together. -/
def take (l : Layout) : Except LoadFault Layout := do
  let l ← l.skipToToken.dropStale
  let l := l.unwind l.source.column
  let atMargin := l.source.column = 0
  let signEnds := endsIndicator (l.source.peek 1)
  match l.source.head? with
  | none => l.streamEnd
  | some c =>
    if c = '%' ∧ atMargin then l.directive
    else if atMargin ∧ l.source.atMarker '-' then l.documentMarker .documentStart
    else if atMargin ∧ l.source.atMarker '.' then l.documentMarker .documentEnd
    else if c = '[' then l.openFlow .flowSequenceStart
    else if c = '\x7b' then l.openFlow .flowMappingStart
    else if c = ']' then l.closeFlow .flowSequenceEnd
    else if c = '\x7d' then l.closeFlow .flowMappingEnd
    else if c = ',' then l.flowEntry
    else if c = '-' ∧ signEnds then l.blockEntry
    else if c = '?' ∧ (l.flow ≠ 0 ∨ signEnds) then l.complexKey
    else if c = ':' ∧ (l.flow ≠ 0 ∨ signEnds) then l.value
    else if c = '*' then l.property (named .reference .reference)
    else if c = '&' then l.property (named .anchor .anchor)
    else if c = '!' then l.property fun s => (Property.tag s).mapError .malformed
    else if c = '|' ∧ l.flow = 0 then l.block false
    else if c = '>' ∧ l.flow = 0 then l.block true
    else if c = '\'' ∨ c = '"' then l.property quoted
    else if l.beginsPlain c then l.plain
    else fault (some (.nextToken, none)) (.noToken (some c)) l.source.mark

/-- How many tokens are not held back. -/
def released (l : Layout) : Nat :=
  l.keys.foldl (fun count entry => min count entry.2.number) l.tokens.length

end Layout

/-- The tokens of a source, up to its end or to a fault. -/
structure Tokens where
  tokens : List Token
  fault : Option LoadFault

namespace Tokens

/-- Takes tokens up to the end of the source. -/
def ofLayout : Nat → Layout → Tokens
  | 0, l => ⟨l.tokens.reverse, none⟩
  | limit + 1, l =>
    match l.take with
    | .error why => ⟨l.tokens.reverse.take l.released, some why⟩
    | .ok next =>
      match next.tokens with
      | ⟨.streamEnd, _, _⟩ :: _ => ⟨next.tokens.reverse, none⟩
      | _ =>
        match next.dropStale with
        | .error why => ⟨l.tokens.reverse.take l.released, some why⟩
        | .ok next => ofLayout limit next

def ofText (text : List Char) : Tokens :=
  ofLayout (text.length + 2) (.start (.ofText text))

end Tokens

end TemplateScript.Yaml
