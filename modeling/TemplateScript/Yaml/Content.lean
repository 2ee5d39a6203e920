import TemplateScript.Text.Base64
import TemplateScript.Text.Case
import TemplateScript.Value.Table
import TemplateScript.Yaml.Node

/-!
# Values of nodes

A node has a value under its tag. A mapping takes over the entries of the mappings that it merges,
which its own entries override. Collections are looked through level by level, so of several faults
that of the outermost node comes first.
-/

namespace TemplateScript.Yaml

namespace Node

def fault {α : Type} (context : Option (Activity × Option Mark)) (problem : Problem) (mark : Mark) :
    Except LoadFault α :=
  .error (.malformed ⟨.values, context, problem, mark⟩)

mutual

/-- The text of a scalar; that of a mapping is the text of its value sign. -/
def text : Node → Except LoadFault (List Char)
  | .scalar _ text _ => .ok text
  | .sequence tag items start =>
    fault none (.unexpectedNode "a scalar node" (Node.sequence tag items start).kindName) start
  | .mapping _ entries start => textOfEntries entries start

def textOfEntries : List (Node × Node) → Mark → Except LoadFault (List Char)
  | [], start => fault none (.unexpectedNode "a scalar node" "mapping") start
  | (key, value) :: rest, start =>
    if key.tag = Tag.value then value.text else textOfEntries rest start

end

/-- The digits of a number below a point, each worth sixty of the next. -/
def sexagesimal (parts : List Int) : Int :=
  parts.foldl (fun total part => total * 60 + part) 0

/-- The integer of a text in which underscores group digits. -/
def integer (text : List Char) : Except ContentFault Int := do
  let text := text.filter (· != '_')
  let digits := Implicit.dropSign text
  let magnitude ← match digits with
    | [] => throw .emptyNumber
    | ['0'] => pure 0
    | '0' :: 'b' :: rest => (integerOf 2 rest).mapError .literal
    | '0' :: 'x' :: rest => (integerOf 16 rest).mapError .literal
    | '0' :: rest => (integerOf 8 ('0' :: rest)).mapError .literal
    | digits =>
      if digits.contains ':' then do
        let parts ← (Implicit.colonParts digits).mapM fun part =>
          (integerOf 10 part).mapError .literal
        pure (sexagesimal parts)
      else (integerOf 10 digits).mapError .literal
  return if text.head? = some '-' then -magnitude else magnitude

/-- The number of a word for infinity, or for no number at all. -/
def wordNumber? (mark : Nat) (text : List Char) : Option Binary64 :=
  let (negative, word) := splitSign (strip text)
  if word = "inf".toList ∨ word = "infinity".toList then some (.infinite negative)
  else if word = "nan".toList then some (.nan negative mark)
  else none

/-- The floating-point number of a text that may also be a word. -/
def floatOrWord (mark : Nat) (text : List Char) : Except ContentFault Binary64 :=
  match wordNumber? mark text with
  | some x => .ok x
  | none => (floatOf text).mapError .literal

/-- The sum of parts, of which each is worth sixty of the one after it. -/
def sexagesimalFloat (parts : List Binary64) : Binary64 :=
  let (total, _) := parts.reverse.foldl
    (fun (total, base) part => (total.add (part.mul (.ofInt base)), base * 60))
    (Binary64.zeroOf false, (1 : Int))
  total

/-- The mark of the undefined number that `.nan` writes. -/
def writtenNanMark : Nat := 2

/-- The floating-point number of a text; `mark` tells an undefined one from others. -/
def float (mark : Nat) (text : List Char) : Except ContentFault Binary64 := do
  let text := toLowerCase (text.filter (· != '_'))
  let digits := Implicit.dropSign text
  let magnitude ←
    if text.isEmpty then throw .emptyNumber
    else if digits = ".inf".toList then pure Binary64.infinity
    else if digits = ".nan".toList then return .nan true writtenNanMark
    else if digits.contains ':' then do
      pure (sexagesimalFloat (← (Implicit.colonParts digits).mapM (floatOrWord mark)))
    else floatOrWord mark digits
  return if text.head? = some '-' && !magnitude.isNan then magnitude.neg else magnitude

def boolean (text : List Char) : Except ContentFault Bool :=
  let word := toLowerCase text
  if ["yes", "true", "on"].any fun w => w.toList == word then .ok true
  else if ["no", "false", "off"].any fun w => w.toList == word then .ok false
  else .error (.notBoolean (String.ofList word))

def timestamp (text : List Char) : Except ContentFault Value :=
  match TimestampText.read? text with
  | none => .error .notTimestamp
  | some t =>
    match t.toCalendar with
    | .error why => .error (.calendar why)
    | .ok (.inl d) => .ok (.date d)
    | .ok (.inr t) => .ok (.dateTime t)

def isAscii (c : Char) : Bool := c.toNat < 0x80

/-- The bytes of a base64 text. -/
def binary (text : List Char) (start : Mark) : Except LoadFault Value :=
  match text.dropWhile isAscii with
  | c :: rest =>
    let first := (text.takeWhile isAscii).length
    let count := (rest.takeWhile fun c => !isAscii c).length + 1
    fault none (.notAscii c first (first + count)) start
  | [] =>
    match Base64.decode text with
    | .ok bytes => .ok (.bytes bytes)
    | .error why => fault none (.notBase64 why.message) start

def collectionTags : List String := [Tag.seq, Tag.map, Tag.set, Tag.orderedMap, Tag.pairs]

/-- Whether a tag is one of a collection, which is looked into later. -/
def isCollection (node : Node) : Bool := collectionTags.contains node.tag

/-- The value of a node whose tag is none of a collection. -/
def scalarValue (node : Node) : Except LoadFault Value := do
  let content {α : Type} (result : Except ContentFault α) : Except LoadFault α :=
    result.mapError .content
  let tag := node.tag
  if tag = Tag.null then
    discard node.text
    return .nil
  else if tag = Tag.bool then return .bool (← content (boolean (← node.text)))
  else if tag = Tag.int then return .ofInt (← content (integer (← node.text)))
  else if tag = Tag.float then
    return .ofFloat (← content (float (writtenNanMark + 1 + node.start.offset) (← node.text)))
  else if tag = Tag.binary then binary (← node.text) node.start
  else if tag = Tag.timestamp then content (timestamp (← node.text))
  else if tag = Tag.str then return .str (String.ofList (← node.text))
  else fault none (.unknownTag tag) node.start

def withTag (tag : String) : Node → Node
  | .scalar _ text start => .scalar tag text start
  | .sequence _ items start => .sequence tag items start
  | .mapping _ entries start => .mapping tag entries start

mutual

/-- The entries of a mapping that begins at `start`, apart those that it takes over. A value sign
is a text where it is a key. -/
def mergedEntries (start : Mark) :
    List (Node × Node) → Except LoadFault (List (Node × Node) × List (Node × Node))
  | [] => .ok ([], [])
  | (key, value) :: rest => do
    if key.tag = Tag.merge then
      let first ← value.toMerge start
      let (merged, own) ← mergedEntries start rest
      return (first ++ merged, own)
    else
      let (merged, own) ← mergedEntries start rest
      return (merged, (if key.tag = Tag.value then key.withTag Tag.str else key, value) :: own)

/-- The entries that a mapping takes over from a mapping or a sequence of mappings, of which the
first override the others. -/
def toMerge (start : Mark) : Node → Except LoadFault (List (Node × Node))
  | .mapping _ entries inner => do
    let (merged, own) ← mergedEntries inner entries
    return merged ++ own
  | .sequence _ items _ => toMergeAll start items
  | .scalar _ _ mark =>
    fault (some (.mappingValue, some start))
      (.unexpectedNode "a mapping or list of mappings for merging" "scalar") mark

def toMergeAll (start : Mark) : List Node → Except LoadFault (List (Node × Node))
  | [] => .ok []
  | .mapping _ entries inner :: rest => do
    let (merged, own) ← mergedEntries inner entries
    return (← toMergeAll start rest) ++ (merged ++ own)
  | item :: _ =>
    fault (some (.mappingValue, some start))
      (.unexpectedNode "a mapping for merging" item.kindName) item.start

end

/-- The entries of a mapping with those that it takes over before its own. -/
def entries : Node → Except LoadFault (List (Node × Node))
  | .mapping _ entries start => do
    let (merged, own) ← mergedEntries start entries
    return merged ++ own
  | node => fault none (.unexpectedNode "a mapping node" node.kindName) node.start

def items : Node → Except LoadFault (List Node)
  | .sequence _ items _ => .ok items
  | node => fault none (.unexpectedNode "a sequence node" node.kindName) node.start

/-- The one entry of an item of an ordered map, which began at `start`. -/
def singleEntry (activity : Activity) (start : Mark) : Node → Except LoadFault (Node × Node)
  | .mapping _ [entry] _ => .ok entry
  | .mapping _ entries mark =>
    fault (some (activity, some start)) (.notSingleItem entries.length) mark
  | node =>
    fault (some (activity, some start))
      (.unexpectedNode "a mapping of length 1" node.kindName) node.start

/-- The items of an ordered map or of pairs. -/
def pairItems (activity : Activity) : Node → Except LoadFault (List Node)
  | .sequence _ items _ => .ok items
  | node =>
    fault (some (activity, some node.start)) (.unexpectedNode "a sequence" node.kindName) node.start

def pairActivity (node : Node) : Activity :=
  if node.tag = Tag.pairs then .pairs else .orderedMap

/-- Looks at a node from outside: the node again if it is a collection, which is looked into
later. -/
def visit (node : Node) : Except LoadFault (List Node) :=
  if node.isCollection then .ok [node]
  else do
    discard node.scalarValue
    return []

/-- A collection is no key. -/
def visitEntry (start : Mark) (entry : Node × Node) : Except LoadFault (List Node) := do
  let first ← entry.1.visit
  if entry.1.isCollection then
    fault (some (.mappingValue, some start)) .unhashableKey entry.1.start
  else return first ++ (← entry.2.visit)

/-- Looks into a collection; the collections in it are left. -/
def visitInside (node : Node) : Except LoadFault (List Node) := do
  if node.tag = Tag.seq then
    return (← (← node.items).mapM visit).flatten
  else if node.tag = Tag.map ∨ node.tag = Tag.set then
    return (← (← node.entries).mapM (visitEntry node.start)).flatten
  else
    let activity := node.pairActivity
    let found ← (← node.pairItems activity).mapM fun item => do
      let (key, value) ← singleEntry activity node.start item
      return (← key.visit) ++ (← value.visit)
    return found.flatten

/-- Looks through collections level by level. -/
def visitLevels : Nat → List Node → Except LoadFault Unit
  | _, [] => .ok ()
  | 0, _ => .ok ()
  | limit + 1, nodes => do
    visitLevels limit (← nodes.mapM visitInside).flatten

mutual

/-- How many collections are nested in a node. -/
def depth : Node → Nat
  | .scalar _ _ _ => 1
  | .sequence _ items _ => depthOfAll items + 1
  | .mapping _ entries _ => depthOfEntries entries + 1

def depthOfAll : List Node → Nat
  | [] => 0
  | item :: rest => max item.depth (depthOfAll rest)

def depthOfEntries : List (Node × Node) → Nat
  | [] => 0
  | (key, value) :: rest => max (max key.depth value.depth) (depthOfEntries rest)

end

/-- The value of a node of at most `limit` levels. -/
def valueUpTo : Nat → Node → Except LoadFault Value
  | 0, _ => .ok .nil
  | limit + 1, node => do
    if node.tag = Tag.seq then return .list (← (← node.items).mapM (valueUpTo limit))
    else if node.tag = Tag.map ∨ node.tag = Tag.set then
      let entries ← (← node.entries).mapM fun (key, value) => do
        return (← valueUpTo limit key, ← valueUpTo limit value)
      let slots := entries.foldl (fun slots (key, value) => Slots.put key value slots) []
      return if node.tag = Tag.set then .set (slots.map (·.1)) else .dict slots
    else if node.isCollection then
      let activity := node.pairActivity
      return .list (← (← node.pairItems activity).mapM fun item => do
        let (key, value) ← singleEntry activity node.start item
        return .tuple [← valueUpTo limit key, ← valueUpTo limit value])
    else node.scalarValue

/-- The value of a node in which no fault is found. -/
def value (node : Node) : Except LoadFault Value := do
  visitLevels node.depth (← node.visit)
  valueUpTo node.depth node

end Node

/-- Characters that a source may hold. -/
def isReadable (c : Char) : Bool :=
  c == '\t' || c == '\n' || c == '\r' || c == '\u0085' || (' ' ≤ c && c ≤ '~') ||
    ('\u00A0' ≤ c && c ≤ '\uFFFD') || 0x10000 ≤ c.toNat

/-- The value that a source writes, nothing if it is empty. -/
def load (source : List Char) : Except LoadFault Value := do
  let (before, rest) := source.span isReadable
  match rest with
  | c :: _ => throw (.unprintable c.toNat before.length)
  | [] =>
    match ← Node.ofTokens (.ofText source) with
    | none => return .nil
    | some node => node.value

end TemplateScript.Yaml
