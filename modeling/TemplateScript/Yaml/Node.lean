import TemplateScript.Yaml.Implicit
import TemplateScript.Yaml.Layout

/-!
# Nodes of a source

The tree that the tokens of a source make up. Every node has a tag, its own or the one that its form
implies. A reference stands for the node of its anchor, so the tree holds no references. A source
holds at most one document.
-/

namespace TemplateScript.Yaml

inductive Node where
  | scalar (tag : String) (text : List Char) (start : Mark)
  | sequence (tag : String) (items : List Node) (start : Mark)
  | mapping (tag : String) (entries : List (Node × Node)) (start : Mark)
deriving Repr

instance : Inhabited Node := ⟨.scalar Tag.null [] default⟩

namespace Node

def tag : Node → String
  | .scalar tag _ _ | .sequence tag _ _ | .mapping tag _ _ => tag

def start : Node → Mark
  | .scalar _ _ start | .sequence _ _ start | .mapping _ _ start => start

/-- The name of a kind of node in messages. -/
def kindName : Node → String
  | .scalar _ _ _ => "scalar"
  | .sequence _ _ _ => "sequence"
  | .mapping _ _ _ => "mapping"

/-- What stands where nothing is written. -/
def absent (mark : Mark) : Node := .scalar Tag.null [] mark

end Node

/-- The first node with an anchor, which is open until the node is complete. -/
structure Anchored where
  start : Mark
  node : Option Node

/-- What is left to be read, and what the text before it declared. -/
structure Reading where
  tokens : List Token
  fault : Option LoadFault
  handles : List (String × String)
  anchors : List (String × Anchored)

abbrev Read := StateT Reading (Except LoadFault)

namespace Read

def fail {α : Type} (level : Level) (context : Option (Activity × Option Mark)) (problem : Problem)
    (mark : Mark) : Read α :=
  throw (.malformed ⟨level, context, problem, mark⟩)

/-- The next token, which stays unread. -/
def peek : Read Token := do
  let reading ← get
  match reading.tokens, reading.fault with
  | token :: _, _ => return token
  | [], some why => throw why
  | [], none => fail .tokens none .endOfStream default

def drop : Read Unit :=
  modify fun reading => { reading with tokens := reading.tokens.tail }

/-- Reads the next token if it is of a kind. -/
def accept (kind : TokenKind) : Read (Option Token) := do
  let token ← peek
  if token.kind = kind then
    drop
    return some token
  else return none

/-- Whether the next token is one of some kinds. -/
def atAny (kinds : List TokenKind) : Read Bool := do
  return kinds.contains (← peek).kind

end Read

namespace Node

open Read

/-- What is written before a node: where it begins, its anchor, and its tag. -/
structure Properties where
  start : Option Mark
  anchor : Option String
  tagStart : Mark
  tag : Option (Option String × String)

def anchor? : Read (Option (String × Token)) := do
  let token ← peek
  match token.kind with
  | .anchor name =>
    drop
    return some (name, token)
  | _ => return none

def tag? : Read (Option ((Option String × String) × Token)) := do
  let token ← peek
  match token.kind with
  | .tag handle rest =>
    drop
    return some ((handle, rest), token)
  | _ => return none

/-- Reads an anchor and a tag in either order. -/
def properties : Read Properties := do
  match ← anchor? with
  | some (name, first) =>
    match ← tag? with
    | some (tag, token) => return ⟨some first.start, some name, token.start, some tag⟩
    | none => return ⟨some first.start, some name, first.start, none⟩
  | none =>
    match ← tag? with
    | none => return ⟨none, none, default, none⟩
    | some (tag, first) =>
      match ← anchor? with
      | some (name, _) => return ⟨some first.start, some name, first.start, some tag⟩
      | none => return ⟨some first.start, none, first.start, some tag⟩

/-- The tag that the properties write, with its handle expanded. A lone exclamation mark is none,
but makes a scalar a plain text. -/
def expandTag (p : Properties) : Read (Option String) := do
  match p.tag with
  | none => return none
  | some (none, whole) => return some whole
  | some (some handle, rest) =>
    match (← get).handles.lookup handle with
    | some beginning => return some (beginning ++ rest)
    | none =>
      fail .nodes (some (.node, p.start)) (.undefinedHandle handle) p.tagStart

/-- Declares an anchor at a node that begins at `start`. -/
def declare (anchor : Option String) (start : Mark) : Read Unit := do
  match anchor with
  | none => return ()
  | some name =>
    match (← get).anchors.lookup name with
    | some first =>
      fail .references (some (.duplicateAnchor name, some first.start)) .secondOccurrence start
    | none =>
      modify fun reading => { reading with anchors := (name, ⟨start, none⟩) :: reading.anchors }

/-- Completes the node of an anchor. -/
def complete (anchor : Option String) (node : Node) : Read Node := do
  match anchor with
  | none => return node
  | some name =>
    modify fun reading =>
      { reading with anchors := (name, ⟨node.start, some node⟩) :: reading.anchors }
    return node

/-- The node of an anchor. No node is a part of itself. -/
def referent (name : String) (mark : Mark) : Read Node := do
  match (← get).anchors.lookup name with
  | some ⟨_, some node⟩ => return node
  | some ⟨_, none⟩ => fail .values none .recursive mark
  | none => fail .references none (.undefinedReference name) mark

/-- The tag of a collection, `usual` without one of its own. -/
def collectionTag (tag : Option String) (usual : String) : String :=
  match tag with
  | none => usual
  | some tag => if tag = "!" then usual else tag

/-- The tag of a scalar. A text that is not plain is a text. -/
def scalarTag (tag : Option String) (text : List Char) (plain : Bool) : String :=
  match tag with
  | none => if plain then Implicit.tag text else Tag.str
  | some tag => if tag = "!" then Implicit.tag text else tag

/-- The fault of a token that does not continue what began at `start`. -/
def unexpected {α : Type} (activity : Activity) (start : Mark) (what : String) : Read α := do
  let token ← peek
  fail .nodes (some (activity, some start)) (.unexpectedToken what token.kind.name) token.start

def blockEndNeeded : String := "<block end>, but found"

mutual

/-- Reads a node of at most `limit` parts. Block collections are nodes of blocks alone, and the
value of a key may be a sequence that is not indented. -/
def read : Nat → (block unindented : Bool) → Read Node
  | 0, _, _ => fail .values none .recursive default
  | limit + 1, block, unindented => do
    let token ← peek
    match token.kind with
    | .reference name =>
      drop
      referent name token.start
    | _ =>
      let p ← properties
      let tag ← expandTag p
      let token ← peek
      let start := p.start.getD token.start
      match token.kind with
      | .scalar text plain =>
        drop
        declare p.anchor start
        complete p.anchor (.scalar (scalarTag tag text plain) text start)
      | .flowSequenceStart =>
        drop
        declare p.anchor start
        let items ← flowItems limit token.start true
        complete p.anchor (.sequence (collectionTag tag Tag.seq) items start)
      | .flowMappingStart =>
        drop
        declare p.anchor start
        let entries ← flowEntries limit token.start true
        complete p.anchor (.mapping (collectionTag tag Tag.map) entries start)
      | kind =>
        if unindented && kind == .blockEntry then do
          declare p.anchor start
          let items ← unindentedItems limit
          complete p.anchor (.sequence (collectionTag tag Tag.seq) items start)
        else if block && kind == .blockSequenceStart then do
          drop
          declare p.anchor start
          let items ← blockItems limit token.start
          complete p.anchor (.sequence (collectionTag tag Tag.seq) items start)
        else if block && kind == .blockMappingStart then do
          drop
          declare p.anchor start
          let entries ← blockEntries limit token.start
          complete p.anchor (.mapping (collectionTag tag Tag.map) entries start)
        else if p.anchor.isSome || tag.isSome then do
          declare p.anchor start
          complete p.anchor (.scalar (scalarTag tag [] true) [] start)
        else
          unexpected (if block then .blockNode else .flowNode) start
            "the node content, but found"

/-- Reads a node, or nothing before one of some tokens. -/
def readUnless : Nat → List TokenKind → Mark → (block unindented : Bool) → Read Node
  | 0, _, _, _, _ => fail .values none .recursive default
  | limit + 1, ends, mark, block, unindented => do
    if ← atAny ends then return absent mark else read limit block unindented

/-- The items of an indented sequence. -/
def blockItems : Nat → Mark → Read (List Node)
  | 0, _ => fail .values none .recursive default
  | limit + 1, start => do
    match ← accept .blockEntry with
    | some token =>
      let item ← readUnless limit [.blockEntry, .blockEnd] token.stop true false
      return item :: (← blockItems limit start)
    | none =>
      match ← accept .blockEnd with
      | some _ => return []
      | none => unexpected .blockCollection start blockEndNeeded

/-- The items of a sequence that is not indented, which ends before any other token. -/
def unindentedItems : Nat → Read (List Node)
  | 0 => fail .values none .recursive default
  | limit + 1 => do
    match ← accept .blockEntry with
    | some token =>
      let item ← readUnless limit [.blockEntry, .key, .value, .blockEnd] token.stop true false
      return item :: (← unindentedItems limit)
    | none => return []

/-- The entries of an indented mapping. -/
def blockEntries : Nat → Mark → Read (List (Node × Node))
  | 0, _ => fail .values none .recursive default
  | limit + 1, start => do
    match ← accept .key with
    | some token =>
      let key ← readUnless limit [.key, .value, .blockEnd] token.stop true true
      let value ← valueOf limit [.key, .value, .blockEnd] true
      return (key, value) :: (← blockEntries limit start)
    | none =>
      match ← accept .blockEnd with
      | some _ => return []
      | none => unexpected .blockMapping start blockEndNeeded

/-- The value behind a key; nothing without a sign of its own. -/
def valueOf : Nat → List TokenKind → (block : Bool) → Read Node
  | 0, _, _ => fail .values none .recursive default
  | limit + 1, ends, block => do
    match ← accept .value with
    | some token => readUnless limit ends token.stop block block
    | none => return absent (← peek).start

/-- The items of a flow sequence, of which none is read yet if `first`. An entry of a mapping is a
mapping of its own. -/
def flowItems : Nat → Mark → (first : Bool) → Read (List Node)
  | 0, _, _ => fail .values none .recursive default
  | limit + 1, start, first => do
    if (← accept .flowSequenceEnd).isSome then return []
    if !first then
      if (← accept .flowEntry).isNone then
        unexpected .flowSequence start "',' or ']', but got"
    match ← accept .key with
    | some token =>
      let ends := [TokenKind.flowEntry, .flowSequenceEnd]
      let key ← readUnless limit (.value :: ends) token.stop false false
      let value ← valueOf limit ends false
      return .mapping Tag.map [(key, value)] token.start :: (← flowItems limit start false)
    | none =>
      if (← accept .flowSequenceEnd).isSome then return []
      let item ← read limit false false
      return item :: (← flowItems limit start false)

/-- The entries of a flow mapping, of which none is read yet if `first`. A node without a sign is a
key without a value. -/
def flowEntries : Nat → Mark → (first : Bool) → Read (List (Node × Node))
  | 0, _, _ => fail .values none .recursive default
  | limit + 1, start, first => do
    if (← accept .flowMappingEnd).isSome then return []
    if !first then
      if (← accept .flowEntry).isNone then
        unexpected .flowMapping start "',' or '\x7d', but got"
    match ← accept .key with
    | some token =>
      let ends := [TokenKind.flowEntry, .flowMappingEnd]
      let key ← readUnless limit (.value :: ends) token.stop false false
      let value ← valueOf limit ends false
      return (key, value) :: (← flowEntries limit start false)
    | none =>
      if (← accept .flowMappingEnd).isSome then return []
      let key ← read limit false false
      let mark := (← peek).start
      return (key, absent mark) :: (← flowEntries limit start false)

end

end Node

namespace Read

open Node

def standardHandles : List (String × String) := [("!", "!"), ("!!", Tag.common)]

/-- Reads the directives before a document. -/
def directives : Nat → (versioned : Bool) → Read Unit
  | 0, _ => return ()
  | limit + 1, versioned => do
    let token ← peek
    match token.kind with
    | .directive (.version major _) =>
      drop
      if versioned then fail .nodes none .duplicateVersion token.start
      if major ≠ 1 then fail .nodes none .incompatibleVersion token.start
      directives limit true
    | .directive (.handle handle beginning) =>
      drop
      if ((← get).handles.lookup handle).isSome then
        fail .nodes none (.duplicateHandle handle) token.start
      modify fun reading => { reading with handles := (handle, beginning) :: reading.handles }
      directives limit versioned
    | .directive (.other _) =>
      drop
      directives limit versioned
    | _ => return ()

/-- Reads what comes before an explicit document, and the mark of its beginning. -/
def documentStart (limit : Nat) : Read Mark := do
  let start := (← peek).start
  modify fun reading => { reading with handles := [] }
  directives limit false
  modify fun reading => { reading with handles := reading.handles ++ standardHandles }
  match ← accept .documentStart with
  | some _ => return start
  | none =>
    let token ← peek
    fail .nodes none (.unexpectedToken "'<document start>', but found" token.kind.name) token.start

/-- The content of an explicit document, which may be missing. -/
def documentContent (limit : Nat) : Read Node := do
  let token ← peek
  match token.kind with
  | .directive _ | .documentStart | .documentEnd | .streamEnd => return absent token.start
  | _ => read limit true false

/-- Skips the markers of document ends. -/
def skipDocumentEnds : Nat → Read Unit
  | 0 => return ()
  | limit + 1 => do
    if (← accept .documentEnd).isSome then skipDocumentEnds limit

/-- The node of the only document, if there is one. -/
def document (limit : Nat) : Read (Option Node) := do
  let token ← peek
  let root ← match token.kind with
    | .streamEnd => pure none
    | .directive _ | .documentStart => do
      discard (documentStart limit)
      pure (some (← documentContent limit))
    | _ => do
      modify fun reading => { reading with handles := standardHandles }
      pure (some (← read limit true false))
  match root with
  | none => return none
  | some root =>
    skipDocumentEnds limit
    if (← accept .streamEnd).isSome then return some root
    let another ← documentStart limit
    fail .references (some (.singleDocument, some root.start)) .anotherDocument another

end Read

/-- The node of a source, which may be empty. A part takes four steps to read at most. -/
def Node.ofTokens (tokens : Tokens) : Except LoadFault (Option Node) :=
  let limit := 4 * tokens.tokens.length + 4
  (Read.document limit).run' ⟨tokens.tokens, tokens.fault, [], []⟩

end TemplateScript.Yaml
