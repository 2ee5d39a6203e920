import TemplateScript.Text.Position

/-!
# Document trees

A node has a kind, and text, children, both or neither. Its own text stands for it where it has
one, and otherwise the texts of its children do. Two trees are equal where they agree up to
positions.
-/

namespace TemplateScript

inductive Tree where
  | node (kind : Option String) (children : Option (List Tree)) (text : Option String)
      (position : Option Position)

instance : Inhabited Tree := ⟨.node none none none none⟩

namespace Tree

def kind : Tree → Option String
  | .node kind _ _ _ => kind

def children? : Tree → Option (List Tree)
  | .node _ children _ _ => children

def text? : Tree → Option String
  | .node _ _ text _ => text

def position? : Tree → Option Position
  | .node _ _ _ position => position

def isLeaf (t : Tree) : Bool := t.children?.isNone

def leaf (kind : String) (text : List Char) (position : Position) : Tree :=
  .node (some kind) none (some (String.ofList text)) (some position)

def branch (kind : String) (children : List Tree) (position : Position) : Tree :=
  .node (some kind) (some children) none (some position)

mutual

/-- The text that a tree stands for. -/
def render : Tree → List Char
  | .node _ _ (some text) _ => text.toList
  | .node _ (some children) none _ => renderAll children
  | .node _ none none _ => []

def renderAll : List Tree → List Char
  | [] => []
  | t :: rest => t.render ++ renderAll rest

end

mutual

/-- Equality up to positions. -/
def beq : Tree → Tree → Bool
  | .node kind none text _, .node otherKind none otherText _ =>
    kind == otherKind && text == otherText
  | .node kind (some children) text _, .node otherKind (some otherChildren) otherText _ =>
    kind == otherKind && text == otherText && beqAll children otherChildren
  | _, _ => false
termination_by structural left _ => left

def beqAll : List Tree → List Tree → Bool
  | [], [] => true
  | t :: rest, u :: others => t.beq u && beqAll rest others
  | _, _ => false
termination_by structural left _ => left

end

mutual

/-- The nodes of a tree, each before its children. -/
def nodes : Tree → List Tree
  | .node kind none text position => [.node kind none text position]
  | .node kind (some children) text position =>
    .node kind (some children) text position :: nodesOfAll children

def nodesOfAll : List Tree → List Tree
  | [] => []
  | t :: rest => t.nodes ++ nodesOfAll rest

end

mutual

/-- The first node, each tried before its children, that satisfies `p`. -/
def find? (p : Tree → Bool) : Tree → Option Tree
  | .node kind none text position =>
    if p (.node kind none text position) then some (.node kind none text position) else none
  | .node kind (some children) text position =>
    if p (.node kind (some children) text position) then
      some (.node kind (some children) text position)
    else findInAll? p children

def findInAll? (p : Tree → Bool) : List Tree → Option Tree
  | [] => none
  | t :: rest =>
    match t.find? p with
    | some found => some found
    | none => findInAll? p rest

end

def findKind? (kind : Option String) : Tree → Option Tree :=
  find? fun t => t.kind == kind

/-- What a visitor wants done with a node. -/
inductive Visit where
  /-- Put another tree in its place, or nothing. -/
  | replace (tree : Option Tree)
  /-- Keep it without visiting its children. -/
  | stop
  /-- Keep it and visit its children. -/
  | descend

end Tree

end TemplateScript
