import TemplateScript.Document.Tree

/-!
# Visiting trees

A visitor sees the nodes of a tree, each before its children, and says what is to be done with
each. A traversal only looks; an edit puts other trees in the place of nodes and does not visit
them. The visitor may fail. Siblings are visited in turn, and then a fault ends the visit, or
together, and then each is visited and the first fault counts. A node changes when all its children
are done, so a failed edit leaves a tree in which the finished parts are edited.

The walks here are synchronous. A visitor that answers at once and one that is awaited are the same
to them.
-/

namespace TemplateScript

/-- Why a visit fails. -/
inductive VisitFault where
  /-- What the visitor answered is no visit but a value of this type. -/
  | notVisit (typeName : String)
  /-- A traversal was asked for a replacement; the flag tells whether it awaits its visitor. -/
  | replacement (awaiting : Bool)
  | raised (text : String)
deriving DecidableEq, Repr

def VisitFault.message : VisitFault → String
  | .notVisit typeName => s!"Visitor must return Replace, VisitAction or None, not {typeName}"
  | .replacement false =>
    "traverse_tree visitors cannot replace nodes; use replace_nodes_matching"
  | .replacement true =>
    "traverse_tree_async visitors cannot replace nodes; use replace_nodes_matching_async"
  | .raised text => text

namespace Tree

/-- How an edit ended: the tree is kept with the changes below it, another one or none stands in
its place, or the visitor failed and the finished changes are in what is left. -/
inductive Edited (ε : Type) where
  | kept (tree : Tree)
  | replaced (tree : Option Tree)
  | failed (fault : ε) (left : Tree)

namespace Edited

variable {ε : Type}

/-- What stands in the place of a tree, or the fault. -/
def result : Edited ε → Except ε (Option Tree)
  | .kept tree => .ok (some tree)
  | .replaced tree => .ok tree
  | .failed fault _ => .error fault

/-- The node itself after the edit; a replaced one is as it was. -/
def left (before : Tree) : Edited ε → Tree
  | .kept tree => tree
  | .replaced _ => before
  | .failed _ left => left

def fault? : Edited ε → Option ε
  | .failed fault _ => some fault
  | _ => none

/-- What stands in the place of a tree, nothing or one tree. -/
def trees : Edited ε → List Tree
  | .kept tree => [tree]
  | .replaced tree => tree.toList
  | .failed _ _ => []

end Edited

/-- How the edit of the children of a node ended. -/
inductive EditedAll (ε : Type) where
  | done (trees : List Tree)
  | failed (fault : ε) (left : List Tree)

variable {ε σ : Type}

mutual

/-- Visits a tree in order. A replacement is a fault here, and no visit follows a fault. The plain
and the awaiting traversal are both this one: they differ in awaiting and in the fault
`replaced`. -/
def traverse (visit : Tree → StateM σ (Except ε Visit)) (replaced : ε) :
    Tree → StateM σ (Except ε Unit)
  | .node kind children text position => do
    match ← visit (.node kind children text position) with
    | .error fault => return .error fault
    | .ok (.replace _) => return .error replaced
    | .ok .stop => return .ok ()
    | .ok .descend =>
      match children with
      | none => return .ok ()
      | some children => traverseAll visit replaced children

def traverseAll (visit : Tree → StateM σ (Except ε Visit)) (replaced : ε) :
    List Tree → StateM σ (Except ε Unit)
  | [] => return .ok ()
  | t :: rest => do
    match ← t.traverse visit replaced with
    | .error fault => return .error fault
    | .ok () => traverseAll visit replaced rest

end

/-- A visitor that goes through a whole tree and notes the nodes of a kind. -/
def collector (kind : Option String) (t : Tree) : StateM (List Tree) (Except VisitFault Visit) := do
  if t.kind == kind then modify (· ++ [t])
  return .ok .descend

/-- The nodes of a kind. -/
def collectKind (kind : Option String) (t : Tree) : Except VisitFault (List Tree) :=
  match (t.traverse (collector kind) (.replacement false)).run [] with
  | (.ok (), found) => .ok found
  | (.error fault, _) => .error fault

mutual

/-- Edits a tree in order. The plain and the awaiting edit are both this one: they differ in
awaiting only. -/
def edit (visit : Tree → StateM σ (Except ε Visit)) : Tree → StateM σ (Edited ε)
  | .node kind children text position => do
    match ← visit (.node kind children text position) with
    | .error fault => return .failed fault (.node kind children text position)
    | .ok (.replace tree) => return .replaced tree
    | .ok .stop => return .kept (.node kind children text position)
    | .ok .descend =>
      match children with
      | none => return .kept (.node kind none text position)
      | some children =>
        match ← editAll visit children with
        | .done trees => return .kept (.node kind (some trees) text position)
        | .failed fault left => return .failed fault (.node kind (some left) text position)

/-- Edits trees in order; a removed one leaves no gap. -/
def editAll (visit : Tree → StateM σ (Except ε Visit)) :
    List Tree → StateM σ (EditedAll ε)
  | [] => return .done []
  | t :: rest => do
    let first ← t.edit visit
    match first.result with
    | .error fault => return .failed fault (first.left t :: rest)
    | .ok tree =>
      match ← editAll visit rest with
      | .done trees => return .done (tree.toList ++ trees)
      | .failed fault left => return .failed fault (first.left t :: left)

end

namespace Edited

/-- The trees that siblings became, or the first fault among them with what is left of each. -/
def collect (before : List Tree) (siblings : List (Edited ε)) : EditedAll ε :=
  match siblings.findSome? fault? with
  | some fault => .failed fault (List.zipWith left before siblings)
  | none => .done (siblings.flatMap trees)

end Edited

mutual

/-- Edits a tree; siblings are all visited, whatever becomes of each. This is a walk in the order of
the document, one subtree after another. It stands for tasks that run side by side, and three things
about these are left out: a visitor that waits lets others go on, with visitors that do not wait the
tasks go on level by level, so that what is deeper in one sibling comes after the next siblings, and
the first fault cancels the siblings that still wait. -/
def editTogether (visit : Tree → StateM σ (Except ε Visit)) : Tree → StateM σ (Edited ε)
  | .node kind children text position => do
    match ← visit (.node kind children text position) with
    | .error fault => return .failed fault (.node kind children text position)
    | .ok (.replace tree) => return .replaced tree
    | .ok .stop => return .kept (.node kind children text position)
    | .ok .descend =>
      match children with
      | none => return .kept (.node kind none text position)
      | some children =>
        match Edited.collect children (← editEach visit children) with
        | .done trees => return .kept (.node kind (some trees) text position)
        | .failed fault left => return .failed fault (.node kind (some left) text position)

def editEach (visit : Tree → StateM σ (Except ε Visit)) :
    List Tree → StateM σ (List (Edited ε))
  | [] => return []
  | t :: rest => do return (← t.editTogether visit) :: (← editEach visit rest)

end

end Tree

end TemplateScript
