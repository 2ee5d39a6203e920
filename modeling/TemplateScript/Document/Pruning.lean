import TemplateScript.Document.Tree

/-!
# Pruning trees

Taking all nodes of some sort out of a tree, with everything in them. What stays keeps its order
and its position. Pruned of its attributes, a document renders as its text with the attributes cut
out.
-/

namespace TemplateScript

namespace Tree

mutual

/-- A tree without the nodes that satisfy `p`; nothing, if its root does. -/
def prune (p : Tree → Bool) : Tree → Option Tree
  | .node kind none text position =>
    if p (.node kind none text position) then none else some (.node kind none text position)
  | .node kind (some children) text position =>
    if p (.node kind (some children) text position) then none
    else some (.node kind (some (pruneAll p children)) text position)

def pruneAll (p : Tree → Bool) : List Tree → List Tree
  | [] => []
  | t :: rest => (t.prune p).toList ++ pruneAll p rest

end

def isAttribute (t : Tree) : Bool := t.kind == some "Attribute"

def withoutAttributes : Tree → Option Tree := prune isAttribute

end Tree

end TemplateScript
