import TemplateScript.Document.Tree
import TemplateScript.Value.Record

/-!
# Assembling documents

A tree is assembled from a record of its parts. A record without children is a leaf with a text,
and adjacent plain texts become one, which stands where the first of them stood.
-/

namespace TemplateScript

namespace Tree

/-- The type of a tree's text, as faults name it. -/
def textType (t : Tree) : String :=
  if t.text?.isSome then "str" else "NoneType"

/-- Appends the text of a plain text to the one before it. -/
def joinTexts (t next : Tree) : Except RecordFault Tree :=
  match t.text?, next.text? with
  | some text, some more => .ok (.node t.kind none (some (text ++ more)) t.position?)
  | _, _ => .error (.notAddable t.textType next.textType)

/-- Adds a tree behind others, of which the last comes first. -/
def appendMerging (before : List Tree) (t : Tree) : Except RecordFault (List Tree) :=
  match before with
  | last :: others =>
    if last.kind = some "Text" ∧ t.kind = some "Text" then do
      return (← last.joinTexts t) :: others
    else return t :: last :: others
  | [] => return [t]

def mergeTexts (trees : List Tree) : Except RecordFault (List Tree) := do
  return (← trees.foldlM appendMerging []).reverse

/-- Assembles the tree of a record nested at most `limit` deep. -/
def ofRecordUpTo : Nat → Value → Except RecordFault Tree
  | 0, record => .error (.noRecord record.hostTypeName)
  | limit + 1, record =>
    match Record.children? record with
    | none =>
      let text := match Record.field? "text" record with
        | none => some ""
        | some _ => Record.text? record
      .ok (.node (Record.tag? record) none text (Record.position? record))
    | some children => do
      let trees ← children.mapM (ofRecordUpTo limit)
      return .node (Record.tag? record) (some (← mergeTexts trees)) none (Record.position? record)

end Tree

/-- Assembles the tree of a record. -/
def assembleDocument (record : Value) : Except RecordFault Tree :=
  Tree.ofRecordUpTo (Record.depth record) record

end TemplateScript
