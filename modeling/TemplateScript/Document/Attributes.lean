import TemplateScript.Document.Parse
import TemplateScript.Document.Pruning
import TemplateScript.Scope
import TemplateScript.Value.Conversion
import TemplateScript.Yaml.Content

/-!
# Attributes of documents

The attributes of a tree by their names, with the values that a loader reads from their texts. A
malformed value is left out, and of several attributes of one name the last counts.
-/

namespace TemplateScript

namespace Tree

mutual

/-- The attributes of a tree that are not inside another one. -/
def attributeNodes : Tree → List Tree
  | .node kind none text position =>
    if isAttribute (.node kind none text position) then [.node kind none text position] else []
  | .node kind (some children) text position =>
    if isAttribute (.node kind (some children) text position) then
      [.node kind (some children) text position]
    else attributeNodesOfAll children

def attributeNodesOfAll : List Tree → List Tree
  | [] => []
  | t :: rest => t.attributeNodes ++ attributeNodesOfAll rest

end

/-- The name and the written value of an attribute that has both. -/
def nameAndValue? (t : Tree) : Option (List Char × List Char) := do
  let name ← t.findKind? (some "AttributeName")
  let value ← t.findKind? (some "AttributeValue")
  return (name.render, value.render)

section

variable (load : List Char → Except Yaml.LoadFault Value)

/-- The value of an attribute, with texts in the place of dates; nothing for a malformed one. -/
def attributeValue? (text : List Char) : Except Yaml.ContentFault (Option Value) :=
  match load text with
  | .ok v => .ok (some v.withoutDates)
  | .error (.content why) => .error why
  | .error _ => .ok none

/-- Adds an attribute to others. -/
def addAttribute (attributes : Bindings) (t : Tree) : Except Yaml.ContentFault Bindings :=
  match t.nameAndValue? with
  | none => .ok attributes
  | some (name, text) => do
    match ← attributeValue? load text with
    | none => return attributes
    | some v => return attributes.set (String.ofList name) v

/-- The attributes of a tree with the values that a loader reads. A value that no malformed text but
a wrong one writes is a fault. -/
def attributesBy (t : Tree) : Except Yaml.ContentFault Bindings :=
  t.attributeNodes.foldlM (addAttribute load) []

end

/-- The attributes of a tree. -/
def attributes (t : Tree) : Except Yaml.ContentFault Bindings :=
  t.attributesBy Yaml.load

end Tree

end TemplateScript
