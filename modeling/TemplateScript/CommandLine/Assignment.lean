import TemplateScript.Scope
import TemplateScript.Yaml.Content

/-!
# Assignments

Names are bound for a template by assignments `key=value`, whose values are written as data. An
empty value is the empty text, and of several assignments to a name the last counts.
-/

namespace TemplateScript

inductive AssignmentFault where
  /-- Nothing stands before an equality sign, or there is none. -/
  | noKey (item : String)
  | value (text : List Char) (why : Yaml.LoadFault)
deriving DecidableEq, Repr

namespace AssignmentFault

def message : AssignmentFault → String
  | .noKey item => "expected key=value, got " ++ quoted item
  | .value text why => why.message text

end AssignmentFault

/-- The value that an assignment writes. -/
def assignedValue (text : List Char) : Except AssignmentFault Value :=
  if text.isEmpty then .ok (.str "") else (Yaml.load text).mapError (.value text)

/-- Adds the binding of an assignment to others. -/
def addAssignment (bindings : Bindings) (item : String) : Except AssignmentFault Bindings :=
  match splitAtFirst (· == '=') item.toList with
  | (c :: key, some text) => do
    return bindings.set (String.ofList (c :: key)) (← assignedValue text)
  | _ => .error (.noKey item)

def parseAssignments (items : List String) : Except AssignmentFault Bindings :=
  items.foldlM addAssignment []

/-- Bindings as a mapping of the host. -/
def Bindings.toMapping (bindings : Bindings) : Value :=
  .dict (bindings.map fun (name, v) => (.str name, v))

end TemplateScript
