import TemplateScript.Value.Basic

/-!
# Positions in slots

Tables and mappings are lists of slots in the order of their first filling. The positions of a
sequence are the slots of one, two and so on; the key true addresses the first.
-/

namespace TemplateScript

namespace Value

/-- Whether a key addresses the slot of an integer. -/
def isIndex (index : Int) : Value → Bool
  | .number n => n.beq (.int index)
  | .bool b => index == if b then 1 else 0
  | _ => false

end Value

/-- What stands in the slot of an integer. -/
def slotAt? {α : Type} (slots : List (Value × α)) (index : Int) : Option α :=
  (slots.find? fun slot => slot.1.isIndex index).map (·.2)

/-- The largest `n` such that the slots of one to `n` are all filled. -/
def border {α : Type} (slots : List (Value × α)) : Nat :=
  ((List.range slots.length).takeWhile fun i => (slotAt? slots (i + 1 : Nat)).isSome).length

/-- The contents of the slots of one to the border. -/
def sequenceOf {α : Type} (slots : List (Value × α)) : List α :=
  (List.range (border slots)).filterMap fun i => slotAt? slots (i + 1 : Nat)

/-- Whether the slots are those of a sequence and no others. -/
def isSequence {α : Type} (slots : List (Value × α)) : Bool :=
  border slots == slots.length

end TemplateScript
