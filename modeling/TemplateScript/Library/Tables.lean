import TemplateScript.Library.Arguments

/-!
# Functions on tables

The member of the `table` library: the texts and numbers of consecutive slots, joined.
-/

namespace TemplateScript

namespace Tables

/-- The refusal of what stands at an index. It names the index unless that is too long to be
written. -/
def refusal (index : Int) : HostFault :=
  if (integerText? index).isSome then .notConcatenable index else .tooManyDigits

/-- The texts of `count` slots from `index` on; a slot that holds neither a text nor a number is
refused. -/
def partsFrom (read : Int → Value) : Nat → Int → Except HostFault (List String)
  | 0, _ => .ok []
  | count + 1, index => do
    let item := read index
    if !item.isConcatenable then throw (refusal index)
    let part ← item.display
    return part :: (← partsFrom read count (index + 1))

/-- Joins the slots from `i` to `j`. -/
def concat (read : Int → Value) (separator : String) (i j : Int) : Except HostFault String := do
  return separator.intercalate (← partsFrom read (j + 1 - i).toNat i)

/-- What stands at a position of a list, nil past its ends. -/
def itemAt (items : List Value) (index : Int) : Value :=
  if 1 ≤ index then (items[(index - 1).toNat]?).getD .nil else .nil

/-- What stands in the slot of an integer, nil where it is empty. -/
def slotValue (slots : Slots) (index : Int) : Value :=
  (slots.find? (.ofInt index)).getD .nil

end Tables

end TemplateScript
