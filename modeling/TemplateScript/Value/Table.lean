import TemplateScript.Value.Equality

/-!
# Tables

Reading and filling the slots of tables and mappings. A floating-point key that equals an integer
addresses the slot of the integer, and assigning nil empties a slot. The first key that fills a
slot stays until the slot is emptied.
-/

namespace TemplateScript

/-- The slots of a table or a mapping in the order in which they were filled. -/
abbrev Slots := List (Value × Value)

inductive TableFault where
  | nilKey
  /-- The value is no key. -/
  | unhashable (why : Value.Unhashable)
  | missing (key : Value)

namespace Value

/-- The key under which a table keeps a slot. -/
def slotKey : Value → Value
  | .number n =>
    match n.toInt? with
    | some i => .ofInt i
    | none => .number n
  | key => key

/-- Refuses values that cannot be keys. -/
def asKey (key : Value) : Except TableFault Value :=
  match key.unhashable? with
  | some why => .error (.unhashable why)
  | none => .ok key

end Value

namespace Slots

def find? (slots : Slots) (key : Value) : Option Value :=
  (List.find? (fun slot => key.sameKey slot.1) slots).map (·.2)

/-- Fills the slot of `key`, at the end of the order if it was empty. -/
def put (key value : Value) : Slots → Slots
  | [] => [(key, value)]
  | slot :: rest =>
    if key.sameKey slot.1 then (slot.1, value) :: rest else slot :: put key value rest

def erase (key : Value) : Slots → Slots
  | [] => []
  | slot :: rest => if key.sameKey slot.1 then rest else slot :: erase key rest

/-- Reads a slot; an empty one is nil. -/
def read (slots : Slots) (key : Value) : Except TableFault (Option Value) := do
  return slots.find? (← key.slotKey.asKey)

/-- Assigns a value to a slot, or empties the slot for nil. In a table without slots there is
nothing to empty, whatever the key. -/
def assign (slots : Slots) (key value : Value) : Except TableFault Slots :=
  match key.slotKey, value with
  | .nil, _ => .error .nilKey
  | key, .nil =>
    if slots.isEmpty then .ok slots
    else do return slots.erase (← key.asKey)
  | key, value => do return slots.put (← key.asKey) value

/-- Assigns the slots of a list in turn. -/
def assignAll (slots : Slots) : List (Value × Value) → Except TableFault Slots
  | [] => .ok slots
  | (key, value) :: rest => do (← slots.assign key value).assignAll rest

/-- The slots of the positions of a list; nil leaves a gap. -/
def ofListFrom : Int → List Value → Slots
  | _, [] => []
  | position, .nil :: rest => ofListFrom (position + 1) rest
  | position, item :: rest => (.ofInt position, item) :: ofListFrom (position + 1) rest

def ofList (items : List Value) : Slots :=
  ofListFrom 1 items

/-- Takes a slot out, whose key may also be spelled as a floating-point number. -/
def delete (slots : Slots) (key : Value) : Except TableFault Slots := do
  let key ← key.asKey
  match slots.find? key with
  | some _ => return slots.erase key
  | none => throw (.missing key)

/-- The contents of a slot that has to be filled. -/
def get (slots : Slots) (key : Value) : Except TableFault Value := do
  match ← slots.read key with
  | some value => return value
  | none => throw (.missing key.slotKey)

end Slots

end TemplateScript
