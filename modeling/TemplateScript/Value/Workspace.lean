import TemplateScript.Value.Conversion

/-!
# Tables that change

Operations that fill, empty and combine tables, and workspaces, in which tables are kept by
identity so that a change shows wherever the table is held.
-/

namespace TemplateScript

namespace Value

mutual

/-- Puts `f id slots` in the place of each table that is not inside another one. -/
def mapTables (f : Nat → Slots → Value) : Value → Value
  | .table id slots => f id slots
  | .list items => .list (mapTablesList f items)
  | .tuple items => .tuple (mapTablesList f items)
  | .multi items => .multi (mapTablesList f items)
  | .dict entries => .dict (mapTablesEntries f entries)
  | value => value

def mapTablesList (f : Nat → Slots → Value) : List Value → List Value
  | [] => []
  | item :: rest => item.mapTables f :: mapTablesList f rest

def mapTablesEntries (f : Nat → Slots → Value) : List (Value × Value) → List (Value × Value)
  | [] => []
  | (key, value) :: rest => (key.mapTables f, value.mapTables f) :: mapTablesEntries f rest

end

end Value

/-- Why a table cannot be updated from a value. -/
inductive UpdateFault where
  | table (why : TableFault)
  | notIterable (typeName : String)
  | notUnpackable (typeName : String)
  | tooFew (count : Nat)
  | tooMany
  | notMergeable (typeName : String)

namespace UpdateFault

def message : UpdateFault → String
  | .table _ => ""
  | .notIterable typeName => s!"'{typeName}' object is not iterable"
  | .notUnpackable typeName => s!"cannot unpack non-iterable {typeName} object"
  | .tooFew count => s!"not enough values to unpack (expected 2, got {count})"
  | .tooMany => "too many values to unpack (expected 2)"
  | .notMergeable typeName => s!"unsupported operand type(s) for |: 'Table' and '{typeName}'"

end UpdateFault

namespace Value

/-- The parts that going through a value yields. -/
def iterate? : Value → Option (List Value)
  | .list items | .tuple items | .multi items | .set items => some items
  | .dict entries | .table _ entries => some (entries.map (·.1))
  | .str s => some (s.toList.map fun c => .str c.toString)
  | .bytes data => some (data.map fun byte => .ofInt byte.toNat)
  | _ => none

end Value

namespace Slots

/-- Reads a slot, which is filled with a default if it is empty. -/
def setDefault (slots : Slots) (key default : Value) : Except TableFault (Value × Slots) := do
  match ← slots.read key with
  | some value => return (value, slots)
  | none => return (default, ← slots.assign key default)

/-- Takes a slot out and gives its contents. -/
def pop (slots : Slots) (key : Value) : Except TableFault (Value × Slots) := do
  let value ← slots.get key
  return (value, ← slots.delete key)

/-- A part of an update as a key and a value. -/
def pairOf (part : Value) : Except UpdateFault (Value × Value) :=
  match part.iterate? with
  | none => .error (.notUnpackable part.hostTypeName)
  | some [key, value] => .ok (key, value)
  | some parts => if parts.length < 2 then .error (.tooFew parts.length) else .error .tooMany

/-- Assigns the slots of a table or a mapping, or pairs of keys and values. What is assigned before
a fault stays. -/
def update (slots : Slots) (source : Value) : Slots × Option UpdateFault :=
  match source with
  | .dict entries | .table _ entries => assignPairs slots (entries.map .ok)
  | source =>
    match source.iterate? with
    | none => (slots, some (.notIterable source.hostTypeName))
    | some parts => assignPairs slots (parts.map pairOf)
where
  assignPairs (slots : Slots) :
      List (Except UpdateFault (Value × Value)) → Slots × Option UpdateFault
    | [] => (slots, none)
    | .error why :: _ => (slots, some why)
    | .ok (key, value) :: rest =>
      match slots.assign key value with
      | .error why => (slots, some (.table why))
      | .ok slots => assignPairs slots rest

/-- The slots of a new table with those of a table or a mapping put over these. -/
def merge (slots : Slots) (other : Value) : Except UpdateFault Slots :=
  match other with
  | .dict entries | .table _ entries =>
    let joined := entries.foldl (fun slots (key, value) => put key value slots) slots
    (assignAll [] joined).mapError .table
  | other => .error (.notMergeable other.hostTypeName)

end Slots

/-- The slots of tables by their identities, the latest first. -/
structure Workspace where
  tables : List (Nat × Slots)

namespace Workspace

def empty : Workspace := ⟨[]⟩

def setSlots (w : Workspace) (id : Nat) (slots : Slots) : Workspace :=
  ⟨(id, slots) :: w.tables.filter fun table => table.1 != id⟩

/-- A value with the present slots of the tables in it, through `depth` tables inside tables. -/
def refresh (w : Workspace) : Nat → Value → Value
  | 0, v => v
  | depth + 1, v =>
    v.mapTables fun id held =>
      let slots := (w.tables.lookup id).getD held
      .table id (slots.map fun (key, value) => (w.refresh depth key, w.refresh depth value))

/-- A value with the present slots of the tables in it. Tables are nested no deeper than there are
tables, or they hold themselves. -/
def current (w : Workspace) (v : Value) : Value :=
  w.refresh (w.tables.length + 8) v

end Workspace

end TemplateScript
