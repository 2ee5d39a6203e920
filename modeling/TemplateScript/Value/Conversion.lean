import TemplateScript.Value.Table
import TemplateScript.Number.Reading

/-!
# Conversion of values

Between tables of the language and containers of the host, from texts to numbers, and from dates
to texts.
-/

namespace TemplateScript

namespace Value

/-- The number that a value stands for where a number is wanted. -/
def toNumber? : Value → Option Number
  | .number n => some n
  | .str s => readNumber? s
  | _ => none

mutual

/-- The host's form of a value: a table becomes a list if its slots are those of a sequence, and
otherwise a mapping. -/
def toHost : Value → Value
  | .table _ slots =>
    let converted := toHostSlots slots
    if isSequence converted then .list (sequenceOf converted) else .dict converted
  | value => value

def toHostSlots : List (Value × Value) → List (Value × Value)
  | [] => []
  | (key, value) :: rest => (key, value.toHost) :: toHostSlots rest

end

mutual

/-- The language's form of a value: lists and mappings become new tables, numbered from the state
on. -/
def toTable : Value → StateT Nat (Except TableFault) Value
  | .dict entries => do
    let id ← fresh
    let converted ← toTableSlots entries
    return .table id (← Slots.assignAll [] converted)
  | .list items | .tuple items => do
    let id ← fresh
    return .table id (Slots.ofList (← toTableList items))
  | value => pure value
where
  fresh : StateT Nat (Except TableFault) Nat := modifyGet fun id => (id, id + 1)

def toTableList : List Value → StateT Nat (Except TableFault) (List Value)
  | [] => pure []
  | item :: rest => do return (← item.toTable) :: (← toTableList rest)

def toTableSlots : List (Value × Value) → StateT Nat (Except TableFault) (List (Value × Value))
  | [] => pure []
  | (key, value) :: rest => do
    let value ← value.toTable
    return (key, value) :: (← toTableSlots rest)

end

mutual

/-- Replaces dates and times by their texts, in the items of lists and the contents of mappings. -/
def withoutDates : Value → Value
  | .date d => .str (String.ofList d.isoText)
  | .dateTime t => .str (String.ofList t.isoText)
  | .dict entries => .dict (withoutDatesEntries entries)
  | .list items => .list (withoutDatesList items)
  | value => value

def withoutDatesList : List Value → List Value
  | [] => []
  | item :: rest => item.withoutDates :: withoutDatesList rest

def withoutDatesEntries : List (Value × Value) → List (Value × Value)
  | [] => []
  | (key, value) :: rest => (key, value.withoutDates) :: withoutDatesEntries rest

end

end Value

end TemplateScript
