import TemplateScript.Value.Conversion
import TemplateScript.Yaml.Content

/-!
# Dates inside values

A value that was loaded from a text holds other values as items of lists, as keys and contents of
mappings, as parts of tuples and as members of sets. A path leads to one of these places. Writing
the dates as texts reaches the places whose paths pass items and contents only, and there it puts
the text of a date in the date's place; at every other place the value stays as it was, dates
included.
-/

namespace TemplateScript

namespace Value

/-! ### Places -/

/-- A step from a value to one that it holds. -/
inductive Step where
  | item (i : Nat)
  | content (i : Nat)
  | key (i : Nat)
  | part (i : Nat)
  | member (i : Nat)
deriving DecidableEq, Repr

/-- Whether the step is one that the writing of dates takes. -/
def Step.isReached : Step → Bool
  | .item _ | .content _ => true
  | .key _ | .part _ | .member _ => false

def step? : Value → Step → Option Value
  | .list items, .item i => items[i]?
  | .dict entries, .content i => entries[i]?.map Prod.snd
  | .dict entries, .key i => entries[i]?.map Prod.fst
  | .tuple items, .part i => items[i]?
  | .set members, .member i => members[i]?
  | _, _ => none

/-- What stands at the place that a path leads to. -/
def at? : Value → List Step → Option Value
  | v, [] => some v
  | v, step :: path => (v.step? step).bind (at? · path)

@[simp] theorem at?_nil (v : Value) : v.at? [] = some v := rfl

theorem at?_cons (v : Value) (step : Step) (path : List Step) :
    v.at? (step :: path) = (v.step? step).bind (at? · path) := rfl

/-- A value without the values that it holds. -/
def head : Value → Value
  | .list _ => .list []
  | .dict _ => .dict []
  | .tuple _ => .tuple []
  | .set _ => .set []
  | v => v

/-! ### Dates -/

/-- The text of a date or a time. -/
def isoText? : Value → Option (List Char)
  | .date d => some d.isoText
  | .dateTime t => some t.isoText
  | _ => none

def isDate (v : Value) : Bool := v.isoText?.isSome

/-- The value with its text in its place if it is a date or a time itself. -/
def dateWritten (v : Value) : Value :=
  match v.isoText? with
  | some text => .str (String.ofList text)
  | none => v

@[simp] theorem isDate_head (v : Value) : v.head.isDate = v.isDate := by
  cases v <;> rfl

@[simp] theorem isDate_dateWritten (v : Value) : v.dateWritten.isDate = false := by
  cases v <;> rfl

/-! ### What the writing of dates reaches -/

theorem withoutDatesList_eq_map (items : List Value) :
    withoutDatesList items = items.map withoutDates := by
  induction items with
  | nil => rfl
  | cons item rest ih => rw [withoutDatesList, ih, List.map_cons]

theorem withoutDatesEntries_eq_map (entries : List (Value × Value)) :
    withoutDatesEntries entries = entries.map fun entry => (entry.1, entry.2.withoutDates) := by
  induction entries with
  | nil => rfl
  | cons entry rest ih => rw [withoutDatesEntries, ih, List.map_cons]

@[simp] theorem withoutDates_list (items : List Value) :
    (Value.list items).withoutDates = .list (items.map withoutDates) := by
  rw [withoutDates, withoutDatesList_eq_map]

@[simp] theorem withoutDates_dict (entries : List (Value × Value)) :
    (Value.dict entries).withoutDates =
      .dict (entries.map fun entry => (entry.1, entry.2.withoutDates)) := by
  rw [withoutDates, withoutDatesEntries_eq_map]

theorem head_withoutDates (v : Value) : v.withoutDates.head = v.dateWritten.head := by
  cases v with
  | list items => simp [head, dateWritten, isoText?]
  | dict entries => simp [head, dateWritten, isoText?]
  | _ => rfl

theorem isDate_withoutDates (v : Value) : v.withoutDates.isDate = false := by
  rw [← isDate_head, head_withoutDates, isDate_head, isDate_dateWritten]

/-- A step leads to the same places, and beyond a step that is taken the dates are written. -/
theorem step?_withoutDates (v : Value) (step : Step) :
    v.withoutDates.step? step =
      (v.step? step).map (if step.isReached then withoutDates else id) := by
  cases v with
  | list items => cases step <;> simp [step?, Step.isReached]
  | dict entries =>
      cases step <;> simp [step?, Step.isReached, Function.comp_def]
  | _ => cases step <;> simp [withoutDates, step?, Step.isReached]

theorem at?_withoutDates (v : Value) (path : List Step) :
    v.withoutDates.at? path =
      (v.at? path).map (if path.all Step.isReached then withoutDates else id) := by
  induction path generalizing v with
  | nil => simp
  | cons step path ih =>
      rw [at?_cons, step?_withoutDates, at?_cons]
      cases hinner : v.step? step with
      | none => simp
      | some inner => by_cases hreached : step.isReached <;> simp [hreached, ih]

/-- Writing the dates leaves the places as they are. What stands at a place that is reached through
items and contents only is a text if it was a date, and everything else is kept. So the result is
free of dates exactly if all dates stand at such places. -/
theorem withoutDates_replaces (v : Value) :
    (∀ path, (v.withoutDates.at? path).map head = (v.at? path).map fun inner =>
      if path.all Step.isReached then inner.dateWritten.head else inner.head) ∧
    ((∀ path inner, v.withoutDates.at? path = some inner → inner.isDate = false) ↔
      ∀ path inner, v.at? path = some inner → inner.isDate = true →
        path.all Step.isReached = true) := by
  constructor
  · intro path
    rw [at?_withoutDates, Option.map_map]
    congr 1
    funext inner
    by_cases hreached : path.all Step.isReached = true <;> simp [hreached, head_withoutDates]
  · constructor
    · intro hfree path inner hinner hdate
      refine Decidable.byContradiction fun hreached => ?_
      -- the date stands in the result as well
      have hkept : v.withoutDates.at? path = some inner := by
        rw [at?_withoutDates, if_neg hreached, hinner, Option.map_id, id]
      rw [hfree path inner hkept] at hdate
      exact Bool.false_ne_true hdate
    · intro hreached path inner hinner
      rw [at?_withoutDates, Option.map_eq_some_iff] at hinner
      obtain ⟨before, hbefore, rfl⟩ := hinner
      split
      · exact isDate_withoutDates before
      · rename_i hnot
        rw [id, ← Bool.not_eq_true]
        intro hdate
        exact hnot (hreached path before hbefore hdate)

/-- The members of a set, the keys of a mapping and the parts of pairs stay dates. -/
theorem withoutDates_replaces_no_member :
    let loaded (text : String) := (Yaml.load text.toList).toOption.map withoutDates
    ((loaded "!!set \x7b2024-01-15, '2024-01-15'\x7d").bind (at? · [.member 0])).any isDate = true ∧
      ((loaded "\x7b2024-01-15: a\x7d").bind (at? · [.key 0])).any isDate = true ∧
      ((loaded "!!pairs [a: 2024-01-15]").bind (at? · [.item 0, .part 1])).any isDate = true := by
  decide +kernel

end Value

end TemplateScript
