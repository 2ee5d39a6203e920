import Mathlib.Data.List.Induction
import TemplateScript.Proofs.Value.HostForm

/-!
# Tables as the outcome of assignments

What a table holds after any assignments is read off the assignments themselves. A slot is filled if
the last assignment to it was not nil; it holds the value of that assignment under the key of the
first one since the slot was last empty, and the slots stand in the order of these first ones. No
slot holds nil, no key is nil or a floating-point number that is an integer, and counting the slots
from one on comes to an end.
-/

namespace TemplateScript

/-- Whether a value is nil. -/
def Value.isNil : Value → Bool
  | .nil => true
  | _ => false

theorem Value.isNil_iff {v : Value} : v.isNil = true ↔ v = .nil := by
  cases v <;> simp [isNil]

namespace Slots

variable {slots assigned log : Slots} {step slot : Value × Value} {key value : Value}
  {i : KeyIdentity}

/-! ### Assignments one after the other -/

/-- The slots after the assignments of a log. One that fails changes nothing, and the next one
follows. -/
def assignEach (slots : Slots) : Slots → Slots
  | [] => slots
  | (key, value) :: rest =>
    match slots.assign key value with
    | .ok assigned => assigned.assignEach rest
    | .error _ => slots.assignEach rest

/-- The assignments of a log to one slot. -/
def addressing (log : Slots) (i : KeyIdentity) : Slots :=
  log.filter fun step => step.1.keyIdentity? == some i

/-- What the last assignment of a log to a slot assigned; nil if there was none. -/
def lastOf (log : Slots) (i : KeyIdentity) : Value :=
  ((log.addressing i).getLast?.map Prod.snd).getD .nil

/-- Whether a slot was empty before a place of a log and is not emptied from there on. -/
def isFilledSince (log : Slots) (place : Nat) (i : KeyIdentity) : Bool :=
  (lastOf (log.take place) i).isNil &&
    (addressing (log.drop place) i).all fun step => !step.2.isNil

/-- The slot that the assignment at a place of the log filled, with what it holds in the end. -/
def entryAt (log : Slots) (place : Nat) : Option (Value × Value) := do
  let (key, _) ← log[place]?
  let i ← key.keyIdentity?
  if log.isFilledSince place i then some (key.slotKey, log.lastOf i) else none

/-- The slots in the order of the assignments that filled them. -/
def entries (log : Slots) : Slots :=
  (List.range log.length).filterMap log.entryAt

theorem assignEach_append (slots log later : Slots) :
    slots.assignEach (log ++ later) = (slots.assignEach log).assignEach later := by
  induction log generalizing slots with
  | nil => rfl
  | cons step rest ih =>
      rw [List.cons_append, assignEach, assignEach]
      cases slots.assign step.1 step.2 <;> exact ih _

theorem assignEach_concat_of_ok (h : (slots.assignEach log).assign key value = .ok assigned) :
    slots.assignEach (log ++ [(key, value)]) = assigned := by
  rw [assignEach_append, assignEach, h]
  rfl

theorem assignEach_concat_of_error {why : TableFault}
    (h : (slots.assignEach log).assign key value = .error why) :
    slots.assignEach (log ++ [(key, value)]) = slots.assignEach log := by
  rw [assignEach_append, assignEach, h]
  rfl

/-! ### What one more assignment does to a log -/

/-- What becomes of a slot with an assignment. -/
def revise (step slot : Value × Value) : Option (Value × Value) :=
  if slot.1.keyIdentity? = step.1.keyIdentity? then
    if step.2.isNil then none else some (slot.1, step.2)
  else some slot

theorem addressing_concat (log : Slots) (step : Value × Value) (i : KeyIdentity) :
    addressing (log ++ [step]) i =
      if step.1.keyIdentity? = some i then log.addressing i ++ [step] else log.addressing i := by
  rw [addressing, List.filter_append, List.filter_singleton, ← addressing]
  by_cases h : step.1.keyIdentity? = some i
  · rw [if_pos h, h, beq_self_eq_true, cond_true]
  · rw [if_neg h, beq_false_of_ne h, cond_false, List.append_nil]

theorem lastOf_concat (log : Slots) (step : Value × Value) (i : KeyIdentity) :
    lastOf (log ++ [step]) i =
      if step.1.keyIdentity? = some i then step.2 else log.lastOf i := by
  rw [lastOf, addressing_concat]
  split
  · rw [List.getLast?_concat]
    rfl
  · rfl

theorem isFilledSince_concat_of_lt {place : Nat} (h : place < log.length)
    (step : Value × Value) (i : KeyIdentity) :
    isFilledSince (log ++ [step]) place i =
      (log.isFilledSince place i && !(step.1.keyIdentity? == some i && step.2.isNil)) := by
  rw [isFilledSince, isFilledSince, List.take_append_of_le_length h.le,
    List.drop_append_of_le_length h.le, addressing_concat, Bool.and_assoc]
  split
  · next hsame => rw [hsame, beq_self_eq_true, Bool.true_and, List.all_append, List.all_cons,
      List.all_nil, Bool.and_true]
  · next hother => rw [beq_false_of_ne hother, Bool.false_and, Bool.not_false, Bool.and_true]

/-- An assignment to the slot of an entry replaces what it holds or ends it; the entries of other
slots stay. -/
theorem entryAt_concat_of_lt {place : Nat} (h : place < log.length) (step : Value × Value) :
    entryAt (log ++ [step]) place = (log.entryAt place).bind (revise step) := by
  rw [entryAt, entryAt, List.getElem?_append_left h]
  cases hfound : log[place]? with
  | none => rfl
  | some found =>
      cases hidentity : found.1.keyIdentity? with
      | none => simp [hidentity]
      | some i =>
          have hkey : found.1.slotKey.keyIdentity? = some i :=
            (Value.keyIdentity?_slotKey found.1).trans hidentity
          simp only [Option.bind_eq_bind, Option.bind_some, hidentity,
            isFilledSince_concat_of_lt h, lastOf_concat]
          cases log.isFilledSince place i with
          | false => rfl
          | true =>
              rw [Bool.true_and, if_pos rfl, Option.bind_some, revise, hkey]
              by_cases hsame : step.1.keyIdentity? = some i
              · rw [hsame, beq_self_eq_true, Bool.true_and, if_pos rfl, if_pos rfl]
                cases step.2.isNil <;> rfl
              · rw [beq_false_of_ne hsame, if_neg hsame, if_neg (Ne.symm hsame)]
                rfl

/-- The last assignment fills a slot if it was empty. -/
theorem entryAt_concat_length (hkey : key.keyIdentity? = some i) :
    entryAt (log ++ [(key, value)]) log.length =
      if (log.lastOf i).isNil && !value.isNil then some (key.slotKey, value) else none := by
  have hfilled : isFilledSince (log ++ [(key, value)]) log.length i =
      ((log.lastOf i).isNil && !value.isNil) := by
    rw [isFilledSince, List.take_left, List.drop_left, addressing, List.filter_singleton, hkey]
    simp
  rw [entryAt, List.getElem?_concat_length]
  simp only [Option.bind_eq_bind, Option.bind_some, hkey, hfilled, lastOf_concat, if_true]

theorem entries_concat (log : Slots) (step : Value × Value) :
    entries (log ++ [step]) =
      log.entries.filterMap (revise step) ++ (entryAt (log ++ [step]) log.length).toList := by
  have hold : (List.range log.length).filterMap (entryAt (log ++ [step])) =
      log.entries.filterMap (revise step) := by
    rw [entries, List.filterMap_filterMap]
    exact List.filterMap_congr fun place hplace =>
      entryAt_concat_of_lt (List.mem_range.mp hplace) step
  rw [entries, List.length_append, List.length_singleton, List.range_succ, List.filterMap_append,
    hold, List.filterMap_cons, List.filterMap_nil]
  cases entryAt (log ++ [step]) log.length <;> rfl

/-! ### What one more assignment does to slots -/

theorem filterMap_revise_of_absent (h : ∀ slot ∈ slots, slot.1.keyIdentity? ≠ step.1.keyIdentity?) :
    slots.filterMap (revise step) = slots := by
  refine (List.filterMap_congr fun slot hslot => ?_).trans List.filterMap_some
  exact if_neg (h slot hslot)

theorem erase_eq_filterMap (h : slots.Regular) (hkey : key.keyIdentity? = some i) :
    slots.erase key = slots.filterMap (revise (key, .nil)) := by
  induction slots with
  | nil => rfl
  | cons slot rest ih =>
      have hrest : Regular rest := h.sublist (List.sublist_cons_self slot rest)
      have hsame : key.sameKey slot.1 = true ↔ slot.1.keyIdentity? = some i :=
        Value.sameKey_iff hkey (h.hashable slot List.mem_cons_self)
      rw [erase]
      by_cases hslot : slot.1.keyIdentity? = some i
      · have hends : revise (key, .nil) slot = none := by
          rw [revise, hslot, hkey, if_pos rfl]
          rfl
        rw [if_pos (hsame.mpr hslot), List.filterMap_cons_none hends,
          filterMap_revise_of_absent (hkey ▸ h.absent_of_cons hslot)]
      · have hstays : revise (key, .nil) slot = some slot := if_neg (hkey ▸ hslot)
        rw [if_neg (hsame.not.mpr hslot), List.filterMap_cons_some hstays, ih hrest]

theorem put_eq_filterMap (h : slots.Regular) (hkey : key.keyIdentity? = some i)
    (hvalue : value.isNil = false) (hfilled : ∃ slot ∈ slots, slot.1.keyIdentity? = some i) :
    slots.put key value = slots.filterMap (revise (key, value)) := by
  induction slots with
  | nil =>
      obtain ⟨slot, hslot, -⟩ := hfilled
      cases hslot
  | cons slot rest ih =>
      have hrest : Regular rest := h.sublist (List.sublist_cons_self slot rest)
      have hsame : key.sameKey slot.1 = true ↔ slot.1.keyIdentity? = some i :=
        Value.sameKey_iff hkey (h.hashable slot List.mem_cons_self)
      rw [put]
      by_cases hslot : slot.1.keyIdentity? = some i
      · have hreplaced : revise (key, value) slot = some (slot.1, value) := by
          rw [revise, hslot, hkey, if_pos rfl, hvalue, if_neg Bool.false_ne_true]
        rw [if_pos (hsame.mpr hslot), List.filterMap_cons_some hreplaced,
          filterMap_revise_of_absent (hkey ▸ h.absent_of_cons hslot)]
      · have hstays : revise (key, value) slot = some slot := if_neg (hkey ▸ hslot)
        have hlater : ∃ slot ∈ rest, slot.1.keyIdentity? = some i := by
          obtain ⟨other, hother, hidentity⟩ := hfilled
          rcases List.mem_cons.mp hother with rfl | hother
          · exact absurd hidentity hslot
          · exact ⟨other, hother, hidentity⟩
        rw [if_neg (hsame.not.mpr hslot), List.filterMap_cons_some hstays, ih hrest hlater]

/-- An assignment revises the slots, and fills its own at the end of the order if it was empty. -/
theorem assign_eq_revise (h : slots.Regular) (hkey : key.keyIdentity? = some i) (value : Value) :
    slots.assign key value = .ok (slots.filterMap (revise (key, value)) ++
      if slots.all (·.1.keyIdentity? != some i) && !value.isNil then [(key.slotKey, value)]
      else []) := by
  have hisKey : key.isKey := Value.isKey_iff.mpr ⟨i, hkey⟩
  have hslotKey : key.slotKey.keyIdentity? = some i := (Value.keyIdentity?_slotKey key).trans hkey
  have hrevise : revise (key.slotKey, value) = revise (key, value) := by
    funext slot
    rw [revise, revise, hslotKey, hkey]
  cases hnil : value.isNil with
  | true =>
      obtain rfl := Value.isNil_iff.mp hnil
      have hne : key.slotKey ≠ .nil := by
        intro heq
        rw [heq] at hslotKey
        cases hslotKey
      rw [assign_nil hne, Value.asKey_slotKey hisKey, Bool.not_true, Bool.and_false,
        if_neg Bool.false_ne_true, List.append_nil, ← hrevise, ← erase_eq_filterMap h hslotKey]
      cases slots <;> rfl
  | false =>
      have hvalue : value ≠ .nil := fun heq => by
        rw [Value.isNil_iff.mpr heq] at hnil
        cases hnil
      rw [assign_of_isKey hisKey hvalue, Bool.not_false, Bool.and_true]
      by_cases hempty : slots.all (·.1.keyIdentity? != some i)
      · have habsent : ∀ slot ∈ slots, slot.1.keyIdentity? ≠ some i := by
          intro slot hslot
          exact bne_iff_ne.mp (List.all_eq_true.mp hempty slot hslot)
        have hfree : ∀ slot ∈ slots, key.slotKey.sameKey slot.1 = false := by
          intro slot hslot
          rw [Bool.eq_false_iff, ne_eq, Value.sameKey_iff hslotKey (h.hashable slot hslot)]
          exact habsent slot hslot
        rw [if_pos hempty, put_of_absent hfree, filterMap_revise_of_absent (hkey ▸ habsent)]
      · have hfilled : ∃ slot ∈ slots, slot.1.keyIdentity? = some i := by
          simpa using hempty
        rw [if_neg hempty, List.append_nil, put_eq_filterMap h hslotKey hnil hfilled, hrevise]

/-! ### The outcome of a log -/

/-- What slots are after the assignments of a log, beginning with none. -/
structure IsOutcome (log slots : Slots) : Prop where
  regular : slots.Regular
  keys : ∀ slot ∈ slots, slot.1.isKey
  contents : ∀ slot ∈ slots, slot.2.isNil = false
  filled : ∀ i, (∃ slot ∈ slots, slot.1.keyIdentity? = some i) ↔ (log.lastOf i).isNil = false
  entries : slots = log.entries

theorem IsOutcome.nil : IsOutcome [] [] := by
  refine ⟨.nil, List.forall_mem_nil _, List.forall_mem_nil _, fun i => ?_, rfl⟩
  exact ⟨fun ⟨_, hslot, _⟩ => (List.not_mem_nil hslot).elim, fun h => (Bool.noConfusion h)⟩

/-- A slot that is revised keeps its key, and holds no nil. -/
theorem of_revise_eq_some {old : Value × Value} (h : revise step old = some slot) :
    slot.1 = old.1 ∧ (old.2.isNil = false → slot.2.isNil = false) := by
  rw [revise] at h
  split at h
  · split at h
    · cases h
    · next hvalue =>
        obtain rfl := Option.some.inj h
        exact ⟨rfl, fun _ => Bool.eq_false_iff.mpr hvalue⟩
  · obtain rfl := Option.some.inj h
    exact ⟨rfl, id⟩

theorem exists_revised_iff :
    (∃ slot ∈ slots.filterMap (revise step), slot.1.keyIdentity? = some i) ↔
      (∃ slot ∈ slots, slot.1.keyIdentity? = some i) ∧
        (step.1.keyIdentity? = some i → step.2.isNil = false) := by
  refine ⟨fun ⟨slot, hslot, hi⟩ => ?_, fun ⟨⟨old, hold, hi⟩, hkeeps⟩ => ?_⟩
  · obtain ⟨old, hold, hrevised⟩ := List.mem_filterMap.mp hslot
    have hkey : old.1.keyIdentity? = some i := (of_revise_eq_some hrevised).1 ▸ hi
    refine ⟨⟨old, hold, hkey⟩, fun hsame => ?_⟩
    rw [revise, hkey, hsame, if_pos rfl] at hrevised
    split at hrevised
    · cases hrevised
    · next hvalue => exact Bool.eq_false_iff.mpr hvalue
  · by_cases hsame : step.1.keyIdentity? = some i
    · have hrevised : revise step old = some (old.1, step.2) := by
        rw [revise, hi, hsame, if_pos rfl, hkeeps hsame, if_neg Bool.false_ne_true]
      exact ⟨_, List.mem_filterMap.mpr ⟨old, hold, hrevised⟩, hi⟩
    · have hstays : revise step old = some old := if_neg (hi ▸ Ne.symm hsame)
      exact ⟨old, List.mem_filterMap.mpr ⟨old, hold, hstays⟩, hi⟩

theorem IsOutcome.isEmpty_eq (h : IsOutcome log slots) (i : KeyIdentity) :
    slots.all (·.1.keyIdentity? != some i) = (log.lastOf i).isNil := by
  rw [Bool.eq_iff_iff, ← not_iff_not, Bool.not_eq_true, Bool.not_eq_true, ← h.filled i]
  simp

/-- One more assignment to a key, whether or not it empties the slot. -/
theorem IsOutcome.concat (h : IsOutcome log slots) (hkey : key.keyIdentity? = some i)
    (value : Value) :
    ∃ assigned, slots.assign key value = .ok assigned ∧
      IsOutcome (log ++ [(key, value)]) assigned := by
  have hassign := assign_eq_revise h.regular hkey value
  rw [h.isEmpty_eq i] at hassign
  have hslotKey : key.slotKey.keyIdentity? = some i := (Value.keyIdentity?_slotKey key).trans hkey
  -- A slot is an old one that was revised, or the new one.
  have hslots (p : Value × Value → Prop) (hrevised : ∀ old ∈ slots, ∀ slot,
      revise (key, value) old = some slot → p slot)
      (hnew : value.isNil = false → p (key.slotKey, value)) :
      ∀ slot ∈ slots.filterMap (revise (key, value)) ++
        if (log.lastOf i).isNil && !value.isNil then [(key.slotKey, value)] else [], p slot := by
    refine List.forall_mem_append.mpr ⟨fun slot hslot => ?_, ?_⟩
    · obtain ⟨old, hold, heq⟩ := List.mem_filterMap.mp hslot
      exact hrevised old hold slot heq
    · split
      · next hopens =>
          refine List.forall_mem_singleton.mpr (hnew ?_)
          exact (Bool.not_eq_true' _).mp (Bool.and_eq_true_iff.mp hopens).2
      · exact List.forall_mem_nil _
  refine ⟨_, hassign, h.regular.assign hassign, hslots _ ?_ ?_, hslots _ ?_ ?_, fun j => ?_, ?_⟩
  · intro old hold slot hrevised
    rw [(of_revise_eq_some hrevised).1]
    exact h.keys old hold
  · exact fun _ => Value.isKey_iff.mpr ⟨i, hslotKey⟩
  · exact fun old hold slot hrevised => (of_revise_eq_some hrevised).2 (h.contents old hold)
  · exact id
  · rw [lastOf_concat, hkey]
    simp only [List.mem_append, or_and_right, exists_or, exists_revised_iff, h.filled, hkey]
    by_cases hsame : some i = some j
    · obtain rfl := Option.some.inj hsame
      rw [if_pos rfl]
      cases hlast : (log.lastOf i).isNil <;> cases hvalue : value.isNil <;> simp [hslotKey]
    · rw [if_neg hsame]
      split <;> simp [hslotKey, hsame]
  · rw [entries_concat, ← h.entries, entryAt_concat_length hkey]
    split <;> rfl

/-- An assignment to nil leaves no trace. -/
theorem IsOutcome.concat_nilKey (h : IsOutcome log slots) (value : Value) :
    IsOutcome (log ++ [(.nil, value)]) slots := by
  refine ⟨h.regular, h.keys, h.contents, fun i => ?_, ?_⟩
  · rw [lastOf_concat, if_neg nofun]
    exact h.filled i
  · have hentry : entryAt (log ++ [(.nil, value)]) log.length = none := by
      rw [entryAt, List.getElem?_concat_length]
      rfl
    have hstays : ∀ slot ∈ slots, slot.1.keyIdentity? ≠ (Value.nil, value).1.keyIdentity? := by
      intro slot hslot hnone
      obtain ⟨i, hi⟩ := Value.isKey_iff.mp (h.keys slot hslot)
      rw [hi] at hnone
      cases hnone
    rw [entries_concat, hentry, ← h.entries, filterMap_revise_of_absent hstays]
    exact (List.append_nil slots).symm

theorem isOutcome_assignEach (h : ∀ step ∈ log, step.1 = .nil ∨ step.1.isKey) :
    IsOutcome log (assignEach [] log) := by
  induction log using List.reverseRecOn with
  | nil => exact .nil
  | append_singleton log step ih =>
      obtain ⟨key, value⟩ := step
      rw [List.forall_mem_append, List.forall_mem_singleton] at h
      obtain ⟨hlog, hstep⟩ := h
      have hbefore := ih hlog
      rcases hstep with rfl | hkey
      · rw [assignEach_concat_of_error (assign_of_nilKey rfl value)]
        exact hbefore.concat_nilKey value
      · obtain ⟨i, hi⟩ := Value.isKey_iff.mp hkey
        obtain ⟨assigned, hassign, hafter⟩ := hbefore.concat hi value
        rw [assignEach_concat_of_ok hassign]
        exact hafter

/-! ### Counting the slots -/

/-- The count from a number on: while there is a slot of the next number, it goes on to that. -/
inductive CountsTo (slots : Slots) : Nat → Nat → Prop
  | stop {n : Nat} (hnext : slots.read (.ofInt (n + 1 : Nat)) = .ok none) : CountsTo slots n n
  | next {n m : Nat} {value : Value}
      (hnext : slots.read (.ofInt (n + 1 : Nat)) = .ok (some value))
      (hrest : CountsTo slots (n + 1) m) : CountsTo slots n m

theorem CountsTo.unique {n m m' : Nat} (h : slots.CountsTo n m) (h' : slots.CountsTo n m') :
    m = m' := by
  induction h with
  | stop hnone =>
      cases h' with
      | stop => rfl
      | next hsome =>
          rw [hnone] at hsome
          cases hsome
  | next hsome _ ih =>
      cases h' with
      | stop hnone =>
          rw [hnone] at hsome
          cases hsome
      | next _ hrest => exact ih hrest

theorem countsTo_border (h : slots.IsHashable) {n : Nat} (hn : n ≤ border slots) :
    slots.CountsTo n (border slots) := by
  induction hn using Nat.decreasingInduction with
  | self => exact .stop (by rw [read_ofInt h, slotAt?_border])
  | of_succ n hlt ih =>
      obtain ⟨value, hvalue⟩ := Option.isSome_iff_exists.mp (isSome_slotAt?_of_lt_border hlt)
      exact .next (by rw [read_ofInt h, hvalue]) ih

/-- After any assignments to keys and to nil the table is what the last assignments to its slots
leave, and the count of its slots ends with a number that has none behind it. -/
theorem assignEach_history {log : Slots} (h : ∀ step ∈ log, step.1 = .nil ∨ step.1.isKey) :
    let slots := assignEach [] log
    (∀ slot ∈ slots, slot.2 ≠ .nil ∧ slot.1 ≠ .nil ∧
      ∀ x : Binary64, slot.1 = .ofFloat x → x.toInt? = none) ∧
    (∀ value, slots.assign .nil value = .error .nilKey ∧
      assignEach [] (log ++ [(.nil, value)]) = slots) ∧
    (∀ key value, key.isKey →
      slots.assign key value = .ok (assignEach [] (log ++ [(key, value)]))) ∧
    slots = log.entries ∧
    ∃ n, (∀ m, slots.CountsTo 0 m ↔ m = n) ∧ border slots = n ∧
      (∀ i, 1 ≤ i → i ≤ n → ∃ value, slots.read (.ofInt (i : Nat)) = .ok (some value)) ∧
      slots.read (.ofInt (n + 1 : Nat)) = .ok none := by
  intro slots
  have houtcome : IsOutcome log slots := isOutcome_assignEach h
  have hhashable := houtcome.regular.hashable
  refine ⟨fun slot hslot => ⟨?_, ?_, ?_⟩, fun value => ?_, fun key value hkey => ?_,
    houtcome.entries, border slots, fun m => ?_, rfl, fun i hi hborder => ?_, ?_⟩
  · intro hnil
    have hcontents := houtcome.contents slot hslot
    rw [Value.isNil_iff.mpr hnil] at hcontents
    cases hcontents
  · intro hnil
    have hkey := houtcome.keys slot hslot
    rw [hnil] at hkey
    cases hkey
  · intro x hx
    have hnormal := houtcome.regular.normal slot hslot
    rw [hx] at hnormal
    cases hint : x.toInt? with
    | none => rfl
    | some k =>
        rw [Value.ofFloat, Value.slotKey, Number.toInt?, hint] at hnormal
        cases hnormal
  · have hfails : slots.assign .nil value = .error .nilKey := assign_of_nilKey rfl value
    exact ⟨hfails, assignEach_concat_of_error hfails⟩
  · obtain ⟨i, hi⟩ := Value.isKey_iff.mp hkey
    obtain ⟨assigned, hassign, -⟩ := houtcome.concat hi value
    rw [assignEach_concat_of_ok hassign, hassign]
  · have hcount := countsTo_border hhashable (Nat.zero_le (border slots))
    exact ⟨fun hm => hm.unique hcount, fun hm => hm ▸ hcount⟩
  · obtain ⟨k, rfl⟩ := Nat.exists_eq_succ_of_ne_zero (Nat.one_le_iff_ne_zero.mp hi)
    obtain ⟨value, hvalue⟩ := Option.isSome_iff_exists.mp (isSome_slotAt?_of_lt_border hborder)
    exact ⟨value, by rw [read_ofInt hhashable, hvalue]⟩
  · rw [read_ofInt hhashable, slotAt?_border]

/-- True addresses the first slot, a slot that was emptied is filled again at the end, and nothing
is assigned to nil. -/
theorem assignEach_history_refilled :
    let log : Slots := [(.str "k", .ofInt 1), (.bool true, .str "a"), (.nil, .str "b"),
      (.ofFloat (.ofInt 2), .str "c"), (.str "k", .nil), (.ofInt 1, .str "d"),
      (.str "k", .ofInt 2)]
    assignEach [] log = log.entries ∧
      log.entries = [(.bool true, .str "d"), (.ofInt 2, .str "c"), (.str "k", .ofInt 2)] ∧
      CountsTo (assignEach [] log) 0 2 := by
  intro log
  have hlog : ∀ step ∈ log, step.1 = .nil ∨ step.1.isKey := by
    simp only [log, List.forall_mem_cons]
    exact ⟨.inr rfl, .inr rfl, .inl trivial, .inr rfl, .inr rfl, .inr rfl, .inr rfl, nofun⟩
  obtain ⟨-, -, -, hentries, n, hcount, hborder, -⟩ := assignEach_history hlog
  have hslots : log.entries =
      [(.bool true, .str "d"), (.ofInt 2, .str "c"), (.str "k", .ofInt 2)] := rfl
  have htwo : 2 = n := by
    rw [← hborder, hentries, hslots]
    rfl
  exact ⟨hentries, hslots, (hcount 2).mpr htwo⟩

end Slots

end TemplateScript
