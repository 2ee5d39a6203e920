import TemplateScript.Library.Tables
import TemplateScript.Value.Conversion
import TemplateScript.Proofs.Value.History

/-!
# The table's form of containers of the host

A list becomes the table with its items at the positions, a mapping the one with its contents under
the same keys; what is nil becomes no slot. The contents become tables in the same way, and nothing
but nil becomes nil. The conversion has a result unless some mapping has nil or a container that
changes among its keys.
-/

namespace TemplateScript

namespace Value

/-- The second value is what the first one becomes as a table. -/
def BecomesTable (v t : Value) : Prop :=
  ∃ n n', v.toTable.run n = .ok (t, n')

mutual

/-- Whether the keys of all mappings in a value, at any depth, can be keys of tables. -/
def isConvertible : Value → Bool
  | .dict entries => areConvertible entries
  | .list items | .tuple items => allConvertible items
  | _ => true

def allConvertible : List Value → Bool
  | [] => true
  | item :: rest => item.isConvertible && allConvertible rest

def areConvertible : List (Value × Value) → Bool
  | [] => true
  | (key, value) :: rest =>
    !key.isNil && key.unhashable?.isNone && value.isConvertible && areConvertible rest

end

/-! ### Conversion has a result -/

theorem run_bind_of_ok {α β : Type} {x : StateT Nat (Except TableFault) α}
    {next : α → StateT Nat (Except TableFault) β} {n n' : Nat} {a : α}
    (h : x.run n = .ok (a, n')) : (x >>= next).run n = (next a).run n' := by
  change (x.run n >>= fun result => (next result.1).run result.2) = _
  rw [h]
  rfl

theorem run_bind_eq_ok {α β : Type} {x : StateT Nat (Except TableFault) α}
    {next : α → StateT Nat (Except TableFault) β} {n n' : Nat} {b : β}
    (h : (x >>= next).run n = .ok (b, n')) :
    ∃ a n₁, x.run n = .ok (a, n₁) ∧ (next a).run n₁ = .ok (b, n') := by
  cases hx : x.run n with
  | error why =>
      change (x.run n >>= fun result => (next result.1).run result.2) = _ at h
      rw [hx] at h
      cases h
  | ok result =>
      rw [run_bind_of_ok hx] at h
      exact ⟨result.1, result.2, rfl, h⟩

/-- A container becomes a table, and all else stays what it is. -/
theorem BecomesTable.cases {v t : Value} (h : v.BecomesTable t) :
    v = t ∨ v ≠ .nil ∧ ∃ number slots, t = .table number slots := by
  obtain ⟨n, n', hrun⟩ := h
  cases v with
  | dict entries =>
      rw [toTable] at hrun
      obtain ⟨_, _, -, hrun⟩ := run_bind_eq_ok hrun
      obtain ⟨_, _, -, hrun⟩ := run_bind_eq_ok hrun
      obtain ⟨_, _, -, hrun⟩ := run_bind_eq_ok hrun
      cases hrun
      exact .inr ⟨Value.noConfusion, _, _, rfl⟩
  | list items | tuple items =>
      rw [toTable] at hrun
      obtain ⟨_, _, -, hrun⟩ := run_bind_eq_ok hrun
      obtain ⟨_, _, -, hrun⟩ := run_bind_eq_ok hrun
      cases hrun
      exact .inr ⟨Value.noConfusion, _, _, rfl⟩
  | _ =>
      cases hrun
      exact .inl rfl

/-- Nothing but nil becomes nil. -/
theorem BecomesTable.nil_iff {v t : Value} (h : v.BecomesTable t) : v = .nil ↔ t = .nil := by
  rcases h.cases with rfl | ⟨hv, number, slots, rfl⟩
  · rfl
  · exact ⟨fun heq => absurd heq hv, Value.noConfusion⟩

theorem ne_nil_of_becomesTable {items converted : List Value}
    (h : List.Forall₂ BecomesTable items converted) (hitems : ∀ item ∈ items, item ≠ .nil) :
    ∀ item ∈ converted, item ≠ .nil := by
  induction h with
  | nil => exact List.forall_mem_nil _
  | cons hfirst _ ih =>
      obtain ⟨hitem, hrest⟩ := List.forall_mem_cons.mp hitems
      exact List.forall_mem_cons.mpr ⟨hfirst.nil_iff.not.mp hitem, ih hrest⟩

theorem becomesTable_nil : nil.BecomesTable nil :=
  ⟨0, 0, rfl⟩

theorem unhashable?_slotKey (key : Value) : key.slotKey.unhashable? = key.unhashable? := by
  cases key with
  | number n =>
      rw [slotKey]
      cases n.toInt? <;> rfl
  | _ => rfl

end Value

namespace Slots

/-- Every field is assigned if its key is hashable and not nil. -/
theorem exists_assignAll {fields : Slots}
    (h : ∀ field ∈ fields, field.1.isNil = false ∧ field.1.unhashable? = none) (slots : Slots) :
    ∃ assigned, slots.assignAll fields = .ok assigned := by
  induction fields generalizing slots with
  | nil => exact ⟨slots, rfl⟩
  | cons field rest ih =>
      obtain ⟨⟨hnil, hkey⟩, hrest⟩ := List.forall_mem_cons.mp h
      have hne : field.1.slotKey ≠ .nil := Value.slotKey_ne_nil fun heq => by
        rw [heq] at hnil
        cases hnil
      have hasKey : field.1.slotKey.asKey = .ok field.1.slotKey := by
        rw [Value.asKey, Value.unhashable?_slotKey, hkey]
      have hassign : ∃ assigned, slots.assign field.1 field.2 = .ok assigned := by
        by_cases hvalue : field.2 = .nil
        · rw [hvalue, assign_nil hne, hasKey]
          split
          · exact ⟨_, rfl⟩
          · exact ⟨_, rfl⟩
        · rw [assign_of_ne_nil hne hvalue, hasKey]
          exact ⟨_, rfl⟩
      obtain ⟨assigned, hassigned⟩ := hassign
      obtain ⟨final, hfinal⟩ := ih hrest assigned
      refine ⟨final, ?_⟩
      rw [assignAll, hassigned]
      exact hfinal

end Slots

namespace Value

theorem run_toTable_dict {entries converted slots : Slots} {n n' : Nat}
    (h : (toTableSlots entries).run (n + 1) = .ok (converted, n'))
    (hslots : Slots.assignAll [] converted = .ok slots) :
    (dict entries).toTable.run n = .ok (.table n slots, n') := by
  have hnumber : toTable.fresh.run n = .ok (n, n + 1) := rfl
  rw [toTable, run_bind_of_ok hnumber, run_bind_of_ok h, hslots]
  rfl

theorem run_toTable_list {items converted : List Value} {n n' : Nat}
    (h : (toTableList items).run (n + 1) = .ok (converted, n')) :
    (list items).toTable.run n = .ok (.table n (Slots.ofList converted), n') := by
  have hnumber : toTable.fresh.run n = .ok (n, n + 1) := rfl
  rw [toTable, run_bind_of_ok hnumber, run_bind_of_ok h]
  rfl

mutual

theorem exists_toTable {v : Value} (h : v.isConvertible) (n : Nat) :
    ∃ t n', v.toTable.run n = .ok (t, n') := by
  match v with
  | .dict entries =>
      obtain ⟨converted, n', hrun, -, hkeys⟩ := exists_toTableSlots h (n + 1)
      obtain ⟨slots, hslots⟩ := Slots.exists_assignAll hkeys []
      exact ⟨_, n', run_toTable_dict hrun hslots⟩
  | .list items | .tuple items =>
      obtain ⟨converted, n', hrun, -⟩ := exists_toTableList h (n + 1)
      exact ⟨_, n', run_toTable_list hrun⟩
  | .nil | .bool _ | .number _ | .str _ | .multi _ | .table _ _ | .expression _ | .function _
  | .bytes _ | .date _ | .dateTime _ | .set _ => exact ⟨_, n, rfl⟩

theorem exists_toTableList {items : List Value} (h : allConvertible items) (n : Nat) :
    ∃ converted n', (toTableList items).run n = .ok (converted, n') ∧
      List.Forall₂ BecomesTable items converted := by
  match items with
  | [] => exact ⟨[], n, rfl, .nil⟩
  | item :: rest =>
      obtain ⟨hitem, hrest⟩ := Bool.and_eq_true_iff.mp h
      obtain ⟨t, n₁, hfirst⟩ := exists_toTable hitem n
      obtain ⟨converted, n₂, hrun, hconverted⟩ := exists_toTableList hrest n₁
      refine ⟨t :: converted, n₂, ?_, .cons ⟨n, n₁, hfirst⟩ hconverted⟩
      rw [toTableList, run_bind_of_ok hfirst, run_bind_of_ok hrun]
      rfl

theorem exists_toTableSlots {entries : Slots} (h : areConvertible entries) (n : Nat) :
    ∃ converted n', (toTableSlots entries).run n = .ok (converted, n') ∧
      List.Forall₂ (fun entry slot => slot.1 = entry.1 ∧ entry.2.BecomesTable slot.2) entries
        converted ∧
      ∀ slot ∈ converted, slot.1.isNil = false ∧ slot.1.unhashable? = none := by
  match entries with
  | [] => exact ⟨[], n, rfl, .nil, List.forall_mem_nil _⟩
  | (key, value) :: rest =>
      rw [areConvertible, Bool.and_eq_true, Bool.and_eq_true, Bool.and_eq_true] at h
      obtain ⟨⟨⟨hnil, hkey⟩, hvalue⟩, hrest⟩ := h
      obtain ⟨t, n₁, hfirst⟩ := exists_toTable hvalue n
      obtain ⟨converted, n₂, hrun, hconverted, hkeys⟩ := exists_toTableSlots hrest n₁
      refine ⟨(key, t) :: converted, n₂, ?_, .cons ⟨rfl, n, n₁, hfirst⟩ hconverted,
        List.forall_mem_cons.mpr ⟨⟨?_, Option.isNone_iff_eq_none.mp hkey⟩, hkeys⟩⟩
      · rw [toTableSlots, run_bind_of_ok hfirst, run_bind_of_ok hrun]
        rfl
      · exact (Bool.not_eq_true' _).mp hnil

end

/-! ### Reading what was a list -/

theorem sameKey_ofInt (key : Value) (i : Int) : key.sameKey (.ofInt i) = key.isIndex i := by
  cases key with
  | bool b =>
      rw [Bool.eq_iff_iff, sameKey_iff rfl rfl, isIndex_iff, keyIdentity?_ofInt]
      exact eq_comm
  | number n =>
      have hsame : n.isSame (.int i) = n.beq (.int i) := by
        rw [Number.isSame.eq_def]
        cases n with
        | int j => exact Bool.or_false _
        | float x => cases x <;> exact Bool.or_false _
      exact hsame
  | _ => rfl

theorem isIndex_slotKey (key : Value) (i : Int) : key.slotKey.isIndex i = key.isIndex i := by
  rw [Bool.eq_iff_iff, isIndex_iff, isIndex_iff, keyIdentity?_slotKey]

theorem itemAt_succ (items : List Value) (i : Nat) :
    Tables.itemAt items (i + 1 : Nat) = (items[i]?).getD .nil := by
  have hpositive : (1 : Int) ≤ (i + 1 : Nat) := by omega
  have hplace : (((i + 1 : Nat) : Int) - 1).toNat = i := by omega
  rw [Tables.itemAt, if_pos hpositive, hplace]

theorem itemAt_of_lt_one (items : List Value) {i : Int} (h : i < 1) :
    Tables.itemAt items i = .nil :=
  if_neg (Int.not_le.mpr h)

/-- An integer is the number of a position or comes before all of them. -/
theorem position_cases (i : Int) : (∃ k : Nat, i = (k + 1 : Nat)) ∨ i < 1 := by
  rcases Int.lt_or_le i 1 with hbefore | hposition
  · exact .inr hbefore
  · exact .inl ⟨(i - 1).toNat, by omega⟩

theorem itemAt_of_length_lt {items : List Value} {i : Int} (h : items.length < i) :
    Tables.itemAt items i = .nil := by
  rcases position_cases i with ⟨k, rfl⟩ | hbefore
  · rw [itemAt_succ, List.getElem?_eq_none (by omega)]
    rfl
  · exact itemAt_of_lt_one items hbefore

theorem find?_ofList_of_isIndex (items : List Value) {key : Value} {i : Int} (h : key.isIndex i) :
    ((Slots.ofList items).find? key).getD .nil = Tables.itemAt items i := by
  have hregular : (Slots.ofList items).Regular := regular_ofListFrom items 1
  rw [Slots.find?_of_isIndex hregular.hashable h]
  cases hslot : slotAt? (Slots.ofList items) i with
  | some item =>
      obtain ⟨k, rfl, hitem, -⟩ := slotAt?_ofList_eq_some.mp hslot
      rw [itemAt_succ, hitem]
  | none =>
      rcases position_cases i with ⟨k, rfl⟩ | hbefore
      · rw [itemAt_succ]
        cases hitem : items[k]? with
        | none => rfl
        | some item =>
            by_cases hnil : item = .nil
            · rw [hnil]
              rfl
            · rw [slotAt?_ofList_eq_some.mpr ⟨k, rfl, hitem, hnil⟩] at hslot
              cases hslot
      · rw [itemAt_of_lt_one items hbefore]
        rfl

theorem find?_ofList_eq_none (items : List Value) {key : Value}
    (h : ∀ i, key.isIndex i = false) : (Slots.ofList items).find? key = none := by
  rw [Slots.find?, Option.map_eq_none_iff, List.find?_eq_none]
  intro slot hslot
  obtain ⟨i, -, -, hkey⟩ := mem_ofListFrom.mp hslot
  rw [hkey, sameKey_ofInt, h]
  exact Bool.false_ne_true

theorem itemAt_becomesTable {items converted : List Value}
    (h : List.Forall₂ BecomesTable items converted) (i : Int) :
    (Tables.itemAt items i).BecomesTable (Tables.itemAt converted i) := by
  have hplaces (k : Nat) : ((items[k]?).getD .nil).BecomesTable ((converted[k]?).getD .nil) := by
    induction h generalizing k with
    | nil => exact becomesTable_nil
    | cons hfirst _ ih =>
        cases k with
        | zero => exact hfirst
        | succ k => exact ih k
  rcases position_cases i with ⟨k, rfl⟩ | hbefore
  · rw [itemAt_succ, itemAt_succ]
    exact hplaces k
  · rw [itemAt_of_lt_one items hbefore, itemAt_of_lt_one converted hbefore]
    exact becomesTable_nil

/-! ### Reading what was a mapping with texts as keys -/

theorem sameKey_str_iff {key : Value} {s : String} :
    key.sameKey (.str s) = true ↔ key = .str s := by
  cases key with
  | str t => exact beq_iff_eq.trans (by rw [str.injEq])
  | _ => exact ⟨fun h => (Bool.false_ne_true h).elim, nofun⟩

theorem slotKey_eq_str_iff {key : Value} {s : String} : key.slotKey = .str s ↔ key = .str s := by
  cases key with
  | number n =>
      rw [slotKey]
      cases n.toInt? <;> simp [ofInt]
  | _ => exact Iff.rfl

end Value

namespace Slots

/-- All keys are texts, and no two are the same. -/
structure HasTexts (slots : Slots) : Prop where
  texts : ∀ slot ∈ slots, ∃ s, slot.1 = .str s
  distinct : (slots.map Prod.fst).Nodup

theorem HasTexts.tail {slot : Value × Value} {rest : Slots} (h : HasTexts (slot :: rest)) :
    HasTexts rest :=
  ⟨(List.forall_mem_cons.mp h.texts).2, (List.nodup_cons.mp h.distinct).2⟩

theorem HasTexts.absent_of_cons {slot : Value × Value} {rest : Slots}
    (h : HasTexts (slot :: rest)) : ∀ other ∈ rest, other.1 ≠ slot.1 := by
  intro other hother heq
  exact (List.nodup_cons.mp h.distinct).1 (heq ▸ List.mem_map_of_mem hother)

/-- The conversion keeps the keys. -/
theorem HasTexts.of_converted {entries converted : Slots} (h : entries.HasTexts)
    (hconverted : List.Forall₂ (fun entry slot => slot.1 = entry.1 ∧ entry.2.BecomesTable slot.2)
      entries converted) : converted.HasTexts := by
  have hkeys : converted.map Prod.fst = entries.map Prod.fst := by
    induction hconverted with
    | nil => rfl
    | cons hentry _ ih => rw [List.map_cons, List.map_cons, hentry.1, ih h.tail]
  refine ⟨fun slot hslot => ?_, hkeys ▸ h.distinct⟩
  have hkey : slot.1 ∈ entries.map Prod.fst := hkeys ▸ List.mem_map_of_mem hslot
  obtain ⟨entry, hentry, hsame⟩ := List.mem_map.mp hkey
  exact hsame ▸ h.texts entry hentry

/-- Fields under texts that differ are put at the end one after the other, but for nil. -/
theorem assignAll_texts {done fields : Slots} (h : HasTexts (done ++ fields)) :
    done.assignAll fields = .ok (done ++ fields.filter fun field => !field.2.isNil) := by
  induction fields generalizing done with
  | nil => rw [assignAll, List.filter_nil, List.append_nil]
  | cons field rest ih =>
      obtain ⟨key, value⟩ := field
      obtain ⟨s, hs⟩ := h.texts (key, value) (List.mem_append_right _ List.mem_cons_self)
      obtain rfl : key = .str s := hs
      have habsent : ∀ slot ∈ done, (Value.str s).sameKey slot.1 = false := by
        intro slot hslot
        obtain ⟨t, ht⟩ := h.texts slot (List.mem_append_left _ hslot)
        rw [Bool.eq_false_iff, ht, ne_eq, Value.sameKey_str_iff, ← ht]
        intro heq
        have hapart := h.distinct
        rw [List.map_append, List.nodup_append] at hapart
        exact hapart.2.2 slot.1 (List.mem_map_of_mem hslot) (.str s)
          (List.mem_map_of_mem List.mem_cons_self) heq.symm
      by_cases hvalue : value = .nil
      · subst hvalue
        have hrest : HasTexts (done ++ rest) := by
          have hfewer : (done ++ rest).Sublist (done ++ (.str s, .nil) :: rest) :=
            (List.Sublist.refl done).append (List.sublist_cons_self _ rest)
          exact ⟨fun slot hslot => h.texts slot (hfewer.mem hslot),
            h.distinct.sublist (hfewer.map _)⟩
        have hassign : done.assign (.str s) .nil = .ok done := by
          rw [assign_nil Value.noConfusion]
          split
          · rfl
          · exact congrArg Except.ok (erase_of_absent habsent)
        rw [assignAll, hassign, List.filter_cons_of_neg Bool.false_ne_true]
        exact ih hrest
      · have hrest : HasTexts (done ++ [(.str s, value)] ++ rest) := by
          rwa [List.append_assoc, List.singleton_append]
        have hassign : done.assign (.str s) value = .ok (done ++ [(.str s, value)]) :=
          (assign_of_isKey rfl hvalue).trans (congrArg Except.ok (put_of_absent habsent value))
        have hkept : (!value.isNil) = true := by
          rw [Bool.not_eq_true', Bool.eq_false_iff, ne_eq, Value.isNil_iff]
          exact hvalue
        have hfilter : ((Value.str s, value) :: rest).filter (fun field => !field.2.isNil) =
            (.str s, value) :: rest.filter fun field => !field.2.isNil :=
          List.filter_cons_of_pos hkept
        rw [assignAll, hassign, hfilter]
        refine (ih hrest).trans ?_
        rw [List.append_assoc, List.singleton_append]

/-- What is found among the entries becomes what is found among those that are not nil. -/
theorem find?_texts {entries converted : Slots}
    (h : List.Forall₂ (fun entry slot => slot.1 = entry.1 ∧ entry.2.BecomesTable slot.2) entries
      converted) (htexts : entries.HasTexts) (key : Value) :
    ((entries.find? key).getD .nil).BecomesTable
      ((find? (converted.filter fun slot => !slot.2.isNil) key.slotKey).getD .nil) := by
  induction h with
  | nil => exact Value.becomesTable_nil
  | @cons entry slot rest later hentry hrest ih =>
      obtain ⟨hkey, hvalue⟩ := hentry
      obtain ⟨s, hs⟩ := htexts.texts entry List.mem_cons_self
      have hsame : key.slotKey.sameKey slot.1 = key.sameKey entry.1 := by
        rw [hkey, hs, Bool.eq_iff_iff, Value.sameKey_str_iff, Value.sameKey_str_iff,
          Value.slotKey_eq_str_iff]
      rw [find?_cons]
      by_cases hfound : key.sameKey entry.1
      · rw [if_pos hfound]
        cases hnil : slot.2.isNil with
        | true =>
            -- The entry itself is nil, and no other one has its key.
            have hlater : find? rest key = none := by
              rw [find?, Option.map_eq_none_iff, List.find?_eq_none]
              intro other hother hsameOther
              obtain ⟨t, ht⟩ := htexts.tail.texts other hother
              rw [hs, Value.sameKey_str_iff] at hfound
              rw [ht, Value.sameKey_str_iff] at hsameOther
              refine htexts.absent_of_cons other hother ?_
              rw [ht, hs, ← hsameOther, hfound]
            have hrest := ih htexts.tail
            rw [hlater] at hrest
            rw [List.filter_cons_of_neg (by simp [hnil]),
              hvalue.nil_iff.mpr (Value.isNil_iff.mp hnil)]
            exact hrest
        | false =>
            rw [List.filter_cons_of_pos (by simp [hnil]), find?_cons, hsame, if_pos hfound]
            exact hvalue
      · rw [if_neg hfound]
        cases hnil : slot.2.isNil with
        | true =>
            rw [List.filter_cons_of_neg (by simp [hnil])]
            exact ih htexts.tail
        | false =>
            rw [List.filter_cons_of_pos (by simp [hnil]), find?_cons, hsame, if_neg hfound]
            exact ih htexts.tail

theorem border_texts {slots : Slots} (h : ∀ slot ∈ slots, ∃ s, slot.1 = .str s) :
    border slots = 0 := by
  by_contra hborder
  obtain ⟨slot, hslot, hindex⟩ := isSome_slotAt?_iff.mp
    (isSome_slotAt?_of_lt_border (Nat.pos_of_ne_zero hborder))
  obtain ⟨s, hs⟩ := h slot hslot
  rw [hs] at hindex
  cases hindex

end Slots

end TemplateScript
