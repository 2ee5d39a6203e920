import TemplateScript.Proofs.Value.Assignment
import TemplateScript.Proofs.Value.Positions

/-!
# The host's form of tables

A table that assignments built from nothing becomes a list for the host exactly if its keys are the
integers from one on, where true and false count as one and zero, whatever the order in which its
slots were filled. Otherwise it becomes a mapping with the keys of the table in their order. No slot
is lost, and no table is left among the contents.
-/

namespace TemplateScript

/-! ### Keys that are integers -/

theorem Number.toInt?_of_exactValue? {n : Number} {i : Int}
    (h : n.exactValue? = some (.fraction i)) : n.toInt? = some i := by
  cases n with
  | int j =>
      have hcast : (j : Rat) = i := ExactValue.fraction.inj (Option.some.inj h)
      exact congrArg some (Rat.intCast_inj.mp hcast)
  | float x =>
      cases hfraction : x.fraction? with
      | none =>
          cases x with
          | finite _ _ => cases hfraction
          | infinite _ => cases h
          | nan _ _ => cases h
      | some f =>
          obtain ⟨num, den⟩ := f
          obtain ⟨hexact, hden⟩ := exactValue?_of_fraction? (n := .float x) hfraction
          have hne : den ≠ 0 := Nat.pos_iff_ne_zero.mp hden
          have hvalue : mkRat num den = mkRat i 1 := by
            rw [Rat.mkRat_one]
            exact ExactValue.fraction.inj (Option.some.inj (hexact.symm.trans h))
          have hnum : num = i * den := by
            rwa [Rat.mkRat_eq_iff hne Nat.one_ne_zero, Int.natCast_one, Int.mul_one] at hvalue
          have hden' : (den : Int) ≠ 0 := Int.natCast_ne_zero.mpr hne
          rw [toInt?, Binary64.toInt?, hfraction]
          simp only [hnum, Int.mul_emod_left, if_true, Int.mul_ediv_cancel _ hden']

namespace Value

variable {key : Value} {i : Int}

/-- The key with true and false as the numbers one and zero. -/
def counted : Value → Value
  | .bool b => .ofInt (if b then 1 else 0)
  | key => key

theorem isIndex_iff : key.isIndex i = true ↔ key.keyIdentity? = some (.number (.fraction i)) := by
  cases key with
  | bool b =>
      rw [isIndex, keyIdentity?, beq_iff_eq, Option.some.injEq, KeyIdentity.number.injEq,
        ExactValue.fraction.injEq]
      cases b with
      | true => exact ⟨fun h => h ▸ rfl, fun h => Rat.intCast_inj.mp h.symm⟩
      | false => exact ⟨fun h => h ▸ rfl, fun h => Rat.intCast_inj.mp h.symm⟩
  | number n =>
      rw [isIndex, Number.beq_iff, keyIdentity?, Option.map_eq_some_iff]
      simp [Number.exactValue?]
  | _ => simp [isIndex, keyIdentity?]

/-- A key as it stands in a slot addresses the slot of an integer exactly if it counts as it. -/
theorem counted_eq_ofInt (h : key.slotKey = key) :
    key.counted = .ofInt i ↔ key.keyIdentity? = some (.number (.fraction i)) := by
  cases key with
  | bool b =>
      rw [← isIndex_iff, isIndex, beq_iff_eq, counted, ofInt, ofInt, number.injEq,
        Number.int.injEq, eq_comm]
  | number n =>
      show number n = ofInt i ↔ _
      rw [keyIdentity?, Option.map_eq_some_iff]
      refine ⟨fun heq => ⟨.fraction i, ?_, rfl⟩, fun hidentity => ?_⟩
      · rw [ofInt, number.injEq] at heq
        rw [heq]
        rfl
      · obtain ⟨v, hv, hi⟩ := hidentity
        obtain rfl := KeyIdentity.number.inj hi
        rw [← h, slotKey, Number.toInt?_of_exactValue? hv]
  | _ => simp [counted, keyIdentity?, ofInt]

end Value

namespace Slots

variable {slots : Slots}

/-- The keys are the integers from one on, if true and false count as one and zero. -/
def ArePositions (slots : Slots) : Prop :=
  ∃ n : Nat, (slots.map fun slot => slot.1.counted).Perm
    ((List.range n).map fun i => Value.ofInt (i + 1 : Nat))

theorem isSome_slotAt?_iff {i : Int} :
    (slotAt? slots i).isSome ↔ ∃ slot ∈ slots, slot.1.isIndex i := by
  rw [slotAt?, Option.isSome_map, List.find?_isSome]

/-- What is found under a key that addresses the slot of an integer. -/
theorem find?_of_isIndex (h : slots.IsHashable) {key : Value} {i : Int} (hkey : key.isIndex i) :
    slots.find? key = slotAt? slots i := by
  induction slots with
  | nil => rfl
  | cons slot rest ih =>
      obtain ⟨hslot, hrest⟩ := List.forall_mem_cons.mp h
      have hsame : key.sameKey slot.1 = true ↔ slot.1.isIndex i :=
        (Value.sameKey_iff (Value.isIndex_iff.mp hkey) hslot).trans Value.isIndex_iff.symm
      rw [find?_cons, slotAt?_cons, ih hrest]
      simp only [hsame]

theorem read_ofInt (h : slots.IsHashable) (index : Int) :
    slots.read (.ofInt index) = .ok (slotAt? slots index) := by
  have hindex : (Value.ofInt index).isIndex index := Value.isIndex_iff.mpr rfl
  rw [read_of_isKey rfl, ← find?_of_isIndex h hindex]
  rfl

theorem Regular.counted_iff (h : slots.Regular) {slot : Value × Value} (hslot : slot ∈ slots)
    {i : Int} : slot.1.counted = .ofInt i ↔ slot.1.isIndex i :=
  (Value.counted_eq_ofInt (h.normal slot hslot)).trans Value.isIndex_iff.symm

theorem Regular.isSequence_iff (h : slots.Regular) :
    isSequence slots = true ↔ slots.ArePositions := by
  rw [TemplateScript.isSequence_iff]
  refine ⟨fun hfilled => ⟨slots.length, ?_⟩, fun ⟨n, hperm⟩ i hi => ?_⟩
  · have hdistinct : ((List.range slots.length).map fun i => Value.ofInt (i + 1 : Nat)).Nodup := by
      refine List.nodup_range.map fun i j hij => ?_
      have hcast : ((i + 1 : Nat) : Int) = (j + 1 : Nat) :=
        Number.int.inj (Value.number.inj hij)
      omega
    refine (List.Subperm.perm_of_length_le (List.subperm_of_subset hdistinct ?_) ?_).symm
    · intro key hkey
      obtain ⟨i, hi, rfl⟩ := List.mem_map.mp hkey
      obtain ⟨slot, hslot, hindex⟩ :=
        isSome_slotAt?_iff.mp (hfilled i (List.mem_range.mp hi))
      exact List.mem_map.mpr ⟨slot, hslot, (h.counted_iff hslot).mpr hindex⟩
    · rw [List.length_map, List.length_map, List.length_range]
  · obtain rfl : slots.length = n := by
      simpa using hperm.length_eq
    have hkey := hperm.mem_iff.mpr (List.mem_map_of_mem (List.mem_range.mpr hi))
    obtain ⟨slot, hslot, hcounted⟩ := List.mem_map.mp hkey
    exact isSome_slotAt?_iff.mpr ⟨slot, hslot, (h.counted_iff hslot).mp hcounted⟩

/-- No other slot stands before the one of the integer. -/
theorem Regular.slotAt?_of_mem (h : slots.Regular) {slot : Value × Value} (hslot : slot ∈ slots)
    {i : Int} (hindex : slot.1.isIndex i) : slotAt? slots i = some slot.2 := by
  induction slots with
  | nil => cases hslot
  | cons first rest ih =>
      rcases List.mem_cons.mp hslot with rfl | hrest
      · rw [slotAt?_cons, if_pos hindex]
      · have hfirst : ¬ first.1.isIndex i := by
          intro hfirst
          exact h.absent_of_cons (Value.isIndex_iff.mp hfirst) slot hrest
            (Value.isIndex_iff.mp hindex)
        rw [slotAt?_cons, if_neg hfirst]
        exact ih (h.sublist (List.sublist_cons_self first rest)) hrest

end Slots

/-! ### Lists and mappings -/

namespace Value

theorem toHostSlots_eq_map (slots : Slots) :
    toHostSlots slots = slots.map fun slot => (slot.1, slot.2.toHost) := by
  induction slots with
  | nil => rfl
  | cons slot rest ih => rw [toHostSlots, ih, List.map_cons]

theorem toHost_table (number : Nat) (slots : Slots) :
    (table number slots).toHost =
      if isSequence slots then .list ((sequenceOf slots).map toHost)
      else .dict (slots.map fun slot => (slot.1, slot.2.toHost)) := by
  have hmap : toHostSlots slots = slots.map (Prod.map id toHost) := toHostSlots_eq_map slots
  rw [toHost, isSequence_map (fun _ _ => rfl) hmap, sequenceOf_map (fun _ _ => rfl) hmap,
    toHostSlots_eq_map]

/-! ### Slots of a list -/

section

variable {items : List Value}

theorem ofListFrom_cons {item : Value} (h : item ≠ .nil) (position : Int) (rest : List Value) :
    Slots.ofListFrom position (item :: rest) =
      (.ofInt position, item) :: Slots.ofListFrom (position + 1) rest := by
  cases item <;> first | rfl | exact absurd rfl h

theorem isIndex_ofInt (i j : Int) : (ofInt i).isIndex j = true ↔ i = j := by
  rw [isIndex_iff, ← counted_eq_ofInt rfl]
  exact ⟨fun h => Number.int.inj (Value.number.inj h), fun h => h ▸ rfl⟩

/-- Without nil there is no gap. -/
theorem slotAt?_ofListFrom (h : ∀ item ∈ items, item ≠ .nil) (position : Int) (i : Nat) :
    slotAt? (Slots.ofListFrom position items) (position + i) = items[i]? := by
  induction items generalizing position i with
  | nil => rfl
  | cons item rest ih =>
      obtain ⟨hitem, hrest⟩ := List.forall_mem_cons.mp h
      rw [ofListFrom_cons hitem, slotAt?_cons]
      cases i with
      | zero => rw [if_pos ((isIndex_ofInt _ _).mpr (by omega))]; rfl
      | succ i =>
          have hlater : position + (i + 1 : Nat) = position + 1 + i := by omega
          rw [if_neg fun hfirst => by have := (isIndex_ofInt _ _).mp hfirst; omega, hlater,
            ih hrest, List.getElem?_cons_succ]

theorem length_ofListFrom (h : ∀ item ∈ items, item ≠ .nil) (position : Int) :
    (Slots.ofListFrom position items).length = items.length := by
  induction items generalizing position with
  | nil => rfl
  | cons item rest ih =>
      obtain ⟨hitem, hrest⟩ := List.forall_mem_cons.mp h
      rw [ofListFrom_cons hitem, List.length_cons, List.length_cons, ih hrest]

theorem slotAt?_ofList (h : ∀ item ∈ items, item ≠ .nil) (i : Nat) :
    slotAt? (Slots.ofList items) (i + 1 : Nat) = items[i]? := by
  have hposition : ((i + 1 : Nat) : Int) = 1 + i := by omega
  rw [hposition]
  exact slotAt?_ofListFrom h 1 i

theorem isSequence_ofList (h : ∀ item ∈ items, item ≠ .nil) :
    isSequence (Slots.ofList items) = true := by
  refine isSequence_iff.mpr fun i hi => ?_
  have hlength : i < items.length := length_ofListFrom h 1 ▸ hi
  rw [slotAt?_ofList h, List.getElem?_eq_getElem hlength]
  rfl

theorem border_ofList (h : ∀ item ∈ items, item ≠ .nil) :
    border (Slots.ofList items) = items.length := by
  have hsequence : border (Slots.ofList items) = (Slots.ofList items).length :=
    beq_iff_eq.mp (isSequence_ofList h)
  exact hsequence.trans (length_ofListFrom h 1)

theorem sequenceOf_ofList (h : ∀ item ∈ items, item ≠ .nil) :
    sequenceOf (Slots.ofList items) = items := by
  have hlength : (Slots.ofList items).length = items.length := length_ofListFrom h 1
  refine List.map_injective_iff.mpr (fun _ _ => Option.some.inj) ?_
  rw [map_some_sequenceOf (isSequence_ofList h), hlength]
  refine List.ext_getElem (by simp) fun i hi _ => ?_
  have hitem : i < items.length := by simpa using hi
  rw [List.getElem_map, List.getElem_map, List.getElem_range, slotAt?_ofList h,
    List.getElem?_eq_getElem hitem]

theorem ofListFrom_append (items more : List Value) (position : Int) :
    Slots.ofListFrom position (items ++ more) =
      Slots.ofListFrom position items ++ Slots.ofListFrom (position + items.length) more := by
  induction items generalizing position with
  | nil => rw [List.length_nil, Int.natCast_zero, Int.add_zero]; rfl
  | cons item rest ih =>
      have hposition : position + 1 + rest.length = position + (item :: rest).length := by
        rw [List.length_cons]
        omega
      by_cases hitem : item = .nil
      · rw [hitem] at hposition ⊢
        rw [List.cons_append, Slots.ofListFrom, Slots.ofListFrom, ih, hposition]
      · rw [List.cons_append, ofListFrom_cons hitem, ih, ofListFrom_cons hitem, hposition,
          List.cons_append]

/-- The items that are not nil stand under their positions, and nothing else. -/
theorem mem_ofListFrom {position : Int} {slot : Value × Value} :
    slot ∈ Slots.ofListFrom position items ↔
      ∃ i : Nat, items[i]? = some slot.2 ∧ slot.2 ≠ .nil ∧ slot.1 = .ofInt (position + i) := by
  induction items generalizing position with
  | nil => simp [Slots.ofListFrom]
  | cons item rest ih =>
      have hshift (i : Nat) : position + 1 + i = position + (i + 1 : Nat) := by omega
      have hlater : slot ∈ Slots.ofListFrom (position + 1) rest ↔ ∃ i : Nat,
          (item :: rest)[i + 1]? = some slot.2 ∧ slot.2 ≠ .nil ∧
            slot.1 = .ofInt (position + (i + 1 : Nat)) := by
        simp only [ih, List.getElem?_cons_succ, hshift]
      have hfirst : (item :: rest)[0]? = some slot.2 ∧ slot.2 ≠ .nil ∧
          slot.1 = .ofInt (position + (0 : Nat)) ↔
            item ≠ .nil ∧ slot = (.ofInt position, item) := by
        rw [List.getElem?_cons_zero, Option.some.injEq, Int.natCast_zero, Int.add_zero,
          Prod.ext_iff]
        grind
      rw [Nat.or_exists_add_one.symm, hfirst, ← hlater]
      by_cases hitem : item = .nil
      · rw [hitem, Slots.ofListFrom]
        simp
      · rw [ofListFrom_cons hitem, List.mem_cons]
        simp [hitem]

theorem keyIdentity?_ofInt (i : Int) :
    keyIdentity? (.ofInt i) = some (.number (.fraction i)) :=
  (counted_eq_ofInt rfl).mp rfl

theorem regular_ofListFrom (items : List Value) (position : Int) :
    (Slots.ofListFrom position items).Regular := by
  refine ⟨fun slot hslot => ?_, fun slot hslot => ?_, ?_⟩
  · obtain ⟨i, -, -, hkey⟩ := mem_ofListFrom.mp hslot
    rw [hkey]
    rfl
  · obtain ⟨i, -, -, hkey⟩ := mem_ofListFrom.mp hslot
    rw [hkey]
    rfl
  · induction items generalizing position with
    | nil => exact .nil
    | cons item rest ih =>
        by_cases hitem : item = .nil
        · rw [hitem, Slots.ofListFrom]
          exact ih (position + 1)
        · rw [ofListFrom_cons hitem, List.filterMap_cons, keyIdentity?_ofInt]
          refine List.nodup_cons.mpr ⟨fun hmem => ?_, ih (position + 1)⟩
          obtain ⟨slot, hslot, hsame⟩ := List.mem_filterMap.mp hmem
          obtain ⟨i, -, -, hkey⟩ := mem_ofListFrom.mp hslot
          rw [hkey, ← isIndex_iff, isIndex_ofInt] at hsame
          omega

/-- The next position is filled, or stays a gap. -/
theorem assign_ofList (items : List Value) (last : Value) :
    (Slots.ofList items).assign (.ofInt (items.length + 1 : Nat)) last =
      .ok (Slots.ofList (items ++ [last])) := by
  have hposition : ((items.length + 1 : Nat) : Int) = 1 + items.length := by omega
  have hsplit : Slots.ofList (items ++ [last]) =
      Slots.ofList items ++ Slots.ofListFrom (items.length + 1 : Nat) [last] := by
    rw [hposition]
    exact ofListFrom_append items [last] 1
  have hregular : (Slots.ofList (items ++ [last])).Regular := regular_ofListFrom _ 1
  by_cases hlast : last = .nil
  · have habsent : ∀ slot ∈ Slots.ofList items,
        (ofInt (items.length + 1 : Nat)).sameKey slot.1 = false := by
      intro slot hslot
      obtain ⟨i, hitem, -, hkey⟩ := mem_ofListFrom.mp hslot
      have hi : i < items.length := (List.getElem?_eq_some_iff.mp hitem).1
      rw [Bool.eq_false_iff, hkey, ne_eq, sameKey_iff (keyIdentity?_ofInt _) rfl, ← isIndex_iff,
        isIndex_ofInt]
      omega
    have hkey : (ofInt (items.length + 1 : Nat)).slotKey ≠ .nil := Value.noConfusion
    rw [hsplit, hlast, Slots.assign_nil hkey, asKey_slotKey rfl, Slots.ofListFrom,
      Slots.ofListFrom, List.append_nil]
    split
    · rfl
    · exact congrArg Except.ok (Slots.erase_of_absent habsent)
  · rw [hsplit, ofListFrom_cons hlast] at hregular ⊢
    exact hregular.assign_snoc rfl hlast

theorem slotAt?_ofList_eq_some {index : Int} {item : Value} :
    slotAt? (Slots.ofList items) index = some item ↔
      ∃ i : Nat, index = (i + 1 : Nat) ∧ items[i]? = some item ∧ item ≠ .nil := by
  have hregular : (Slots.ofList items).Regular := regular_ofListFrom items 1
  constructor
  · intro hfound
    rw [slotAt?, Option.map_eq_some_iff] at hfound
    obtain ⟨slot, hfirst, rfl⟩ := hfound
    obtain ⟨i, hitem, hne, hkey⟩ := mem_ofListFrom.mp (List.mem_of_find?_eq_some hfirst)
    have hindex := List.find?_some hfirst
    rw [hkey, isIndex_ofInt] at hindex
    exact ⟨i, by omega, hitem, hne⟩
  · rintro ⟨i, rfl, hitem, hne⟩
    have hposition : (1 : Int) + i = (i + 1 : Nat) := by omega
    have hslot : (ofInt (i + 1 : Nat), item) ∈ Slots.ofList items :=
      mem_ofListFrom.mpr ⟨i, hitem, hne, congrArg ofInt hposition.symm⟩
    exact hregular.slotAt?_of_mem hslot ((isIndex_ofInt _ _).mpr rfl)

/-- The table of a list becomes the list of what the items become. -/
theorem toHost_ofList (h : ∀ item ∈ items, item ≠ .nil) (number : Nat) :
    (table number (Slots.ofList items)).toHost = .list (items.map toHost) := by
  rw [toHost_table, if_pos (isSequence_ofList h), sequenceOf_ofList h]

end

/-! ### Contents -/

mutual

/-- Whether there is a table among the contents of a value, at any depth. Keys stay what they
are. -/
def holdsTable : Value → Bool
  | .table _ _ => true
  | .list items | .tuple items | .multi items | .set items => anyHoldsTable items
  | .dict entries => contentsHoldTable entries
  | _ => false

def anyHoldsTable : List Value → Bool
  | [] => false
  | v :: rest => v.holdsTable || anyHoldsTable rest

def contentsHoldTable : List (Value × Value) → Bool
  | [] => false
  | (_, v) :: rest => v.holdsTable || contentsHoldTable rest

end

theorem anyHoldsTable_eq_false {items : List Value} :
    anyHoldsTable items = false ↔ ∀ v ∈ items, v.holdsTable = false := by
  induction items with
  | nil => simp [anyHoldsTable]
  | cons v rest ih => rw [anyHoldsTable, Bool.or_eq_false_iff, ih, List.forall_mem_cons]

theorem contentsHoldTable_eq_false {entries : Slots} :
    contentsHoldTable entries = false ↔ ∀ slot ∈ entries, slot.2.holdsTable = false := by
  induction entries with
  | nil => simp [contentsHoldTable]
  | cons slot rest ih => rw [contentsHoldTable, Bool.or_eq_false_iff, ih, List.forall_mem_cons]

/-- The values of the language that hold no others. -/
def isScalar : Value → Bool
  | .nil | .bool _ | .number _ | .str _ | .function _ => true
  | _ => false

/-- A value that table constructors make: a scalar, or a table whose fields were assigned in turn,
each to any key. A key may be assigned again, and nil takes a slot out. -/
inductive Constructed : Value → Prop
  | scalar {v : Value} (h : v.isScalar) : Constructed v
  | table (number : Nat) {fields slots : Slots}
      (hvalues : ∀ field ∈ fields, Constructed field.2)
      (hslots : Slots.assignAll [] fields = .ok slots) : Constructed (.table number slots)

variable {number : Nat} {slots : Slots}

theorem Constructed.regular (h : (Value.table number slots).Constructed) : slots.Regular := by
  cases h with
  | scalar h => cases h
  | table _ _ hslots => exact Slots.regular_of_assignAll hslots

/-- No table is left in the host's form. -/
theorem Constructed.holdsTable_toHost {v : Value} (h : v.Constructed) :
    v.toHost.holdsTable = false := by
  induction h with
  | @scalar v h => cases v <;> first | rfl | cases h
  | @table number fields slots _ hslots ih =>
      have hcontents : ∀ slot ∈ slots, slot.2.toHost.holdsTable = false :=
        Slots.assignAll_induction
          (p := fun slots => ∀ slot ∈ slots, slot.2.toHost.holdsTable = false)
          (List.forall_mem_nil _)
          (fun field hfield _ _ hbefore hassign =>
            Slots.forall_contents_assign (p := fun v => v.toHost.holdsTable = false) hbefore
              (ih field hfield) hassign) hslots
      rw [toHost_table]
      split
      · refine anyHoldsTable_eq_false.mpr fun v hv => ?_
        obtain ⟨item, hitem, rfl⟩ := List.mem_map.mp hv
        obtain ⟨slot, hslot, rfl⟩ := mem_sequenceOf hitem
        exact hcontents slot hslot
      · refine contentsHoldTable_eq_false.mpr fun slot hslot => ?_
        obtain ⟨old, hold, rfl⟩ := List.mem_map.mp hslot
        exact hcontents old hold

/-- The host's form of a table is a list exactly if the keys are the integers from one on, where
true and false count as one and zero. The list holds the host's form of what stands at each
position, and a mapping that of each slot under the key it has in the table, in the same order. No
table is left among the contents. -/
theorem Constructed.toHost_list_or_dict (h : (Value.table number slots).Constructed) :
    ((∃ items, (Value.table number slots).toHost = .list items) ↔ slots.ArePositions) ∧
      (∀ items, (Value.table number slots).toHost = .list items → items.length = slots.length ∧
        ∀ slot ∈ slots, ∃ i : Nat, slot.1.counted = .ofInt (i + 1 : Nat) ∧
          items[i]? = some slot.2.toHost) ∧
      (¬ slots.ArePositions →
        (Value.table number slots).toHost = .dict (slots.map fun slot => (slot.1, slot.2.toHost))) ∧
      (Value.table number slots).toHost.holdsTable = false := by
  have hregular := h.regular
  have hlist : (∃ items, (Value.table number slots).toHost = .list items) ↔ slots.ArePositions := by
    rw [← hregular.isSequence_iff, toHost_table]
    split
    · next hsequence => exact ⟨fun _ => hsequence, fun _ => ⟨_, rfl⟩⟩
    · next hsequence =>
        refine ⟨fun hfound => ?_, fun hpositions => absurd hpositions hsequence⟩
        obtain ⟨items, hitems⟩ := hfound
        cases hitems
  refine ⟨hlist, fun items hitems => ?_, fun hother => ?_, h.holdsTable_toHost⟩
  · have hpositions : slots.ArePositions := hlist.mp ⟨items, hitems⟩
    have hsequence : isSequence slots = true := hregular.isSequence_iff.mpr hpositions
    rw [toHost_table, if_pos hsequence] at hitems
    obtain rfl := Value.list.inj hitems
    refine ⟨by rw [List.length_map, length_sequenceOf hsequence], fun slot hslot => ?_⟩
    obtain ⟨n, hperm⟩ := hpositions
    have hkey := hperm.mem_iff.mp (List.mem_map_of_mem hslot)
    obtain ⟨i, hi, hcounted⟩ := List.mem_map.mp hkey
    have hlength : slots.length = n := by simpa using hperm.length_eq
    refine ⟨i, hcounted.symm, ?_⟩
    have hindex := (hregular.counted_iff hslot).mp hcounted.symm
    rw [List.getElem?_map, getElem?_sequenceOf hsequence (hregular.slotAt?_of_mem hslot hindex)
      (hlength ▸ List.mem_range.mp hi)]
    rfl
  · rw [toHost_table, if_neg (hregular.isSequence_iff.not.mpr hother)]

/-- The second position is filled before the first one. -/
theorem Constructed.toHost_out_of_order :
    let slots : Slots := [(.ofInt 2, .str "b"), (.ofInt 1, .str "a")]
    (Value.table 0 slots).Constructed ∧
      (∃ items, (Value.table 0 slots).toHost = .list items) ∧ slots.ArePositions ∧
      (Value.table 0 slots).toHost = .list [.str "a", .str "b"] := by
  intro slots
  have hvalues : ∀ field ∈ slots, Constructed field.2 := by
    simp only [slots, List.mem_cons, List.not_mem_nil, or_false, forall_eq_or_imp, forall_eq]
    exact ⟨.scalar rfl, .scalar rfl⟩
  have hconstructed : (Value.table 0 slots).Constructed := .table 0 hvalues rfl
  have hlist : (Value.table 0 slots).toHost = .list [.str "a", .str "b"] := rfl
  exact ⟨hconstructed, ⟨_, hlist⟩, hconstructed.toHost_list_or_dict.1.mp ⟨_, hlist⟩, hlist⟩

/-- True is no integer, and yet a table with this key alone becomes a list. -/
theorem toHost_key_true :
    let slots : Slots := [(.bool true, .str "a")]
    (table 0 slots).Constructed ∧ (table 0 slots).toHost = .list [.str "a"] ∧
      ¬ ∃ n : Nat, (slots.map Prod.fst).Perm
        ((List.range n).map fun i => ofInt (i + 1 : Nat)) := by
  intro slots
  have hvalues : ∀ field ∈ slots, Constructed field.2 := List.forall_mem_singleton.mpr (.scalar rfl)
  have hconstructed : (table 0 slots).Constructed := .table 0 hvalues rfl
  refine ⟨hconstructed, rfl, fun ⟨n, hperm⟩ => ?_⟩
  have hkey : bool true ∈ (List.range n).map fun i => ofInt (i + 1 : Nat) :=
    hperm.mem_iff.mp List.mem_cons_self
  obtain ⟨i, -, heq⟩ := List.mem_map.mp hkey
  cases heq

end Value

end TemplateScript
