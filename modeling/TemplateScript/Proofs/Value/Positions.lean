import Mathlib.Data.List.Nodup
import Mathlib.Data.List.Perm.Subperm
import Mathlib.Data.List.TakeWhile
import TemplateScript.Proofs.Number.Exact

/-!
# Slots in a row

The border counts the slots that are filled from the first on. What stands at the positions up to it
is a list of that many items. Neither changes when the keys are replaced by others that address the
same slots; the contents may be replaced by any.
-/

namespace TemplateScript

variable {α β : Type} {slots : List (Value × α)}

/-! ### Slots up to the border -/

theorem slotAt?_cons (slot : Value × α) (rest : List (Value × α)) (index : Int) :
    slotAt? (slot :: rest) index =
      if slot.1.isIndex index then some slot.2 else slotAt? rest index := by
  rw [slotAt?, List.find?_cons]
  split <;> simp_all [slotAt?]

theorem isSequence_iff : isSequence slots = true ↔
    ∀ i < slots.length, (slotAt? slots (i + 1 : Nat)).isSome := by
  rw [isSequence, border, beq_iff_eq]
  refine ⟨fun hlength i hi => ?_, fun hfilled => ?_⟩
  · have hall : (List.range slots.length).takeWhile
        (fun i => (slotAt? slots (i + 1 : Nat)).isSome) = List.range slots.length := by
      refine (List.takeWhile_prefix _).eq_of_length ?_
      rw [hlength, List.length_range]
    exact List.takeWhile_eq_self_iff.mp hall i (List.mem_range.mpr hi)
  · rw [List.takeWhile_eq_self_iff.mpr fun i hi => hfilled i (List.mem_range.mp hi),
      List.length_range]

theorem map_some_filterMap {f : α → Option β} {items : List α} (h : ∀ a ∈ items, (f a).isSome) :
    (items.filterMap f).map some = items.map f := by
  induction items with
  | nil => rfl
  | cons a rest ih =>
      obtain ⟨hfirst, hrest⟩ := List.forall_mem_cons.mp h
      obtain ⟨b, hb⟩ := Option.isSome_iff_exists.mp hfirst
      rw [List.filterMap_cons_some hb, List.map_cons, List.map_cons, ih hrest, hb]

/-- A sequence holds the contents of all its slots in the order of the positions. -/
theorem map_some_sequenceOf (h : isSequence slots) :
    (sequenceOf slots).map some =
      (List.range slots.length).map fun i => slotAt? slots (i + 1 : Nat) := by
  have hborder : border slots = slots.length := beq_iff_eq.mp h
  rw [sequenceOf, hborder]
  exact map_some_filterMap fun i hi => isSequence_iff.mp h i (List.mem_range.mp hi)

theorem mem_sequenceOf {a : α} (h : a ∈ sequenceOf slots) : ∃ slot ∈ slots, slot.2 = a := by
  obtain ⟨i, -, hslot⟩ := List.mem_filterMap.mp h
  rw [slotAt?, Option.map_eq_some_iff] at hslot
  obtain ⟨slot, hfound, rfl⟩ := hslot
  exact ⟨slot, List.mem_of_find?_eq_some hfound, rfl⟩

theorem length_sequenceOf (h : isSequence slots) : (sequenceOf slots).length = slots.length := by
  have hlength := congrArg List.length (map_some_sequenceOf h)
  rwa [List.length_map, List.length_map, List.length_range] at hlength

theorem getElem?_sequenceOf (h : isSequence slots) {i : Nat} {a : α}
    (ha : slotAt? slots (i + 1 : Nat) = some a) (hi : i < slots.length) :
    (sequenceOf slots)[i]? = some a := by
  have hitem := congrArg (·[i]?) (map_some_sequenceOf h)
  simp only [List.getElem?_map, List.getElem?_range hi, Option.map_some, ha] at hitem
  obtain ⟨b, hb, hab⟩ := Option.map_eq_some_iff.mp hitem
  rw [hb, hab]

/-- A key addresses the slot of one integer at most. -/
theorem Value.isIndex_unique {key : Value} {i j : Int} (hi : key.isIndex i) (hj : key.isIndex j) :
    i = j := by
  cases key with
  | bool b => exact (beq_iff_eq.mp hi).trans (beq_iff_eq.mp hj).symm
  | number n =>
      obtain ⟨v, hv, hvi⟩ := Number.beq_iff.mp hi
      obtain ⟨w, hw, hwj⟩ := Number.beq_iff.mp hj
      have hsame : some v = some w := hv.symm.trans hw
      rw [← hvi, ← hwj] at hsame
      exact Rat.intCast_inj.mp (ExactValue.fraction.inj (Option.some.inj hsame))
  | _ => cases hi

theorem slotAt?_eq_getElem? (slots : List (Value × α)) (index : Int) :
    slotAt? slots index =
      (slots[slots.findIdx fun slot => slot.1.isIndex index]?).map Prod.snd := by
  rw [slotAt?, List.find?_eq_getElem?_findIdx]

/-- The slots of the positions up to some number stand at different places. -/
theorem nodup_places {n : Nat} (h : ∀ i < n, (slotAt? slots (i + 1 : Nat)).isSome) :
    ((List.range n).map fun i => slots.findIdx fun slot => slot.1.isIndex (i + 1 : Nat)).Nodup ∧
      ((List.range n).map fun i => slots.findIdx fun slot => slot.1.isIndex (i + 1 : Nat)) ⊆
        List.range slots.length := by
  let place (i : Nat) : Nat := slots.findIdx fun slot => slot.1.isIndex (i + 1 : Nat)
  have hplace : ∀ i < n, place i < slots.length := by
    intro i hi
    have hfilled := h i hi
    rw [slotAt?, Option.isSome_map, List.find?_isSome] at hfilled
    exact List.findIdx_lt_length_of_exists hfilled
  have hindex (i : Nat) (hi : place i < slots.length) : slots[place i].1.isIndex (i + 1 : Nat) :=
    List.findIdx_getElem (w := hi)
  refine ⟨List.Nodup.map_on (fun i hi j hj hij => ?_) List.nodup_range, fun k hk => ?_⟩
  · have hi' := hindex i (hplace i (List.mem_range.mp hi))
    have hj' := hindex j (hplace j (List.mem_range.mp hj))
    have hij : place i = place j := hij
    simp only [hij] at hi'
    have := Value.isIndex_unique hi' hj'
    omega
  · obtain ⟨i, hi, rfl⟩ := List.mem_map.mp hk
    exact List.mem_range.mpr (hplace i (List.mem_range.mp hi))

/-- Every slot of a sequence stands at one position. -/
theorem sequenceOf_perm (h : isSequence slots) : (sequenceOf slots).Perm (slots.map Prod.snd) := by
  let place (i : Nat) : Nat := slots.findIdx fun slot => slot.1.isIndex (i + 1 : Nat)
  -- The places of different positions differ, so together they are all places.
  have hplaces : ((List.range slots.length).map place).Perm (List.range slots.length) := by
    obtain ⟨hdistinct, hsubset⟩ := nodup_places (isSequence_iff.mp h)
    refine (List.subperm_of_subset hdistinct hsubset).perm_of_length_le ?_
    rw [List.length_map]
  have hcontents := hplaces.map fun k => (slots[k]?).map Prod.snd
  have hall : (List.range slots.length).map (fun k => (slots[k]?).map Prod.snd) =
      (slots.map Prod.snd).map some := by
    refine List.ext_getElem (by simp) fun k hk _ => ?_
    have hfilled : k < slots.length := by simpa using hk
    simp [List.getElem?_eq_getElem hfilled]
  have hpositions : (sequenceOf slots).map some =
      ((List.range slots.length).map place).map fun k => (slots[k]?).map Prod.snd := by
    rw [map_some_sequenceOf h, List.map_map]
    exact List.map_congr_left fun i _ => slotAt?_eq_getElem? slots _
  rw [hall, ← hpositions] at hcontents
  exact (List.map_perm_map_iff fun _ _ => Option.some.inj).mp hcontents

/-! ### The border -/

theorem isSome_slotAt?_of_lt_border {i : Nat} (h : i < border slots) :
    (slotAt? slots (i + 1 : Nat)).isSome := by
  have hprefix : (List.range slots.length).takeWhile
      (fun i => (slotAt? slots (i + 1 : Nat)).isSome) <+: List.range slots.length :=
    List.takeWhile_prefix _
  have hitem := hprefix.getElem h
  rw [List.getElem_range] at hitem
  have hmem := List.getElem_mem h
  rw [hitem] at hmem
  exact List.mem_takeWhile_imp (p := fun i => (slotAt? slots (i + 1 : Nat)).isSome) hmem

/-- The count reaches every number up to which all slots are filled, since there are as many. -/
theorem le_border {n : Nat} (h : ∀ i < n, (slotAt? slots (i + 1 : Nat)).isSome) :
    n ≤ border slots := by
  obtain ⟨hdistinct, hsubset⟩ := nodup_places h
  have hlength := (List.subperm_of_subset hdistinct hsubset).length_le
  rw [List.length_map, List.length_range, List.length_range] at hlength
  have hsplit : List.range slots.length =
      List.range n ++ (List.range (slots.length - n)).map (n + ·) := by
    rw [← List.range_add, Nat.add_sub_cancel' hlength]
  rw [border, hsplit, List.takeWhile_append_of_pos fun i hi => h i (List.mem_range.mp hi),
    List.length_append, List.length_range]
  exact Nat.le_add_right n _

theorem slotAt?_border (slots : List (Value × α)) :
    slotAt? slots (border slots + 1 : Nat) = none := by
  rw [← Option.not_isSome_iff_eq_none]
  intro hnext
  have hfurther : border slots + 1 ≤ border slots := by
    refine le_border fun i hi => ?_
    rcases Nat.lt_succ_iff_lt_or_eq.mp hi with hbefore | rfl
    · exact isSome_slotAt?_of_lt_border hbefore
    · exact hnext
  exact Nat.not_succ_le_self _ hfurther

/-! ### Other keys and contents -/

section

variable {slots' : List (Value × β)} {k : Value → Value} {g : α → β}

theorem slotAt?_map (hk : ∀ key index, (k key).isIndex index = key.isIndex index)
    (h : slots' = slots.map (Prod.map k g)) (index : Int) :
    slotAt? slots' index = (slotAt? slots index).map g := by
  have hkey : (fun slot : Value × β => slot.1.isIndex index) ∘ Prod.map k g =
      fun slot => slot.1.isIndex index :=
    funext fun slot => hk slot.1 index
  rw [slotAt?, slotAt?, h, List.find?_map, hkey, Option.map_map, Option.map_map]
  rfl

theorem border_map (hk : ∀ key index, (k key).isIndex index = key.isIndex index)
    (h : slots' = slots.map (Prod.map k g)) : border slots' = border slots := by
  have hfilled (i : Nat) : (slotAt? slots' (i + 1 : Nat)).isSome =
      (slotAt? slots (i + 1 : Nat)).isSome := by
    rw [slotAt?_map hk h, Option.isSome_map]
  have hlength : slots'.length = slots.length := by rw [h, List.length_map]
  rw [border, border, hlength]
  simp only [hfilled]

theorem sequenceOf_map (hk : ∀ key index, (k key).isIndex index = key.isIndex index)
    (h : slots' = slots.map (Prod.map k g)) : sequenceOf slots' = (sequenceOf slots).map g := by
  rw [sequenceOf, sequenceOf, border_map hk h, List.map_filterMap]
  simp only [slotAt?_map hk h]

theorem isSequence_map (hk : ∀ key index, (k key).isIndex index = key.isIndex index)
    (h : slots' = slots.map (Prod.map k g)) : isSequence slots' = isSequence slots := by
  rw [isSequence, isSequence, border_map hk h, h, List.length_map]

end

end TemplateScript
