import TemplateScript.Proofs.Value.HostForm
import TemplateScript.Proofs.Value.TableForm

/-!
# From the host and back

Lists and mappings of the host come back from their tables as they were, with all contents and in
the same order. Two kinds of values are told apart by the keys alone: a table whose keys are texts
has no slot at the first position, so it becomes a list only if it is empty, and an empty mapping
comes back as the empty list. Nil, which fills no slot, is not among the contents.
-/

namespace TemplateScript

namespace Value

/-- A value that holds no others for the conversion, and is not nil. -/
def isAtom : Value → Bool
  | .nil | .list _ | .tuple _ | .dict _ | .table _ _ => false
  | _ => true

/-- Data that the host hands over: lists and mappings of texts, down to single values that are not
nil. No mapping is empty. -/
inductive IsHostData : Value → Prop
  | atom {v : Value} (h : v.isAtom) : IsHostData v
  | list {items : List Value} (hitems : ∀ item ∈ items, IsHostData item) :
      IsHostData (.list items)
  | dict {entries : Slots} (hne : entries ≠ []) (hkeys : entries.HasTexts)
      (hcontents : ∀ entry ∈ entries, IsHostData entry.2) : IsHostData (.dict entries)

variable {v t : Value} {items : List Value} {entries : Slots}

theorem IsHostData.ne_nil (h : v.IsHostData) : v ≠ .nil := by
  rintro rfl
  cases h with
  | atom h => cases h

/-! ### The way to a table -/

theorem allConvertible_iff : allConvertible items ↔ ∀ item ∈ items, item.isConvertible := by
  induction items with
  | nil => simp [allConvertible]
  | cons item rest ih => rw [allConvertible, Bool.and_eq_true, ih, List.forall_mem_cons]

theorem areConvertible_of_texts (hkeys : ∀ entry ∈ entries, ∃ s, entry.1 = .str s)
    (h : ∀ entry ∈ entries, entry.2.isConvertible) : areConvertible entries := by
  induction entries with
  | nil => rfl
  | cons entry rest ih =>
      obtain ⟨⟨s, hs⟩, hkeys⟩ := List.forall_mem_cons.mp hkeys
      obtain ⟨hfirst, hrest⟩ := List.forall_mem_cons.mp h
      have hkey : (!entry.1.isNil && entry.1.unhashable?.isNone) = true := by
        rw [hs]
        rfl
      rw [areConvertible, hkey, hfirst, ih hkeys hrest]
      rfl

theorem IsHostData.isConvertible (h : v.IsHostData) : v.isConvertible := by
  induction h with
  | @atom v h => cases v <;> first | rfl | cases h
  | list _ ih => exact allConvertible_iff.mpr ih
  | dict _ hkeys _ ih => exact areConvertible_of_texts hkeys.texts ih

theorem BecomesTable.of_list (hitems : allConvertible items)
    (h : (list items).BecomesTable t) : ∃ number converted,
      t = .table number (Slots.ofList converted) ∧ List.Forall₂ BecomesTable items converted := by
  obtain ⟨n, n', hrun⟩ := h
  obtain ⟨converted, n₁, hconverted, hrel⟩ := exists_toTableList hitems (n + 1)
  cases (run_toTable_list hconverted).symm.trans hrun
  exact ⟨n, converted, rfl, hrel⟩

theorem contents_ne_nil_of_becomesTable {converted : Slots}
    (h : List.Forall₂ (fun entry slot => slot.1 = entry.1 ∧ entry.2.BecomesTable slot.2) entries
      converted) (hcontents : ∀ entry ∈ entries, entry.2 ≠ .nil) :
    ∀ slot ∈ converted, slot.2 ≠ .nil := by
  have hvalues : List.Forall₂ BecomesTable (entries.map Prod.snd) (converted.map Prod.snd) := by
    rw [List.forall₂_map_left_iff, List.forall₂_map_right_iff]
    exact h.imp fun _ _ hslot => hslot.2
  have hconverted := ne_nil_of_becomesTable hvalues (List.forall_mem_map.mpr hcontents)
  exact fun slot hslot => hconverted slot.2 (List.mem_map_of_mem hslot)

theorem BecomesTable.of_dict (hentries : areConvertible entries) (hkeys : entries.HasTexts)
    (hcontents : ∀ entry ∈ entries, entry.2 ≠ .nil) (h : (dict entries).BecomesTable t) :
    ∃ number converted, t = .table number converted ∧
      List.Forall₂ (fun entry slot => slot.1 = entry.1 ∧ entry.2.BecomesTable slot.2) entries
        converted := by
  obtain ⟨n, n', hrun⟩ := h
  obtain ⟨converted, n₁, hconverted, hrel, -⟩ := exists_toTableSlots hentries (n + 1)
  have hkept : converted.filter (fun slot => !slot.2.isNil) = converted := by
    refine List.filter_eq_self.mpr fun slot hslot => ?_
    rw [Bool.not_eq_true', Bool.eq_false_iff, ne_eq, isNil_iff]
    exact contents_ne_nil_of_becomesTable hrel hcontents slot hslot
  have hkeys : Slots.HasTexts ([] ++ converted) := hkeys.of_converted hrel
  have hslots : Slots.assignAll [] converted = .ok converted := by
    rw [Slots.assignAll_texts hkeys, hkept, List.nil_append]
  cases (run_toTable_dict hconverted hslots).symm.trans hrun
  exact ⟨n, converted, rfl, hrel⟩

/-! ### The way back -/

/-- Whatever the value becomes as a table comes back as the value. -/
def ComesBack (v : Value) : Prop :=
  ∀ t, v.BecomesTable t → t.toHost = v

theorem comesBack_of_isAtom (h : v.isAtom) : v.ComesBack := by
  intro t ht
  obtain ⟨n, n', hrun⟩ := ht
  cases v with
  | nil | list _ | tuple _ | dict _ | table _ _ => cases h
  | _ =>
      cases hrun
      rfl

theorem comesBack_list (hitems : allConvertible items) (hne : ∀ item ∈ items, item ≠ .nil)
    (h : ∀ item ∈ items, item.ComesBack) : (list items).ComesBack := by
  intro t ht
  obtain ⟨number, converted, rfl, hrel⟩ := ht.of_list hitems
  have hback : converted.map toHost = items := by
    clear ht hitems hne
    induction hrel with
    | nil => rfl
    | cons hfirst _ ih =>
        obtain ⟨hitem, hrest⟩ := List.forall_mem_cons.mp h
        rw [List.map_cons, hitem _ hfirst, ih hrest]
  rw [toHost_ofList (ne_nil_of_becomesTable hrel hne), hback]

theorem comesBack_dict (hentries : areConvertible entries) (hne : entries ≠ [])
    (hkeys : entries.HasTexts) (hcontents : ∀ entry ∈ entries, entry.2 ≠ .nil)
    (h : ∀ entry ∈ entries, entry.2.ComesBack) : (dict entries).ComesBack := by
  intro t ht
  obtain ⟨number, converted, rfl, hrel⟩ := ht.of_dict hentries hkeys hcontents
  -- No slot stands at the first position, and there is one.
  have hother : ¬ isSequence converted = true := by
    rw [isSequence, Slots.border_texts (hkeys.of_converted hrel).texts, beq_iff_eq,
      ← hrel.length_eq, eq_comm, List.length_eq_zero_iff]
    exact hne
  have hback : converted.map (fun slot => (slot.1, slot.2.toHost)) = entries := by
    clear ht hentries hne hkeys hcontents hother
    induction hrel with
    | nil => rfl
    | cons hfirst _ ih =>
        obtain ⟨hkey, hvalue⟩ := hfirst
        obtain ⟨hentry, hrest⟩ := List.forall_mem_cons.mp h
        rw [List.map_cons, hkey, hentry _ hvalue, ih hrest]
  rw [toHost_table, if_neg hother, hback]

theorem IsHostData.comesBack (h : v.IsHostData) : v.ComesBack := by
  induction h with
  | atom h => exact comesBack_of_isAtom h
  | list hitems ih =>
      exact comesBack_list (IsHostData.list hitems).isConvertible
        (fun item hitem => (hitems item hitem).ne_nil) ih
  | dict hne hkeys hcontents ih =>
      exact comesBack_dict (IsHostData.dict hne hkeys hcontents).isConvertible hne hkeys
        (fun entry hentry => (hcontents entry hentry).ne_nil) ih

/-- Data of the host becomes a table or stays what it is, and comes back as it was, with the order
of lists and mappings. -/
theorem IsHostData.toHost_toTable (h : v.IsHostData) (n : Nat) :
    ∃ t n', v.toTable.run n = .ok (t, n') ∧ t.toHost = v := by
  obtain ⟨t, n', hrun⟩ := exists_toTable h.isConvertible n
  exact ⟨t, n', hrun, h.comesBack t ⟨n, n', hrun⟩⟩

theorem IsHostData.toHost_toTable_nested :
    let inner : Value := .dict [(.str "2", .bool true), (.str "1", .list [])]
    let v : Value := .list [.dict [(.str "b", inner), (.str "a", .ofInt 1)], .list [.str "x"]]
    v.IsHostData ∧ ∃ t n', v.toTable.run 0 = .ok (t, n') ∧ t.toHost = v := by
  intro inner v
  have hinner : inner.IsHostData :=
    .dict (List.cons_ne_nil _ _) ⟨by simp, by simp⟩ (List.forall_mem_cons.mpr
      ⟨.atom rfl, List.forall_mem_singleton.mpr (.list (List.forall_mem_nil _))⟩)
  have houter : IsHostData (.dict [(.str "b", inner), (.str "a", .ofInt 1)]) :=
    .dict (List.cons_ne_nil _ _) ⟨by simp, by simp⟩ (List.forall_mem_cons.mpr
      ⟨hinner, List.forall_mem_singleton.mpr (.atom rfl)⟩)
  have hlist : IsHostData (.list [.str "x"]) :=
    .list (List.forall_mem_singleton.mpr (.atom rfl))
  have hv : v.IsHostData :=
    .list (List.forall_mem_cons.mpr ⟨houter, List.forall_mem_singleton.mpr hlist⟩)
  exact ⟨hv, hv.toHost_toTable 0⟩

end Value

end TemplateScript
