import TemplateScript.Proofs.Library.Results
import TemplateScript.Proofs.Library.Slices
import TemplateScript.Proofs.Value.TableForm

/-!
# Joined contents

The contents of consecutive slots are joined in order, and the first that is neither a text nor a
number ends the whole. What is joined of a range is what is joined of its beginning, the separator,
and what is joined of the rest. The contents are read by their index alone, so a list and the table
of its items give the same.
-/

namespace TemplateScript

/-! ### Contents of tables and lists -/

namespace Value

/-- Whether a value is a table or a list, whose contents have indices. -/
def isIndexed : Value → Bool
  | .table _ _ | .list _ | .tuple _ | .multi _ => true
  | _ => false

/-- What stands at an index of a table or a list, nil where nothing does. -/
def contentsAt : Value → Int → Value
  | .table _ slots => Tables.slotValue slots
  | .list items | .tuple items | .multi items => Tables.itemAt items
  | _ => fun _ => .nil

/-- A text or a number has a text, unless it is an integer that is too long. -/
theorem exists_display_of_isConcatenable {v : Value} (h : v.isConcatenable)
    (hdigits : ∀ n, v = .ofInt n → (decimalDigits n.natAbs).length ≤ digitLimit) :
    ∃ text, v.display = .ok text := by
  have hwritable : v.isWritable := by
    cases v with
    | number n =>
        cases n with
        | int n =>
            rw [isWritable, integerText?, if_pos (hdigits n rfl)]
            rfl
        | float x => rfl
    | str s => rfl
    | _ => cases h
  exact ⟨_, (display_eq v).trans (if_pos hwritable)⟩

end Value

/-! ### The texts of consecutive slots -/

namespace Tables

/-- The text of what stands at an index, or its refusal. -/
def part (read : Int → Value) (index : Int) : Except HostFault String :=
  if (read index).isConcatenable then (read index).display else .error (refusal index)

variable {read : Int → Value} {i : Int}

theorem part_of_not_isConcatenable (h : (read i).isConcatenable = false) :
    part read i = .error (refusal i) := by
  rw [part, h]
  rfl

theorem exists_part_of_isConcatenable (h : (read i).isConcatenable)
    (hdigits : ∀ n, read i = .ofInt n → (decimalDigits n.natAbs).length ≤ digitLimit) :
    ∃ text, part read i = .ok text := by
  obtain ⟨text, htext⟩ := Value.exists_display_of_isConcatenable h hdigits
  exact ⟨text, (if_pos h).trans htext⟩

theorem partsFrom_succ (read : Int → Value) (count : Nat) (i : Int) :
    partsFrom read (count + 1) i = (do
      let text ← part read i
      let rest ← partsFrom read count (i + 1)
      return text :: rest) := by
  rw [partsFrom, part]
  cases (read i).isConcatenable <;> rfl

theorem partsFrom_succ_of_ok (count : Nat) {text : String} (h : part read i = .ok text) :
    partsFrom read (count + 1) i = (text :: ·) <$> partsFrom read count (i + 1) := by
  rw [partsFrom_succ, h]
  rfl

theorem partsFrom_succ_of_error (count : Nat) {why : HostFault} (h : part read i = .error why) :
    partsFrom read (count + 1) i = .error why := by
  rw [partsFrom_succ, h]
  rfl

/-- The texts of the slots, or the refusal of the first slot that has none. -/
theorem partsFrom_cases (read : Int → Value) (count : Nat) (i : Int)
    (hdigits : ∀ m < count, ∀ n, read (i + (m : Nat)) = .ofInt n →
      (decimalDigits n.natAbs).length ≤ digitLimit) :
    ((∀ m < count, (read (i + (m : Nat))).isConcatenable) ∧
      ∃ parts, partsFrom read count i = .ok parts) ∨
    ∃ m < count, (read (i + (m : Nat))).isConcatenable = false ∧
      (∀ earlier < m, (read (i + (earlier : Nat))).isConcatenable) ∧
      partsFrom read count i = .error (refusal (i + (m : Nat))) := by
  induction count generalizing i with
  | zero => exact .inl ⟨nofun, [], rfl⟩
  | succ count ih =>
      have hzero : i + (0 : Nat) = i := Int.add_zero i
      have hlater (m : Nat) : i + 1 + m = i + (m + 1 : Nat) := by omega
      cases hfirst : (read i).isConcatenable with
      | false =>
          have hrefused := partsFrom_succ_of_error count
            (part_of_not_isConcatenable hfirst)
          refine .inr ⟨0, Nat.succ_pos count, ?_, nofun, ?_⟩
          · rwa [hzero]
          · rwa [hzero]
      | true =>
          have hshort := hdigits 0 (Nat.succ_pos count)
          rw [hzero] at hshort
          obtain ⟨text, htext⟩ := exists_part_of_isConcatenable hfirst hshort
          have hextend {bound : Nat} (h : ∀ m < bound, (read (i + 1 + (m : Nat))).isConcatenable) :
              ∀ m < bound + 1, (read (i + (m : Nat))).isConcatenable := by
            intro m hm
            cases m with
            | zero => rwa [hzero]
            | succ m => exact hlater m ▸ h m (Nat.lt_of_succ_lt_succ hm)
          have hrest := ih (i + 1) fun m hm n hn =>
            hdigits (m + 1) (Nat.succ_lt_succ hm) n (hlater m ▸ hn)
          rw [partsFrom_succ_of_ok count htext]
          rcases hrest with ⟨hgood, parts, hparts⟩ | ⟨m, hm, hbad, hgood, hparts⟩
          · rw [hparts]
            exact .inl ⟨hextend hgood, text :: parts, rfl⟩
          · rw [hparts]
            exact .inr ⟨m + 1, Nat.succ_lt_succ hm, hlater m ▸ hbad, hextend hgood,
              hlater m ▸ rfl⟩

theorem partsFrom_add (read : Int → Value) (m n : Nat) (i : Int) :
    partsFrom read (m + n) i = (do
      let front ← partsFrom read m i
      let back ← partsFrom read n (i + m)
      return front ++ back) := by
  induction m generalizing i with
  | zero =>
      rw [Nat.zero_add, Int.natCast_zero, Int.add_zero]
      exact (id_map (partsFrom read n i)).symm
  | succ m ih =>
      have hlater : i + 1 + m = i + (m + 1 : Nat) := by omega
      rw [Nat.succ_add, partsFrom_succ, partsFrom_succ, ih (i + 1), hlater]
      simp only [bind_assoc, pure_bind, List.cons_append]

theorem length_partsFrom {count : Nat} {parts : List String}
    (h : partsFrom read count i = .ok parts) : parts.length = count := by
  induction count generalizing i parts with
  | zero =>
      cases h
      rfl
  | succ count ih =>
      cases htext : part read i with
      | error why =>
          rw [partsFrom_succ_of_error count htext] at h
          cases h
      | ok text =>
          rw [partsFrom_succ_of_ok count htext] at h
          cases hrest : partsFrom read count (i + 1) with
          | error why =>
              rw [hrest] at h
              cases h
          | ok rest =>
              rw [hrest] at h
              cases h
              rw [List.length_cons, ih hrest]

/-- The joined contents of a range are those of its beginning and those of its rest. -/
theorem concat_split {separator text : String} {i j k : Int} (hik : i ≤ k) (hkj : k < j)
    (h : concat read separator i j = .ok text) :
    ∃ front back, concat read separator i k = .ok front ∧
      concat read separator (k + 1) j = .ok back ∧ text = front ++ separator ++ back := by
  have hcount : (j + 1 - i).toNat = (k + 1 - i).toNat + (j + 1 - (k + 1)).toNat := by omega
  have hnext : i + (k + 1 - i).toNat = k + 1 := by omega
  rw [concat, hcount, partsFrom_add, hnext] at h
  cases hfront : partsFrom read (k + 1 - i).toNat i with
  | error why =>
      rw [hfront] at h
      cases h
  | ok front =>
      rw [hfront] at h
      cases hback : partsFrom read (j + 1 - (k + 1)).toNat (k + 1) with
      | error why =>
          rw [hback] at h
          cases h
      | ok back =>
          rw [hback] at h
          cases h
          have hfrontLength := length_partsFrom hfront
          have hbackLength := length_partsFrom hback
          refine ⟨separator.intercalate front, separator.intercalate back, ?_, ?_, ?_⟩
          · rw [concat, hfront]
            rfl
          · rw [concat, hback]
            rfl
          · refine String.intercalate_append_of_ne_nil ?_ ?_
            · exact List.ne_nil_of_length_pos (by omega)
            · exact List.ne_nil_of_length_pos (by omega)

/-- An index of the range holds neither a text nor a number, and all before it hold one. -/
structure IsFirstRefused (read : Int → Value) (i j k : Int) : Prop where
  from_start : i ≤ k
  to_end : k ≤ j
  refused : (read k).isConcatenable = false
  earlier : ∀ before, i ≤ before → before < k → (read before).isConcatenable

/-- The contents of a range are joined, or the first that cannot be is refused. -/
theorem concat_cases (read : Int → Value) (separator : String) (i j : Int)
    (hdigits : ∀ k n, i ≤ k → k ≤ j → read k = .ofInt n →
      (decimalDigits n.natAbs).length ≤ digitLimit) :
    ((∀ k, i ≤ k → k ≤ j → (read k).isConcatenable) ∧
      ∃ text, concat read separator i j = .ok text) ∨
    ∃ k, IsFirstRefused read i j k ∧ concat read separator i j = .error (refusal k) := by
  -- An index of the range is a number of steps from its start.
  have hsteps {k : Int} (hi : i ≤ k) : i + (k - i).toNat = k := by omega
  rcases partsFrom_cases read (j + 1 - i).toNat i fun m hm n =>
    hdigits (i + m) n (by omega) (by omega) with
    ⟨hgood, parts, hparts⟩ | ⟨m, hm, hbad, hgood, hparts⟩
  · refine .inl ⟨fun k hi hj => ?_, separator.intercalate parts, ?_⟩
    · exact hsteps hi ▸ hgood (k - i).toNat (by omega)
    · rw [concat, hparts]
      rfl
  · refine .inr ⟨i + m, ⟨by omega, by omega, hbad, fun before hi hbefore => ?_⟩, ?_⟩
    · exact hsteps hi ▸ hgood (before - i).toNat (by omega)
    · rw [concat, hparts]
      rfl

theorem refusal_of_short {index : Int} (h : (decimalDigits index.natAbs).length ≤ digitLimit) :
    refusal index = .notConcatenable index := by
  rw [refusal, integerText?, if_pos h]
  rfl

theorem refusal_of_long {index : Int} (h : digitLimit < (decimalDigits index.natAbs).length) :
    refusal index = .tooManyDigits := by
  rw [refusal, integerText?, if_neg (Nat.not_le.mpr h)]
  rfl

theorem slotValue_ofList (items : List Value) : slotValue (Slots.ofList items) = itemAt items :=
  funext fun i => Value.find?_ofList_of_isIndex items (i := i) (Value.isIndex_iff.mpr rfl)

end Tables

/-! ### Calls -/

namespace PlainMember

/-- The call of `concat` on a separator and a range. -/
def concatOn (t : Value) (separator : String) (i j : Int) : Except Fault Value :=
  concat.run [t, .str separator, .ofInt i, .ofInt j]

variable {t v : Value} {separator : String} {i j : Int}

theorem concatOn_eq (ht : t.isIndexed) (separator : String) (i j : Int) :
    concatOn t separator i j =
      ((Tables.concat t.contentsAt separator i j).map Value.str).mapError .host := by
  cases t with
  | table _ _ | list _ | tuple _ | multi _ => rfl
  | _ => cases ht

theorem concatOn_eq_ok (ht : t.isIndexed) : concatOn t separator i j = .ok v ↔
    ∃ text, Tables.concat t.contentsAt separator i j = .ok text ∧ v = .str text := by
  rw [concatOn_eq ht]
  cases Tables.concat t.contentsAt separator i j with
  | error why => simp [Except.map, Except.mapError]
  | ok text => simp [Except.map, Except.mapError, eq_comm]

/-- A range is joined exactly if each of its contents is a text or a number, and otherwise the first
that is neither is refused. -/
theorem concatOn_cases (ht : t.isIndexed) (separator : String)
    (hdigits : ∀ k n, i ≤ k → k ≤ j → t.contentsAt k = .ofInt n →
      (decimalDigits n.natAbs).length ≤ digitLimit) :
    ((∃ v, concatOn t separator i j = .ok v) ↔
      ∀ k, i ≤ k → k ≤ j → (t.contentsAt k).isConcatenable) ∧
    ((¬ ∀ k, i ≤ k → k ≤ j → (t.contentsAt k).isConcatenable) →
      ∃ k, Tables.IsFirstRefused t.contentsAt i j k ∧
        concatOn t separator i j = .error (.host (Tables.refusal k))) := by
  rcases Tables.concat_cases t.contentsAt separator i j hdigits with
    ⟨hgood, text, htext⟩ | ⟨k, hfirst, hrefused⟩
  · have hjoins : ∃ v, concatOn t separator i j = .ok v :=
      ⟨_, (concatOn_eq_ok ht).mpr ⟨text, htext, rfl⟩⟩
    exact ⟨iff_of_true hjoins hgood, absurd hgood⟩
  · have hfails : concatOn t separator i j = .error (.host (Tables.refusal k)) := by
      rw [concatOn_eq ht, hrefused]
      rfl
    have hbad : ¬ ∀ k, i ≤ k → k ≤ j → (t.contentsAt k).isConcatenable := by
      intro hgood
      have hk := hgood k hfirst.from_start hfirst.to_end
      rw [hfirst.refused] at hk
      cases hk
    refine ⟨iff_of_false ?_ hbad, fun _ => ⟨k, hfirst, hfails⟩⟩
    rintro ⟨v, hv⟩
    rw [hfails] at hv
    cases hv

theorem concatOn_split (ht : t.isIndexed) (h : concatOn t separator i j = .ok v) {k : Int}
    (hik : i ≤ k) (hkj : k < j) : ∃ front back rest,
      concatOn t separator i k = .ok front ∧ concatOn t separator (k + 1) j = .ok back ∧
      ∀ frame loc, Operators.binary frame .concat (.str separator) back loc = .ok rest ∧
        Operators.binary frame .concat front rest loc = .ok v := by
  obtain ⟨text, htext, rfl⟩ := (concatOn_eq_ok ht).mp h
  obtain ⟨front, back, hfront, hback, rfl⟩ := Tables.concat_split hik hkj htext
  refine ⟨.str front, .str back, .str (separator ++ back),
    (concatOn_eq_ok ht).mpr ⟨front, hfront, rfl⟩, (concatOn_eq_ok ht).mpr ⟨back, hback, rfl⟩,
    fun frame loc => ⟨?_, ?_⟩⟩
  · rw [Operators.binary_concat_str]
  · rw [Operators.binary_concat_str, String.append_assoc]

theorem concatenation_ofList {items : List Value} (h : ∀ item ∈ items, item ≠ .nil) (id : Nat)
    (separator i j : Value) :
    concatenation (.list items) separator i j =
      concatenation (.table id (Slots.ofList items)) separator i j := by
  have hjoined (separator : String) (i : Int) (last : Nat → Except HostFault Int) :
      joined (.list items) separator i last =
        joined (.table id (Slots.ofList items)) separator i last := by
    rw [joined, joined, Tables.slotValue_ofList, Value.border_ofList h]
  simp only [concatenation_eq, hjoined]

theorem run_concat_ofList {items : List Value} (h : ∀ item ∈ items, item ≠ .nil) (id : Nat)
    (args : List Value) :
    concat.run (.list items :: args) = concat.run (.table id (Slots.ofList items) :: args) := by
  change Except.mapError _ (concatenation (.list items) _ _ _) = _
  rw [concatenation_ofList h id]
  rfl

theorem concatOn_empty_of_long {index : Int}
    (h : digitLimit < (decimalDigits index.natAbs).length) :
    concatOn (.table 0 []) "" index index = .error (.host .tooManyDigits) := by
  have hone : (index + 1 - index).toNat = 1 := by omega
  rw [concatOn_eq rfl, Tables.concat, hone,
    Tables.partsFrom_succ_of_error 0 (Tables.part_of_not_isConcatenable rfl),
    Tables.refusal_of_long h]
  rfl

end PlainMember

theorem message_tooManyDigits_ne (index : Int) :
    HostFault.tooManyDigits.message ≠ (HostFault.notConcatenable index).message := by
  intro h
  change "Exceeds the limit (" ++ toString digitLimit ++
    " digits) for integer string conversion; " ++
    "use sys.set_int_max_str_digits() to increase the limit" =
    "invalid value (at index " ++ toString index ++ ") in table for 'concat'" at h
  have hhead := congrArg (fun message : String => message.toList.head?) h
  simp only [String.toList_append, List.append_assoc] at hhead
  simp at hhead

open PlainMember (concatOn)

/-- The contents of a range of a table or a list, all of whose integers can be written, are joined
exactly if each is a text or a number. Otherwise the call fails, and the message names the first
index that holds neither, unless that index itself is too long to be written. What is joined of a
range is what is joined of its beginning, the separator, and what is joined of the rest. A list
without nil and the table of its items give the same under all further arguments. -/
theorem concat_joins (t : Value) (separator : String) (i j : Int) (ht : t.isIndexed) :
    ((∀ k n, i ≤ k → k ≤ j → t.contentsAt k = .ofInt n →
        (decimalDigits n.natAbs).length ≤ digitLimit) →
      ((∃ v, concatOn t separator i j = .ok v) ↔
        ∀ k, i ≤ k → k ≤ j → (t.contentsAt k).isConcatenable) ∧
      ((¬ ∀ k, i ≤ k → k ≤ j → (t.contentsAt k).isConcatenable) →
        ∃ k fault, Tables.IsFirstRefused t.contentsAt i j k ∧
          concatOn t separator i j = .error (.host fault) ∧
          ((decimalDigits k.natAbs).length ≤ digitLimit →
            fault.message = s!"invalid value (at index {k}) in table for 'concat'") ∧
          (digitLimit < (decimalDigits k.natAbs).length → fault = .tooManyDigits))) ∧
    (∀ v, concatOn t separator i j = .ok v → ∀ k, i ≤ k → k < j → ∃ front back rest,
      concatOn t separator i k = .ok front ∧ concatOn t separator (k + 1) j = .ok back ∧
      ∀ frame loc, Operators.binary frame .concat (.str separator) back loc = .ok rest ∧
        Operators.binary frame .concat front rest loc = .ok v) ∧
    ∀ items, t = .list items → (∀ item ∈ items, item ≠ .nil) → ∀ (id : Nat) (args : List Value),
      PlainMember.concat.run (t :: args) =
        PlainMember.concat.run (.table id (Slots.ofList items) :: args) := by
  refine ⟨fun hdigits => ?_, fun v hv k => PlainMember.concatOn_split ht hv, ?_⟩
  · obtain ⟨hjoins, hrefused⟩ := PlainMember.concatOn_cases ht separator hdigits
    refine ⟨hjoins, fun hbad => ?_⟩
    obtain ⟨k, hfirst, hfails⟩ := hrefused hbad
    refine ⟨k, _, hfirst, hfails, fun hshort => ?_, Tables.refusal_of_long⟩
    rw [Tables.refusal_of_short hshort]
    rfl
  · rintro items rfl hitems id args
    exact PlainMember.run_concat_ofList hitems id args

/-- The third slot is empty, so what reaches it is refused. -/
theorem concat_joins_gap :
    let t : Value := .list [.str "a", .ofInt 20, .nil, .str "d"]
    let items : List Value := [.str "a", .ofInt 20]
    t.isIndexed ∧
      (∀ k n, 1 ≤ k → k ≤ 4 → t.contentsAt k = .ofInt n →
        (decimalDigits n.natAbs).length ≤ digitLimit) ∧
      (∃ k fault, Tables.IsFirstRefused t.contentsAt 1 4 k ∧
        concatOn t ", " 1 4 = .error (.host fault)) ∧
      (∃ v front back rest, concatOn t ", " 1 2 = .ok v ∧
        concatOn t ", " 1 1 = .ok front ∧ concatOn t ", " (1 + 1) 2 = .ok back ∧
        ∀ frame loc, Operators.binary frame .concat (.str ", ") back loc = .ok rest ∧
          Operators.binary frame .concat front rest loc = .ok v) ∧
      (Value.list items).isIndexed ∧ (∀ item ∈ items, item ≠ .nil) ∧
      PlainMember.concat.run [.list items] =
        PlainMember.concat.run [.table 0 (Slots.ofList items)] := by
  intro t items
  have hdigits : ∀ k n, 1 ≤ k → k ≤ 4 → t.contentsAt k = .ofInt n →
      (decimalDigits n.natAbs).length ≤ digitLimit := by
    intro k n hi hj hk
    obtain rfl | rfl | rfl | rfl : k = 1 ∨ k = 2 ∨ k = 3 ∨ k = 4 := by omega
    · cases hk
    · cases hk
      decide
    · cases hk
    · cases hk
  have hgap : ¬ ∀ k, 1 ≤ k → k ≤ 4 → (t.contentsAt k).isConcatenable :=
    fun h => Bool.false_ne_true (h 3 (by decide) (by decide))
  obtain ⟨k, fault, hfirst, hfails, -⟩ := ((concat_joins t ", " 1 4 rfl).1 hdigits).2 hgap
  have hfull : concatOn t ", " 1 2 = .ok (.str "a, 20") := rfl
  obtain ⟨front, back, rest, hparts⟩ :=
    (concat_joins t ", " 1 2 rfl).2.1 _ hfull 1 (by decide) (by decide)
  have hitems : ∀ item ∈ items, item ≠ .nil := by
    simp [items, Value.ofInt]
  have hsame := (concat_joins (.list items) ", " 1 2 rfl).2.2 items rfl hitems 0 []
  exact ⟨rfl, hdigits, ⟨k, fault, hfirst, hfails⟩, ⟨_, front, back, rest, hfull, hparts⟩, rfl,
    hitems, hsame⟩

/-- An index of one digit more than can be written is refused without being named. -/
theorem concat_joins_long_index :
    let index : Int := 10 ^ digitLimit
    ∃ fault, concatOn (.table 0 []) "" index index = .error (.host fault) ∧
      fault.message ≠ s!"invalid value (at index {index}) in table for 'concat'" :=
  ⟨_, PlainMember.concatOn_empty_of_long Value.digitLimit_lt_length_power,
    message_tooManyDigits_ne _⟩

end TemplateScript
