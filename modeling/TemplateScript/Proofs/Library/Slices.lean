import TemplateScript.Evaluation.Operators
import TemplateScript.Library.Plain
import TemplateScript.Proofs.Library.Display

/-!
# Slices of texts

Each index of a slice stands for a position, a negative one for a position counted from the end,
and the slice holds the characters of the text at the positions between the two. So the slices up
to an index and from the next one on make up the text, unless the index is -1: the next one is
then 0, which stands before the first position and not behind the last.

Positions count characters, but the length of a text counts bytes, so the length of a slice is the
number of its positions only where each character is a byte.
-/

namespace TemplateScript

namespace Strings

/-! ### Positions -/

/-- The position that an index stands for in a text of a length: a negative index counts from the
end, where -1 is the last position. -/
def position (length index : Int) : Int :=
  if index < 0 then index + (length + 1) else index

/-- The characters at the positions from `first` to `last`, counted from one. -/
def charactersBetween (first last : Int) (s : List Char) : List Char :=
  ((s.zipIdx 1).filter fun place => decide (first ≤ place.2 ∧ place.2 ≤ last)).map Prod.fst

theorem sliceStart_eq (length i : Int) : sliceStart length i = max (position length i) 1 := by
  rw [sliceStart, position]
  split_ifs <;> omega

theorem sliceEnd_eq (length : Nat) (j : Int) :
    sliceEnd length j = min (position length j) length := by
  rw [sliceEnd, position]
  split_ifs <;> omega

/-- The characters between two numbers, where the first character has the number `n`. -/
theorem map_filter_zipIdx (s : List Char) (n : Nat) (first last : Int) :
    ((s.zipIdx n).filter fun place => decide (first ≤ place.2 ∧ place.2 ≤ last)).map Prod.fst =
      (s.take (last + 1 - n).toNat).drop (first - n).toNat := by
  induction s generalizing n with
  | nil => simp
  | cons c rest ih =>
      have hrest := ih (n + 1)
      rw [List.zipIdx_cons, List.filter_cons]
      by_cases hlast : last < n
      · -- No number is left.
        have hnone : (last + 1 - n).toNat = 0 := by omega
        have hnone' : (last + 1 - (n + 1 : Nat)).toNat = 0 := by omega
        have hout : ¬ (first ≤ n ∧ (n : Int) ≤ last) := by omega
        rw [hnone'] at hrest
        simpa [hnone, hout] using hrest
      · have htake : (last + 1 - n).toNat = (last + 1 - (n + 1 : Nat)).toNat + 1 := by omega
        rw [htake, List.take_succ_cons]
        by_cases hfirst : first ≤ n
        · have hdrop : (first - n).toNat = 0 := by omega
          have hdrop' : (first - (n + 1 : Nat)).toNat = 0 := by omega
          have hin : first ≤ n ∧ (n : Int) ≤ last := by omega
          rw [hdrop'] at hrest
          simpa [hdrop, hin] using hrest
        · have hdrop : (first - n).toNat = (first - (n + 1 : Nat)).toNat + 1 := by omega
          have hout : ¬ (first ≤ n ∧ (n : Int) ≤ last) := by omega
          rw [hdrop, List.drop_succ_cons]
          simpa [hout] using hrest

theorem charactersBetween_eq (first last : Int) (s : List Char) :
    charactersBetween first last s = (s.take last.toNat).drop (first - 1).toNat := by
  have hlast : last + 1 - ((1 : Nat) : Int) = last := by omega
  have hplaces := map_filter_zipIdx s 1 first last
  rwa [hlast] at hplaces

/-- A slice that ends before it begins is empty. -/
theorem slice_eq_drop (s : List Char) (i j : Int) : slice s i j =
    (s.take (sliceEnd s.length j).toNat).drop (sliceStart s.length i - 1).toNat := by
  have hstart : 1 ≤ sliceStart s.length i := sliceStart_eq s.length i ▸ Int.le_max_right _ _
  rw [slice]
  split
  · rfl
  · refine (List.drop_eq_nil_of_le ?_).symm
    rw [List.length_take]
    omega

theorem slice_eq (s : List Char) (i j : Int) : slice s i j =
    charactersBetween (max (position s.length i) 1) (min (position s.length j) s.length) s := by
  rw [slice_eq_drop, charactersBetween_eq, sliceStart_eq, sliceEnd_eq]

/-! ### Slices that make up the text -/

theorem slice_append_slice (s : List Char) {k : Int} (hk : k ≠ -1) :
    slice s 1 k ++ slice s (k + 1) (-1) = s := by
  have hfront : slice s 1 k = s.take (sliceEnd s.length k).toNat := slice_eq_drop s 1 k
  have hend : (sliceEnd s.length (-1)).toNat = s.length := by
    rw [sliceEnd_eq, position]
    split_ifs <;> omega
  have hback : slice s (k + 1) (-1) = s.drop (sliceStart s.length (k + 1) - 1).toNat := by
    rw [slice_eq_drop, hend, List.take_length]
  rw [hfront, hback, sliceEnd_eq, sliceStart_eq, position, position]
  by_cases hpast : (s.length : Int) < k
  · -- The first slice is the whole text, and the second one begins behind its end.
    have htake : s.length ≤ (min (if k < 0 then k + (s.length + 1) else k) s.length).toNat := by
      split_ifs <;> omega
    have hdrop : s.length ≤
        (max (if k + 1 < 0 then k + 1 + (s.length + 1) else k + 1) 1 - 1).toNat := by
      split_ifs <;> omega
    rw [List.take_of_length_le htake, List.drop_of_length_le hdrop, List.append_nil]
  · have hsame : (max (if k + 1 < 0 then k + 1 + (s.length + 1) else k + 1) 1 - 1).toNat =
        (min (if k < 0 then k + (s.length + 1) else k) s.length).toNat := by
      split_ifs <;> omega
    rw [hsame, List.take_append_drop]

theorem sub_append_sub (s : String) {k : Int} (hk : k ≠ -1) :
    sub s 1 k ++ sub s (k + 1) (-1) = s := by
  rw [sub, sub, ← String.ofList_append, slice_append_slice s.toList hk, String.ofList_toList]

/-! ### Lengths of slices -/

theorem length_slice {s : List Char} {i j : Int} (hi : 1 ≤ i) (hij : i ≤ j) (hj : j ≤ s.length) :
    ((slice s i j).length : Int) = j - i + 1 := by
  have hstart : sliceStart s.length i = i := by
    rw [sliceStart, if_neg (by omega), if_neg (by omega)]
  have hend : sliceEnd s.length j = j := by
    rw [sliceEnd, if_neg (by omega), if_neg (by omega)]
  rw [slice_eq_drop, hstart, hend, List.length_drop, List.length_take]
  omega

/-- The slice of one position. -/
theorem slice_self {s : List Char} {n : Nat} (h : n < s.length) :
    slice s (n + 1 : Nat) (n + 1 : Nat) = [s[n]] := by
  have hstart : (sliceStart s.length (n + 1 : Nat) - 1).toNat = n := by
    rw [sliceStart, if_neg (by omega), if_neg (by omega)]
    omega
  have hend : (sliceEnd s.length (n + 1 : Nat)).toNat = n + 1 := by
    rw [sliceEnd, if_neg (by omega), if_neg (by omega)]
    omega
  rw [slice_eq_drop, hstart, hend, List.drop_take, Nat.add_sub_cancel_left,
    List.drop_eq_getElem_cons h]
  rfl

theorem utf8ByteSize_ofList_cons (c : Char) (rest : List Char) :
    (String.ofList (c :: rest)).utf8ByteSize =
      c.utf8Size + (String.ofList rest).utf8ByteSize := by
  have hsplit : String.ofList (c :: rest) = String.singleton c ++ String.ofList rest := by
    rw [String.singleton_eq_ofList, ← String.ofList_append, List.singleton_append]
  rw [hsplit, String.utf8ByteSize_append, String.utf8ByteSize_singleton]

theorem length_le_utf8ByteSize (s : List Char) : s.length ≤ (String.ofList s).utf8ByteSize := by
  induction s with
  | nil => exact Nat.zero_le _
  | cons c rest ih =>
      have hc : 0 < c.utf8Size := c.utf8Size_pos
      rw [utf8ByteSize_ofList_cons, List.length_cons]
      omega

theorem utf8Size_eq_one_iff {c : Char} : c.utf8Size = 1 ↔ c.toNat < 128 := by
  rw [Char.utf8Size_eq_one_iff, UInt32.le_iff_toNat_le]
  exact Nat.lt_succ_iff.symm

theorem utf8ByteSize_of_ascii {s : List Char} (h : ∀ c ∈ s, c.toNat < 128) :
    (String.ofList s).utf8ByteSize = s.length := by
  induction s with
  | nil => rfl
  | cons c rest ih =>
      obtain ⟨hc, hrest⟩ := List.forall_mem_cons.mp h
      rw [utf8ByteSize_ofList_cons, utf8Size_eq_one_iff.mpr hc, ih hrest, List.length_cons,
        Nat.add_comm]

/-- All slices of a text have as many bytes as positions exactly if its characters are ASCII. -/
theorem utf8ByteSize_sub_iff (s : String) :
    (∀ i j : Int, 1 ≤ i → i ≤ j → j ≤ s.utf8ByteSize →
      ((sub s i j).utf8ByteSize : Int) = j - i + 1) ↔ ∀ c ∈ s.toList, c.toNat < 128 := by
  constructor
  · intro h c hc
    obtain ⟨n, hn, rfl⟩ := List.getElem_of_mem hc
    have hsize : s.toList.length ≤ s.utf8ByteSize := by
      have hle := length_le_utf8ByteSize s.toList
      rwa [String.ofList_toList] at hle
    have hone := h (n + 1 : Nat) (n + 1 : Nat) (by omega) (Int.le_refl _) (by omega)
    rw [sub, slice_self hn, utf8ByteSize_ofList_cons] at hone
    have hempty : (String.ofList []).utf8ByteSize = 0 := rfl
    exact utf8Size_eq_one_iff.mp (by omega)
  · intro hascii i j hi hij hj
    have hsize : s.utf8ByteSize = s.toList.length := by
      have heq := utf8ByteSize_of_ascii hascii
      rwa [String.ofList_toList] at heq
    have hpart : ∀ c ∈ slice s.toList i j, c.toNat < 128 := by
      intro c hc
      rw [slice_eq_drop] at hc
      exact hascii c (List.mem_of_mem_take (List.mem_of_mem_drop hc))
    rw [sub, utf8ByteSize_of_ascii hpart]
    exact length_slice hi hij (by omega)

end Strings

/-! ### Calls -/

theorem Operators.binary_concat_str (frame : Frame) (a b : String) (loc : Option Location) :
    binary frame .concat (.str a) (.str b) loc = .ok (.str (a ++ b)) := by
  simp only [binary, Value.display_str]
  rfl

/-- The slice of a text holds the characters at the positions between those that its two indices
stand for. The slices of a text up to an index and from the next one on, joined, are the text, for
every index but -1. -/
theorem sub_selects (s : String) :
    (∀ i j : Int, PlainMember.sub.run [.str s, .ofInt i, .ofInt j] =
      .ok (.str (String.ofList (Strings.charactersBetween
        (max (Strings.position s.length i) 1) (min (Strings.position s.length j) s.length)
        s.toList)))) ∧
    ∀ k : Int, k ≠ -1 → ∃ left right,
      PlainMember.sub.run [.str s, .ofInt 1, .ofInt k] = .ok left ∧
      PlainMember.sub.run [.str s, .ofInt (k + 1)] = .ok right ∧
      ∀ frame loc, Operators.binary frame .concat left right loc = .ok (.str s) := by
  constructor
  · intro i j
    change Except.ok (Value.str (Strings.sub s i j)) = _
    rw [Strings.sub, Strings.slice_eq, String.length_toList]
  · intro k hk
    refine ⟨.str (Strings.sub s 1 k), .str (Strings.sub s (k + 1) (-1)), rfl, rfl,
      fun frame loc => ?_⟩
    rw [Operators.binary_concat_str, Strings.sub_append_sub s hk]

/-- An index before the first position counted from the end leaves the first slice empty. -/
theorem sub_selects_before_start : (-7 : Int) ≠ -1 ∧ ∃ left right,
    PlainMember.sub.run [.str "héllo", .ofInt 1, .ofInt (-7)] = .ok left ∧
    PlainMember.sub.run [.str "héllo", .ofInt (-7 + 1)] = .ok right ∧
    ∀ frame loc, Operators.binary frame .concat left right loc = .ok (.str "héllo") :=
  ⟨by decide, (sub_selects "héllo").2 (-7) (by decide)⟩

/-- The operator and the library give the same length, which counts bytes, while the positions of
slices count characters: a slice has as many characters as it has positions. It has as many bytes,
for all positions up to the length, exactly if the characters of the text are ASCII. -/
theorem len_of_sub (s : String) :
    (∀ frame loc subject, Operators.unary frame .length (.str s) loc subject =
      PlainMember.len.run [.str s]) ∧
    (∀ i j : Int, 1 ≤ i → i ≤ j → j ≤ s.length → ∃ part,
      PlainMember.sub.run [.str s, .ofInt i, .ofInt j] = .ok (.str part) ∧
      (part.length : Int) = j - i + 1) ∧
    ((∀ i j n : Int, PlainMember.len.run [.str s] = .ok (.ofInt n) → 1 ≤ i → i ≤ j → j ≤ n →
      ∃ part, PlainMember.sub.run [.str s, .ofInt i, .ofInt j] = .ok (.str part) ∧
        PlainMember.len.run [.str part] = .ok (.ofInt (j - i + 1))) ↔
      ∀ c ∈ s.toList, c.toNat < 128) := by
  have hlen (text : String) (n : Int) :
      PlainMember.len.run [.str text] = .ok (.ofInt n) ↔ (text.utf8ByteSize : Int) = n := by
    change Except.ok (Value.ofInt text.utf8ByteSize) = _ ↔ _
    rw [Except.ok.injEq, Value.ofInt, Value.ofInt, Value.number.injEq, Number.int.injEq]
  refine ⟨fun _ _ _ => rfl, fun i j hi hij hj => ⟨_, rfl, ?_⟩, ?_⟩
  · rw [Strings.sub, String.length_ofList]
    exact Strings.length_slice hi hij (by rwa [String.length_toList])
  · rw [← Strings.utf8ByteSize_sub_iff]
    constructor
    · intro h i j hi hij hj
      obtain ⟨part, hsub, hpart⟩ := h i j s.utf8ByteSize rfl hi hij hj
      cases hsub
      exact (hlen _ _).mp hpart
    · intro h i j n hn hi hij hj
      exact ⟨_, rfl, (hlen _ _).mpr (h i j hi hij ((hlen s n).mp hn ▸ hj))⟩

theorem len_of_sub_ascii :
    (∀ c ∈ "and".toList, c.toNat < 128) ∧
    (∃ part, PlainMember.sub.run [.str "and", .ofInt 2, .ofInt 3] = .ok (.str part) ∧
      PlainMember.len.run [.str part] = .ok (.ofInt (3 - 2 + 1))) ∧
    ∃ part, PlainMember.sub.run [.str "héllo", .ofInt 2, .ofInt 2] = .ok (.str part) ∧
      (part.length : Int) = 2 - 2 + 1 := by
  have hascii : ∀ c ∈ "and".toList, c.toNat < 128 := by simp
  exact ⟨hascii, (len_of_sub "and").2.2.mpr hascii 2 3 3 rfl (by decide) (by decide) (by decide),
    (len_of_sub "héllo").2.1 2 2 (by decide) (by decide) (by decide)⟩

/-- The slice of the only position of `é` has two bytes. -/
theorem len_of_sub_accented :
    ¬ ∀ (s part : String) (i j n m : Int), PlainMember.len.run [.str s] = .ok (.ofInt n) →
      1 ≤ i → i ≤ j → j ≤ n →
      PlainMember.sub.run [.str s, .ofInt i, .ofInt j] = .ok (.str part) →
      PlainMember.len.run [.str part] = .ok (.ofInt m) → m = j - i + 1 := by
  intro h
  have htwo : (2 : Int) = 1 - 1 + 1 :=
    h "é" "é" 1 1 2 2 rfl (by decide) (by decide) (by decide) rfl rfl
  exact absurd htwo (by decide)

end TemplateScript
