import Mathlib.Data.List.Chain
import TemplateScript.Document.Segment

/-!
# Segments lose nothing

Each rule for a segment takes a front of the text, and the segment renders as what was taken. A
segment of a text that is left is never empty, so the rounds of the splitting, as many as the text
has characters, are enough for all of it. Merging plain texts changes no rendering and leaves no two
of them side by side.
-/

namespace TemplateScript

namespace Segment

def isText : Segment → Bool
  | .text _ => true
  | _ => false

theorem exists_of_isText {segment : Segment} (h : segment.isText) :
    ∃ content, segment = .text content := by
  cases segment <;> simp_all [isText]

theorem render_ne_nil {segment : Segment} (h : segment.isText = false) : segment.render ≠ [] := by
  cases segment <;> simp_all [isText, render]

/-! ### The rules -/

/-- A segment other than plain text is the front of a text. -/
structure Begins (source : List Char) (segment : Segment) (after : List Char) : Prop where
  lossless : source = segment.render ++ after
  isText : segment.isText = false

theorem splitAtClosing_lossless {depth : Nat} {quoting : Quoting}
    {source inner after : List Char}
    (h : splitAtClosing depth quoting source = some (inner, after)) :
    source = inner ++ '\x7d' :: after := by
  induction source generalizing depth quoting inner after with
  | nil => simp [splitAtClosing] at h
  | cons c rest ih =>
      -- every way on puts `c` in front of what the scan of the rest finds inside
      have step {depth : Nat} {quoting : Quoting}
          (h : (splitAtClosing depth quoting rest).map (fun split => (c :: split.1, split.2)) =
            some (inner, after)) : c :: rest = inner ++ '\x7d' :: after := by
        obtain ⟨⟨shorter, _⟩, hsplit, heq⟩ := Option.map_eq_some_iff.mp h
        obtain ⟨rfl, rfl⟩ := Prod.mk.inj heq
        rw [ih hsplit, List.cons_append]
      cases quoting with
      | outside =>
          by_cases hclose : c = '\x7d'
          · cases depth with
            | zero =>
                simp only [splitAtClosing, hclose, if_pos, Option.some.injEq, Prod.mk.injEq] at h
                rw [hclose, ← h.1, ← h.2, List.nil_append]
            | succ depth =>
                simp only [splitAtClosing, hclose, if_pos] at h
                exact step (hclose ▸ h)
          · simp only [splitAtClosing, if_neg hclose] at h
            split_ifs at h <;> exact step h
      | inside quote =>
          rw [splitAtClosing] at h
          split_ifs at h <;> exact step h
      | escaped quote =>
          rw [splitAtClosing] at h
          split_ifs at h
          exact step h

theorem directive?_begins {source after : List Char} {segment : Segment}
    (h : directive? source = some (segment, after)) : Begins source segment after := by
  unfold directive? at h
  split at h
  · next rest =>
      split at h
      · next c expression after' hsplit =>
          obtain ⟨rfl, rfl⟩ := Prod.mk.inj (Option.some.inj h)
          refine ⟨?_, rfl⟩
          rw [splitAtClosing_lossless hsplit]
          simp [render]
      · simp at h
  · simp at h

theorem escape?_begins {source after : List Char} {segment : Segment}
    (h : escape? source = some (segment, after)) : Begins source segment after := by
  unfold escape? at h
  split at h
  · split_ifs at h
    obtain ⟨rfl, rfl⟩ := Prod.mk.inj (Option.some.inj h)
    exact ⟨rfl, rfl⟩
  · simp at h

theorem label?_lossless {source label after : List Char}
    (h : label? source = some (label, after)) : source = label ++ after := by
  unfold label? at h
  split at h
  · obtain ⟨rfl, rfl⟩ := Prod.mk.inj (Option.some.inj h)
    rw [List.cons_append, List.takeWhile_append_dropWhile]
  · simp at h

theorem wikiLink?_begins {source after : List Char} {segment : Segment}
    (h : wikiLink? source = some (segment, after)) : Begins source segment after := by
  unfold wikiLink? at h
  split at h
  · next rest =>
      have hrest := List.take_append_drop (pageLength rest.length rest) rest
      cases hlabel : label? (rest.drop (pageLength rest.length rest)) with
      | none =>
          simp only [hlabel] at h
          split at h
          · next hafter =>
              split_ifs at h
              obtain ⟨rfl, rfl⟩ := Prod.mk.inj (Option.some.inj h)
              rw [hafter] at hrest
              exact ⟨by simp [render, hrest], rfl⟩
          · simp at h
      | some found =>
          obtain ⟨label, afterLabel⟩ := found
          simp only [hlabel] at h
          split at h
          · split_ifs at h
            obtain ⟨rfl, rfl⟩ := Prod.mk.inj (Option.some.inj h)
            rw [label?_lossless hlabel] at hrest
            exact ⟨by simp [render, hrest], rfl⟩
          · simp at h
  · simp at h

theorem splitName_lossless (source : List Char) :
    (splitName source).1 ++ (splitName source).2 = source := by
  cases source with
  | nil => rfl
  | cons c rest =>
      rw [splitName]
      split_ifs
      · rw [List.cons_append, List.takeWhile_append_dropWhile]
      · rfl

theorem splitPlain_lossless (p : Char → Bool) (source : List Char) :
    (splitPlain p source).1 ++ (splitPlain p source).2 = source := by
  induction source with
  | nil => rfl
  | cons c rest ih =>
      rw [splitPlain]
      split_ifs
      · exact congrArg (c :: ·) ih
      · rfl

theorem attribute?_begins {source after : List Char} {segment : Segment}
    (h : attribute? source = some (segment, after)) : Begins source segment after := by
  unfold attribute? at h
  split at h
  · next rest =>
      have hname := splitName_lossless rest
      generalize splitName rest = parts at h hname
      obtain ⟨name, afterName⟩ := parts
      dsimp only at h hname
      split at h
      · next afterColon =>
          have hvalue := splitPlain_lossless (fun c => c != ']' && c != '\n')
            (afterColon.dropWhile isGap)
          have hgap := List.takeWhile_append_dropWhile (p := isGap) (l := afterColon)
          generalize splitPlain (fun c => c != ']' && c != '\n') (afterColon.dropWhile isGap)
            = value at h hvalue
          obtain ⟨value, afterValue⟩ := value
          dsimp only at h hvalue
          split at h
          · split_ifs at h
            obtain ⟨rfl, rfl⟩ := Prod.mk.inj (Option.some.inj h)
            refine ⟨?_, rfl⟩
            conv => lhs; rw [← hname, ← hgap, ← hvalue]
            simp [render]
          · simp at h
      · simp at h
  · simp at h

theorem takeText_lossless (source : List Char) :
    source = (takeText source).1.render ++ (takeText source).2 := by
  have hplain := splitPlain_lossless (fun c => c != '\\' && c != '[') source
  unfold takeText
  split
  · next heq =>
      rw [heq] at hplain
      exact hplain.symm
  · rfl
  · rfl

theorem takeText_render_ne_nil (c : Char) (rest : List Char) :
    (takeText (c :: rest)).1.render ≠ [] := by
  unfold takeText
  split <;> simp_all [render]

/-- A rule other than that of plain text gives the next segment, or none does. -/
theorem next_cases (source : List Char) :
    Begins source (next source).1 (next source).2 ∨ next source = takeText source := by
  unfold next
  cases hdirective : directive? source with
  | some found => exact .inl (directive?_begins hdirective)
  | none =>
      cases hescape : escape? source with
      | some found => exact .inl (escape?_begins hescape)
      | none =>
          cases hlink : wikiLink? source with
          | some found => exact .inl (wikiLink?_begins hlink)
          | none =>
              cases hattribute : attribute? source with
              | some found => exact .inl (attribute?_begins hattribute)
              | none => exact .inr rfl

theorem next_lossless (source : List Char) :
    source = (next source).1.render ++ (next source).2 := by
  rcases next_cases source with h | h
  · exact h.lossless
  · rw [h]
    exact takeText_lossless source

theorem next_render_ne_nil (c : Char) (rest : List Char) : (next (c :: rest)).1.render ≠ [] := by
  rcases next_cases (c :: rest) with h | h
  · exact render_ne_nil h.isText
  · rw [h]
    exact takeText_render_ne_nil c rest

theorem next_length_lt (c : Char) (rest : List Char) :
    (next (c :: rest)).2.length < (c :: rest).length := by
  have hpositive := List.length_pos_iff.mpr (next_render_ne_nil c rest)
  have hlength := congrArg List.length (next_lossless (c :: rest))
  rw [List.length_append] at hlength
  omega

/-! ### The splitting -/

theorem splitUpTo_lossless {limit : Nat} {source : List Char} (h : source.length ≤ limit) :
    (splitUpTo limit source).flatMap render = source := by
  induction limit generalizing source with
  | zero =>
      rw [List.length_eq_zero_iff.mp (Nat.le_zero.mp h)]
      rfl
  | succ limit ih =>
      cases source with
      | nil => rfl
      | cons c rest =>
          have hshorter := next_length_lt c rest
          rw [splitUpTo, List.flatMap_cons, ih (by omega), ← next_lossless]

theorem merge_flatMap_render (segments : List Segment) :
    (merge segments).flatMap render = segments.flatMap render := by
  fun_induction merge segments with
  | case1 => rfl
  | case2 content rest more others hmerge ih =>
      rw [hmerge, List.flatMap_cons] at ih
      rw [List.flatMap_cons, List.flatMap_cons, ← ih, render, render, render, List.append_assoc]
  | case3 content rest hmerge ih => rw [List.flatMap_cons, ih, List.flatMap_cons]
  | case4 segment rest hsegment ih => rw [List.flatMap_cons, ih, List.flatMap_cons]

/-- What the splitting of a text gives renders as that text. -/
theorem split_lossless (source : List Char) : (split source).flatMap render = source := by
  rw [split, merge_flatMap_render, splitUpTo_lossless (Nat.le_refl _)]

/-- No two adjacent segments are both plain text. -/
theorem merge_isChain (segments : List Segment) :
    (merge segments).IsChain fun left right => ¬(left.isText ∧ right.isText) := by
  fun_induction merge segments with
  | case1 => exact .nil
  | case2 content rest more others hmerge ih =>
      rw [hmerge] at ih
      exact List.isChain_cons.mpr (List.isChain_cons.mp ih)
  | case3 content rest hmerge ih =>
      refine List.isChain_cons.mpr ⟨fun right hright htexts => ?_, ih⟩
      obtain ⟨more, rfl⟩ := exists_of_isText htexts.2
      obtain ⟨others, hrest⟩ := List.head?_eq_some_iff.mp (Option.mem_def.mp hright)
      exact hmerge more others hrest
  | case4 segment rest hsegment ih =>
      refine List.isChain_cons.mpr ⟨fun right _ htexts => ?_, ih⟩
      obtain ⟨content, rfl⟩ := exists_of_isText htexts.1
      exact hsegment content rfl

end Segment

end TemplateScript
