import TemplateScript.Proofs.Document.Border

/-!
# Directives in links

A directive is found by a scan that knows quotes and braces in braces. The page of a link is found
by one that knows a single level of braces and no quotes, so between the marks of a link the two may
disagree about where a directive ends. The page never reaches beyond the directive, and where it is
all of it, or where there is no link at all, the directive is found as it is by itself.
-/

namespace TemplateScript

namespace Segment

/-! ### Directives by themselves -/

/-- What comes after the text of a scan does not change where the scan stops. -/
theorem splitAtClosing_append {depth : Nat} {quoting : Quoting} {source inner after : List Char}
    (h : splitAtClosing depth quoting source = some (inner, after)) (more : List Char) :
    splitAtClosing depth quoting (source ++ more) = some (inner, after ++ more) := by
  induction source generalizing depth quoting inner after with
  | nil => simp [splitAtClosing] at h
  | cons c rest ih =>
      have step {depth : Nat} {quoting : Quoting} {inner after : List Char}
          (h : (splitAtClosing depth quoting rest).map (fun split => (c :: split.1, split.2)) =
            some (inner, after)) :
          (splitAtClosing depth quoting (rest ++ more)).map
            (fun split => (c :: split.1, split.2)) = some (inner, after ++ more) := by
        obtain ⟨⟨shorter, later⟩, hsplit, heq⟩ := Option.map_eq_some_iff.mp h
        obtain ⟨rfl, rfl⟩ := Prod.mk.inj heq
        rw [ih hsplit, Option.map_some]
      rw [List.cons_append]
      cases quoting with
      | outside =>
          by_cases hclose : c = '\x7d'
          · cases depth with
            | zero =>
                simp only [splitAtClosing, hclose, if_pos, Option.some.injEq, Prod.mk.injEq] at h ⊢
                exact ⟨h.1, congrArg (· ++ more) h.2⟩
            | succ depth =>
                simp only [splitAtClosing, hclose, if_pos] at h ⊢
                exact hclose ▸ step (hclose ▸ h)
          · simp only [splitAtClosing, if_neg hclose] at h ⊢
            split_ifs at h ⊢ <;> exact step h
      | inside quote =>
          rw [splitAtClosing] at h ⊢
          split_ifs at h ⊢ <;> exact step h
      | escaped quote =>
          rw [splitAtClosing] at h ⊢
          split_ifs at h ⊢
          exact step h

theorem takeText_isText (source : List Char) : (takeText source).1.isText := by
  unfold takeText
  split <;> rfl

/-- A text that splits into one directive is a directive wherever it stands. -/
theorem next_of_split_eq_directive {expression : List Char}
    (h : split (Segment.directive expression).render = [.directive expression])
    (rest : List Char) :
    next ((Segment.directive expression).render ++ rest) = (.directive expression, rest) := by
  have hne : (Segment.directive expression).render ≠ [] := render_ne_nil rfl
  rcases hnext : next (Segment.directive expression).render with ⟨segment, after⟩
  have hsplit := (split_of_next hne hnext).symm.trans h
  -- the segment that is next is no plain text, and so the directive itself
  have hsegment : directive? (Segment.directive expression).render = some (segment, after) := by
    cases hdirective : directive? (Segment.directive expression).render with
    | some found =>
        rw [next, hdirective] at hnext
        exact congrArg some hnext
    | none =>
        have htake : next (Segment.directive expression).render =
            takeText (Segment.directive expression).render := by
          rw [next, hdirective]
          rfl
        have htext := takeText_isText (Segment.directive expression).render
        rw [← htake, hnext] at htext
        obtain ⟨content, rfl⟩ := exists_of_isText htext
        rw [merge] at hsplit
        split at hsplit <;> cases hsplit
  have hbegins := directive?_begins hsegment
  rw [merge_cons_of_not_isText hbegins.isText, split, merge_merge] at hsplit
  obtain ⟨rfl, hafter⟩ := List.cons.inj hsplit
  have hempty : after = [] := by
    have hlength := congrArg List.length hbegins.lossless
    rw [List.length_append] at hlength
    exact List.length_eq_zero_iff.mp (by omega)
  subst hempty
  have hscan : expression ≠ [] ∧
      splitAtClosing 0 .outside (expression ++ ['\x7d']) = some (expression, []) := by
    rw [render, List.cons_append, List.cons_append, directive?] at hsegment
    split at hsegment
    · next c inner later hclosing =>
        simp only [Option.some.injEq, Prod.mk.injEq, directive.injEq] at hsegment
        obtain ⟨rfl, rfl⟩ := hsegment
        exact ⟨by simp, hclosing⟩
    · cases hsegment
  refine next_directive_of_scan hscan.1 ?_
  have hmore := splitAtClosing_append hscan.2 rest
  rwa [List.append_assoc] at hmore

/-! ### The page of a link -/

theorem bracedTail_eq_none {text : List Char} (hclose : '\x7d' ∉ text) (nested : Bool) :
    bracedTail nested text = none := by
  induction text generalizing nested with
  | nil => rfl
  | cons c rest ih =>
      have hc : c ≠ '\x7d' := fun hc => hclose (hc ▸ List.mem_cons_self)
      have hrest (nested : Bool) : bracedTail nested rest = none :=
        ih (fun hmem => hclose (List.mem_cons_of_mem c hmem)) nested
      rw [bracedTail, if_neg hc, hrest, hrest]
      split_ifs <;> rfl

/-- A braced piece ends at a closing brace, and so not in a text without one. -/
theorem bracedTail_le {nested : Bool} {front more : List Char} {count : Nat}
    (hmore : '\x7d' ∉ more) (h : bracedTail nested (front ++ more) = some count) :
    count ≤ front.length := by
  induction front generalizing nested count with
  | nil =>
      rw [List.nil_append, bracedTail_eq_none hmore] at h
      cases h
  | cons c rest ih =>
      have step {nested : Bool}
          (h : (bracedTail nested (rest ++ more)).map (· + 1) = some count) :
          count ≤ (c :: rest).length := by
        obtain ⟨fewer, hfewer, rfl⟩ := Option.map_eq_some_iff.mp h
        exact Nat.succ_le_succ (ih hfewer)
      rw [List.cons_append, bracedTail] at h
      split_ifs at h
      · exact step h
      · cases h
        simp
      · exact step h
      · exact step h

theorem pagePiece_le (front : List Char) {more : List Char} (hmore : '\x7d' ∉ more)
    (hend : pagePiece more = 0) : pagePiece (front ++ more) ≤ front.length := by
  cases front with
  | nil => exact Nat.le_of_eq hend
  | cons c rest =>
      unfold pagePiece
      split
      · next braced heq =>
          split
          · next count hcount =>
              cases rest with
              | nil =>
                  -- the brace that opens the piece would stand in `more`, which closes none
                  obtain ⟨-, hbraced⟩ := List.cons.inj heq
                  have hbraced : more = '\x7b' :: braced := hbraced
                  have hclose : '\x7d' ∉ braced := fun hmem =>
                    hmore (hbraced ▸ List.mem_cons_of_mem _ hmem)
                  rw [bracedTail_eq_none hclose] at hcount
                  cases hcount
              | cons d rest =>
                  obtain ⟨-, hbraced⟩ := List.cons.inj heq
                  obtain ⟨-, rfl⟩ := List.cons.inj hbraced
                  have hle := bracedTail_le hmore hcount
                  simp only [List.length_cons]
                  omega
          · simp
      · split_ifs <;> simp
      · simp

/-- A page does not reach into a text at which no piece of it begins. -/
theorem pageLength_le (front : List Char) {more : List Char} (hmore : '\x7d' ∉ more)
    (hend : pagePiece more = 0) (limit : Nat) :
    pageLength limit (front ++ more) ≤ front.length := by
  induction limit generalizing front with
  | zero => exact Nat.zero_le _
  | succ limit ih =>
      have hpiece := pagePiece_le front hmore hend
      rw [pageLength]
      split_ifs
      · exact Nat.zero_le _
      · have hlater := ih (front.drop (pagePiece (front ++ more)))
        rw [← List.drop_append_of_le_length hpiece, List.length_drop] at hlater
        omega

/-- A link has a page, and a label only with the bar before it. -/
structure ReadsLink (rest : List Char) (page : List Char) (label : Option (List Char)) : Prop where
  page_eq : page = rest.take (pageLength rest.length rest)
  page_ne_nil : page ≠ []
  label_head : ∀ text, label = some text → text.head? = some '|'

theorem label?_head {source label after : List Char} (h : label? source = some (label, after)) :
    label.head? = some '|' := by
  unfold label? at h
  split at h
  · cases h
    rfl
  · cases h

theorem wikiLink?_reads (rest : List Char) {after : List Char} {segment : Segment}
    (h : wikiLink? ('[' :: '[' :: rest) = some (segment, after)) :
    ∃ page label, segment = .wikiLink page label ∧ ReadsLink rest page label := by
  unfold wikiLink? at h
  dsimp only at h
  have hne {page : List Char} (hempty : ¬page.isEmpty = true) : page ≠ [] := by
    rintro rfl
    exact hempty rfl
  cases hlabel : label? (rest.drop (pageLength rest.length rest)) with
  | none =>
      simp only [hlabel] at h
      split at h
      · split_ifs at h with hempty
        obtain ⟨rfl, rfl⟩ := Prod.mk.inj (Option.some.inj h)
        exact ⟨_, none, rfl, rfl, hne hempty, fun text htext => nomatch htext⟩
      · cases h
  | some found =>
      obtain ⟨label, afterLabel⟩ := found
      simp only [hlabel] at h
      split at h
      · split_ifs at h with hempty
        obtain ⟨rfl, rfl⟩ := Prod.mk.inj (Option.some.inj h)
        refine ⟨_, some label, rfl, rfl, hne hempty, fun text htext => ?_⟩
        obtain rfl := Option.some.inj htext
        exact label?_head hlabel
      · cases h

/-! ### A directive between the marks of a link -/

/-- The text of a directive between the marks of a link. -/
def linkedDirective (expression : List Char) : List Char :=
  '[' :: '[' :: (Segment.directive expression).render ++ [']', ']']

/-- If the text is a link, then its page is all of the directive. -/
def PageKeeps (expression : List Char) : Prop :=
  ∀ page label after,
    wikiLink? (linkedDirective expression) = some (.wikiLink page label, after) →
      page = (Segment.directive expression).render

theorem next_linkedDirective_of_link {expression after : List Char} {segment : Segment}
    (h : wikiLink? (linkedDirective expression) = some (segment, after)) :
    next (linkedDirective expression) = (segment, after) := by
  have hdirective : directive? (linkedDirective expression) = none := rfl
  have hescape : escape? (linkedDirective expression) = none := rfl
  rw [next, hdirective, hescape, h]
  rfl

/-- Where there is no link, the brackets are plain text around the directive. -/
theorem split_linkedDirective_of_not_link {expression : List Char}
    (halone : split (Segment.directive expression).render = [.directive expression])
    (h : wikiLink? (linkedDirective expression) = none) :
    split (linkedDirective expression) =
      [.text ['[', '['], .directive expression, .text [']', ']']] := by
  have hinner : split ((Segment.directive expression).render ++ [']', ']']) =
      [.directive expression, .text [']', ']']] :=
    split_cons (by simp [render]) (next_of_split_eq_directive halone _) rfl
  have hsecond : next ('[' :: (Segment.directive expression).render ++ [']', ']']) =
      (.text ['['], (Segment.directive expression).render ++ [']', ']']) :=
    rfl
  have hfirst : next (linkedDirective expression) =
      (.text ['['], '[' :: (Segment.directive expression).render ++ [']', ']']) := by
    have hdirective : directive? (linkedDirective expression) = none := rfl
    have hescape : escape? (linkedDirective expression) = none := rfl
    have hattribute : attribute? (linkedDirective expression) = none := rfl
    rw [next, hdirective, hescape, h, hattribute]
    rfl
  rw [split_of_next (by simp [linkedDirective]) hfirst, split_of_next (by simp) hsecond, hinner,
    merge_cons_merge]
  rfl

/-- The page of a link around a directive does not reach beyond the directive. -/
theorem page_linkedDirective {expression after page : List Char} {label : Option (List Char)}
    (h : wikiLink? (linkedDirective expression) = some (.wikiLink page label, after)) :
    page <+: (Segment.directive expression).render ∧ page ≠ [] ∧
      ∀ text, label = some text → text.head? = some '|' := by
  obtain ⟨page', label', hsegment, hreads⟩ :=
    wikiLink?_reads ((Segment.directive expression).render ++ [']', ']']) h
  obtain ⟨rfl, rfl⟩ := wikiLink.inj hsegment
  refine ⟨?_, hreads.page_ne_nil, hreads.label_head⟩
  have hclose : '\x7d' ∉ [']', ']'] := by decide
  have hle := pageLength_le (Segment.directive expression).render hclose rfl
    ((Segment.directive expression).render ++ [']', ']']).length
  rw [hreads.page_eq, List.take_append_of_le_length hle]
  exact List.take_prefix _ _

theorem lossless_linkedDirective {expression after page : List Char} {label : Option (List Char)}
    (h : wikiLink? (linkedDirective expression) = some (.wikiLink page label, after)) :
    (Segment.directive expression).render ++ [']', ']'] =
      page ++ (label.getD [] ++ (']' :: ']' :: after)) := by
  have hlossless := (wikiLink?_begins h).lossless
  simpa [linkedDirective, render] using hlossless

theorem split_linkedDirective_of_page {expression after : List Char} {label : Option (List Char)}
    (h : wikiLink? (linkedDirective expression) =
      some (.wikiLink (Segment.directive expression).render label, after)) :
    split (linkedDirective expression) =
      [.wikiLink (Segment.directive expression).render none] := by
  obtain ⟨-, -, hlabel⟩ := page_linkedDirective h
  have hend := List.append_cancel_left (lossless_linkedDirective h)
  cases label with
  | none =>
      obtain rfl : after = [] := by simpa using hend.symm
      rw [split_cons (by simp [linkedDirective]) (next_linkedDirective_of_link h) rfl]
      rfl
  | some text =>
      -- a label would begin with a bar where the closing brackets stand
      obtain ⟨more, rfl⟩ := List.head?_eq_some_iff.mp (hlabel text rfl)
      cases hend

/-- Where the page of a link is not all of the directive, both it and what follows the link are
shorter than the directive. -/
theorem split_linkedDirective_of_not_keeps {expression : List Char} (h : ¬PageKeeps expression) :
    ∃ page label after,
      split (linkedDirective expression) = .wikiLink page label :: split after ∧
        page.length < (Segment.directive expression).render.length ∧
        after.length < (Segment.directive expression).render.length := by
  unfold PageKeeps at h
  push Not at h
  obtain ⟨page, label, after, hlink, hpage⟩ := h
  obtain ⟨hfront, hne, -⟩ := page_linkedDirective hlink
  have hpositive := List.length_pos_iff.mpr hne
  have hlength := congrArg List.length (lossless_linkedDirective hlink)
  simp only [List.length_append, List.length_cons, List.length_nil] at hlength
  refine ⟨page, label, after,
    split_cons (by simp [linkedDirective]) (next_linkedDirective_of_link hlink) rfl, ?_, by omega⟩
  exact lt_of_le_of_ne hfront.length_le fun heq => hpage (hfront.eq_of_length heq)

/-- A page that is not all of the directive ends at a bracket or a bar in it. -/
theorem pageKeeps_of_forall {expression : List Char}
    (h : ∀ c ∈ expression, c ≠ '|' ∧ c ≠ ']') : PageKeeps expression := by
  intro page label after hlink
  obtain ⟨⟨remaining, hpage⟩, -, hlabel⟩ := page_linkedDirective hlink
  have hrender : ∀ c ∈ (Segment.directive expression).render, c ≠ '|' ∧ c ≠ ']' := by
    intro c hc
    simp only [render, List.mem_append, List.mem_cons, List.not_mem_nil, or_false] at hc
    rcases hc with (rfl | rfl | hc) | rfl
    · decide
    · decide
    · exact h c hc
    · decide
  have hend := lossless_linkedDirective hlink
  rw [← hpage, List.append_assoc] at hend
  have hend := List.append_cancel_left hend
  cases remaining with
  | nil => rw [← hpage, List.append_nil]
  | cons c more =>
      have hc := hrender c (hpage ▸ List.mem_append_right page List.mem_cons_self)
      cases label with
      | none => exact absurd (List.cons.inj hend).1 hc.2
      | some text =>
          obtain ⟨rest, rfl⟩ := List.head?_eq_some_iff.mp (hlabel text rfl)
          exact absurd (List.cons.inj hend).1 hc.1

end Segment

end TemplateScript
