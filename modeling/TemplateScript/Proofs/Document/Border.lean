import TemplateScript.Proofs.Document.Balance
import TemplateScript.Proofs.Document.Lossless

/-!
# Where segments end

The splitting of a text is its next segment before the splitting of what follows. A directive with a
balanced expression and an escape end where they are written to, whatever follows them. Plain text
without a character that may open something else may run on into what follows, but merged with it
the splitting is the same as if it ended there.
-/

namespace TemplateScript

namespace Segment

/-! ### Splitting and merging -/

theorem splitUpTo_nil (limit : Nat) : splitUpTo limit [] = [] := by
  cases limit <;> rfl

theorem splitUpTo_cons (limit : Nat) (c : Char) (rest : List Char) :
    splitUpTo (limit + 1) (c :: rest) =
      (next (c :: rest)).1 :: splitUpTo limit (next (c :: rest)).2 :=
  rfl

/-- Rounds beyond the length of a text change nothing. -/
theorem splitUpTo_eq {limit other : Nat} {source : List Char} (h : source.length ≤ limit)
    (hother : source.length ≤ other) : splitUpTo limit source = splitUpTo other source := by
  induction limit generalizing other source with
  | zero => rw [List.length_eq_zero_iff.mp (Nat.le_zero.mp h), splitUpTo_nil, splitUpTo_nil]
  | succ limit ih =>
      cases source with
      | nil => rw [splitUpTo_nil, splitUpTo_nil]
      | cons c rest =>
          have hshorter := next_length_lt c rest
          obtain ⟨fewer, rfl⟩ := Nat.exists_eq_succ_of_ne_zero
            (Nat.ne_of_gt (Nat.lt_of_lt_of_le (Nat.succ_pos rest.length) hother))
          rw [splitUpTo_cons, splitUpTo_cons]
          exact congrArg (_ :: ·) (ih (by omega) (by omega))

theorem merge_cons_of_not_isText {segment : Segment} (h : segment.isText = false)
    (rest : List Segment) : merge (segment :: rest) = segment :: merge rest := by
  cases segment with
  | text content => exact Bool.noConfusion h
  | _ => rfl

theorem merge_eq_self {segments : List Segment}
    (h : segments.IsChain fun left right => ¬(left.isText ∧ right.isText)) :
    merge segments = segments := by
  induction segments with
  | nil => rfl
  | cons segment rest ih =>
      obtain ⟨hhead, hrest⟩ := List.isChain_cons.mp h
      cases segment with
      | text content =>
          rw [merge, ih hrest]
          split
          · next more others => exact absurd ⟨rfl, rfl⟩ (hhead (.text more) rfl)
          · rfl
      | _ => rw [merge_cons_of_not_isText rfl, ih hrest]

theorem merge_merge (segments : List Segment) : merge (merge segments) = merge segments :=
  merge_eq_self (merge_isChain segments)

theorem merge_cons_merge (segment : Segment) (rest : List Segment) :
    merge (segment :: merge rest) = merge (segment :: rest) := by
  cases segment <;> simp only [merge, merge_merge]

theorem split_nil : split [] = [] := rfl

theorem split_of_next {source after : List Char} {segment : Segment} (hne : source ≠ [])
    (h : next source = (segment, after)) : split source = merge (segment :: split after) := by
  obtain ⟨c, rest, rfl⟩ := List.exists_cons_of_ne_nil hne
  have hshorter := next_length_lt c rest
  rw [h, List.length_cons] at hshorter
  rw [split, split, merge_cons_merge, List.length_cons, splitUpTo_cons, h,
    splitUpTo_eq (Nat.le_of_lt_succ hshorter) (Nat.le_refl _)]

/-- A segment other than plain text that is next in a text is the first of its splitting. -/
theorem split_cons {source after : List Char} {segment : Segment} (hne : source ≠ [])
    (h : next source = (segment, after)) (htext : segment.isText = false) :
    split source = segment :: split after := by
  rw [split_of_next hne h, merge_cons_of_not_isText htext, split, merge_merge]

/-! ### Directives -/

theorem split_directive {expression : List Char} (hbalanced : Balanced expression)
    (hne : expression ≠ []) (after : List Char) :
    split ((Segment.directive expression).render ++ after) =
      .directive expression :: split after :=
  split_cons (by simp [render]) (next_directive hbalanced hne after) rfl

/-! ### Escapes -/

theorem next_escape {c : Char} (hc : isPunctuation c) (rest : List Char) :
    next ((Segment.escape c).render ++ rest) = (.escape c, rest) := by
  simp only [render, List.cons_append, List.nil_append, next, directive?, escape?, if_pos hc]
  rfl

theorem split_escape {c : Char} (hc : isPunctuation c) (after : List Char) :
    split ((Segment.escape c).render ++ after) = .escape c :: split after :=
  split_cons (by simp [render]) (next_escape hc after) rfl

/-! ### Plain text -/

/-- Characters with which nothing but plain text begins. -/
def isOrdinary (c : Char) : Bool :=
  c != '$' && c != '\\' && c != '['

theorem directive?_of_not_opens {source : List Char} (h : opensDirective source = false) :
    directive? source = none := by
  unfold directive?
  split
  · next heq => simp [opensDirective] at h
  · rfl

theorem escape?_cons_of_ne {c : Char} (h : c ≠ '\\') (rest : List Char) :
    escape? (c :: rest) = none := by
  unfold escape?
  split
  · next heq => exact absurd (List.cons.inj heq).1 h
  · rfl

theorem wikiLink?_cons_of_ne {c : Char} (h : c ≠ '[') (rest : List Char) :
    wikiLink? (c :: rest) = none := by
  unfold wikiLink?
  split
  · next heq => exact absurd (List.cons.inj heq).1 h
  · rfl

theorem attribute?_cons_of_ne {c : Char} (h : c ≠ '[') (rest : List Char) :
    attribute? (c :: rest) = none := by
  unfold attribute?
  split
  · next heq => exact absurd (List.cons.inj heq).1 h
  · rfl

/-- Where plain text can be taken nothing else begins. -/
theorem next_of_splitPlain {source content after : List Char} {c : Char}
    (h : splitPlain (fun c => c != '\\' && c != '[') source = (c :: content, after)) :
    next source = (.text (c :: content), after) := by
  have htake : takeText source = (.text (c :: content), after) := by
    unfold takeText
    rw [h]
  cases source with
  | nil => simp [splitPlain] at h
  | cons first rest =>
      rw [splitPlain] at h
      split at h
      · next hfirst =>
          simp only [Bool.and_eq_true, bne_iff_ne, Bool.not_eq_true'] at hfirst
          obtain ⟨⟨hbackslash, hbracket⟩, hopens⟩ := hfirst
          rw [next, directive?_of_not_opens hopens, escape?_cons_of_ne hbackslash,
            wikiLink?_cons_of_ne hbracket, attribute?_cons_of_ne hbracket]
          exact htake
      · simp at h

theorem opensDirective_cons_of_ne {c : Char} (h : c ≠ '$') (rest : List Char) :
    opensDirective (c :: rest) = false := by
  unfold opensDirective
  split
  · next heq => exact absurd (List.cons.inj heq).1 h
  · rfl

/-- Ordinary text is taken together with the plain text that follows it. -/
theorem splitPlain_ordinary {content : List Char} (h : ∀ c ∈ content, isOrdinary c)
    (after : List Char) :
    splitPlain (fun c => c != '\\' && c != '[') (content ++ after) =
      (content ++ (splitPlain (fun c => c != '\\' && c != '[') after).1,
        (splitPlain (fun c => c != '\\' && c != '[') after).2) := by
  induction content with
  | nil => rfl
  | cons c rest ih =>
      have hc := h c List.mem_cons_self
      simp only [isOrdinary, Bool.and_eq_true, bne_iff_ne] at hc
      obtain ⟨⟨hdollar, hbackslash⟩, hbracket⟩ := hc
      rw [List.cons_append, splitPlain, ih fun d hd => h d (List.mem_cons_of_mem c hd),
        opensDirective_cons_of_ne hdollar]
      simp [hbackslash, hbracket]

theorem merge_text_text (content more : List Char) (rest : List Segment) :
    merge (.text content :: .text more :: rest) = merge (.text (content ++ more) :: rest) := by
  simp only [merge]
  rcases merge rest with _ | ⟨segment, others⟩
  · rfl
  · cases segment <;> simp

theorem split_ordinary {content : List Char} (hne : content ≠ [])
    (h : ∀ c ∈ content, isOrdinary c) (after : List Char) :
    split (content ++ after) = merge (.text content :: split after) := by
  obtain ⟨c, tail, rfl⟩ := List.exists_cons_of_ne_nil hne
  have hplain := splitPlain_ordinary h after
  have hlossless := splitPlain_lossless (fun c => c != '\\' && c != '[') after
  rcases hafter : splitPlain (fun c => c != '\\' && c != '[') after with ⟨more, others⟩
  rw [hafter] at hlossless
  rw [hafter, List.cons_append, List.cons_append] at hplain
  rw [List.cons_append, split_of_next (by simp) (next_of_splitPlain hplain)]
  -- plain text at the front of `after` is taken in one piece with the content, and merging takes it
  -- together where it is split off by itself
  cases more with
  | nil =>
      obtain rfl : others = after := hlossless
      rw [List.append_nil]
  | cons d more =>
      have hne : after ≠ [] := by
        rintro rfl
        simp [splitPlain] at hafter
      rw [split_of_next hne (next_of_splitPlain hafter), merge_cons_merge, merge_text_text]
      rfl

end Segment

end TemplateScript
