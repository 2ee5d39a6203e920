import TemplateScript.Proofs.Expr.Boundary

/-!
# Parentheses in texts of expressions

How many more parentheses a text opens than it closes is counted along the text, and nothing inside
a string counts. A token holds none, so behind it the count goes on as in front of it, and whether
closing parentheses are put behind a text does not matter to what its tokens take.
-/

namespace TemplateScript

open Token

/-- What a character outside strings adds to the open parentheses. -/
def parenthesisSign (c : Char) : Int :=
  if c = '(' then 1 else if c = ')' then -1 else 0

/-- How many more parentheses a text opens than it closes. -/
def surplusFrom : Segment.Quoting → List Char → Int
  | _, [] => 0
  | .outside, c :: rest =>
    if isQuote c then surplusFrom (.inside c) rest
    else parenthesisSign c + surplusFrom .outside rest
  | .inside quote, c :: rest =>
    if c = quote then surplusFrom .outside rest
    else if c = '\\' then surplusFrom (.escaped quote) rest
    else surplusFrom (.inside quote) rest
  | .escaped quote, _ :: rest => surplusFrom (.inside quote) rest

abbrev surplus (text : List Char) : Int := surplusFrom .outside text

/-- The characters that the count depends on. -/
def IsFence (c : Char) : Prop := c ∈ ['(', ')', '"', '\'']

instance : DecidablePred IsFence :=
  fun c => inferInstanceAs (Decidable (c ∈ ['(', ')', '"', '\'']))

theorem IsFence.cases {c : Char} (h : IsFence c) : c = '(' ∨ c = ')' ∨ c = '"' ∨ c = '\'' := by
  simpa only [IsFence, List.mem_cons, List.not_mem_nil, or_false] using h

/-! ### The count along a text -/

theorem surplus_cons_of_not_isQuote {c : Char} (h : isQuote c = false) (rest : List Char) :
    surplus (c :: rest) = parenthesisSign c + surplus rest := by
  rw [surplus, surplusFrom, h]
  rfl

theorem surplus_cons_of_not_isFence {c : Char} (h : ¬ IsFence c) (rest : List Char) :
    surplus (c :: rest) = surplus rest := by
  simp only [IsFence, List.mem_cons, List.not_mem_nil, or_false, not_or] at h
  obtain ⟨hopening, hclosing, hdouble, hsingle⟩ := h
  have hquote : isQuote c = false := by
    simp only [isQuote, beq_eq_false_iff_ne.mpr hdouble, beq_eq_false_iff_ne.mpr hsingle,
      Bool.or_self]
  rw [surplus_cons_of_not_isQuote hquote, parenthesisSign, if_neg hopening, if_neg hclosing,
    Int.zero_add]

theorem not_isFence_of_isBlank {c : Char} (h : isBlank c) : ¬ IsFence c := by
  intro hfence
  rcases hfence.cases with rfl | rfl | rfl | rfl <;> exact absurd h (by decide)

theorem surplus_append_of_not_isFence {text : List Char} (h : ∀ c ∈ text, ¬ IsFence c)
    (rest : List Char) : surplus (text ++ rest) = surplus rest := by
  induction text with
  | nil => rfl
  | cons c text ih =>
      obtain ⟨hc, htext⟩ := List.forall_mem_cons.mp h
      rw [List.cons_append, surplus_cons_of_not_isFence hc, ih htext]

theorem surplusFrom_quotedBody {quote : Char} {body : List Char} (hquote : isQuote quote)
    (h : QuotedBody quote body) (rest : List Char) :
    surplusFrom (.inside quote) (body ++ quote :: rest) = surplus rest := by
  induction h with
  | nil => rw [List.nil_append, surplusFrom, if_pos rfl]
  | char hne hbackslash _ _ ih =>
      rw [List.cons_append, surplusFrom, if_neg hne, if_neg hbackslash, ih]
  | escaped _ _ ih =>
      have hbackslash : '\\' ≠ quote := by
        rintro rfl
        exact absurd hquote (by decide)
      rw [List.cons_append, List.cons_append, surplusFrom, if_neg hbackslash, if_pos rfl,
        surplusFrom, ih]

theorem surplus_quoted {quote : Char} {body : List Char} (hquote : isQuote quote)
    (h : QuotedBody quote body) (rest : List Char) :
    surplus (quote :: body ++ quote :: rest) = surplus rest := by
  rw [surplus, List.cons_append, surplusFrom, if_pos hquote, surplusFrom_quotedBody hquote h]

namespace Token

/-! ### What tokens take -/

/-- A rule takes no character to which it is blind. -/
theorem Blind.not_mem_take {length : List Char → Nat} {p : Char → Prop} (h : Blind length p)
    (hle : ∀ text, length text ≤ text.length) {text : List Char} {c : Char}
    (hc : c ∈ text.take (length text)) : ¬ p c := by
  intro hp
  obtain ⟨front, back, hsplit⟩ := List.append_of_mem hc
  have htext : text = front ++ c :: (back ++ text.drop (length text)) := by
    rw [← List.cons_append, ← List.append_assoc, ← hsplit, List.take_append_drop]
  have hshort : length text = length front := by
    rw [htext]
    exact h front _ (startsIn_cons hp _)
  have hlonger : front.length < length text := by
    have htaken : (text.take (length text)).length = front.length + (back.length + 1) := by
      rw [hsplit, List.length_append, List.length_cons]
    rw [List.length_take, Nat.min_eq_left (hle text)] at htaken
    omega
  have := hle front
  omega

/-- In front of the text `after` the rule takes what it takes in front of nothing, and behind what
it takes as many parentheses are open as in front of it. -/
structure Passes (after : List Char) (length : List Char → Nat) : Prop where
  append : ∀ text, length (text ++ after) = length text
  le_length : ∀ text, length text ≤ text.length
  surplus_drop : ∀ text, surplus text = surplus (text.drop (length text))

/-- A text of closing parentheses. -/
abbrev Closing (after : List Char) : Prop := ∀ c ∈ after, c = ')'

theorem Closing.startsIn {after : List Char} (h : Closing after) {p : Char → Prop} (hp : p ')') :
    StartsIn p after := by
  rintro c rest rfl
  exact h c List.mem_cons_self ▸ hp

theorem IsFence.not_isWordPart {c : Char} (h : IsFence c) : isWordPart c = false := by
  rcases h.cases with rfl | rfl | rfl | rfl <;> decide

theorem IsFence.endsNumber {c : Char} (h : IsFence c) : EndsNumber c := by
  rcases h.cases with rfl | rfl | rfl | rfl <;> exact ⟨by decide, by decide, by decide⟩

theorem IsFence.endsUnaryOp {c : Char} (h : IsFence c) : EndsUnaryOp c := by
  rcases h.cases with rfl | rfl | rfl | rfl <;> exact ⟨by decide, by decide, by decide⟩

section

variable {after : List Char} (h : Closing after)

include h

/-- A rule that neither takes a parenthesis or a quote nor looks behind one. -/
theorem passes_of_blind {length : List Char → Nat} {p : Char → Prop} {texts : List Char → Prop}
    (hblind : Blind length p) (hfence : ∀ c, IsFence c → p c) (htakes : Takes length texts) :
    Passes after length where
  append text := hblind text after (h.startsIn (hfence ')' (by decide)))
  le_length text := (htakes text).le_length
  surplus_drop text := by
    have hfree : ∀ c ∈ text.take (length text), ¬ IsFence c := fun c hc hfenced =>
      hblind.not_mem_take (fun text => (htakes text).le_length) hc (hfence c hfenced)
    have hdropped := surplus_append_of_not_isFence hfree (text.drop (length text))
    rwa [List.take_append_drop] at hdropped

theorem passes_keyword (spelling : String) : Passes after (keyword spelling) :=
  passes_of_blind h (blind_keyword spelling) (fun _ => IsFence.not_isWordPart)
    (keyword_takes spelling)

theorem passes_name : Passes after name :=
  passes_of_blind h blind_name (fun _ => IsFence.not_isWordPart) name_takes

theorem passes_boolean : Passes after boolean :=
  passes_of_blind h blind_boolean (fun _ => IsFence.not_isWordPart) boolean_takes

theorem passes_number : Passes after number :=
  passes_of_blind h blind_number (fun _ => IsFence.endsNumber) number_takes

theorem passes_unaryOp : Passes after unaryOp :=
  passes_of_blind h blind_unaryOp (fun _ => IsFence.endsUnaryOp) unaryOp_takes

theorem passes_symbol {c : Char} (hc : ¬ IsFence c) : Passes after (symbol c) :=
  passes_of_blind h (blind_symbol c) (fun _ hd heq => hc (heq ▸ hd)) (symbol_takes c)

theorem passes_single {c : Char} (hc : ¬ IsFence c) : Passes after (single c) :=
  passes_of_blind h (blind_single c) (fun _ hd heq => hc (heq ▸ hd)) (single_takes c)

theorem passes_oneOf {spellings : List String}
    (hspellings : spellings.all fun s => s.toList.all fun c => isPlain c && !decide (IsFence c)) :
    Passes after (oneOf spellings) := by
  have hboth : ∀ s ∈ spellings, ∀ c ∈ s.toList, isPlain c ∧ ¬ IsFence c := by
    intro s hs c hc
    have hchar := List.all_eq_true.mp (List.all_eq_true.mp hspellings s hs) c hc
    simpa only [Bool.and_eq_true, Bool.not_eq_true', decide_eq_false_iff_not] using hchar
  refine passes_of_blind h (blind_oneOf fun s hs c hc => (hboth s hs c hc).2) (fun _ => id)
    (oneOf_takes ?_)
  exact List.all_eq_true.mpr fun s hs => List.all_eq_true.mpr fun c hc => (hboth s hs c hc).1

end

/-! ### Strings -/

theorem quotedTail_of_not_mem {quote : Char} {text : List Char} (h : quote ∉ text) :
    quotedTail quote text = none := by
  cases htail : quotedTail quote text with
  | none => rfl
  | some count =>
      obtain ⟨body, after, rfl, -, -⟩ := quotedTail_eq_some htail
      exact absurd (List.mem_append_right body List.mem_cons_self) h

/-- What is behind a text without another quote does not end a string in the text. -/
theorem quotedTail_append {quote : Char} {after : List Char} (h : quote ∉ after)
    (text : List Char) : quotedTail quote (text ++ after) = quotedTail quote text := by
  fun_induction quotedTail quote text with
  | case1 => exact quotedTail_of_not_mem h
  | case2 =>
      cases after with
      | nil => exact if_pos rfl
      | cons d rest => rw [List.singleton_append, quotedTail, if_pos rfl]
  | case3 c hc =>
      refine quotedTail_of_not_mem fun hmem => ?_
      rcases List.mem_cons.mp hmem with heq | hafter
      · exact hc heq.symm
      · exact h hafter
  | case4 d rest => rw [List.cons_append, List.cons_append, quotedTail, if_pos rfl]
  | case5 d rest hquote =>
      rw [List.cons_append, List.cons_append, quotedTail, if_neg hquote, if_pos rfl]
  | case6 rest hquote hline =>
      rw [List.cons_append, List.cons_append, quotedTail, if_neg hquote, if_neg hline, if_pos rfl,
        if_pos rfl]
  | case7 d rest hd hquote hline ih =>
      rw [List.cons_append, List.cons_append, quotedTail, if_neg hquote, if_neg hline, if_pos rfl,
        if_neg hd, ih]
  | case8 c d rest hquote hline hbackslash ih =>
      rw [List.cons_append, List.cons_append, quotedTail, if_neg hquote, if_neg hline,
        if_neg hbackslash, ← List.cons_append, ih]

theorem passes_string {after : List Char} (h : Closing after) : Passes after string where
  append text := by
    have hquotes : ∀ quote, isQuote quote → quote ∉ after := by
      intro quote hquote hmem
      rw [h quote hmem] at hquote
      exact absurd hquote (by decide)
    cases text with
    | nil =>
        cases after with
        | nil => rfl
        | cons c rest =>
            obtain rfl := h c List.mem_cons_self
            rfl
    | cons c rest =>
        rw [List.cons_append, string, string]
        split_ifs with hc
        · have hquote : isQuote c := by simpa [isQuote] using hc
          rw [quotedTail_append (hquotes c hquote)]
        · rfl
  le_length text := (string_takes text).le_length
  surplus_drop text := by
    cases text with
    | nil => rfl
    | cons c rest =>
        rw [string]
        split_ifs with hc
        · cases htail : quotedTail c rest with
          | none => rfl
          | some count =>
              obtain ⟨body, after, rfl, rfl, hbody⟩ := quotedTail_eq_some htail
              have hquote : isQuote c := by simpa [isQuote] using hc
              have hdrop : (c :: (body ++ c :: after)).drop (body.length + 1 + 1) = after := by
                rw [List.drop_succ_cons, ← List.singleton_append, ← List.append_assoc]
                exact List.drop_left' (by simp)
              rw [← List.cons_append, surplus_quoted hquote hbody]
              exact congrArg surplus hdrop.symm
        · rfl

end Token

end TemplateScript
