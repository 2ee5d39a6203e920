import TemplateScript.Proofs.Expr.Balance

/-!
# Where tokens end

A rule for a token is blind to a character that can neither stand in its token nor decide whether
the token ends: it takes from a text what it takes from the part in front of such a character.
-/

namespace TemplateScript

namespace Token

/-- The text begins with a character of the class, if with any. -/
def StartsIn (p : Char → Prop) (text : List Char) : Prop :=
  ∀ c rest, text = c :: rest → p c

/-- In front of a character of the class the rule takes what it takes in front of nothing. -/
def Blind (length : List Char → Nat) (p : Char → Prop) : Prop :=
  ∀ text after, StartsIn p after → length (text ++ after) = length text

variable {p q : Char → Prop} {after : List Char}

theorem startsIn_nil : StartsIn p [] := fun _ _ h => nomatch h

theorem startsIn_cons {c : Char} (h : p c) (rest : List Char) : StartsIn p (c :: rest) := by
  intro d more heq
  obtain ⟨rfl, -⟩ := List.cons.inj heq
  exact h

theorem StartsIn.mono (h : StartsIn p after) (himp : ∀ c, p c → q c) : StartsIn q after :=
  fun c rest heq => himp c (h c rest heq)

theorem Blind.mono {length : List Char → Nat} (h : Blind length q) (himp : ∀ c, p c → q c) :
    Blind length p :=
  fun text after hafter => h text after (hafter.mono himp)

theorem Blind.max {left right : List Char → Nat} (hleft : Blind left p) (hright : Blind right p) :
    Blind (fun text => Nat.max (left text) (right text)) p := by
  intro text after h
  simp only [hleft text after h, hright text after h]

/-! ### Words -/

theorem takeWhile_append_of_startsIn {class' : Char → Bool}
    (h : StartsIn (class' · = false) after) (text : List Char) :
    (text ++ after).takeWhile class' = text.takeWhile class' := by
  induction text with
  | nil =>
      cases after with
      | nil => rfl
      | cons c rest => exact List.takeWhile_cons_of_neg (by simp [h c rest rfl])
  | cons c rest ih => rw [List.cons_append, List.takeWhile_cons, List.takeWhile_cons, ih]

theorem word_of_not_isWordStart {c : Char} (h : isWordStart c = false) (rest : List Char) :
    word (c :: rest) = [] := by
  rw [word, h]
  rfl

theorem isWordStart_eq_false {c : Char} (h : isWordPart c = false) : isWordStart c = false := by
  simp only [isWordPart, Char.isAlphanum, Bool.or_eq_false_iff] at h
  simp only [isWordStart, h.1.1, h.2, Bool.or_false]

theorem word_append_of_startsIn (h : StartsIn (isWordPart · = false) after) (text : List Char) :
    word (text ++ after) = word text := by
  cases text with
  | nil =>
      cases after with
      | nil => rfl
      | cons c rest => exact word_of_not_isWordStart (isWordStart_eq_false (h c rest rfl)) rest
  | cons c rest =>
      rw [List.cons_append, word, word, takeWhile_append_of_startsIn h]

theorem blind_keyword (spelling : String) : Blind (keyword spelling) (isWordPart · = false) := by
  intro text after h
  rw [keyword, keyword, word_append_of_startsIn h]

theorem blind_name : Blind name (isWordPart · = false) := by
  intro text after h
  rw [name, name, word_append_of_startsIn h]

theorem blind_boolean : Blind boolean (isWordPart · = false) :=
  (blind_keyword "true").max (blind_keyword "false")

/-! ### Signs -/

theorem isPrefixOf_append_of_startsIn {spelling : List Char} (hspelling : ∀ c ∈ spelling, ¬ p c)
    (h : StartsIn p after) (text : List Char) :
    spelling.isPrefixOf (text ++ after) = spelling.isPrefixOf text := by
  induction spelling generalizing text with
  | nil => rfl
  | cons c rest ih =>
      obtain ⟨hfirst, hrest⟩ := List.forall_mem_cons.mp hspelling
      cases text with
      | nil =>
          cases after with
          | nil => rfl
          | cons d more =>
              have hne : (c == d) = false := by
                rw [beq_eq_false_iff_ne]
                rintro rfl
                exact hfirst (h c more rfl)
              rw [List.nil_append, List.isPrefixOf_cons_cons, hne]
              rfl
      | cons d more =>
          rw [List.cons_append, List.isPrefixOf_cons_cons, List.isPrefixOf_cons_cons, ih hrest]

theorem blind_oneOf {spellings : List String} (h : ∀ s ∈ spellings, ∀ c ∈ s.toList, ¬ p c) :
    Blind (oneOf spellings) p := by
  intro text after hafter
  induction spellings with
  | nil => rfl
  | cons s rest ih =>
      obtain ⟨hfirst, hrest⟩ := List.forall_mem_cons.mp h
      have hothers := ih hrest
      rw [oneOf, oneOf] at hothers ⊢
      rw [List.find?_cons, List.find?_cons, isPrefixOf_append_of_startsIn hfirst hafter]
      cases s.toList.isPrefixOf text with
      | true => rfl
      | false => exact hothers

theorem blind_symbol (c : Char) : Blind (symbol c) (c ≠ ·) := by
  intro text after h
  cases text with
  | cons d rest => rfl
  | nil =>
      cases after with
      | nil => rfl
      | cons d rest => exact if_neg (h d rest rfl)

theorem blind_single (c : Char) : Blind (single c) (c ≠ ·) := by
  intro text after h
  match text, after with
  | _, [] => rw [List.append_nil]
  | [], [d] =>
      rw [List.nil_append, single, if_neg (h d [] rfl)]
      rfl
  | [], d :: e :: rest =>
      rw [List.nil_append, single, if_neg fun hd => h d (e :: rest) rfl hd.1]
      rfl
  | [d], e :: rest =>
      rw [List.singleton_append, single, single]
      exact if_congr (and_iff_left (h e rest rfl)) rfl rfl
  | d :: e :: rest, _ => rfl

/-- A character that is in no word and is no unary sign. -/
def EndsUnaryOp (c : Char) : Prop := isWordPart c = false ∧ c ≠ '-' ∧ c ≠ '#'

theorem blind_unaryOp : Blind unaryOp EndsUnaryOp := by
  have hword : Blind (keyword "not") EndsUnaryOp := (blind_keyword "not").mono fun _ h => h.1
  have hsigns : Blind (oneOf ["-", "#"]) EndsUnaryOp := by
    refine blind_oneOf fun s hs c hc hends => ?_
    simp only [List.mem_cons, List.not_mem_nil, or_false] at hs
    rcases hs with rfl | rfl
    · exact hends.2.1 (List.mem_singleton.mp hc)
    · exact hends.2.2 (List.mem_singleton.mp hc)
  exact hword.max hsigns

/-! ### Numerals -/

/-- A character that is in no numeral. -/
def EndsNumber (c : Char) : Prop :=
  isDecimalDigit c = false ∧ isWordPart c = false ∧ c ∉ ['.', '+', '-']

theorem isWordPart_of_isHexDigit {c : Char} (h : isHexDigit c) : isWordPart c := by
  simp only [isHexDigit, Bool.or_eq_true, Bool.and_eq_true, decide_eq_true_eq, Char.le_def] at h
  simp only [isWordPart, Char.isAlphanum, Bool.or_eq_true]
  have hletters : 'f'.val ≤ 'z'.val ∧ 'F'.val ≤ 'Z'.val := by decide
  rcases h with (hdigit | ⟨hlow, hhigh⟩) | ⟨hlow, hhigh⟩
  · exact .inl (.inr hdigit)
  · have hlower : c.isLower := (Bool.and_eq_true ..).mpr
      ⟨decide_eq_true hlow, decide_eq_true (UInt32.le_trans hhigh hletters.1)⟩
    exact .inl (.inl ((Bool.or_eq_true ..).mpr (.inr hlower)))
  · have hupper : c.isUpper := decide_eq_true ⟨hlow, UInt32.le_trans hhigh hletters.2⟩
    exact .inl (.inl ((Bool.or_eq_true ..).mpr (.inl hupper)))

theorem EndsNumber.isHexDigit {c : Char} (h : EndsNumber c) : isHexDigit c = false := by
  rw [Bool.eq_false_iff]
  intro hhex
  have hpart := h.2.1
  rw [isWordPart_of_isHexDigit hhex] at hpart
  cases hpart

theorem blind_digits : Blind digits (isDecimalDigit · = false) := by
  intro text after h
  rw [digits, digits, takeWhile_append_of_startsIn h]

theorem blind_hexNumber : Blind hexNumber EndsNumber := by
  intro text after h
  have hhex : StartsIn (TemplateScript.isHexDigit · = false) after :=
    h.mono fun _ hc => hc.isHexDigit
  have hzero : ∀ rest, after ≠ '0' :: rest := by
    rintro rest rfl
    exact absurd (h '0' rest rfl).1 (by decide)
  match text with
  | [] =>
      rw [List.nil_append]
      unfold hexNumber
      split
      · exact absurd rfl (hzero _)
      · rfl
  | [c] =>
      by_cases hc : c = '0'
      · subst hc
        cases after with
        | nil => rfl
        | cons x rest =>
            have hx : ¬ (x = 'x' ∨ x = 'X') := by
              rintro (rfl | rfl) <;> exact absurd (h _ rest rfl).2.1 (by decide)
            simp only [List.singleton_append, hexNumber, hx, false_and, if_false]
      · simp [hexNumber, hc]
  | c :: x :: rest =>
      by_cases hc : c = '0'
      · subst hc
        simp only [List.cons_append, hexNumber, takeWhile_append_of_startsIn hhex]
      · simp [hexNumber, hc]

theorem fraction_of_startsIn (h : StartsIn EndsNumber after) : fraction after = 0 := by
  unfold fraction
  split
  · exact absurd (h _ _ rfl).2.2 (by decide)
  · rfl

theorem exponent_of_startsIn (h : StartsIn EndsNumber after) : exponent after = 0 := by
  cases after with
  | nil => rfl
  | cons c rest =>
      have hmark : ¬ (c = 'e' ∨ c = 'E') := by
        rintro (rfl | rfl) <;> exact absurd (h _ _ rfl).2.1 (by decide)
      simp only [exponent, if_neg hmark]

theorem digits_append_of_startsIn (h : StartsIn EndsNumber after) (text : List Char) :
    digits (text ++ after) = digits text :=
  blind_digits text after (h.mono fun _ hc => hc.1)

theorem blind_fraction : Blind fraction EndsNumber := by
  intro text after h
  cases text with
  | nil => exact fraction_of_startsIn h
  | cons c rest =>
      by_cases hc : c = '.'
      · subst hc
        simp only [List.cons_append, fraction, digits_append_of_startsIn h]
      · simp [fraction, hc]

theorem blind_exponent : Blind exponent EndsNumber := by
  intro text after h
  match text with
  | [] => exact exponent_of_startsIn h
  | [e] =>
      cases after with
      | nil => rfl
      | cons c more =>
          have hends := h c more rfl
          have hsign : ¬ (c = '+' ∨ c = '-') := by
            rintro (rfl | rfl) <;> exact absurd hends.2.2 (by decide)
          have hdigits : digits (c :: more) = 0 := digits_append_of_startsIn h []
          simp only [List.singleton_append, exponent, if_neg hsign, hdigits, if_true]
  | e :: sign :: more =>
      have hmore := digits_append_of_startsIn h more
      have hsigned := digits_append_of_startsIn h (sign :: more)
      rw [List.cons_append] at hsigned
      simp only [List.cons_append, exponent, hmore, hsigned]

theorem blind_decimalNumber : Blind decimalNumber EndsNumber := by
  intro text after h
  have hwhole : digits text ≤ text.length := (digits_takes text).le_length
  have hmantissa : TakesFrom (fun _ => True) text
      (digits text + fraction (text.drop (digits text))) :=
    (digits_takes text).join fraction_takes fun _ _ _ _ => trivial
  rw [decimalNumber, decimalNumber, digits_append_of_startsIn h,
    List.drop_append_of_le_length hwhole, blind_fraction _ after h]
  simp only [List.drop_append_of_le_length hmantissa.le_length, blind_exponent _ after h]

theorem blind_number : Blind number EndsNumber := by
  intro text after h
  rw [number, number, blind_hexNumber text after h, blind_decimalNumber text after h]

end Token

end TemplateScript
