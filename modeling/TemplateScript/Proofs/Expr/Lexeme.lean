import Mathlib.Data.List.TakeWhile
import TemplateScript.Expr.Grammar
import TemplateScript.Proofs.Document.Balance

/-!
# Written tokens

A token as it is meant: a mark of the language, a name, a natural number or a text. It is written in
one way, but a text in as many as there are quotes and escapes for it. The character at its front
tells the kinds of tokens apart, and none of them is a blank.
-/

namespace TemplateScript

inductive Lexeme where
  /-- A keyword or a sign. -/
  | mark (spelling : String)
  | name (spelling : String)
  | numeral (n : Nat)
  | string (content : String)
deriving DecidableEq, Repr

/-- A letter or an underscore with letters, digits and underscores after it, and no keyword. -/
def Token.isName : List Char → Bool
  | [] => false
  | c :: rest =>
    isWordStart c && rest.all isWordPart && !keywords.contains (c :: rest)

/-- The keywords and signs of expressions. -/
def marks : List String :=
  ["and", "or", "not", "nil", "true", "false", "==", "~=", "<=", ">=", "<", ">", "..", "+", "-",
    "*", "/", "//", "%", "^", "#", "=", "(", ")", "[", "]", "\x7b", "\x7d", ":", ",", ";"]

/-- The ways in which a lexeme is written. -/
inductive Lexeme.Spells : Lexeme → List Char → Prop
  | mark {spelling : String} (h : spelling ∈ marks) : Spells (.mark spelling) spelling.toList
  | name {spelling : String} (h : Token.isName spelling.toList) :
      Spells (.name spelling) spelling.toList
  | numeral {n : Nat} : Spells (.numeral n) (Nat.toDigits 10 n)
  | string {content : String} {quote : Char} {body : List Char} (hquote : isQuote quote)
      (hbody : QuotedBody quote body) (hcontent : Escape.decode body = content.toList) :
      Spells (.string content) (quote :: body ++ [quote])

/-- A mark is written in one way. -/
theorem Lexeme.Spells.of_mark {spelling : String} {text : List Char}
    (h : (Lexeme.mark spelling).Spells text) : text = spelling.toList := by
  cases h
  rfl

theorem Lexeme.Spells.of_name {spelling : String} {text : List Char}
    (h : (Lexeme.name spelling).Spells text) : text = spelling.toList := by
  cases h
  rfl

theorem Lexeme.Spells.of_numeral {n : Nat} {text : List Char}
    (h : (Lexeme.numeral n).Spells text) : text = Nat.toDigits 10 n := by
  cases h
  rfl

/-- Between the quotes of a string stands its text with escapes. -/
theorem Lexeme.Spells.unescape {content : String} {text : List Char}
    (h : (Lexeme.string content).Spells text) :
    TemplateScript.unescape (String.ofList (stringBody text)) = content := by
  cases h with
  | @string _ quote body hquote hbody hcontent =>
      have hinside : stringBody (quote :: body ++ [quote]) = body := by
        rw [stringBody, List.cons_append, List.tail_cons, List.dropLast_concat]
      rw [hinside, TemplateScript.unescape, String.toList_ofList, hcontent, String.ofList_toList]

/-- A text of blanks. -/
abbrev Gap (text : List Char) : Prop := ∀ c ∈ text, isBlank c

/-- A blank follows, or nothing. -/
def Gapped (text : List Char) : Prop := ∀ c rest, text = c :: rest → isBlank c

theorem gapped_nil : Gapped [] := fun _ _ h => nomatch h

/-! ### Characters -/

/-- The codes of the letters and the underscore. -/
def wordStartRanges : List (Nat × Nat) := [(65, 90), (95, 95), (97, 122)]

/-- The codes of the ten digits, the letters and the underscore. -/
def wordPartRanges : List (Nat × Nat) := (48, 57) :: wordStartRanges

theorem isWordStart_inRanges {c : Char} (h : Token.isWordStart c) :
    inRanges wordStartRanges c.toNat := by
  rw [Token.isWordStart, Bool.or_eq_true, beq_iff_eq] at h
  rcases h with halpha | rfl
  · rcases (Bool.or_eq_true c.isUpper c.isLower).mp halpha with hupper | hlower
    · have hbounds : 'A'.val ≤ c.val ∧ c.val ≤ 'Z'.val := of_decide_eq_true hupper
      exact inRanges_iff.mpr ⟨(65, 90), by decide, hbounds⟩
    · have hbounds : 'a'.val ≤ c.val ∧ c.val ≤ 'z'.val :=
        ((Bool.and_eq_true ..).mp hlower).imp of_decide_eq_true of_decide_eq_true
      exact inRanges_iff.mpr ⟨(97, 122), by decide, hbounds⟩
  · decide

theorem isWordPart_inRanges {c : Char} (h : Token.isWordPart c) :
    inRanges wordPartRanges c.toNat := by
  have hsplit : c.isDigit ∨ Token.isWordStart c := by
    simp only [Token.isWordPart, Char.isAlphanum, Token.isWordStart, Bool.or_eq_true] at h ⊢
    rwa [← or_assoc, or_comm (a := c.isDigit)]
  rcases hsplit with hdigit | hstart
  · exact inRanges_iff.mpr ⟨(48, 57), List.mem_cons_self, Char.isDigit_iff_toNat.mp hdigit⟩
  · obtain ⟨range, hmem, hrange⟩ := inRanges_iff.mp (isWordStart_inRanges hstart)
    exact inRanges_iff.mpr ⟨range, List.mem_cons_of_mem _ hmem, hrange⟩

theorem isDecimalDigit_iff {c : Char} :
    isDecimalDigit c ↔ inRanges (decimalZeros.map fun first => (first, first + 9)) c.toNat := by
  simp only [isDecimalDigit, decimalDigit?, Option.isSome_map, List.find?_isSome, inRanges_iff,
    List.mem_map, exists_exists_and_eq_and, decide_eq_true_eq, Nat.lt_succ_iff]

/-- No code lies in ranges that lie apart. -/
theorem inRanges_eq_false {left right : List (Nat × Nat)} {code : Nat}
    (hapart : left.all fun l => right.all fun r => decide (l.2 < r.1 ∨ r.2 < l.1))
    (h : inRanges left code) : inRanges right code = false := by
  rw [Bool.eq_false_iff, ne_eq, inRanges_iff]
  rintro ⟨r, hr, hr₁, hr₂⟩
  obtain ⟨l, hl, hl₁, hl₂⟩ := inRanges_iff.mp h
  have := of_decide_eq_true (List.all_eq_true.mp (List.all_eq_true.mp hapart l hl) r hr)
  omega

theorem not_isWordPart_of_isBlank {c : Char} (h : isBlank c) : Token.isWordPart c = false := by
  rw [Bool.eq_false_iff]
  intro hpart
  have hblank : inRanges blankRanges c.toNat := h
  have hnot : inRanges wordPartRanges c.toNat = false := inRanges_eq_false (by decide) hblank
  rw [isWordPart_inRanges hpart] at hnot
  cases hnot

theorem not_isWordStart_of_inRanges {ranges : List (Nat × Nat)} {c : Char}
    (hapart : ranges.all fun l => wordStartRanges.all fun r => decide (l.2 < r.1 ∨ r.2 < l.1))
    (h : inRanges ranges c.toNat) : Token.isWordStart c = false := by
  rw [Bool.eq_false_iff]
  intro hstart
  have hnot := inRanges_eq_false hapart h
  rw [isWordStart_inRanges hstart] at hnot
  cases hnot

theorem not_isWordStart_of_isBlank {c : Char} (h : isBlank c) : Token.isWordStart c = false :=
  not_isWordStart_of_inRanges (by decide) (show inRanges blankRanges c.toNat from h)

theorem not_isWordStart_of_isDigit {c : Char} (h : c.isDigit) : Token.isWordStart c = false :=
  not_isWordStart_of_inRanges (by decide) (show inRanges [(48, 57)] c.toNat from
    inRanges_iff.mpr ⟨(48, 57), List.mem_cons_self, Char.isDigit_iff_toNat.mp h⟩)

theorem not_isWordStart_of_isQuote {c : Char} (h : isQuote c) : Token.isWordStart c = false := by
  simp only [isQuote, Bool.or_eq_true, beq_iff_eq] at h
  rcases h with rfl | rfl <;> decide

theorem not_isDecimalDigit_of_inRanges {ranges : List (Nat × Nat)} {c : Char}
    (hapart : ranges.all fun l =>
      decimalZeros.all fun first => decide (l.2 < first ∨ first + 9 < l.1))
    (h : inRanges ranges c.toNat) : isDecimalDigit c = false := by
  rw [Bool.eq_false_iff, ne_eq, isDecimalDigit_iff, inRanges_eq_false ?_ h]
  · exact Bool.false_ne_true
  · simpa only [List.all_map, Function.comp_def] using hapart

theorem not_isDecimalDigit_of_isBlank {c : Char} (h : isBlank c) : isDecimalDigit c = false :=
  not_isDecimalDigit_of_inRanges (by decide) (show inRanges blankRanges c.toNat from h)

theorem not_isDecimalDigit_of_isWordStart {c : Char} (h : Token.isWordStart c) :
    isDecimalDigit c = false :=
  not_isDecimalDigit_of_inRanges (by decide) (isWordStart_inRanges h)

theorem decimalDigit?_of_isDigit {c : Char} (h : c.isDigit) :
    decimalDigit? c = some (c.toNat - 48) := by
  have hcode : 48 ≤ c.toNat ∧ c.toNat < 48 + 10 := by
    have := Char.isDigit_iff_toNat.mp h
    exact ⟨this.1, Nat.lt_succ_of_le this.2⟩
  rw [decimalDigit?, decimalZeros, List.find?_cons_of_pos (by simpa using hcode)]
  rfl

theorem isDecimalDigit_of_isDigit {c : Char} (h : c.isDigit) : isDecimalDigit c := by
  rw [isDecimalDigit, decimalDigit?_of_isDigit h]
  rfl

/-! ### Numerals -/

theorem isDigit_of_mem_numeral {n : Nat} {c : Char} (h : c ∈ Nat.toDigits 10 n) : c.isDigit :=
  Nat.isDigit_of_mem_toDigits (by decide) (by decide) h

theorem numeral_eq_cons (n : Nat) : ∃ c rest, Nat.toDigits 10 n = c :: rest ∧ c.isDigit := by
  obtain ⟨c, rest, heq⟩ := List.exists_cons_of_ne_nil (Nat.toDigits_ne_nil (n := n) (b := 10))
  exact ⟨c, rest, heq, isDigit_of_mem_numeral (heq ▸ List.mem_cons_self)⟩

theorem valueOfDigits_filterMap {text : List Char} (h : ∀ c ∈ text, c.isDigit) (start : Nat) :
    (text.filterMap alphanumericDigit?).foldl (fun value d => value * 10 + d) start =
      Nat.ofDigitChars 10 text start := by
  induction text generalizing start with
  | nil => rfl
  | cons c rest ih =>
      have hdigit : alphanumericDigit? c = some (c.toNat - 48) := by
        rw [alphanumericDigit?, decimalDigit?_of_isDigit (h c List.mem_cons_self)]
      rw [List.filterMap_cons_some hdigit, List.foldl_cons,
        ih fun d hd => h d (List.mem_cons_of_mem c hd), Nat.ofDigitChars_cons, Nat.mul_comm]
      rfl

theorem numeralValue_numeral (n : Nat) : numeralValue (Nat.toDigits 10 n) = .int n := by
  have hdigits : ∀ c ∈ Nat.toDigits 10 n, c.isDigit := fun _ => isDigit_of_mem_numeral
  have hplain : (Nat.toDigits 10 n).any (fun c => c == '.' || c == 'e' || c == 'E') = false := by
    rw [List.any_eq_false]
    intro c hc hmark
    have := hdigits c hc
    simp only [Bool.or_eq_true, beq_iff_eq] at hmark
    rcases hmark with (rfl | rfl) | rfl <;> exact absurd this (by decide)
  have hvalue : valueOfDigits 10 ((Nat.toDigits 10 n).filterMap alphanumericDigit?) = n := by
    rw [valueOfDigits, valueOfDigits_filterMap hdigits,
      Nat.ofDigitChars_toDigits (by decide) (by decide)]
  unfold numeralValue
  split
  · next heq => exact absurd (hdigits 'x' (by rw [heq]; simp)) (by decide)
  · next heq => exact absurd (hdigits 'X' (by rw [heq]; simp)) (by decide)
  · rw [hplain, hvalue]
    rfl

/-! ### The character at the front -/

/-- The characters that a lexeme may begin with. -/
def Lexeme.begins : Lexeme → Char → Bool
  | .mark spelling, c => spelling.toList.head? == some c
  | .name _, c => Token.isWordStart c
  | .numeral _, c => c.isDigit
  | .string _, c => isQuote c

theorem Lexeme.Spells.begins {t : Lexeme} {text : List Char} (h : t.Spells text) :
    ∃ c rest, text = c :: rest ∧ t.begins c := by
  cases h with
  | @mark spelling hmark =>
      have hall : marks.all fun s => s.toList ≠ [] := by decide
      obtain ⟨c, rest, heq⟩ := List.exists_cons_of_ne_nil
        (of_decide_eq_true (List.all_eq_true.mp hall spelling hmark))
      exact ⟨c, rest, heq, by rw [Lexeme.begins, heq]; exact beq_self_eq_true _⟩
  | @name spelling hname =>
      cases heq : spelling.toList with
      | nil => rw [heq] at hname; cases hname
      | cons c rest =>
          rw [heq, Token.isName, Bool.and_eq_true, Bool.and_eq_true] at hname
          exact ⟨c, rest, rfl, hname.1.1⟩
  | numeral => exact numeral_eq_cons _
  | @string _ quote body hquote => exact ⟨quote, body ++ [quote], rfl, hquote⟩

theorem Lexeme.Spells.not_isBlank {t : Lexeme} {text : List Char} (h : t.Spells text) {c : Char}
    (hc : t.begins c) : isBlank c = false := by
  rw [Bool.eq_false_iff]
  intro hblank
  cases h with
  | @mark spelling hmark =>
      have hall : marks.all fun s => s.toList.head?.all fun c => !isBlank c := by decide
      have hhead := List.all_eq_true.mp hall spelling hmark
      rw [beq_iff_eq.mp hc, Option.all_some, hblank] at hhead
      cases hhead
  | name =>
      rw [Lexeme.begins, not_isWordStart_of_isBlank hblank] at hc
      cases hc
  | numeral =>
      have hdigit := isDecimalDigit_of_isDigit hc
      rw [not_isDecimalDigit_of_isBlank hblank] at hdigit
      cases hdigit
  | string =>
      simp only [Lexeme.begins, isQuote, Bool.or_eq_true, beq_iff_eq] at hc
      rcases hc with rfl | rfl <;> exact absurd hblank (by decide)

def Lexeme.isMark : Lexeme → Bool
  | .mark _ => true
  | _ => false

/-- A lexeme that is no mark begins as a word, a numeral or a string. -/
theorem Lexeme.begins_of_not_isMark {t : Lexeme} (ht : t.isMark = false) {c : Char}
    (hc : t.begins c) : Token.isWordStart c ∨ c.isDigit ∨ isQuote c := by
  cases t with
  | mark => cases ht
  | name => exact .inl hc
  | numeral => exact .inr (.inl hc)
  | string => exact .inr (.inr hc)

end TemplateScript
