import Mathlib.Data.List.TakeWhile
import TemplateScript.Proofs.Expr.Boundary
import TemplateScript.Proofs.Expr.Lexeme

/-!
# Rules for tokens at a lexeme

What each rule for a token takes from the front of a text depends on the lexeme that stands there
alone, since a blank or the end of the text follows. Most rules see no further than the first blank,
so for a mark it is enough to look at what they take of its spelling.
-/

namespace TemplateScript

namespace Token

/-! ### Rules that are blind to blanks -/

/-- The rule takes from a text with a blank behind it what it takes from the text alone. -/
def Local (length : List Char → Nat) : Prop :=
  ∀ text after, Gapped after → length (text ++ after) = length text

theorem Blind.toLocal {length : List Char → Nat} {p : Char → Prop} (h : Blind length p)
    (hp : ∀ c, isBlank c → p c) : Local length :=
  h.mono hp

theorem local_keyword (spelling : String) : Local (keyword spelling) :=
  (blind_keyword spelling).toLocal fun _ => not_isWordPart_of_isBlank

theorem local_name : Local name :=
  blind_name.toLocal fun _ => not_isWordPart_of_isBlank

theorem local_oneOf {spellings : List String}
    (hspellings : spellings.all fun s => s.toList.all fun c => !isBlank c) :
    Local (oneOf spellings) := by
  refine (blind_oneOf fun s hs c hc hblank => ?_).toLocal fun _ => id
  have hplain := List.all_eq_true.mp (List.all_eq_true.mp hspellings s hs) c hc
  rw [hblank] at hplain
  cases hplain

theorem local_symbol {c : Char} (hc : isBlank c = false) : Local (symbol c) := by
  refine (blind_symbol c).toLocal fun d hd heq => ?_
  rw [heq, hd] at hc
  cases hc

theorem local_single {c : Char} (hc : isBlank c = false) : Local (single c) := by
  refine (blind_single c).toLocal fun d hd heq => ?_
  rw [heq, hd] at hc
  cases hc

theorem Local.max {left right : List Char → Nat} (hleft : Local left) (hright : Local right) :
    Local fun text => Nat.max (left text) (right text) := by
  intro text after h
  simp only [hleft text after h, hright text after h]

theorem local_boolean : Local boolean :=
  (local_keyword "true").max (local_keyword "false")

theorem local_unaryOp : Local unaryOp :=
  (local_keyword "not").max (local_oneOf (by decide))

/-! ### Rules at one lexeme -/

/-- The rule takes the whole lexeme. -/
def Accepts (length : List Char → Nat) (t : Lexeme) : Prop :=
  ∀ text after, t.Spells text → Gapped after → length (text ++ after) = text.length

/-- The rule takes nothing where the lexeme stands. -/
def Denies (length : List Char → Nat) (t : Lexeme) : Prop :=
  ∀ text after, t.Spells text → Gapped after → length (text ++ after) = 0

theorem Local.accepts {length : List Char → Nat} (h : Local length) {spelling : String}
    (hspelling : length spelling.toList = spelling.toList.length) :
    Accepts length (.mark spelling) := by
  rintro _ after ⟨-⟩ hafter
  rw [h _ after hafter, hspelling]

theorem Local.denies {length : List Char → Nat} (h : Local length) {spelling : String}
    (hspelling : length spelling.toList = 0) : Denies length (.mark spelling) := by
  rintro _ after ⟨-⟩ hafter
  rw [h _ after hafter, hspelling]

/-- The rule takes nothing in front of a character of a class. -/
def AbsentAt (length : List Char → Nat) (p : Char → Prop) : Prop :=
  ∀ c rest, p c → length (c :: rest) = 0

theorem absentAt_keyword {spelling : String} (hspelling : spelling.toList ≠ []) :
    AbsentAt (keyword spelling) (isWordStart · = false) := by
  intro c rest hc
  rw [keyword, word_of_not_isWordStart hc, if_neg hspelling.symm]

theorem absentAt_name : AbsentAt name (isWordStart · = false) := by
  intro c rest hc
  rw [name, word_of_not_isWordStart hc]
  rfl

theorem absentAt_symbol (c : Char) : AbsentAt (symbol c) (c ≠ ·) :=
  fun _ _ hc => if_neg hc

theorem absentAt_oneOf {spellings : List String} {p : Char → Prop}
    (h : ∀ s ∈ spellings, ∃ d more, s.toList = d :: more ∧ ¬ p d) :
    AbsentAt (oneOf spellings) p := by
  intro c rest hc
  have hnone : spellings.find? (fun s => s.toList.isPrefixOf (c :: rest)) = none := by
    rw [List.find?_eq_none]
    intro s hs
    obtain ⟨d, more, hspelling, hd⟩ := h s hs
    have hne : (d == c) = false := beq_eq_false_iff_ne.mpr fun heq => hd (heq ▸ hc)
    rw [hspelling, List.isPrefixOf_cons_cons, hne]
    exact Bool.false_ne_true
  rw [oneOf, hnone]

theorem absentAt_number : AbsentAt number fun c => isDecimalDigit c = false ∧ c ≠ '.' := by
  rintro c rest ⟨hdigit, hpoint⟩
  have hhex : hexNumber (c :: rest) = 0 := by
    unfold hexNumber
    split
    · next heq =>
        obtain ⟨rfl, -⟩ := List.cons.inj heq
        exact absurd hdigit (by decide)
    · rfl
  have hfraction : fraction (c :: rest) = 0 := by
    unfold fraction
    split
    · next heq => exact absurd (List.cons.inj heq).1 hpoint
    · rfl
  have hwhole : digits (c :: rest) = 0 := by
    rw [digits, List.takeWhile_cons_of_neg (by simp [hdigit]), List.length_nil]
  rw [number, if_pos hhex, decimalNumber, hwhole, List.drop_zero, hfraction]
  rfl

theorem absentAt_string : AbsentAt string (isQuote · = false) := by
  intro c rest hc
  rw [string, if_neg]
  simpa [isQuote] using hc

theorem AbsentAt.denies {length : List Char → Nat} {p : Char → Prop} (h : AbsentAt length p)
    {t : Lexeme} (hp : ∀ c, t.begins c → p c) : Denies length t := by
  intro text after htext _
  obtain ⟨c, rest, rfl, hc⟩ := htext.begins
  exact h c _ (hp c hc)

/-! ### Rules at numerals -/

theorem endsNumber_of_isBlank {c : Char} (h : isBlank c) : EndsNumber c := by
  refine ⟨not_isDecimalDigit_of_isBlank h, not_isWordPart_of_isBlank h, fun hmem => ?_⟩
  simp only [List.mem_cons, List.not_mem_nil, or_false] at hmem
  rcases hmem with rfl | rfl | rfl <;> exact absurd h (by decide)

theorem hexNumber_numeral (n : Nat) : hexNumber (Nat.toDigits 10 n) = 0 := by
  unfold hexNumber
  split
  · next x rest heq =>
      have hdigit : x.isDigit := isDigit_of_mem_numeral (n := n) (by rw [heq]; simp)
      refine if_neg fun hhex => ?_
      rcases hhex.1 with rfl | rfl <;> exact absurd hdigit (by decide)
  · rfl

theorem number_numeral (n : Nat) : number (Nat.toDigits 10 n) = (Nat.toDigits 10 n).length := by
  have hall : (Nat.toDigits 10 n).takeWhile isDecimalDigit = Nat.toDigits 10 n :=
    List.takeWhile_eq_self_iff.mpr fun _ hc => isDecimalDigit_of_isDigit (isDigit_of_mem_numeral hc)
  have hwhole : digits (Nat.toDigits 10 n) = (Nat.toDigits 10 n).length := by
    rw [digits, hall]
  rw [number, if_pos (hexNumber_numeral n), decimalNumber, hwhole, List.drop_length]
  simp [fraction, exponent]

theorem accepts_number (n : Nat) : Accepts number (.numeral n) := by
  rintro _ after ⟨-⟩ hafter
  rw [(blind_number.mono fun _ => endsNumber_of_isBlank) _ after hafter, number_numeral]

/-! ### Names -/

theorem word_of_isName {text : List Char} (h : isName text) : word text = text := by
  cases text with
  | nil => rfl
  | cons c rest =>
      simp only [isName, Bool.and_eq_true] at h
      rw [word, if_pos h.1.1, List.takeWhile_eq_self_iff.mpr (List.all_eq_true.mp h.1.2)]

theorem not_mem_keywords_of_isName {text : List Char} (h : isName text) :
    keywords.contains text = false := by
  cases text with
  | nil => rfl
  | cons c rest =>
      simp only [isName, Bool.and_eq_true, Bool.not_eq_true'] at h
      exact h.2

theorem accepts_name (spelling : String) : Accepts name (.name spelling) := by
  rintro _ after (_ | hname) hafter
  rw [local_name _ after hafter, name, word_of_isName hname,
    if_neg (by rw [not_mem_keywords_of_isName hname]; exact Bool.false_ne_true)]

/-- A name is no keyword, also where it begins with one. -/
theorem denies_keyword_name {keyword : String} (h : keywords.contains keyword.toList)
    (spelling : String) : Denies (Token.keyword keyword) (.name spelling) := by
  rintro _ after (_ | hname) hafter
  rw [local_keyword keyword _ after hafter, Token.keyword, word_of_isName hname, if_neg]
  intro heq
  rw [← heq, not_mem_keywords_of_isName hname] at h
  cases h

/-! ### Strings -/

theorem quotedTail_body {quote : Char} {body : List Char} (hquote : quote ≠ '\\')
    (h : QuotedBody quote body) (after : List Char) :
    quotedTail quote (body ++ quote :: after) = some (body.length + 1) := by
  induction h with
  | nil =>
      cases after with
      | nil => rw [List.nil_append, quotedTail, if_pos rfl]; rfl
      | cons d rest => rw [List.nil_append, quotedTail, if_pos rfl]; rfl
  | @char c rest hchar hbackslash hline _ ih =>
      obtain ⟨d, more, heq⟩ : ∃ d more, rest ++ quote :: after = d :: more := by
        cases rest with
        | nil => exact ⟨quote, after, rfl⟩
        | cons d more => exact ⟨d, more ++ quote :: after, rfl⟩
      rw [List.cons_append, heq, quotedTail, if_neg hchar, if_neg hline, if_neg hbackslash, ← heq,
        ih]
      rfl
  | @escaped c rest hline _ ih =>
      rw [List.cons_append, List.cons_append, quotedTail, if_neg hquote.symm, if_neg (by decide),
        if_pos rfl, if_neg hline, ih]
      rfl

theorem string_quoted {quote : Char} {body : List Char} (hquote : isQuote quote)
    (hbody : QuotedBody quote body) (after : List Char) :
    string (quote :: body ++ [quote] ++ after) = (quote :: body ++ [quote]).length := by
  simp only [isQuote, Bool.or_eq_true, beq_iff_eq] at hquote
  have hbackslash : quote ≠ '\\' := by rcases hquote with rfl | rfl <;> decide
  rw [List.append_assoc, List.cons_append, List.singleton_append, string, if_pos hquote,
    quotedTail_body hbackslash hbody]
  simp

theorem accepts_string (content : String) : Accepts string (.string content) := by
  rintro _ after (_ | _ | _ | ⟨hquote, hbody, -⟩) -
  exact string_quoted hquote hbody after

/-! ### Rules for marks at other lexemes -/

section

variable {t : Lexeme} (ht : t.isMark = false)

include ht

theorem denies_keyword {spelling : String} (h : keywords.contains spelling.toList) :
    Denies (keyword spelling) t := by
  have hne : spelling.toList ≠ [] := by
    intro heq
    rw [heq] at h
    cases h
  cases t with
  | mark => cases ht
  | name s => exact denies_keyword_name h s
  | numeral n => exact (absentAt_keyword hne).denies fun _ => not_isWordStart_of_isDigit
  | string s => exact (absentAt_keyword hne).denies fun _ => not_isWordStart_of_isQuote

theorem denies_boolean : Denies boolean t := by
  intro text after htext hafter
  have hkeyword : ∀ spelling ∈ ["true", "false"], Denies (keyword spelling) t := fun spelling hs =>
    denies_keyword ht (by revert spelling; decide)
  rw [boolean, hkeyword "true" (by decide) text after htext hafter,
    hkeyword "false" (by decide) text after htext hafter]
  rfl

theorem denies_unaryOp : Denies unaryOp t := by
  have hsigns : Denies (oneOf ["-", "#"]) t := by
    refine (absentAt_oneOf ?_).denies fun _ => Lexeme.begins_of_not_isMark ht
    intro s hs
    simp only [List.mem_cons, List.not_mem_nil, or_false] at hs
    rcases hs with rfl | rfl
    · exact ⟨'-', [], rfl, by decide⟩
    · exact ⟨'#', [], rfl, by decide⟩
  intro text after htext hafter
  have hnot : Denies (keyword "not") t := denies_keyword ht (by decide)
  rw [unaryOp, hnot text after htext hafter, hsigns text after htext hafter]
  rfl

theorem denies_symbol {c : Char} (hc : ¬ (isWordStart c ∨ c.isDigit ∨ isQuote c)) :
    Denies (symbol c) t := by
  refine (absentAt_symbol c).denies fun d hd heq => ?_
  rw [heq] at hc
  exact hc (Lexeme.begins_of_not_isMark ht hd)

end

/-- Neither numerals nor strings stand where a mark does. -/
theorem denies_number_mark {spelling : String}
    (h : spelling.toList.head?.all fun c => !isDecimalDigit c && c != '.') :
    Denies number (.mark spelling) := by
  refine absentAt_number.denies fun c hc => ?_
  rw [beq_iff_eq.mp hc, Option.all_some, Bool.and_eq_true, Bool.not_eq_true', bne_iff_ne] at h
  exact h

theorem denies_string_mark {spelling : String}
    (h : spelling.toList.head?.all fun c => !isQuote c) : Denies string (.mark spelling) := by
  refine absentAt_string.denies fun c hc => ?_
  rwa [beq_iff_eq.mp hc, Option.all_some, Bool.not_eq_true'] at h

end Token

end TemplateScript
