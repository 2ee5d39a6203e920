import TemplateScript.Proofs.Expr.Follower

/-!
# Phrases between lexemes

What the rules of the grammar read where the lexemes of an expression stand. The rules that contain
themselves are given, with what they read, and each phrase is put together from its parts.
-/

namespace TemplateScript

/-- Of all literals, only one that a numeral was read for can be too long. -/
theorem overlongInteger?_literal {value : Value} {loc : Location}
    (h : loc.tag = some "number" → ∀ text, loc.text = some text → text.length ≤ digitLimit) :
    (Expr.literal value (some loc)).overlongInteger? = none := by
  unfold Expr.overlongInteger?
  split
  · next heq =>
      obtain ⟨-, hloc⟩ := Expr.literal.inj heq
      obtain rfl := Option.some.inj hloc
      rw [decide_eq_false (Nat.not_lt.mpr (h rfl _ rfl)), Bool.and_false]
      rfl
  all_goals first | rfl | contradiction

namespace Grammar

open Reader

variable {rules : Rules} {more : List Lexeme}

/-! ### Signs -/

theorem reads_symbol {c : Char} {spelling : String} (hc : isBlank c = false)
    (h : spelling.toList = [c]) :
    Reads Stands (Gives (symbol c)) [.mark spelling] more fun _ => True := by
  have haccepts : Token.Accepts (Token.symbol c) (.mark spelling) :=
    (Token.local_symbol hc).accepts (by rw [h, Token.symbol, if_pos rfl]; rfl)
  exact Reads.last (reads_token haccepts) fun _ _ => reads_pure trivial

theorem rejects_symbol {c : Char} {t : Lexeme} (h : Token.Denies (Token.symbol c) t) :
    Rejects Stands (symbol c) (t :: more) :=
  (rejects_token h).bind fun _ => pure ()

theorem denies_symbol {c : Char} {spelling : String} (hc : isBlank c = false)
    (h : Token.symbol c spelling.toList = 0) : Token.Denies (Token.symbol c) (.mark spelling) :=
  (Token.local_symbol hc).denies h

theorem reads_assignmentSign :
    Reads Stands (Gives assignmentSign) [.mark "="] more fun _ => True := by
  have haccepts : Token.Accepts (Token.single '=') (.mark "=") :=
    (Token.local_single (by decide)).accepts rfl
  exact Reads.last (reads_token haccepts) fun _ _ => reads_pure trivial

theorem rejects_assignmentSign (h : Stops 10 more) : Rejects Stands assignmentSign more :=
  (h.rejects_local (Token.local_single (c := '=') (by decide)) rfl (by decide)).bind
    fun _ => pure ()

/-! ### Literals and names -/

/-- The rules for literals and names reject a lexeme that their token is not. -/
theorem rejects_locatedToken {α : Type} {length : List Char → Nat} {t : Lexeme} {tag : String}
    {next : String × Location → Reader α} (h : Token.Denies length t) :
    Rejects Stands (locatedToken tag length >>= next) (t :: more) :=
  ((rejects_token h).locatedToken tag).bind next

/-- A literal is read from one token, which is no numeral. -/
theorem reads_literal {length : List Char → Nat} {t : Lexeme} {tag : String} {value : Value}
    (valueOf : String → Value) (h : Token.Accepts length t) (htag : tag ≠ "number")
    (hvalue : ∀ text : String, t.Spells text.toList → valueOf text = value)
    (loc : Option Location) :
    Reads Stands (Gives (do
      let (text, loc) ← locatedToken tag length
      return .literal (valueOf text) (some loc) : Reader Expr)) [t] more
        (·.Recovers (.literal value loc)) := by
  refine Reads.last (reads_locatedToken h tag) fun ⟨text, place⟩ ⟨htext, hplace, _⟩ => ?_
  refine reads_pure ⟨?_, overlongInteger?_literal fun hnumber => ?_⟩
  · exact congrArg (Expr.literal · none) (hvalue text htext)
  · exact absurd (Option.some.inj (hplace.symm.trans hnumber)) htag

theorem reads_nil (loc : Option Location) :
    Reads Stands (Gives (primary rules)) [.mark "nil"] more (·.Recovers (.literal .nil loc)) := by
  have haccepts : Token.Accepts (Token.keyword "nil") (.mark "nil") :=
    (Token.local_keyword "nil").accepts rfl
  have htag : "nil" ≠ "number" := by decide
  exact (reads_literal (fun _ => .nil) haccepts htag (fun _ _ => rfl) loc).orElse _

theorem reads_bool (b : Bool) (loc : Option Location) :
    Reads Stands (Gives (primary rules)) [.mark (if b then "true" else "false")] more
      (·.Recovers (.literal (.bool b) loc)) := by
  have haccepts : Token.Accepts Token.boolean (.mark (if b then "true" else "false")) :=
    Token.local_boolean.accepts (by cases b <;> rfl)
  have hnil : Token.Denies (Token.keyword "nil") (.mark (if b then "true" else "false")) :=
    (Token.local_keyword "nil").denies (by cases b <;> rfl)
  have htag : "boolean" ≠ "number" := by decide
  have hread : Reads Stands (Gives booleanLiteral) [.mark (if b then "true" else "false")] more
      (·.Recovers (.literal (.bool b) loc)) := by
    refine reads_literal (fun text => .bool (text == "true")) haccepts htag (fun text htext => ?_)
      loc
    obtain rfl : text = if b then "true" else "false" := String.toList_injective htext.of_mark
    cases b <;> rfl
  exact (rejects_locatedToken hnil).reads_orElse (hread.orElse _)

theorem reads_int {n : Nat} (h : (Nat.toDigits 10 n).length ≤ digitLimit) (loc : Option Location) :
    Reads Stands (Gives (primary rules)) [.numeral n] more
      (·.Recovers (.literal (.number (.int n)) loc)) := by
  have hnil : Token.Denies (Token.keyword "nil") (.numeral n) :=
    Token.denies_keyword rfl (by decide)
  have hread : Reads Stands (Gives numberLiteral) [.numeral n] more
      (·.Recovers (.literal (.number (.int n)) loc)) := by
    refine Reads.last (reads_locatedToken (Token.accepts_number n) "number") ?_
    rintro ⟨text, place⟩ ⟨htext, -, hplace⟩
    obtain hdigits : text.toList = Nat.toDigits 10 n := htext.of_numeral
    refine reads_pure ⟨?_, overlongInteger?_literal fun _ shown hshown => ?_⟩
    · rw [hdigits, numeralValue_numeral]
      rfl
    · obtain rfl := Option.some.inj (hplace.symm.trans hshown)
      rwa [← String.length_toList, hdigits]
  exact (rejects_locatedToken hnil).reads_orElse
    ((rejects_locatedToken (Token.denies_boolean rfl)).reads_orElse (hread.orElse _))

theorem reads_stringLiteral (content : String) (loc : Option Location) :
    Reads Stands (Gives stringLiteral) [.string content] more
      (·.Recovers (.literal (.str content) loc)) := by
  have htag : "string" ≠ "number" := by decide
  refine reads_literal (fun text => .str (unescape (String.ofList (stringBody text.toList))))
    (Token.accepts_string content) htag (fun text htext => ?_) loc
  rw [htext.unescape]

theorem reads_str (content : String) (loc : Option Location) :
    Reads Stands (Gives (primary rules)) [.string content] more
      (·.Recovers (.literal (.str content) loc)) := by
  have hnil : Token.Denies (Token.keyword "nil") (.string content) :=
    Token.denies_keyword rfl (by decide)
  have hnumber : Token.Denies Token.number (.string content) := by
    refine Token.absentAt_number.denies fun c hc => ?_
    simp only [Lexeme.begins, isQuote, Bool.or_eq_true, beq_iff_eq] at hc
    rcases hc with rfl | rfl <;> decide
  exact (rejects_locatedToken hnil).reads_orElse <|
    (rejects_locatedToken (Token.denies_boolean rfl)).reads_orElse <|
      (rejects_locatedToken hnumber).reads_orElse ((reads_stringLiteral content loc).orElse _)

/-- A lexeme at which no literal is read. -/
structure DeniesLiterals (t : Lexeme) : Prop where
  nil : Token.Denies (Token.keyword "nil") t
  boolean : Token.Denies Token.boolean t
  number : Token.Denies Token.number t
  string : Token.Denies Token.string t

theorem deniesLiterals_bracket {spelling : String} (h : spelling ∈ ["(", ")", "\x7b", "\x7d"]) :
    DeniesLiterals (.mark spelling) := by
  have hnil : ∀ s ∈ ["(", ")", "\x7b", "\x7d"], Token.keyword "nil" s.toList = 0 := by decide
  have hboolean : ∀ s ∈ ["(", ")", "\x7b", "\x7d"], Token.boolean s.toList = 0 := by decide
  have hnumber : ∀ s ∈ ["(", ")", "\x7b", "\x7d"],
      s.toList.head?.all fun c => !isDecimalDigit c && c != '.' := by decide
  have hstring : ∀ s ∈ ["(", ")", "\x7b", "\x7d"],
      s.toList.head?.all fun c => !isQuote c := by decide
  exact ⟨(Token.local_keyword "nil").denies (hnil spelling h),
    Token.local_boolean.denies (hboolean spelling h),
    Token.denies_number_mark (hnumber spelling h), Token.denies_string_mark (hstring spelling h)⟩

theorem deniesLiterals_name (spelling : String) : DeniesLiterals (.name spelling) where
  nil := Token.denies_keyword rfl (by decide)
  boolean := Token.denies_boolean rfl
  number := Token.absentAt_number.denies fun c hc =>
    ⟨not_isDecimalDigit_of_isWordStart hc, by rintro rfl; cases hc⟩
  string := Token.absentAt_string.denies fun c hc => by
    rw [Bool.eq_false_iff]
    intro hquote
    simp only [isQuote, Bool.or_eq_true, beq_iff_eq] at hquote
    rcases hquote with rfl | rfl <;> cases hc

/-- The rules for literals are passed over. -/
theorem DeniesLiterals.reads_primary {t : Lexeme} {ts : List Lexeme} {post : Expr → Prop}
    (h : DeniesLiterals t)
    (hread : Reads Stands (Gives (tableConstructor rules <|> group rules <|> variableName))
      (t :: ts) more post) :
    Reads Stands (Gives (primary rules)) (t :: ts) more post :=
  (rejects_locatedToken h.nil).reads_orElse <| (rejects_locatedToken h.boolean).reads_orElse <|
    (rejects_locatedToken h.number).reads_orElse <|
      (rejects_locatedToken h.string).reads_orElse hread

theorem rejects_tableConstructor {t : Lexeme} (h : Token.Denies (Token.symbol '\x7b') t) :
    Rejects Stands (tableConstructor rules) (t :: more) :=
  (((rejects_symbol h).bind _).located "table").bind _

theorem rejects_group {t : Lexeme} (h : Token.Denies (Token.symbol '(') t) :
    Rejects Stands (group rules) (t :: more) :=
  (((rejects_symbol h).bind _).located "group").bind _

theorem reads_name (spelling : String) :
    Reads Stands (Gives name) [.name spelling] more fun found =>
      found.1 = spelling ∧ found.2.tag = some "name" :=
  (reads_locatedToken (Token.accepts_name spelling) "name").mono fun _ hfound =>
    ⟨String.toList_injective hfound.1.of_name, hfound.2.1⟩

theorem reads_variable (spelling : String) (loc : Option Location) :
    Reads Stands (Gives (primary rules)) [.name spelling] more
      (·.Recovers (.variable spelling loc)) := by
  have hread : Reads Stands (Gives variableName) [.name spelling] more
      (·.Recovers (.variable spelling loc)) := by
    refine Reads.last (reads_name spelling) ?_
    rintro ⟨text, place⟩ ⟨rfl, -⟩
    exact reads_pure ⟨rfl, rfl⟩
  refine (deniesLiterals_name spelling).reads_primary ?_
  exact (rejects_tableConstructor (Token.denies_symbol rfl (by decide))).reads_orElse <|
    (rejects_group (Token.denies_symbol rfl (by decide))).reads_orElse hread

/-- At a closing bracket no operand begins. -/
theorem rejects_primary {spelling : String} (h : spelling ∈ [")", "\x7d"]) :
    Rejects Stands (primary rules) (.mark spelling :: more) := by
  have hliterals : DeniesLiterals (.mark spelling) := by
    refine deniesLiterals_bracket ?_
    simp only [List.mem_cons, List.not_mem_nil, or_false] at h ⊢
    tauto
  have hbrace : ∀ s ∈ [")", "\x7d"], Token.symbol '\x7b' s.toList = 0 := by decide
  have hparen : ∀ s ∈ [")", "\x7d"], Token.symbol '(' s.toList = 0 := by decide
  have hname : ∀ s ∈ [")", "\x7d"], Token.name s.toList = 0 := by decide
  exact (rejects_locatedToken hliterals.nil).orElse <|
    (rejects_locatedToken hliterals.boolean).orElse <|
    (rejects_locatedToken hliterals.number).orElse <|
    (rejects_locatedToken hliterals.string).orElse <|
    (rejects_tableConstructor (denies_symbol (by decide) (hbrace spelling h))).orElse <|
    (rejects_group (denies_symbol (by decide) (hparen spelling h))).orElse <|
    rejects_locatedToken (Token.local_name.denies (hname spelling h))

/-! ### Brackets -/

theorem reads_enclosed {opening closing : Char} {left right : String} {ts : List Lexeme}
    {post : Expr → Prop} (hleft : isBlank opening = false ∧ left.toList = [opening])
    (hright : isBlank closing = false ∧ right.toList = [closing]) (hends : (right, 0) ∈ followers)
    (hinner : ∀ more, Stops 1 more → Reads Stands (Gives rules.expression) ts more post) :
    Reads Stands (Gives (enclosed rules opening closing)) (bracketed left right ts) more post := by
  have hinside : Reads Behind (Gives (spaced rules.expression)) ts (.mark right :: more) post :=
    (hinner _ (stops_end hends more)).spaced
  have hbehind : ∀ inner, post inner → Reads Behind (Gives do
      spaced (symbol closing)
      return inner) [.mark right] more post := fun inner hpost =>
    Reads.last (reads_symbol hright.1 hright.2).spaced fun _ _ => reads_pure hpost
  have hall : Reads Stands (Gives (enclosed rules opening closing))
      ([.mark left] ++ (ts ++ [.mark right])) more post :=
    Reads.bind (reads_symbol hleft.1 hleft.2) fun _ _ => Reads.bind hinside hbehind
  exact hall

theorem reads_group {inner : Expr} {ts : List Lexeme} (loc : Option Location)
    (hinner : ∀ more, Stops 1 more →
      Reads Stands (Gives rules.expression) ts more (·.Recovers inner)) :
    Reads Stands (Gives (primary rules)) (bracketed "(" ")" ts) more
      (·.Recovers (.paren inner loc)) := by
  have hread : Reads Stands (Gives (group rules)) (bracketed "(" ")" ts) more
      (·.Recovers (.paren inner loc)) := by
    have henclosed : Reads Stands (Gives (enclosed rules '(' ')')) (bracketed "(" ")" ts) more
        (·.Recovers inner) :=
      reads_enclosed ⟨by decide, rfl⟩ ⟨by decide, rfl⟩ (by decide) hinner
    refine Reads.last (henclosed.located "group") ?_
    rintro ⟨found, place⟩ hfound
    exact reads_pure ⟨congrArg (Expr.paren · none) hfound.unlocated, hfound.overlong⟩
  refine (deniesLiterals_bracket (by decide)).reads_primary ?_
  exact (rejects_tableConstructor (denies_symbol (by decide) rfl)).reads_orElse (hread.orElse _)

end Grammar

end TemplateScript
