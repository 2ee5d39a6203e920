import TemplateScript.Proofs.Expr.Adjacent
import TemplateScript.Proofs.Expr.RoundTrip
import TemplateScript.Value.Text

/-!
# Texts that values are displayed as

What the grammar reads where a literal or a table is displayed, and a sign that closes it follows.
A negative number is read as a sign and a numeral. In a table the first character of a field tells
whether it has a key in brackets, and a name in front of a sign of assignment is a key that stands
for itself.
-/

namespace TemplateScript

open Token Reader Grammar

/-! ### Literals -/

/-- The numeral of a natural number, with a sign in front of a negative one. -/
def integerExpr (n : Int) : Expr :=
  let numeral := .literal (.ofInt n.natAbs) none
  if n < 0 then .unary .neg numeral none else numeral

namespace Token

/-- A character with which no word and no unary operator begins. -/
def OpensNoWord (c : Char) : Prop := isWordStart c = false ∧ c ≠ '-' ∧ c ≠ '#'

theorem absentAt_boolean : AbsentAt boolean (isWordStart · = false) := by
  intro c rest hc
  have htrue : keyword "true" (c :: rest) = 0 := absentAt_keyword (by decide) c rest hc
  have hfalse : keyword "false" (c :: rest) = 0 := absentAt_keyword (by decide) c rest hc
  rw [boolean, htrue, hfalse]
  rfl

theorem absentAt_unaryOp : AbsentAt unaryOp OpensNoWord := by
  have hsigns : AbsentAt (oneOf ["-", "#"]) OpensNoWord := by
    refine absentAt_oneOf fun s hs => ?_
    simp only [List.mem_cons, List.not_mem_nil, or_false] at hs
    rcases hs with rfl | rfl
    · exact ⟨'-', [], rfl, fun h => h.2.1 rfl⟩
    · exact ⟨'#', [], rfl, fun h => h.2.2 rfl⟩
  intro c rest hc
  rw [unaryOp, absentAt_keyword (by decide) c rest hc.1, hsigns c rest hc]
  rfl

theorem opensNoWord_of_isDigit {c : Char} (h : c.isDigit) : OpensNoWord c := by
  refine ⟨not_isWordStart_of_isDigit h, ?_, ?_⟩ <;> (rintro rfl; exact absurd h (by decide))

theorem unaryOp_neg (text : List Char) : unaryOp ('-' :: text) = 1 := by
  have hword : keyword "not" ('-' :: text) = 0 := absentAt_keyword (by decide) '-' text rfl
  rw [unaryOp, hword]
  rfl

end Token

namespace Grammar

variable {rules : Rules} {text after : List Char} {post : Expr → Prop}

theorem takesText_symbol (c : Char) (after : List Char) :
    TakesText (symbol c) [c] after fun _ => True := by
  have hlength : Token.symbol c ([c] ++ after) = [c].length := if_pos rfl
  exact (takesText_token hlength (List.cons_ne_nil c [])).last fun _ _ => takesText_pure trivial

theorem refusesText_symbol_cons {c d : Char} (h : c ≠ d) (rest : List Char) :
    RefusesText (symbol c) (d :: rest) :=
  (refusesText_token (absentAt_symbol c d rest h)).bind fun _ => pure ()

/-- A literal or a name is not there. -/
theorem refusesText_word {α : Type} {length : List Char → Nat} {tag : String}
    (h : length text = 0) (next : String × Location → Reader α) :
    RefusesText (locatedToken tag length >>= next) text :=
  (refusesText_locatedToken h tag).bind next

theorem takesText_literal {length : List Char → Nat} {tag : String} {value : Value}
    (valueOf : String → Value) (hlength : length (text ++ after) = text.length) (hne : text ≠ [])
    (hshort : tag = "number" → text.length ≤ digitLimit)
    (hvalue : valueOf (String.ofList text) = value) :
    TakesText (do
      let (text, loc) ← locatedToken tag length
      return .literal (valueOf text) (some loc) : Reader Expr) text after
        (·.Recovers (.literal value none)) := by
  refine (takesText_locatedToken hlength hne tag).last ?_
  rintro ⟨spelling, place⟩ ⟨rfl, htag, htext⟩
  refine takesText_pure ⟨congrArg (Expr.literal · none) hvalue, overlongInteger?_literal ?_⟩
  intro hnumber shown hshown
  obtain rfl : tag = "number" := Option.some.inj (htag.symm.trans hnumber)
  obtain rfl := Option.some.inj (htext.symm.trans hshown)
  rw [← String.length_toList, String.toList_ofList]
  exact hshort rfl

theorem takesText_boolText (b : Bool) (hafter : StartsIn IsCloser after) :
    TakesText (primary rules) (boolText .nested b) after
      (·.Recovers (.literal (.bool b) none)) := by
  have hpart : StartsIn (isWordPart · = false) after := hafter.mono fun _ h => h.not_isWordPart
  have hnil : Token.keyword "nil" (boolText .nested b ++ after) = 0 := by
    rw [blind_keyword "nil" _ after hpart]
    cases b <;> rfl
  have hlength : Token.boolean (boolText .nested b ++ after) = (boolText .nested b).length := by
    rw [blind_boolean _ after hpart]
    cases b <;> rfl
  have hread : TakesText booleanLiteral (boolText .nested b) after
      (·.Recovers (.literal (.bool b) none)) :=
    takesText_literal (fun text => .bool (text == "true")) hlength (by cases b <;> decide)
      (fun h => absurd h (by decide)) (by cases b <;> rfl)
  exact (refusesText_word hnil _).takesText_orElse (hread.orElse _)

/-- No word stands at a character that opens none. -/
theorem takesText_primary {c : Char} {rest : List Char} (hc : isWordStart c = false)
    (htext : text ++ after = c :: rest)
    (h : TakesText (numberLiteral <|> stringLiteral <|> tableConstructor rules <|> group rules <|>
      variableName) text after post) :
    TakesText (primary rules) text after post := by
  have hnil : RefusesText nilLiteral (text ++ after) :=
    htext ▸ refusesText_word (absentAt_keyword (by decide) c rest hc) _
  have hboolean : RefusesText booleanLiteral (text ++ after) :=
    htext ▸ refusesText_word (absentAt_boolean c rest hc) _
  exact hnil.takesText_orElse (hboolean.takesText_orElse h)

theorem takesText_numeral {n : Nat} (hshort : (decimalDigits n).length ≤ digitLimit)
    (hafter : StartsIn IsCloser after) :
    TakesText (primary rules) (decimalDigits n) after
      (·.Recovers (.literal (.ofInt n) none)) := by
  obtain ⟨c, rest, hdigits, hc⟩ := numeral_eq_cons n
  have htext : decimalDigits n ++ after = c :: (rest ++ after) := by
    rw [decimalDigits, hdigits, List.cons_append]
  have hlength : Token.number (decimalDigits n ++ after) = (decimalDigits n).length := by
    rw [blind_number _ after (hafter.mono fun _ h => h.endsNumber)]
    exact number_numeral n
  have hvalue :
      Value.number (numeralValue (String.ofList (decimalDigits n)).toList) = .ofInt n := by
    rw [String.toList_ofList]
    exact congrArg Value.number (numeralValue_numeral n)
  have hread : TakesText numberLiteral (decimalDigits n) after
      (·.Recovers (.literal (.ofInt n) none)) :=
    takesText_literal (fun text => .number (numeralValue text.toList)) hlength
      Nat.toDigits_ne_nil (fun _ => hshort) hvalue
  exact takesText_primary (not_isWordStart_of_isDigit hc) htext (hread.orElse _)

theorem doubleQuoted_toList (s : String) :
    (doubleQuoted s).toList = '"' :: Escape.encode s.toList ++ ['"'] := by
  rw [doubleQuoted, String.toList_ofList, List.singleton_append]

theorem takesText_doubleQuoted (s : String) (after : List Char) :
    TakesText (primary rules) (doubleQuoted s).toList after
      (·.Recovers (.literal (.str s) none)) := by
  have htext : (doubleQuoted s).toList ++ after =
      '"' :: (Escape.encode s.toList ++ ['"'] ++ after) := by
    rw [doubleQuoted_toList]
    rfl
  have hlength :
      Token.string ((doubleQuoted s).toList ++ after) = (doubleQuoted s).toList.length := by
    rw [doubleQuoted_toList]
    exact string_quoted rfl (Escape.quotedBody_encode _) after
  have hnumber : RefusesText numberLiteral ((doubleQuoted s).toList ++ after) :=
    htext ▸ refusesText_word (absentAt_number '"' _ (by decide)) _
  have hvalue : unescape (String.ofList (stringBody (doubleQuoted s).toList)) = s := by
    rw [stringBody, doubleQuoted_toList, List.cons_append, List.tail_cons, List.dropLast_concat,
      unescape, String.toList_ofList, Escape.decode_encode, String.ofList_toList]
  have hread : TakesText stringLiteral (doubleQuoted s).toList after
      (·.Recovers (.literal (.str s) none)) :=
    takesText_literal (fun text => .str (unescape (String.ofList (stringBody text.toList)))) hlength
      (by rw [doubleQuoted_toList]; exact List.cons_ne_nil _ _) (fun h => absurd h (by decide))
      (by rw [String.toList_ofList, hvalue])
  exact takesText_primary rfl htext (hnumber.takesText_orElse (hread.orElse _))

/-- At a closing brace no expression begins. -/
theorem refusesText_expression (rest : List Char) :
    RefusesText (expression rules) ('\x7d' :: rest) := by
  have hword : isWordStart '\x7d' = false := by decide
  have hnil : RefusesText nilLiteral ('\x7d' :: rest) :=
    refusesText_word (absentAt_keyword (by decide) _ rest hword) _
  have hboolean : RefusesText booleanLiteral ('\x7d' :: rest) :=
    refusesText_word (absentAt_boolean _ rest hword) _
  have hnumber : RefusesText numberLiteral ('\x7d' :: rest) :=
    refusesText_word (absentAt_number _ rest (by decide)) _
  have hstring : RefusesText stringLiteral ('\x7d' :: rest) :=
    refusesText_word (absentAt_string _ rest (by decide)) _
  have htable : RefusesText (tableConstructor rules) ('\x7d' :: rest) :=
    (((refusesText_symbol_cons (by decide) rest).bind _).located "table").bind _
  have hgroup : RefusesText (group rules) ('\x7d' :: rest) :=
    (((refusesText_symbol_cons (by decide) rest).bind _).located "group").bind _
  have hvariable : RefusesText variableName ('\x7d' :: rest) :=
    refusesText_word (absentAt_name _ rest hword) _
  have hprimary : RefusesText (primary rules) ('\x7d' :: rest) :=
    hnil.orElse (hboolean.orElse (hnumber.orElse (hstring.orElse (htable.orElse
      (hgroup.orElse hvariable)))))
  have hunary : RefusesText (unaryExpr rules) ('\x7d' :: rest) :=
    (((refusesText_token (absentAt_unaryOp _ rest ⟨rfl, by decide⟩)).bind _).located _).bind _
  have hproduct : RefusesText (product rules) ('\x7d' :: rest) :=
    (hunary.orElse ((hprimary.bind _).bind _)).bind _
  have hconcatenation : RefusesText (concatenation rules) ('\x7d' :: rest) :=
    (hproduct.bind _).bind _
  exact ((hconcatenation.bind _).bind _).bind _

end Grammar

/-! ### Texts that are read as expressions -/

/-- In front of a closing sign all rules that are tied deep enough for the text read it as the
expression. It begins neither with a name nor with a bracket. -/
structure DisplaysAs (text : List Char) (e : Expr) : Prop where
  begins : ∃ c rest, text = c :: rest ∧ isBlank c = false ∧ c ≠ '['
  noName : Token.name text = 0
  takes : ∀ depth, text.length ≤ depth → ∀ after, StartsIn IsCloser after →
    TakesText (expression (rules depth)) text after (·.Recovers e)

variable {text after : List Char} {e : Expr}

theorem DisplaysAs.startsIn (h : DisplaysAs text e) (after : List Char) :
    StartsIn (isBlank · = false) (text ++ after) := by
  obtain ⟨c, rest, rfl, hc, -⟩ := h.begins
  exact startsIn_cons hc _

/-- Between signs the text is read one level deeper. -/
theorem DisplaysAs.expression (h : DisplaysAs text e) {depth : Nat} (hdepth : text.length < depth)
    (hafter : StartsIn IsCloser after) :
    TakesText (rules depth).expression text after (·.Recovers e) := by
  obtain ⟨inner, rfl⟩ : ∃ inner, depth = inner + 1 := ⟨depth - 1, by omega⟩
  exact h.takes inner (Nat.le_of_lt_succ hdepth) after hafter

/-- A text of one token, or of one that holds others between signs. -/
theorem displaysAs_of_primary {c : Char} {rest : List Char} (htext : text = c :: rest)
    (hc : OpensNoWord c) (hblank : isBlank c = false) (hbracket : c ≠ '[')
    (h : ∀ depth, text.length ≤ depth → ∀ after, StartsIn IsCloser after →
      TakesText (primary (rules depth)) text after (·.Recovers e)) : DisplaysAs text e := by
  subst htext
  refine ⟨⟨c, rest, rfl, hblank, hbracket⟩, absentAt_name c rest hc.1, ?_⟩
  intro depth hdepth after hafter
  have hsign : Token.unaryOp (c :: rest ++ after) = 0 := absentAt_unaryOp c (rest ++ after) hc
  exact takesText_expression hafter (takesText_unary hafter hsign (h depth hdepth after hafter))

theorem displaysAs_boolText (b : Bool) :
    DisplaysAs (boolText .nested b) (.literal (.bool b) none) := by
  refine ⟨by cases b <;> exact ⟨_, _, rfl, by decide, by decide⟩, by cases b <;> rfl, ?_⟩
  intro depth _ after hafter
  have hends : StartsIn EndsUnaryOp after := hafter.mono fun _ hc => hc.endsUnaryOp
  have hsign : Token.unaryOp (boolText .nested b ++ after) = 0 := by
    rw [blind_unaryOp _ after hends]
    cases b <;> rfl
  exact takesText_expression hafter (takesText_unary hafter hsign (takesText_boolText b hafter))

theorem displaysAs_numeral {n : Nat} (hshort : (decimalDigits n).length ≤ digitLimit) :
    DisplaysAs (decimalDigits n) (.literal (.ofInt n) none) := by
  obtain ⟨c, rest, hdigits, hc⟩ := numeral_eq_cons n
  have hblank : isBlank c = false := Lexeme.Spells.not_isBlank (.numeral (n := n)) hc
  refine displaysAs_of_primary hdigits (opensNoWord_of_isDigit hc) hblank ?_ ?_
  · rintro rfl
    exact absurd hc (by decide)
  · exact fun depth _ after hafter => takesText_numeral hshort hafter

/-- A sign in front of a numeral is an operator. -/
theorem displaysAs_negative {n : Nat} (hshort : (decimalDigits n).length ≤ digitLimit) :
    DisplaysAs ('-' :: decimalDigits n) (.unary .neg (.literal (.ofInt n) none) none) := by
  refine ⟨⟨'-', _, rfl, by decide, by decide⟩, absentAt_name '-' _ (by decide), ?_⟩
  intro depth hdepth after hafter
  obtain ⟨inner, rfl⟩ : ∃ inner, depth = inner + 1 := ⟨depth - 1, by
    rw [List.length_cons] at hdepth
    omega⟩
  obtain ⟨c, rest, hdigits, hc⟩ := numeral_eq_cons n
  have hoperand : TakesText (rules (inner + 1)).unary (decimalDigits n) after
      (·.Recovers (.literal (.ofInt n) none)) := by
    have hsign : Token.unaryOp (decimalDigits n ++ after) = 0 := by
      rw [decimalDigits, hdigits]
      exact absentAt_unaryOp c _ (opensNoWord_of_isDigit hc)
    exact takesText_unary hafter hsign (takesText_numeral hshort hafter)
  have hspaced :=
    hoperand.spaced (List.forall_mem_nil _) ((displaysAs_numeral hshort).startsIn after)
  have hoperator : TakesText (token Token.unaryOp) ['-'] (decimalDigits n ++ after) (· = ['-']) :=
    takesText_token (unaryOp_neg _) (List.cons_ne_nil _ _)
  have hbehind : ∀ spelling, spelling = ['-'] → TakesText (do
      let operand ← spaced (rules (inner + 1)).unary
      return (spelling, operand)) (decimalDigits n) after fun found =>
        found.1 = ['-'] ∧ found.2.Recovers (.literal (.ofInt n) none) :=
    fun spelling hspelling => hspaced.last fun operand hfound =>
      takesText_pure ⟨hspelling, hfound⟩
  have hread : TakesText (unaryExpr (rules (inner + 1))) ('-' :: decimalDigits n) after
      (·.Recovers (.unary .neg (.literal (.ofInt n) none) none)) := by
    refine ((hoperator.bind hbehind).located "unary_op_expr").last ?_
    rintro ⟨⟨spelling, operand⟩, place⟩ ⟨rfl, hfound⟩
    exact takesText_pure ⟨congrArg (Expr.unary .neg · none) hfound.unlocated, hfound.overlong⟩
  exact takesText_expression hafter (hread.orElse _)

theorem displaysAs_integerText {n : Int} (hshort : (decimalDigits n.natAbs).length ≤ digitLimit) :
    DisplaysAs (integerText n) (integerExpr n) := by
  unfold integerText integerExpr
  split
  · exact displaysAs_negative hshort
  · exact displaysAs_numeral hshort

theorem displaysAs_doubleQuoted (s : String) :
    DisplaysAs (doubleQuoted s).toList (.literal (.str s) none) :=
  displaysAs_of_primary (doubleQuoted_toList s) ⟨rfl, by decide⟩ (by decide) (by decide)
    fun _ _ after _ => takesText_doubleQuoted s after

/-! ### Fields -/

/-- A field is displayed without its key, behind a name, or behind a key in brackets. -/
inductive FieldDisplaysAs : List Char → Option Expr × Expr → Prop
  | positional {text : List Char} {e : Expr} (hvalue : DisplaysAs text e) :
      FieldDisplaysAs text (none, e)
  | named {s : String} {text : List Char} {e : Expr} (hname : Token.isName s.toList)
      (hvalue : DisplaysAs text e) :
      FieldDisplaysAs (slotText s.toList text) (some (.literal (.str s) none), e)
  | keyed {text text' : List Char} {key e : Expr} (hkey : DisplaysAs text' key)
      (hvalue : DisplaysAs text e) :
      FieldDisplaysAs (slotText ('[' :: text' ++ [']']) text) (some key, e)

section

variable {depth : Nat} {field : Option Expr × Expr}

/-- The sign of assignment with a blank on either side, and the value. -/
theorem takesText_assigned {key : Expr} {found : Expr} (hfound : found.Recovers key)
    (hvalue : DisplaysAs text e) (hdepth : text.length < depth) (hafter : StartsIn IsCloser after) :
    TakesText (do
      spaced assignmentSign
      let value ← spaced (rules depth).expression
      return (some found, value)) ([' ', '='] ++ ([' '] ++ text)) after
        (FieldRecovers · (some key, e)) := by
  have hgap : Gap [' '] := List.forall_mem_singleton.mpr rfl
  have hlength : Token.single '=' (['='] ++ ([' '] ++ text ++ after)) = ['='].length :=
    rfl
  have hsign : TakesText assignmentSign ['='] ([' '] ++ text ++ after) fun _ => True :=
    (takesText_token hlength (List.cons_ne_nil _ _)).last fun _ _ => takesText_pure trivial
  have hassigned := hsign.spaced hgap (startsIn_cons (by decide) _)
  exact hassigned.bind fun _ _ =>
    ((hvalue.expression hdepth hafter).spaced hgap (hvalue.startsIn after)).last fun _ hread =>
      takesText_pure (.keyed hfound hread)

theorem slotText_eq (key value : List Char) :
    slotText key value = key ++ ([' ', '='] ++ ([' '] ++ value)) := by
  rw [slotText, List.append_assoc]
  rfl

theorem takesText_enclosed {text' : List Char} {key : Expr} (hkey : DisplaysAs text' key)
    (hdepth : text'.length < depth) (after : List Char) :
    TakesText (enclosed (rules depth) '[' ']') ('[' :: text' ++ [']']) after
      (·.Recovers key) := by
  have hcloses : StartsIn IsCloser ([']'] ++ after) := startsIn_cons (by decide) _
  have hclosing : ∀ inner : Expr, inner.Recovers key → TakesText (do
      spaced (symbol ']')
      return inner) [']'] after (·.Recovers key) := fun inner hinner =>
    ((takesText_symbol ']' after).spaced (List.forall_mem_nil _)
      (startsIn_cons (by decide) _)).last fun _ _ => takesText_pure hinner
  have hinside := ((hkey.expression hdepth hcloses).spaced (List.forall_mem_nil _)
    (hkey.startsIn _)).bind hclosing
  exact (takesText_symbol '[' _).bind fun _ _ => hinside

theorem FieldDisplaysAs.takes (h : FieldDisplaysAs text field) (hdepth : text.length < depth)
    (hafter : StartsIn IsCloser after) :
    TakesText (Grammar.field (rules depth)) text after (FieldRecovers · field) := by
  cases h with
  | @positional _ e hvalue =>
      obtain ⟨c, rest, rfl, -, hbracket⟩ := hvalue.begins
      have hkeyed : RefusesText (keyedField (rules depth)) (c :: rest ++ after) :=
        ((refusesText_symbol_cons hbracket.symm (rest ++ after)).bind _).bind _
      have hname : Token.name (c :: rest ++ after) = 0 := by
        rw [blind_name _ after (hafter.mono fun _ h => h.not_isWordPart), hvalue.noName]
      have hnamed : RefusesText (namedField (rules depth)) (c :: rest ++ after) :=
        (refusesText_word hname _).bind _
      have hread : TakesText (positionalField (rules depth)) (c :: rest) after
          (FieldRecovers · (none, e)) :=
        (hvalue.expression hdepth hafter).last fun _ hfound => takesText_pure (.positional hfound)
      exact hkeyed.takesText_orElse (hnamed.takesText_orElse hread)
  | @named s value e hname hvalue =>
      rw [slotText_eq] at hdepth ⊢
      simp only [List.length_append] at hdepth
      obtain ⟨c, rest, htext, hstart⟩ := (Lexeme.Spells.name hname).begins
      have hbracket : '[' ≠ c := by
        rintro rfl
        cases (hstart : isWordStart '[' = true)
      have hkeyed : RefusesText (keyedField (rules depth))
          (s.toList ++ ([' ', '='] ++ ([' '] ++ value)) ++ after) := by
        rw [htext]
        exact ((refusesText_symbol_cons hbracket _).bind _).bind _
      have hgapped : Gapped ([' ', '='] ++ ([' '] ++ value) ++ after) :=
        startsIn_cons (p := (isBlank ·)) rfl _
      have hkey : TakesText nameKey s.toList ([' ', '='] ++ ([' '] ++ value) ++ after)
          (·.Recovers (.literal (.str s) none)) :=
        takesText_literal Value.str (accepts_name s _ _ (.name hname) hgapped)
          (by rw [htext]; exact List.cons_ne_nil c rest) (fun h => absurd h (by decide))
          (by rw [String.ofList_toList])
      have hread : TakesText (namedField (rules depth))
          (s.toList ++ ([' ', '='] ++ ([' '] ++ value))) after
          (FieldRecovers · (some (.literal (.str s) none), e)) :=
        hkey.bind fun found hfound => takesText_assigned hfound hvalue (by omega) hafter
      exact hkeyed.takesText_orElse (hread.orElse _)
  | @keyed value shown key e hkey hvalue =>
      rw [slotText_eq] at hdepth ⊢
      simp only [List.length_append, List.length_cons] at hdepth
      have hread : TakesText (keyedField (rules depth))
          ('[' :: shown ++ [']'] ++ ([' ', '='] ++ ([' '] ++ value))) after
          (FieldRecovers · (some key, e)) :=
        (takesText_enclosed hkey (by omega) _).bind fun found hfound =>
          takesText_assigned hfound hvalue (by omega) hafter
      exact hread.orElse _

end

/-! ### Tables -/

theorem commaSeparated_cons (part : List Char) (rest : List (List Char)) :
    commaSeparated (part :: rest) = part ++ rest.flatMap ([',', ' '] ++ ·) := by
  induction rest generalizing part with
  | nil => simp [commaSeparated, List.intercalate]
  | cons next rest ih =>
      have hsplit : commaSeparated (part :: next :: rest) =
          part ++ ([',', ' '] ++ commaSeparated (next :: rest)) := by
        simp [commaSeparated, List.intercalate]
      rw [hsplit, ih, List.flatMap_cons, List.append_assoc]

section

variable {depth : Nat} {parts : List (List Char)} {fields : List (Option Expr × Expr)}

theorem FieldDisplaysAs.startsIn {field : Option Expr × Expr} (h : FieldDisplaysAs text field)
    (after : List Char) : StartsIn (isBlank · = false) (text ++ after) ∧ text ≠ [] := by
  cases h with
  | positional hvalue =>
      obtain ⟨c, rest, rfl, -⟩ := hvalue.begins
      exact ⟨hvalue.startsIn after, List.cons_ne_nil c rest⟩
  | @named s value e hname hvalue =>
      obtain ⟨c, rest, htext, hstart⟩ := (Lexeme.Spells.name hname).begins
      have hblank : isBlank c = false := (Lexeme.Spells.name hname).not_isBlank hstart
      rw [slotText_eq, htext]
      exact ⟨startsIn_cons hblank _, List.cons_ne_nil c _⟩
  | keyed => exact ⟨startsIn_cons (by decide) _, List.cons_ne_nil _ _⟩

/-- Behind a field stands a comma or the closing brace. -/
theorem startsIn_items (parts : List (List Char)) (after : List Char) :
    StartsIn IsCloser (parts.flatMap ([',', ' '] ++ ·) ++ '\x7d' :: after) := by
  cases parts with
  | nil => exact startsIn_cons (by decide) after
  | cons part rest => exact startsIn_cons (by decide) _

theorem takesText_fieldSeparator (rest : List Char) :
    TakesText fieldSeparator [','] rest fun _ => True := by
  have hlength : Token.oneOf [",", ";"] ([','] ++ rest) = [','].length := rfl
  exact (takesText_token hlength (List.cons_ne_nil _ _)).last fun _ _ => takesText_pure trivial

theorem refusesText_fieldSeparator (rest : List Char) :
    RefusesText (spaced fieldSeparator) ('\x7d' :: rest) := by
  have hlength : Token.oneOf [",", ";"] ('\x7d' :: rest) = 0 := rfl
  exact ((refusesText_token hlength).bind fun _ => pure ()).spaced (startsIn_cons (by decide) rest)

/-- Fields with a comma and a blank in front of each. -/
theorem takesParts_fields (h : List.Forall₂ FieldDisplaysAs parts fields)
    (hdepth : ∀ part ∈ parts, part.length < depth) (after : List Char) :
    TakesParts (do
      spaced fieldSeparator
      spaced (field (rules depth))) (parts.flatMap ([',', ' '] ++ ·)) ('\x7d' :: after)
        (List.Forall₂ FieldRecovers · fields) := by
  induction h with
  | nil => exact takesParts_nil .nil
  | @cons part f parts fields hfirst hrest ih =>
      obtain ⟨hpart, hparts⟩ := List.forall_mem_cons.mp hdepth
      have hfield := (hfirst.takes hpart (startsIn_items parts after)).spaced
        (List.forall_mem_singleton.mpr rfl : Gap [' ']) (hfirst.startsIn _).1
      have hseparator := (takesText_fieldSeparator ([' '] ++ part ++
        (parts.flatMap ([',', ' '] ++ ·) ++ '\x7d' :: after))).spaced (List.forall_mem_nil _)
          (startsIn_cons (by decide) _)
      have hitem := hseparator.bind fun _ _ => hfield
      exact hitem.parts_cons (List.cons_ne_nil _ _) (ih hparts) fun _ _ => .cons

theorem length_le_commaSeparated {part : List Char} (h : part ∈ parts) :
    part.length ≤ (commaSeparated parts).length := by
  cases parts with
  | nil => cases h
  | cons first rest =>
      rw [commaSeparated_cons, List.length_append]
      rcases List.mem_cons.mp h with rfl | hrest
      · exact Nat.le_add_right _ _
      · have hsublist := List.sublist_flatten_of_mem
          (List.mem_map_of_mem (f := ([',', ' '] ++ ·)) hrest)
        have hlength := hsublist.length_le
        rw [List.length_append, ← List.flatMap_def] at hlength
        omega

theorem takesText_fieldList (h : List.Forall₂ FieldDisplaysAs parts fields)
    (hdepth : (commaSeparated parts).length < depth) (after : List Char) :
    TakesText (spaced (fieldList (rules depth)) <|> pure []) (commaSeparated parts)
      ('\x7d' :: after) (List.Forall₂ FieldRecovers · fields) := by
  have hparts : ∀ part ∈ parts, part.length < depth := fun part hpart =>
    Nat.lt_of_le_of_lt (length_le_commaSeparated hpart) hdepth
  cases h with
  | nil =>
      obtain ⟨inner, rfl⟩ : ∃ inner, depth = inner + 1 := ⟨depth - 1, by omega⟩
      have hkeyed : RefusesText (keyedField (rules (inner + 1))) ('\x7d' :: after) :=
        ((refusesText_symbol_cons (by decide) after).bind _).bind _
      have hnamed : RefusesText (namedField (rules (inner + 1))) ('\x7d' :: after) :=
        (refusesText_word (absentAt_name _ after (by decide)) _).bind _
      have hpositional : RefusesText (positionalField (rules (inner + 1))) ('\x7d' :: after) :=
        (refusesText_expression after).bind _
      have hfield : RefusesText (field (rules (inner + 1))) ('\x7d' :: after) :=
        hkeyed.orElse (hnamed.orElse hpositional)
      have hlist : RefusesText (spaced (fieldList (rules (inner + 1)))) ('\x7d' :: after) :=
        (hfield.bind _).spaced (startsIn_cons (by decide) after)
      exact RefusesText.takesText_orElse hlist (takesText_pure .nil)
  | @cons part f parts fields hfirst hrest =>
      obtain ⟨hpart, hothers⟩ := List.forall_mem_cons.mp hparts
      rw [commaSeparated_cons]
      have hfield := hfirst.takes hpart (startsIn_items parts after)
      have hstop : RefusesText (do
          spaced fieldSeparator
          spaced (field (rules depth))) ('\x7d' :: after) :=
        (refusesText_fieldSeparator after).bind _
      have hmany := (takesParts_fields hrest hothers after).many hstop
      have hlast : TakesText (spaced fieldSeparator <|> pure ()) [] ('\x7d' :: after)
          fun _ => True :=
        RefusesText.takesText_orElse (refusesText_fieldSeparator after) (takesText_pure trivial)
      have hread : TakesText (fieldList (rules depth)) (part ++ parts.flatMap ([',', ' '] ++ ·))
          ('\x7d' :: after) (List.Forall₂ FieldRecovers · (f :: fields)) :=
        hfield.bind fun first hfirst => hmany.last fun rest hrest =>
          hlast.last fun _ _ => takesText_pure (.cons hfirst hrest)
      have hstart := (hfirst.startsIn (parts.flatMap ([',', ' '] ++ ·) ++ '\x7d' :: after)).1
      rw [← List.append_assoc] at hstart
      exact (hread.spaced (List.forall_mem_nil _) hstart).orElse _

end

/-- Fields between braces are read as a table. -/
theorem displaysAs_inBraces {parts : List (List Char)} {fields : List (Option Expr × Expr)}
    (h : List.Forall₂ FieldDisplaysAs parts fields) :
    DisplaysAs (inBraces parts) (.tableConstructor fields none) := by
  have htext : inBraces parts = '\x7b' :: (commaSeparated parts ++ ['\x7d']) := rfl
  refine displaysAs_of_primary htext ⟨rfl, by decide⟩ (by decide) (by decide) ?_
  intro depth hdepth after _
  have hwithin : (commaSeparated parts).length < depth := by
    rw [htext, List.length_cons, List.length_append] at hdepth
    omega
  have hclosing : ∀ found, List.Forall₂ FieldRecovers found fields → TakesText (do
      spaced (symbol '\x7d')
      return found) ['\x7d'] after (List.Forall₂ FieldRecovers · fields) := fun found hfound =>
    ((takesText_symbol '\x7d' after).spaced (List.forall_mem_nil _)
      (startsIn_cons (by decide) _)).last fun _ _ => takesText_pure hfound
  have hinside := (takesText_fieldList h hwithin after).bind hclosing
  have hall := (takesText_symbol '\x7b' _).bind fun _ _ => hinside
  have hread : TakesText (tableConstructor (rules depth)) (inBraces parts) after
      (·.Recovers (.tableConstructor fields none)) := by
    refine (hall.located "table").last ?_
    rintro ⟨found, place⟩ hfound
    obtain ⟨hsame, hshort⟩ := recovers_fields hfound
    exact takesText_pure ⟨congrArg (Expr.tableConstructor · none) hsame, hshort⟩
  have hnumber : RefusesText numberLiteral (inBraces parts ++ after) :=
    refusesText_word (absentAt_number '\x7b' _ (by decide)) _
  have hstring : RefusesText stringLiteral (inBraces parts ++ after) :=
    refusesText_word (absentAt_string '\x7b' _ (by decide)) _
  exact takesText_primary (c := '\x7b') rfl rfl
    (hnumber.takesText_orElse (hstring.takesText_orElse (hread.orElse _)))

/-! ### The whole text -/

/-- A text that begins with no blank is read from its front to its end. -/
theorem gives_root_of_takesText {post : Expr → Prop} (hstart : StartsIn (isBlank · = false) text)
    (h : TakesText (rules (text.length + 1)).expression text [] post) :
    ∃ found later, Gives Grammar.root (Cursor.ofText text) found later ∧ later.rest = [] ∧
      post found := by
  have hspaced : TakesText (spaced (rules (text.length + 1)).expression) ([] ++ text) [] post :=
    h.spaced (List.forall_mem_nil _) (by rwa [List.append_nil])
  have hfront : (Cursor.ofText text).rest = [] ++ text ++ [] := (List.append_nil text).symm
  obtain ⟨found, middle, hrun, hmiddle, hpost⟩ := hspaced (Cursor.ofText text) hfront
  have hnothing : middle.rest = [] ++ [] := hmiddle
  obtain ⟨later, hblanks, hlater⟩ :=
    gives_blanks_of_text (List.forall_mem_nil _) startsIn_nil hnothing
  exact ⟨found, later, (gives_get _).bind (hrun.bind (hblanks.bind (gives_pure found later))),
    hlater, hpost⟩

theorem parseExpr_of_takesText (hstart : StartsIn (isBlank · = false) text)
    (h : TakesText (rules (text.length + 1)).expression text [] (·.Recovers e)) :
    ∃ found, parseExpr (String.ofList text) = .ok found ∧ found.unlocated = e.unlocated := by
  obtain ⟨found, later, hroot, hlater, hrecovers⟩ := gives_root_of_takesText hstart h
  rw [← String.toList_ofList (l := text)] at hroot
  exact ⟨found, parseExpr_of_gives_root hroot hlater hrecovers.overlong, hrecovers.unlocated⟩

theorem DisplaysAs.parseExpr (h : DisplaysAs text e) :
    ∃ found, parseExpr (String.ofList text) = .ok found ∧ found.unlocated = e.unlocated := by
  have hstart := h.startsIn []
  rw [List.append_nil] at hstart
  exact parseExpr_of_takesText hstart (h.takes text.length (Nat.le_refl _) [] startsIn_nil)

end TemplateScript
