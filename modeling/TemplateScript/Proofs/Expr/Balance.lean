import Mathlib.Data.List.TakeWhile
import TemplateScript.Expr.Parse
import TemplateScript.Proofs.Document.Balance
import TemplateScript.Proofs.Expr.NumberToken

/-!
# Expressions are balanced

No token of an expression holds a brace or a quote, but for the braces around the fields of a table
and for string literals, which are quoted just as in a directive. So whatever a rule of the grammar
takes is balanced, by induction on the depth to which the rules are tied, and with it every text
that is an expression.
-/

namespace TemplateScript

/-- A class without braces and quotes has plain characters only. -/
theorem isPlain_of_class {p : Char → Bool}
    (h : ['\x7b', '\x7d', '"', '\''].all fun c => !p c) {c : Char} (hc : p c) : isPlain c := by
  simp only [List.all_cons, List.all_nil, Bool.and_true, Bool.and_eq_true, Bool.not_eq_true'] at h
  simp only [isPlain, Bool.and_eq_true, bne_iff_ne, and_assoc]
  refine ⟨?_, ?_, ?_, ?_⟩ <;> rintro rfl <;> simp [h] at hc

namespace Token

/-! ### Tokens -/

abbrev PlainText (text : List Char) : Prop := ∀ c ∈ text, isPlain c

theorem Takes.balanced {length : List Char → Nat} (h : Takes length PlainText) :
    Takes length Balanced :=
  h.mono fun _ => .of_forall_isPlain

theorem plainText_nil : PlainText [] := fun _ h => nomatch h

theorem plainText_takeWhile {p : Char → Bool}
    (h : ['\x7b', '\x7d', '"', '\''].all fun c => !p c) (source : List Char) :
    PlainText (source.takeWhile p) :=
  fun _ hc => isPlain_of_class h (List.mem_takeWhile_imp hc)

theorem plainText_append {left right : List Char} (hleft : PlainText left)
    (hright : PlainText right) : PlainText (left ++ right) := by
  intro c hc
  rcases List.mem_append.mp hc with h | h
  · exact hleft c h
  · exact hright c h

theorem plainText_cons {c : Char} {rest : List Char} (hc : isPlain c) (hrest : PlainText rest) :
    PlainText (c :: rest) :=
  plainText_append (fun _ hd => List.mem_singleton.mp hd ▸ hc : PlainText [c]) hrest

theorem plainText_word (source : List Char) : PlainText (word source) := by
  cases source with
  | nil => exact plainText_nil
  | cons c rest =>
      rw [word]
      split_ifs with hstart
      · exact plainText_cons (isPlain_of_class (by decide) hstart)
          (plainText_takeWhile (by decide) rest)
      · exact plainText_nil

theorem word_append (source : List Char) : ∃ after, source = word source ++ after := by
  cases source with
  | nil => exact ⟨[], rfl⟩
  | cons c rest =>
      rw [word]
      split_ifs
      · exact ⟨rest.dropWhile isWordPart, by
          rw [List.cons_append, List.takeWhile_append_dropWhile]⟩
      · exact ⟨c :: rest, rfl⟩

theorem name_takes : Takes name PlainText := by
  intro source
  rw [name]
  split_ifs
  · exact absent plainText_nil source
  · obtain ⟨after, hafter⟩ := word_append source
    exact ⟨word source, after, hafter, rfl, plainText_word source⟩

theorem keyword_takes (spelling : String) : Takes (keyword spelling) PlainText := by
  intro source
  rw [keyword]
  split_ifs with hword
  · obtain ⟨after, hafter⟩ := word_append source
    exact ⟨word source, after, hafter, by rw [hword, String.length_toList], plainText_word source⟩
  · exact absent plainText_nil source

theorem oneOf_takes {spellings : List String} (h : spellings.all fun s => s.toList.all isPlain) :
    Takes (oneOf spellings) PlainText := by
  intro source
  rw [oneOf]
  split
  · next spelling hfind =>
      have hprefix := List.find?_some hfind
      obtain ⟨after, hafter⟩ := List.isPrefixOf_iff_prefix.mp hprefix
      exact ⟨spelling.toList, after, hafter.symm, by rw [String.length_toList],
        List.all_eq_true.mp (List.all_eq_true.mp h spelling (List.mem_of_find?_eq_some hfind))⟩
  · exact absent plainText_nil source

theorem symbol_takes (c : Char) : Takes (symbol c) fun text => text = [] ∨ text = [c] := by
  intro source
  cases source with
  | nil => exact absent (.inl rfl) []
  | cons d rest =>
      rw [symbol]
      split_ifs with hc
      · exact ⟨[c], rest, by rw [hc, List.singleton_append], rfl, .inr rfl⟩
      · exact absent (.inl rfl) (d :: rest)

theorem single_takes (c : Char) : Takes (single c) fun text => text = [] ∨ text = [c] := by
  intro source
  cases source with
  | nil => exact absent (.inl rfl) []
  | cons d rest =>
      cases rest with
      | nil =>
          rw [single]
          split_ifs with hc
          · exact ⟨[c], [], by rw [hc, List.append_nil], rfl, .inr rfl⟩
          · exact absent (.inl rfl) [d]
      | cons e rest =>
          rw [single]
          split_ifs with hc
          · exact ⟨[c], e :: rest, by rw [hc.1, List.singleton_append], rfl, .inr rfl⟩
          · exact absent (.inl rfl) (d :: e :: rest)

theorem plainText_of_isNumeral {text : List Char} (h : IsNumeral text) : PlainText text := by
  cases h with
  | @hexadecimal mark digits hmark _ hdigits =>
      have hplain : isPlain mark := by rcases hmark with rfl | rfl <;> decide
      exact plainText_cons (by decide) (plainText_cons hplain fun c hc =>
        isPlain_of_class (by decide) (hdigits c hc))
  | decimal hwhole hfraction _ hexponent =>
      intro c hc
      rcases mem_decimal_cases hwhole hfraction hexponent c hc with hdigit | hmark
      · exact isPlain_of_class (by decide) hdigit
      · have hall : (['.', 'e', 'E', '+', '-'].all isPlain) = true := by decide
        exact List.all_eq_true.mp hall c hmark

theorem number_takes : Takes number PlainText :=
  number_takes_numeral.mono fun _ h => h.elim (fun hnil => hnil ▸ plainText_nil)
    plainText_of_isNumeral

theorem boolean_takes : Takes boolean PlainText :=
  (keyword_takes "true").max (keyword_takes "false")

theorem unaryOp_takes : Takes unaryOp PlainText :=
  (keyword_takes "not").max (oneOf_takes (by decide))

/-- The characters after an opening quote make a quoted body up to the closing quote. -/
theorem quotedTail_eq_some {quote : Char} {source : List Char} {count : Nat}
    (h : quotedTail quote source = some count) :
    ∃ body after, source = body ++ quote :: after ∧ count = body.length + 1 ∧
      QuotedBody quote body := by
  fun_induction quotedTail quote source generalizing count with
  | case1 => simp at h
  | case2 =>
      obtain rfl := Option.some.inj h
      exact ⟨[], [], rfl, rfl, .nil⟩
  | case3 => simp at h
  | case4 d rest =>
      obtain rfl := Option.some.inj h
      exact ⟨[], d :: rest, rfl, rfl, .nil⟩
  | case5 => simp at h
  | case6 => simp at h
  | case7 d rest hd hquote hline ih =>
      obtain ⟨shorter, htail, rfl⟩ := Option.map_eq_some_iff.mp h
      obtain ⟨body, after, rfl, rfl, hbody⟩ := ih htail
      exact ⟨'\\' :: d :: body, after, rfl, rfl, .escaped hd hbody⟩
  | case8 c d rest hquote hline hbackslash ih =>
      obtain ⟨shorter, htail, rfl⟩ := Option.map_eq_some_iff.mp h
      obtain ⟨body, after, heq, rfl, hbody⟩ := ih htail
      exact ⟨c :: body, after, by rw [heq, List.cons_append], rfl,
        .char hquote hbackslash hline hbody⟩

theorem string_takes : Takes string Balanced := by
  intro source
  cases source with
  | nil => exact absent .nil []
  | cons c rest =>
      rw [string]
      split_ifs with hquote
      · cases htail : quotedTail c rest with
        | none => exact absent .nil (c :: rest)
        | some count =>
            obtain ⟨body, after, rfl, rfl, hbody⟩ := quotedTail_eq_some htail
            refine ⟨c :: body ++ [c], after, by simp, by simp, ?_⟩
            exact .quoted (by simpa [isQuote] using hquote) hbody .nil
      · exact absent .nil (c :: rest)

end Token

namespace Reader

variable {α β : Type}

/-! ### Readers -/

/-- The reader takes balanced texts only. -/
def Balances (reader : Reader α) : Prop := reader.Ensures fun _ text _ => Balanced text

theorem balances_pure (a : α) : (pure a : Reader α).Balances :=
  (ensures_pure a).mono fun _ _ _ h => h.1 ▸ .nil

theorem Balances.bind {reader : Reader α} {next : α → Reader β} (h : reader.Balances)
    (hnext : ∀ a, (next a).Balances) : (reader >>= next).Balances :=
  Ensures.bind h hnext fun _ _ _ _ _ _ _ hleft hright => hleft.append hright

theorem Balances.map {reader : Reader α} (h : reader.Balances) (f : α → β) :
    (f <$> reader).Balances :=
  h.bind fun a => balances_pure (f a)

theorem Balances.orElse {first second : Reader α} (hfirst : first.Balances)
    (hsecond : second.Balances) : (first <|> second).Balances :=
  Ensures.orElse hfirst hsecond

theorem balances_token {length : List Char → Nat} (h : Token.Takes length Balanced) :
    (token length).Balances :=
  (ensures_token h).mono fun _ _ _ => And.left

theorem balances_get : (get : Reader Cursor).Balances :=
  ensures_get.mono fun _ _ _ h => h.1 ▸ .nil

theorem balances_blanks : blanks.Balances :=
  ensures_blanks.mono fun _ _ _ h =>
    .of_forall_isPlain fun c hc => isPlain_of_class (by decide) (h c hc)

theorem Balances.spaced {reader : Reader α} (h : reader.Balances) : (spaced reader).Balances :=
  balances_blanks.bind fun _ => h

theorem Balances.manyUpTo {reader : Reader α} (h : reader.Balances) (limit : Nat) :
    (manyUpTo reader limit).Balances := by
  induction limit with
  | zero => exact balances_pure []
  | succ limit ih =>
      exact .orElse (h.bind fun _ => ih.bind fun _ => balances_pure _) (balances_pure [])

theorem Balances.many {reader : Reader α} (h : reader.Balances) : (many reader).Balances :=
  balances_get.bind fun _ => h.manyUpTo _

theorem Balances.located {reader : Reader α} (h : reader.Balances) (tag : String) :
    (located tag reader).Balances :=
  (Ensures.located h tag).mono fun _ _ _ => And.left

theorem balances_locatedToken {length : List Char → Nat} (h : Token.Takes length Balanced)
    (tag : String) : (locatedToken tag length).Balances :=
  ((balances_token h).located tag).bind fun _ => balances_pure _

end Reader

namespace Grammar

open Reader

/-! ### Rules -/

theorem ensures_symbol (c : Char) : (symbol c).Ensures fun _ text _ => text = [c] := by
  refine Ensures.bind (ensures_token (Token.symbol_takes c)) (fun _ => ensures_pure ()) ?_
  rintro _ _ left right _ _ - ⟨htext, -, hne⟩ ⟨rfl, -⟩
  rw [List.append_nil, htext.resolve_left hne]

theorem balances_symbol {c : Char} (hc : isPlain c) : (symbol c).Balances :=
  (ensures_symbol c).mono fun _ _ _ htext => htext ▸ .plain hc .nil

/-- A balanced text and the brace that closes it. -/
def ClosesBrace (text : List Char) : Prop := ∃ inner, Balanced inner ∧ text = inner ++ ['\x7d']

theorem ensures_closingBrace {α : Type} (result : α) :
    (do
      spaced (symbol '\x7d')
      return result : Reader α).Ensures fun _ text _ => ClosesBrace text := by
  have hclose : (spaced (symbol '\x7d')).Ensures fun _ text _ => ClosesBrace text :=
    Ensures.bind balances_blanks (fun _ => ensures_symbol '\x7d')
      fun _ _ left _ _ _ _ hleft hright => ⟨left, hleft, congrArg (left ++ ·) hright⟩
  refine Ensures.bind hclose (fun _ => ensures_pure result) ?_
  rintro _ _ left _ _ _ - hleft ⟨rfl, -⟩
  rwa [List.append_nil]

theorem balances_assignmentSign : assignmentSign.Balances := by
  refine (balances_token ((Token.single_takes '=').mono fun text htext => ?_)).map _
  rcases htext with rfl | rfl
  · exact .nil
  · exact .plain (by decide) .nil

theorem balances_fieldSeparator : fieldSeparator.Balances :=
  (balances_token (Token.oneOf_takes (by decide)).balanced).map _

theorem balances_nilLiteral : nilLiteral.Balances :=
  (balances_locatedToken (Token.keyword_takes "nil").balanced "nil").bind fun _ => balances_pure _

theorem balances_booleanLiteral : booleanLiteral.Balances :=
  (balances_locatedToken Token.boolean_takes.balanced "boolean").bind fun _ => balances_pure _

theorem balances_numberLiteral : numberLiteral.Balances :=
  (balances_locatedToken Token.number_takes.balanced "number").bind fun _ => balances_pure _

theorem balances_stringLiteral : stringLiteral.Balances :=
  (balances_locatedToken Token.string_takes "string").bind fun _ => balances_pure _

theorem balances_name : name.Balances :=
  balances_locatedToken Token.name_takes.balanced "name"

theorem balances_variableName : variableName.Balances :=
  balances_name.bind fun _ => balances_pure _

theorem balances_nameKey : nameKey.Balances :=
  balances_name.bind fun _ => balances_pure _

theorem balances_fieldSuffix : fieldSuffix.Balances := by
  have hpoint : (token (Token.single '.')).Balances :=
    balances_token ((Token.single_takes '.').mono fun text htext => by
      rcases htext with rfl | rfl
      · exact .nil
      · exact .plain (by decide) .nil)
  exact (((hpoint.map _).bind fun _ => balances_nameKey.spaced).located _).bind fun _ =>
    balances_pure _

/-- The rules that contain themselves take balanced texts. -/
structure Rules.Balances (rules : Rules) : Prop where
  expression : Reader.Balances rules.expression
  concatenation : Reader.Balances rules.concatenation
  unary : Reader.Balances rules.unary

section

variable {rules : Rules} (h : rules.Balances)

include h

theorem balances_enclosed {opening closing : Char} (hopening : isPlain opening)
    (hclosing : isPlain closing) : (enclosed rules opening closing).Balances :=
  (balances_symbol hopening).bind fun _ => h.expression.spaced.bind fun _ =>
    (balances_symbol hclosing).spaced.bind fun _ => balances_pure _

theorem balances_keyedField : (keyedField rules).Balances :=
  (balances_enclosed h (by decide) (by decide)).bind fun _ =>
    balances_assignmentSign.spaced.bind fun _ => h.expression.spaced.bind fun _ => balances_pure _

theorem balances_namedField : (namedField rules).Balances :=
  balances_nameKey.bind fun _ => balances_assignmentSign.spaced.bind fun _ =>
    h.expression.spaced.bind fun _ => balances_pure _

theorem balances_positionalField : (positionalField rules).Balances :=
  h.expression.bind fun _ => balances_pure _

theorem balances_field : (field rules).Balances :=
  (balances_keyedField h).orElse ((balances_namedField h).orElse (balances_positionalField h))

theorem balances_fieldList : (fieldList rules).Balances := by
  have hrest : (many (do spaced fieldSeparator; spaced (field rules))).Balances :=
    (balances_fieldSeparator.spaced.bind fun _ => (balances_field h).spaced).many
  exact (balances_field h).bind fun _ => hrest.bind fun _ =>
    (balances_fieldSeparator.spaced.orElse (balances_pure ())).bind fun _ => balances_pure _

theorem balances_tableConstructor : (tableConstructor rules).Balances := by
  have hfields : (spaced (fieldList rules) <|> pure []).Balances :=
    (balances_fieldList h).spaced.orElse (balances_pure [])
  have hclosed : (do
      let fields ← spaced (fieldList rules) <|> pure []
      spaced (symbol '\x7d')
      return fields : Reader (List (Option Expr × Expr))).Ensures
        fun _ text _ => ClosesBrace text := by
    refine Ensures.bind hfields (fun fields => ensures_closingBrace fields) ?_
    rintro _ _ left right _ _ - hleft ⟨inner, hinner, rfl⟩
    exact ⟨left ++ inner, hleft.append hinner, (List.append_assoc ..).symm⟩
  have htable : (do
      symbol '\x7b'
      let fields ← spaced (fieldList rules) <|> pure []
      spaced (symbol '\x7d')
      return fields : Reader (List (Option Expr × Expr))).Balances := by
    refine Ensures.bind (ensures_symbol '\x7b') (fun _ => hclosed) ?_
    rintro _ _ left right _ _ - rfl ⟨inner, hinner, rfl⟩
    exact .group hinner .nil
  exact (htable.located "table").bind fun _ => balances_pure _

theorem balances_group : (group rules).Balances :=
  ((balances_enclosed h (by decide) (by decide)).located "group").bind fun _ => balances_pure _

theorem balances_primary : (primary rules).Balances :=
  balances_nilLiteral.orElse <| balances_booleanLiteral.orElse <| balances_numberLiteral.orElse <|
    balances_stringLiteral.orElse <| (balances_tableConstructor h).orElse <|
      (balances_group h).orElse balances_variableName

theorem balances_argumentList : (argumentList rules).Balances := by
  have hrest : (many (do spaced (symbol ','); spaced rules.expression)).Balances :=
    ((balances_symbol (by decide)).spaced.bind fun _ => h.expression.spaced).many
  exact h.expression.bind fun _ => hrest.bind fun _ => balances_pure _

theorem balances_arguments : (arguments rules).Balances := by
  have hlist : (do
      symbol '('
      let args ← spaced (argumentList rules) <|> pure []
      spaced (symbol ')')
      return args : Reader (List Expr)).Balances :=
    (balances_symbol (by decide)).bind fun _ =>
      ((balances_argumentList h).spaced.orElse (balances_pure [])).bind fun _ =>
        (balances_symbol (by decide)).spaced.bind fun _ => balances_pure _
  exact hlist.orElse <| (balances_stringLiteral.bind fun _ => balances_pure _).orElse
    ((balances_tableConstructor h).bind fun _ => balances_pure _)

theorem balances_indexSuffix : (indexSuffix rules).Balances :=
  ((balances_enclosed h (by decide) (by decide)).located _).bind fun _ => balances_pure _

theorem balances_callSuffix : (callSuffix rules).Balances :=
  ((balances_arguments h).located _).bind fun _ => balances_pure _

theorem balances_methodSuffix : (methodSuffix rules).Balances := by
  have hcall := (balances_symbol (c := ':') (by decide)).bind fun _ =>
    balances_name.spaced.bind fun named => (balances_arguments h).spaced.bind fun args =>
      balances_pure (named.1, args)
  exact (hcall.located _).bind fun _ => balances_pure _

theorem balances_suffix : (suffix rules).Balances :=
  balances_fieldSuffix.orElse <| (balances_indexSuffix h).orElse <|
    (balances_callSuffix h).orElse (balances_methodSuffix h)

theorem balances_suffixed : (suffixed rules).Balances :=
  (balances_primary h).bind fun _ => (balances_suffix h).spaced.many.bind fun _ => balances_pure _

end

section

variable {operator : List Char → Nat} {operand : Reader Expr} {tail : Reader (Expr → Expr)}

theorem balances_binaryTail (hoperator : Token.Takes operator Token.PlainText)
    (hoperand : operand.Balances) (tag : String) : (binaryTail tag operator operand).Balances :=
  (balances_locatedToken hoperator.balanced tag).spaced.bind fun _ =>
    hoperand.spaced.bind fun _ => balances_pure _

theorem balances_logicalTail (hoperator : Token.Takes operator Token.PlainText)
    (hoperand : operand.Balances) (tag : String) : (logicalTail tag operator operand).Balances :=
  (balances_locatedToken hoperator.balanced tag).spaced.bind fun _ =>
    hoperand.spaced.bind fun _ => balances_pure _

theorem balances_chained (hoperand : operand.Balances) (htail : tail.Balances) :
    (chained operand tail).Balances :=
  hoperand.bind fun _ => htail.many.bind fun _ => balances_pure _

theorem balances_rightward (hoperand : operand.Balances) (htail : tail.Balances) :
    (rightward operand tail).Balances :=
  hoperand.bind fun _ => (htail.orElse (balances_pure id)).bind fun _ => balances_pure _

end

section

variable {rules : Rules} (h : rules.Balances)

include h

theorem balances_power : (power rules).Balances :=
  balances_rightward (balances_suffixed h)
    (balances_binaryTail (Token.oneOf_takes (by decide)) h.unary _)

theorem balances_unaryExpr : (unaryExpr rules).Balances :=
  (((balances_token Token.unaryOp_takes.balanced).bind fun _ => h.unary.spaced.bind fun _ =>
    balances_pure _).located _).bind fun _ => balances_pure _

theorem balances_unary : (unary rules).Balances :=
  (balances_unaryExpr h).orElse (balances_power h)

theorem balances_product : (product rules).Balances :=
  balances_chained (balances_unary h)
    (balances_binaryTail (Token.oneOf_takes (by decide)) (balances_unary h) _)

theorem balances_sum : (sum rules).Balances :=
  balances_chained (balances_product h)
    (balances_binaryTail (Token.oneOf_takes (by decide)) (balances_product h) _)

theorem balances_concatenation : (concatenation rules).Balances :=
  balances_rightward (balances_sum h)
    (balances_binaryTail (Token.oneOf_takes (by decide)) h.concatenation _)

theorem balances_comparison : (comparison rules).Balances :=
  balances_chained (balances_concatenation h)
    (balances_binaryTail (Token.oneOf_takes (by decide)) (balances_concatenation h) _)

theorem balances_conjunction : (conjunction rules).Balances :=
  balances_chained (balances_comparison h)
    (balances_logicalTail (Token.keyword_takes "and") (balances_comparison h) _)

theorem balances_expression : (expression rules).Balances :=
  balances_chained (balances_conjunction h)
    (balances_logicalTail (Token.keyword_takes "or") (balances_conjunction h) _)

end

theorem balances_failure {α : Type} : (failure : Reader α).Balances := by
  intro cursor reach result later reach' hrun
  cases hrun

theorem rules_balances (depth : Nat) : (rules depth).Balances := by
  induction depth with
  | zero => exact ⟨balances_failure, balances_failure, balances_failure⟩
  | succ depth ih =>
      exact ⟨balances_expression ih, balances_concatenation ih, balances_unary ih⟩

theorem balances_root : root.Balances :=
  balances_get.bind fun _ => (rules_balances _).expression.spaced.bind fun _ =>
    balances_blanks.bind fun _ => balances_pure _

end Grammar

theorem readExpr_of_parseExpr {source : String} {e : Expr} (h : parseExpr source = .ok e) :
    readExpr source.toList = .ok e := by
  cases hread : readExpr source.toList with
  | ok found =>
      rw [parseExpr, hread] at h
      exact congrArg Except.ok (Except.ok.inj h)
  | error why =>
      rw [parseExpr, hread] at h
      cases h

/-- Every text that is an expression is balanced. -/
theorem balanced_of_readExpr {text : List Char} {e : Expr} (h : readExpr text = .ok e) :
    Balanced text := by
  unfold readExpr at h
  split at h
  · cases h
  · next result cursor reach hroot =>
      obtain ⟨taken, hmoves, hbalanced⟩ := Grammar.balances_root _ _ _ _ _ hroot
      split_ifs at h with hempty
      · rw [List.isEmpty_iff] at hempty
        have hrest : text = taken := by simpa [hempty, Cursor.ofText] using hmoves.rest
        exact hrest ▸ hbalanced

/-- The empty text is no expression. -/
theorem ne_nil_of_readExpr {text : List Char} {e : Expr} (h : readExpr text = .ok e) :
    text ≠ [] := by
  rintro rfl
  have hnil : readExpr [] = .error (.unexpected .start) := rfl
  rw [hnil] at h
  cases h

end TemplateScript
