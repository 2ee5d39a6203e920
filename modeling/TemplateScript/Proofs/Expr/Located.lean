import TemplateScript.Proofs.Expr.Layout

/-!
# Locations of expressions

Each rule of the grammar lays out what it reads in the text that it takes, by induction on the depth
to which the rules are tied. So does the expression that a text is read as, and every node of it
points at its own place in the text.
-/

namespace TemplateScript

theorem BinaryOp.spelling_ofSpelling (s : String) : (ofSpelling s).spelling = s := by
  rw [ofSpelling]
  cases hfind : known.find? fun op => op.spelling == s with
  | none => rfl
  | some op =>
      have hspelling := List.find?_some hfind
      exact beq_iff_eq.mp hspelling

theorem LogicalOp.spelling_ofSpelling (s : String) : (ofSpelling s).spelling = s := by
  rw [ofSpelling]
  split_ifs with hand hor
  · exact (beq_iff_eq.mp hand).symm
  · exact (beq_iff_eq.mp hor).symm
  · rfl

namespace Grammar

open Reader

/-! ### Literals, names and signs -/

theorem lays_nilLiteral : nilLiteral.Lays :=
  lays_locatedToken (Token.keyword_takes "nil") "nil" fun _ _ => ⟨rfl, rfl, rfl, rfl⟩

theorem lays_booleanLiteral : booleanLiteral.Lays :=
  lays_locatedToken Token.boolean_takes "boolean" fun _ _ => ⟨rfl, rfl, rfl, rfl⟩

theorem lays_numberLiteral : numberLiteral.Lays :=
  lays_locatedToken Token.number_takes "number" fun _ _ => ⟨rfl, rfl, rfl, rfl⟩

theorem lays_stringLiteral : stringLiteral.Lays :=
  lays_locatedToken Token.string_takes "string" fun _ _ => ⟨rfl, rfl, rfl, rfl⟩

theorem lays_variableName : variableName.Lays :=
  lays_locatedToken Token.name_takes "name" fun _ _ => ⟨rfl, rfl, rfl, rfl⟩

theorem lays_nameKey : nameKey.Lays :=
  lays_locatedToken Token.name_takes "name" fun _ _ => ⟨rfl, rfl, rfl, rfl⟩

theorem adds_symbol (c : Char) : (symbol c).Adds [] fun _ => [] :=
  adds_none (ensures_symbol c)

theorem begins_symbol (c : Char) : (symbol c).Begins [c] :=
  (ensures_symbol c).mono fun _ _ _ htext => ⟨c, List.mem_singleton_self c, by rw [htext]; rfl⟩

theorem begins_point : (discard (token (Token.single '.'))).Begins ['.'] := by
  refine Begins.bind (begins_token ((Token.single_takes '.').mono ?_)) fun _ => ensures_pure ()
  rintro text (rfl | rfl) c hhead
  · cases hhead
  · obtain rfl := Option.mem_some.mp hhead
    exact List.mem_singleton_self _

theorem begins_stringLiteral : stringLiteral.Begins ['"', '\''] := by
  have hquote : (token Token.string).Begins ['"', '\''] := by
    refine begins_token ((Token.string_takes.begins Token.absentAt_string).mono ?_)
    intro text htext c hhead
    simpa [isQuote, or_iff_not_imp_left] using htext c hhead
  exact ((hquote.located "string").bind fun _ => ensures_pure _).bind fun _ => ensures_pure _

/-! ### Rules -/

/-- The rules that contain themselves lay out what they read. -/
structure Rules.Lay (rules : Rules) : Prop where
  expression : rules.expression.Lays
  concatenation : rules.concatenation.Lays
  unary : rules.unary.Lays

section

variable {rules : Rules} (h : rules.Lay)

include h

theorem opens_enclosed (opening closing : Char) :
    (enclosed rules opening closing).Opens [opening] fun e => [e] :=
  (begins_symbol opening).opens fun _ => h.expression.adds.spaced.bind fun _ =>
    adds_after (adds_symbol closing).spaced fun _ => adds_pure rfl

theorem adds_field : (field rules).Adds [] fieldParts := by
  have hkeyed (key : Expr) :
      (do
        spaced assignmentSign
        let value ← spaced rules.expression
        return (some key, value) : Reader (Option Expr × Expr)).Adds ([] ++ [key]) fieldParts :=
    adds_after (adds_none balances_assignmentSign).spaced fun _ =>
      h.expression.adds.spaced.bind fun _ => adds_pure rfl
  refine Adds.orElse ((opens_enclosed h '[' ']').adds.bind hkeyed) (Adds.orElse ?_ ?_)
  · exact lays_nameKey.adds.bind hkeyed
  · exact h.expression.adds.bind fun _ => adds_pure rfl

theorem adds_fieldList : (fieldList rules).Adds [] fun fields => fields.flatMap fieldParts := by
  have hseparator : fieldSeparator.Adds [] fun _ => [] := adds_none balances_fieldSeparator
  have hrest : (many (do spaced fieldSeparator; spaced (field rules))).Adds []
      fun fields => fields.flatMap fieldParts :=
    Adds.many (adds_after hseparator.spaced fun _ => (adds_field h).spaced)
  exact (adds_field h).bind fun _ => hrest.bind fun _ =>
    adds_after (hseparator.spaced.orElse (adds_pure rfl)) fun _ => adds_pure rfl

theorem opens_fields :
    (do
      symbol '\x7b'
      let fields ← spaced (fieldList rules) <|> pure []
      spaced (symbol '\x7d')
      return fields : Reader (List (Option Expr × Expr))).Opens ['\x7b']
        fun fields => fields.flatMap fieldParts :=
  (begins_symbol '\x7b').opens fun _ =>
    ((adds_fieldList h).spaced.orElse (adds_pure rfl)).bind fun _ =>
      adds_after (adds_symbol '\x7d').spaced fun _ => adds_pure rfl

theorem lays_tableConstructor : (tableConstructor rules).Lays :=
  (opens_fields h).adds.lays_located "table" fun _ _ => ⟨rfl, rfl, rfl, rfl⟩

theorem begins_tableConstructor : (tableConstructor rules).Begins ['\x7b'] :=
  ((opens_fields h).begins.located "table").bind fun _ => ensures_pure _

theorem lays_group : (group rules).Lays :=
  (opens_enclosed h '(' ')').adds.lays_located "group" fun _ _ => ⟨rfl, rfl, rfl, rfl⟩

theorem lays_primary : (primary rules).Lays :=
  lays_nilLiteral.orElse <| lays_booleanLiteral.orElse <| lays_numberLiteral.orElse <|
    lays_stringLiteral.orElse <| (lays_tableConstructor h).orElse <|
      (lays_group h).orElse lays_variableName

theorem adds_argumentList : (argumentList rules).Adds [] fun args => args := by
  have hrest : (many (do spaced (symbol ','); spaced rules.expression)).Adds []
      fun args => args.flatMap fun e => [e] :=
    Adds.many (adds_after (adds_symbol ',').spaced fun _ => h.expression.adds.spaced)
  exact h.expression.adds.bind fun _ => hrest.bind fun _ => adds_pure (by simp)

theorem opens_arguments :
    (arguments rules).Opens ['(', '"', '\'', '\x7b'] fun args => args := by
  have hlist : (do
      symbol '('
      let args ← spaced (argumentList rules) <|> pure []
      spaced (symbol ')')
      return args : Reader (List Expr)).Opens ['('] fun args => args :=
    (begins_symbol '(').opens fun _ =>
      ((adds_argumentList h).spaced.orElse (adds_pure rfl)).bind fun _ =>
        adds_after (adds_symbol ')').spaced fun _ => adds_pure rfl
  have hstring := lays_stringLiteral.opens begins_stringLiteral
  have htable := (lays_tableConstructor h).opens (begins_tableConstructor h)
  exact (hlist.mono (by simp)).orElse ((hstring.mono (by simp)).orElse (htable.mono (by simp)))

theorem places_suffix : (suffix rules).Places Attaches := by
  have hfield : (do
      discard (token (Token.single '.'))
      spaced nameKey : Reader Expr).Opens ['.'] fun key => [key] :=
    begins_point.opens fun _ => lays_nameKey.adds.spaced
  have hcall : (do
      symbol ':'
      let named ← spaced name
      let args ← spaced (arguments rules)
      return (named.1, args) : Reader (String × List Expr)).Opens [':'] fun call => call.2 :=
    (begins_symbol ':').opens fun _ => adds_after (adds_none balances_name).spaced fun _ =>
      (opens_arguments h).adds.spaced.bind fun _ => adds_pure rfl
  refine Ensures.orElse ?_ (Ensures.orElse ?_ (Ensures.orElse ?_ ?_))
  · exact (hfield.mono (by simp)).attaches_located _ fun _ _ _ => ⟨rfl, rfl⟩
  · exact ((opens_enclosed h '[' ']').mono (by simp)).attaches_located _ fun _ _ _ => ⟨rfl, rfl⟩
  · exact (opens_arguments h).attaches_located _ fun _ _ _ => ⟨rfl, rfl⟩
  · exact hcall.attaches_located _ fun _ _ _ => ⟨rfl, rfl⟩

theorem lays_suffixed : (suffixed rules).Lays :=
  lays_continued (lays_primary h) (places_many (places_spaced_suffix (places_suffix h)))

end

/-! ### Levels of operators -/

section

variable {operator : List Char → Nat} {texts : List Char → Prop} {operand : Reader Expr}
  {tail : Reader (Expr → Expr)}

theorem places_binaryTail (hoperator : Token.Takes operator texts) (hoperand : operand.Lays)
    (tag : String) : (binaryTail tag operator operand).Places Continues :=
  places_operatorTail hoperator hoperand tag fun spelling _ _ _ =>
    ⟨by rw [Expr.operator?, BinaryOp.spelling_ofSpelling], rfl⟩

theorem places_logicalTail (hoperator : Token.Takes operator texts) (hoperand : operand.Lays)
    (tag : String) : (logicalTail tag operator operand).Places Continues :=
  places_operatorTail hoperator hoperand tag fun spelling _ _ _ =>
    ⟨by rw [Expr.operator?, LogicalOp.spelling_ofSpelling], rfl⟩

theorem lays_chained (hoperand : operand.Lays) (htail : tail.Places Continues) :
    (chained operand tail).Lays :=
  lays_continued hoperand (places_many htail)

theorem lays_rightward (hoperand : operand.Lays) (htail : tail.Places Continues) :
    (rightward operand tail).Lays :=
  lays_continued hoperand (Ensures.orElse htail (places_pure_continues fun _ => rfl))

end

section

variable {rules : Rules} (h : rules.Lay)

include h

theorem lays_power : (power rules).Lays :=
  lays_rightward (lays_suffixed h)
    (places_binaryTail (Token.oneOf_takes (by decide)) h.unary _)

theorem lays_unaryExpr : (unaryExpr rules).Lays := by
  have hoperand : (do
      let spelling ← token Token.unaryOp
      let operand ← spaced rules.unary
      return (spelling, operand) : Reader (List Char × Expr)).Adds [] fun found => [found.2] :=
    adds_after (adds_none (ensures_token Token.unaryOp_takes)) fun _ =>
      h.unary.adds.spaced.bind fun _ => adds_pure rfl
  exact hoperand.lays_located "unary_op_expr" fun _ _ => ⟨rfl, rfl, rfl, rfl⟩

theorem lays_unary : (unary rules).Lays :=
  (lays_unaryExpr h).orElse (lays_power h)

theorem lays_product : (product rules).Lays :=
  lays_chained (lays_unary h) (places_binaryTail (Token.oneOf_takes (by decide)) (lays_unary h) _)

theorem lays_sum : (sum rules).Lays :=
  lays_chained (lays_product h)
    (places_binaryTail (Token.oneOf_takes (by decide)) (lays_product h) _)

theorem lays_concatenation : (concatenation rules).Lays :=
  lays_rightward (lays_sum h)
    (places_binaryTail (Token.oneOf_takes (by decide)) h.concatenation _)

theorem lays_comparison : (comparison rules).Lays :=
  lays_chained (lays_concatenation h)
    (places_binaryTail (Token.oneOf_takes (by decide)) (lays_concatenation h) _)

theorem lays_conjunction : (conjunction rules).Lays :=
  lays_chained (lays_comparison h)
    (places_logicalTail (Token.keyword_takes "and") (lays_comparison h) _)

theorem lays_expression : (expression rules).Lays :=
  lays_chained (lays_conjunction h)
    (places_logicalTail (Token.keyword_takes "or") (lays_conjunction h) _)

end

theorem lays_failure : (failure : Reader Expr).Lays := by
  intro cursor reach result later reach' hrun
  cases hrun

theorem rules_lay (depth : Nat) : (rules depth).Lay := by
  induction depth with
  | zero => exact ⟨lays_failure, lays_failure, lays_failure⟩
  | succ depth ih => exact ⟨lays_expression ih, lays_concatenation ih, lays_unary ih⟩

/-- What is read as an expression is laid out in the text between the blanks around it. -/
theorem places_root :
    root.Places fun position text e => ∃ lead shown trail, text = lead ++ shown ++ trail ∧
      AreBlank lead ∧ AreBlank trail ∧ e.Laid (position.advance lead) shown := by
  have hblanks : blanks.Places fun _ trail _ => AreBlank trail := ensures_blanks
  refine places_after_get fun cursor => Places.bind
    (rules_lay (cursor.rest.length + 1)).expression.spaced (fun e => hblanks.map fun _ => e) ?_
  rintro position _ trail e _ ⟨lead, shown, rfl, hlead, hshown⟩ ⟨_, rfl, htrail⟩
  exact ⟨lead, shown, trail, rfl, hlead, htrail, hshown⟩

end Grammar

theorem laid_of_readExpr {text : List Char} {e : Expr} (h : readExpr text = .ok e) :
    ∃ lead shown trail, text = lead ++ shown ++ trail ∧ AreBlank lead ∧ AreBlank trail ∧
      e.Laid (.behind lead) shown := by
  unfold readExpr at h
  split at h
  · cases h
  · next found cursor reach hroot =>
      obtain ⟨taken, hmoves, hlaid⟩ := Grammar.places_root _ _ _ _ _ hroot
      split_ifs at h with hempty
      · split at h
        · cases h
        · obtain rfl := Except.ok.inj h
          rw [List.isEmpty_iff] at hempty
          obtain rfl : text = taken := by simpa [hempty, Cursor.ofText] using hmoves.rest
          simp only [← Position.start_advance]
          exact hlaid

/-- Every node of an expression that is read from a text points at a part of the text. Operators
point at their tokens between their operands, indices and calls at their suffixes, and suffixes
that are applied one after another at positions that follow one another. -/
theorem standsIn_of_parseExpr {source : String} {e node : Expr} (h : parseExpr source = .ok e)
    (hnode : e.Occurs node) :
    ∃ before shown after, source.toList = before ++ shown ++ after ∧
      node.StandsIn before shown after := by
  obtain ⟨lead, text, trail, hsource, -, -, hlaid⟩ := laid_of_readExpr (readExpr_of_parseExpr h)
  obtain ⟨before, shown, after, rfl, hshown⟩ := hlaid.of_occurs hnode
  rw [Position.behind_advance] at hshown
  obtain ⟨front, here, back, heq, hstands⟩ := hshown.standsIn (after ++ trail)
  refine ⟨front, here, back, ?_, hstands⟩
  rw [hsource, ← heq]
  simp only [List.append_assoc]

set_option maxRecDepth 4096 in
/-- A sum on the second line, in a table that is the argument of a call, with one more suffix. -/
theorem standsIn_of_parseExpr_sum :
    ∃ e node, parseExpr "f\x7bk =\n x+1\x7d.b" = .ok e ∧ e.Occurs node ∧
      node.loc = some ⟨⟨2, 3⟩, some "add_op", some "+"⟩ ∧
      ∃ before shown after, "f\x7bk =\n x+1\x7d.b".toList = before ++ shown ++ after ∧
        node.StandsIn before shown after := by
  let key : Expr := .literal (.str "k") (some ⟨⟨1, 3⟩, some "name", some "k"⟩)
  let node : Expr := .binary (.arithmetic .add)
    (.variable "x" (some ⟨⟨2, 2⟩, some "name", some "x"⟩))
    (.literal (.number (.int 1)) (some ⟨⟨2, 4⟩, some "number", some "1"⟩))
    (some ⟨⟨2, 3⟩, some "add_op", some "+"⟩)
  let call : Expr := .call (.variable "f" (some ⟨⟨1, 1⟩, some "name", some "f"⟩))
    [.tableConstructor [(some key, node)] (some ⟨⟨1, 2⟩, some "table", some "\x7bk =\n x+1\x7d"⟩)]
    (some ⟨⟨1, 2⟩, some "call_suffix", some "\x7bk =\n x+1\x7d"⟩)
  let e : Expr := .index call
    (.literal (.str "b") (some ⟨⟨2, 7⟩, some "name", some "b"⟩))
    (some ⟨⟨2, 6⟩, some "field_suffix", some ".b"⟩)
  have hparse : parseExpr "f\x7bk =\n x+1\x7d.b" = .ok e := rfl
  have hnode : e.Occurs node :=
    .part (.head _) (.part (.tail _ (.head _)) (.part (.tail _ (.head _)) (.root node)))
  exact ⟨e, node, hparse, hnode, rfl, standsIn_of_parseExpr hparse hnode⟩

end TemplateScript
