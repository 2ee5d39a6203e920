import TemplateScript.Proofs.Expr.Enclosure

/-!
# A name with an expression in parentheses

A text that is an expression may be put in parentheses and behind a name: what is read is a call of
the name with the expression as its one argument.
-/

namespace TemplateScript

open Token Reader Grammar

namespace Grammar

/-! ### Names -/

/-- A rule that is blind behind words takes of a name what it takes of the name alone. -/
theorem length_name {length : List Char → Nat} {p : Char → Prop} (hblind : Blind length p)
    {name : String} (hname : isName name.toList) (hdenies : Denies length (.name name))
    {after : List Char} (hafter : StartsIn p after) : length (name.toList ++ after) = 0 := by
  rw [hblind _ after hafter, ← List.append_nil name.toList]
  exact hdenies _ [] (.name hname) gapped_nil

theorem takesText_variable {name : String} (hname : isName name.toList) {after : List Char}
    (hafter : StartsIn EndsUnaryOp after) (rules : Rules) :
    TakesText (primary rules) name.toList after (·.Recovers (.variable name none)) := by
  have hpart : StartsIn (isWordPart · = false) after := hafter.mono fun _ h => h.1
  have hkeyword : keyword "nil" (name.toList ++ after) = 0 :=
    length_name (blind_keyword "nil") hname (denies_keyword rfl (by decide)) hpart
  have hboolean : boolean (name.toList ++ after) = 0 :=
    length_name blind_boolean hname (denies_boolean rfl) hpart
  obtain ⟨c, rest, htext, hstart⟩ := (Lexeme.Spells.name hname).begins
  have hother (d : Char) (hd : isWordStart d = false) : d ≠ c := by
    rintro rfl
    exact absurd hstart (by rw [Lexeme.begins, hd]; decide)
  have hread : TakesText variableName name.toList after (·.Recovers (.variable name none)) := by
    have hlength : Token.name (name.toList ++ after) = name.toList.length := by
      rw [blind_name _ after hpart]
      simpa using accepts_name name name.toList [] (.name hname) gapped_nil
    refine (takesText_locatedToken hlength (htext ▸ List.cons_ne_nil c rest) "name").last ?_
    rintro ⟨_, place⟩ ⟨rfl, -, -⟩
    exact takesText_pure ⟨congrArg (Expr.variable · none) String.ofList_toList, rfl⟩
  have hnumber : RefusesText numberLiteral (name.toList ++ after) := by
    rw [htext]
    have hdigit : isDecimalDigit c = false := not_isDecimalDigit_of_isWordStart hstart
    exact refusesText_word (absentAt_number c _ ⟨hdigit, (hother '.' rfl).symm⟩) _
  have hstring : RefusesText stringLiteral (name.toList ++ after) := by
    rw [htext]
    have hquote : isQuote c = false := by
      rw [Bool.eq_false_iff]
      intro hquote
      exact absurd hstart (by rw [Lexeme.begins, not_isWordStart_of_isQuote hquote]; decide)
    exact refusesText_word (absentAt_string c _ hquote) _
  have htable : RefusesText (tableConstructor rules) (name.toList ++ after) := by
    rw [htext]
    exact (((refusesText_symbol_cons (hother '\x7b' rfl) _).bind _).located "table").bind _
  have hgroup : RefusesText (group rules) (name.toList ++ after) := by
    rw [htext]
    exact (((refusesText_symbol_cons (hother '(' rfl) _).bind _).located "group").bind _
  exact (refusesText_word hkeyword _).takesText_orElse <|
    (refusesText_word hboolean _).takesText_orElse <| hnumber.takesText_orElse <|
    hstring.takesText_orElse <| htable.takesText_orElse <| hgroup.takesText_orElse hread

section

variable {text after : List Char} {e : Expr} {depth : Nat} (h : readExpr text = .ok e)
  (hafter : Closing after)

include h hafter

/-! ### Parentheses -/

theorem takesText_group (hdepth : text.length < depth) :
    TakesText (group (rules depth)) ('(' :: (text ++ [')'])) after
      (·.Recovers (.paren e none)) := by
  have hbehind : Closing ([')'] ++ after) := List.forall_mem_cons.mpr ⟨rfl, hafter⟩
  obtain ⟨inner, gap, rfl, hgap, hread⟩ := takesText_of_readExpr h hbehind hdepth
  rw [← List.append_assoc] at hread
  have hclosing : ∀ found : Expr, found.Recovers e → TakesText (do
      spaced (symbol ')')
      return found) (gap ++ [')']) after (·.Recovers e) := fun found hfound =>
    ((takesText_symbol ')' after).spaced hgap (startsIn_cons (by decide) _)).last fun _ _ =>
      takesText_pure hfound
  have hall : TakesText (enclosed (rules depth) '(' ')') (['('] ++ (inner ++ (gap ++ [')']))) after
      (·.Recovers e) :=
    (takesText_symbol '(' _).bind fun _ _ => hread.bind hclosing
  rw [← List.append_assoc inner] at hall
  refine (hall.located "group").last ?_
  rintro ⟨found, place⟩ hfound
  exact takesText_pure ⟨congrArg (Expr.paren · none) hfound.unlocated, hfound.overlong⟩

theorem takesText_parenthesized (hdepth : text.length + 1 < depth) :
    TakesText (rules depth).expression ('(' :: (text ++ [')'])) after
      (·.Recovers (.paren e none)) := by
  obtain ⟨inner, rfl⟩ : ∃ inner, depth = inner + 1 := ⟨depth - 1, by omega⟩
  have hgroup : TakesText (group (rules inner)) ('(' :: (text ++ [')'])) after
      (·.Recovers (.paren e none)) :=
    takesText_group h hafter (Nat.lt_of_succ_lt_succ hdepth)
  have hnumber : RefusesText numberLiteral ('(' :: (text ++ [')']) ++ after) :=
    refusesText_word (absentAt_number '(' _ (by decide)) _
  have hstring : RefusesText stringLiteral ('(' :: (text ++ [')']) ++ after) :=
    refusesText_word (absentAt_string '(' _ (by decide)) _
  have htable : RefusesText (tableConstructor (rules inner)) ('(' :: (text ++ [')']) ++ after) :=
    (((refusesText_symbol_cons (by decide) _).bind _).located "table").bind _
  have hprimary : TakesText (primary (rules inner)) ('(' :: (text ++ [')'])) after
      (·.Recovers (.paren e none)) :=
    takesText_primary (c := '(') rfl rfl (hnumber.takesText_orElse
      (hstring.takesText_orElse (htable.takesText_orElse (hgroup.orElse _))))
  have hcloser : StartsIn IsCloser after := hafter.startsIn (by decide)
  have hsign : Token.unaryOp ('(' :: (text ++ [')']) ++ after) = 0 :=
    absentAt_unaryOp '(' _ ⟨rfl, by decide⟩
  exact takesText_expression hcloser (takesText_unary hcloser hsign hprimary)

/-! ### Arguments -/

theorem takesText_argument (hdepth : text.length + 1 < depth) :
    TakesText (arguments (rules depth)) ('(' :: ('(' :: (text ++ [')']) ++ [')'])) after
      (List.Forall₂ Expr.Recovers · [.paren e none]) := by
  have hbehind : Closing ([')'] ++ after) := List.forall_mem_cons.mpr ⟨rfl, hafter⟩
  have hstop : RefusesText (do
      spaced (symbol ',')
      spaced (rules depth).expression) ([')'] ++ after) :=
    ((refusesText_symbol_cons (by decide) after).spaced (startsIn_cons (by decide) after)).bind _
  have hlist : TakesText (argumentList (rules depth)) ('(' :: (text ++ [')'])) ([')'] ++ after)
      (List.Forall₂ Expr.Recovers · [.paren e none]) :=
    (takesText_parenthesized h hbehind hdepth).last fun first hfirst =>
      (takesText_many_nil hstop).last fun rest hnone => by
        subst hnone
        exact takesText_pure (.cons hfirst .nil)
  have hclosing : ∀ args, List.Forall₂ Expr.Recovers args [.paren e none] → TakesText (do
      spaced (symbol ')')
      return args) [')'] after (List.Forall₂ Expr.Recovers · [.paren e none]) := fun args hargs =>
    ((takesText_symbol ')' after).spaced (List.forall_mem_nil _)
      (startsIn_cons (by decide) _)).last fun _ _ => takesText_pure hargs
  have hinside := ((hlist.spaced (List.forall_mem_nil _) (startsIn_cons (by decide) _)).orElse
    (pure [])).bind hclosing
  have hall := (takesText_symbol '(' _).bind fun _ _ => hinside
  exact hall.orElse _

theorem takesText_application (hdepth : text.length + 1 < depth) (fn : Expr) :
    TakesText (spaced (suffix (rules depth))) ('(' :: ('(' :: (text ++ [')']) ++ [')'])) after
      (SuffixRecovers · fn (.call fn [.paren e none] none)) := by
  have hfront : Token.single '.' ('(' :: ('(' :: (text ++ [')']) ++ [')']) ++ after) = 0 := rfl
  have hpoint : RefusesText (discard (token (Token.single '.')))
      ('(' :: ('(' :: (text ++ [')']) ++ [')']) ++ after) :=
    (refusesText_token hfront).bind fun _ => pure ()
  have hfield : RefusesText fieldSuffix ('(' :: ('(' :: (text ++ [')']) ++ [')']) ++ after) :=
    ((hpoint.bind _).located _).bind _
  have hindex : RefusesText (indexSuffix (rules depth))
      ('(' :: ('(' :: (text ++ [')']) ++ [')']) ++ after) :=
    (((refusesText_symbol_cons (by decide) _).bind _).located _).bind _
  have hcall : TakesText (callSuffix (rules depth)) ('(' :: ('(' :: (text ++ [')']) ++ [')'])) after
      (SuffixRecovers · fn (.call fn [.paren e none] none)) := by
    refine ((takesText_argument h hafter hdepth).located "call_suffix").last ?_
    rintro ⟨args, place⟩ hargs
    obtain ⟨hsame, hshort⟩ := recovers_all hargs
    refine takesText_pure fun found hfound => ⟨?_, ?_⟩
    · exact congrArg₂ (Expr.call · · none) hfound.unlocated hsame
    · rw [Suffix.apply, Expr.overlongInteger?, hfound.overlong, hshort]
      rfl
  exact (hfield.takesText_orElse (hindex.takesText_orElse (hcall.orElse _))).spaced
    (List.forall_mem_nil _) (startsIn_cons (by decide) _)

theorem takesText_call {name : String} (hname : isName name.toList)
    (hdepth : text.length + 1 < depth) :
    TakesText (suffixed (rules depth)) (name.toList ++ ('(' :: ('(' :: (text ++ [')']) ++ [')'])))
      after (·.Recovers (.call (.variable name none) [.paren e none] none)) := by
  have hnone : TakesParts (spaced (suffix (rules depth))) [] after (· = []) := takesParts_nil rfl
  have hparts : TakesParts (spaced (suffix (rules depth)))
      ('(' :: ('(' :: (text ++ [')']) ++ [')']) ++ []) after fun suffixes => ∃ s, suffixes = [s] ∧
        SuffixRecovers s (.variable name none) (.call (.variable name none) [.paren e none] none) :=
    (takesText_application h hafter hdepth _).parts_cons (List.cons_ne_nil _ _) hnone
      fun s rest hs hrest => ⟨s, congrArg (s :: ·) hrest, hs⟩
  rw [List.append_nil] at hparts
  have hstop : RefusesText (spaced (suffix (rules depth))) after :=
    refusesText_suffix (hafter.startsIn (by decide))
  have hfront : StartsIn EndsUnaryOp ('(' :: ('(' :: (text ++ [')']) ++ [')']) ++ after) :=
    startsIn_cons ⟨rfl, by decide, by decide⟩ _
  refine (takesText_variable hname hfront _).bind fun base hbase => ?_
  refine (hparts.many hstop).last ?_
  rintro _ ⟨s, rfl, hs⟩
  exact takesText_pure (hs base hbase)

end

end Grammar

/-- The text of a call of a name with one argument, which is in parentheses. -/
def applied (name source : String) : String :=
  name ++ "((" ++ source ++ "))"

theorem applied_toList (name source : String) :
    (applied name source).toList =
      name.toList ++ ('(' :: ('(' :: (source.toList ++ [')']) ++ [')'])) := by
  simp [applied]

/-- What is an expression may be put in parentheses and behind a name. -/
theorem parseExpr_applied {name source : String} {e : Expr} (hname : isName name.toList)
    (h : parseExpr source = .ok e) :
    ∃ found, parseExpr (applied name source) = .ok found ∧
      found.unlocated = (Expr.call (.variable name none) [.paren e none] none).unlocated := by
  have htext := applied_toList name source
  have hdepth : source.toList.length + 1 < (applied name source).toList.length := by
    rw [htext]
    simp
    omega
  have hend : Closing [] := List.forall_mem_nil _
  have hcall := takesText_call (readExpr_of_parseExpr h) hend hname hdepth
  rw [← htext] at hcall
  have hsign : unaryOp ((applied name source).toList ++ []) = 0 := by
    rw [List.append_nil, htext]
    exact length_name blind_unaryOp hname (denies_unaryOp rfl)
      (startsIn_cons ⟨rfl, by decide, by decide⟩ _)
  have hread : TakesText (rules ((applied name source).toList.length + 1)).expression
      (applied name source).toList []
        (·.Recovers (.call (.variable name none) [.paren e none] none)) :=
    takesText_expression startsIn_nil (takesText_unary_of_suffixed startsIn_nil hsign hcall)
  have hstart : StartsIn (isBlank · = false) (applied name source).toList := by
    obtain ⟨c, rest, hfront, hc⟩ := (Lexeme.Spells.name hname).begins
    rw [htext, hfront]
    exact startsIn_cons ((Lexeme.Spells.name hname).not_isBlank hc) _
  obtain ⟨found, hparse, hfound⟩ := parseExpr_of_takesText hstart hread
  rw [String.ofList_toList] at hparse
  exact ⟨found, hparse, hfound⟩

end TemplateScript
