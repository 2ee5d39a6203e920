import TemplateScript.Proofs.Expr.Displayed
import TemplateScript.Proofs.Expr.Extension

/-!
# Expressions in parentheses

By induction on the depth to which the rules are tied, each rule reads a text with closing
parentheses behind it as it reads the text by itself, unless the text leaves a parenthesis open. A
text that is an expression leaves none open. So in parentheses it is read as the same expression,
but for locations.
-/

namespace TemplateScript

open Token

/-! ### Expressions that differ in locations -/

/-- The expressions are the same but for locations, and so are the integers in them that are too
long. -/
structure Expr.Alike (e e' : Expr) : Prop where
  unlocated : e.unlocated = e'.unlocated
  overlong : e.overlongInteger? = e'.overlongInteger?

/-- The same for a field of a table. -/
inductive FieldAlike : Option Expr × Expr → Option Expr × Expr → Prop
  | positional {e e' : Expr} (hvalue : e.Alike e') : FieldAlike (none, e) (none, e')
  | keyed {key key' e e' : Expr} (hkey : key.Alike key') (hvalue : e.Alike e') :
      FieldAlike (some key, e) (some key', e')

theorem Expr.Alike.recovers {e e' : Expr} (h : e.Alike e') (hshort : e.overlongInteger? = none) :
    e'.Recovers e :=
  ⟨h.unlocated.symm, h.overlong ▸ hshort⟩

theorem alike_all {es es' : List Expr} (h : List.Forall₂ Expr.Alike es es') :
    unlocatedAll es = unlocatedAll es' ∧ overlongIn? es = overlongIn? es' := by
  induction h with
  | nil => exact ⟨rfl, rfl⟩
  | cons hfirst _ ih =>
      rw [unlocatedAll, unlocatedAll, overlongIn?, overlongIn?, hfirst.unlocated, hfirst.overlong,
        ih.1, ih.2]
      exact ⟨rfl, rfl⟩

theorem alike_fields {fields fields' : List (Option Expr × Expr)}
    (h : List.Forall₂ FieldAlike fields fields') :
    unlocatedFields fields = unlocatedFields fields' ∧
      overlongInFields? fields = overlongInFields? fields' := by
  induction h with
  | nil => exact ⟨rfl, rfl⟩
  | cons hfirst _ ih =>
      cases hfirst with
      | positional hvalue =>
          rw [unlocatedFields, unlocatedFields, overlongInFields?, overlongInFields?,
            hvalue.unlocated, hvalue.overlong, ih.1, ih.2]
          exact ⟨rfl, rfl⟩
      | keyed hkey hvalue =>
          rw [unlocatedFields, unlocatedFields, overlongInFields?, overlongInFields?,
            hkey.unlocated, hkey.overlong, hvalue.unlocated, hvalue.overlong, ih.1, ih.2]
          exact ⟨rfl, rfl⟩

namespace Expr.Alike

variable {obj obj' key key' left left' right right' : Expr} {args args' : List Expr}
  {loc loc' : Option Location}

theorem index (hobj : obj.Alike obj') (hkey : key.Alike key') :
    (Expr.index obj key loc).Alike (.index obj' key' loc') :=
  ⟨congrArg₂ (Expr.index · · none) hobj.unlocated hkey.unlocated,
    congrArg₂ Option.or hobj.overlong hkey.overlong⟩

theorem call (hfn : obj.Alike obj') (hargs : List.Forall₂ Expr.Alike args args') :
    (Expr.call obj args loc).Alike (.call obj' args' loc') :=
  ⟨congrArg₂ (Expr.call · · none) hfn.unlocated (alike_all hargs).1,
    congrArg₂ Option.or hfn.overlong (alike_all hargs).2⟩

theorem methodCall (hobj : obj.Alike obj') (name : String)
    (hargs : List.Forall₂ Expr.Alike args args') :
    (Expr.methodCall obj name args loc).Alike (.methodCall obj' name args' loc') :=
  ⟨congrArg₂ (Expr.methodCall · name · none) hobj.unlocated (alike_all hargs).1,
    congrArg₂ Option.or hobj.overlong (alike_all hargs).2⟩

theorem binary (op : BinaryOp) (hleft : left.Alike left') (hright : right.Alike right') :
    (Expr.binary op left right loc).Alike (.binary op left' right' loc') :=
  ⟨congrArg₂ (Expr.binary op · · none) hleft.unlocated hright.unlocated,
    congrArg₂ Option.or hleft.overlong hright.overlong⟩

theorem logical (op : LogicalOp) (hleft : left.Alike left') (hright : right.Alike right') :
    (Expr.logical op left right loc).Alike (.logical op left' right' loc') :=
  ⟨congrArg₂ (Expr.logical op · · none) hleft.unlocated hright.unlocated,
    congrArg₂ Option.or hleft.overlong hright.overlong⟩

end Expr.Alike

theorem alike_literal {found found' : String × Location} (h : SameToken found found')
    (value : Value) :
    (Expr.literal value (some found.2)).Alike (.literal value (some found'.2)) := by
  obtain ⟨spelling, position, tag, text⟩ := found
  obtain ⟨spelling', position', tag', text'⟩ := found'
  obtain rfl : tag = tag' := h.tag
  obtain rfl : text = text' := h.text
  refine ⟨rfl, ?_⟩
  -- only the digits of a numeral are counted
  by_cases hnumber : tag = some "number"
  · subst hnumber
    cases text <;> rfl
  · rw [overlongInteger?_literal fun h => absurd h hnumber,
      overlongInteger?_literal fun h => absurd h hnumber]

namespace Grammar

open Reader

variable {after : List Char} {limit : Nat}

/-! ### Signs -/

theorem takes_symbol {c : Char} (hc : isQuote c = false) {cursor later : Cursor}
    {reach reach' : Reach} {a : Unit} (hrun : symbol c cursor reach = (some (a, later), reach')) :
    later.rest.length < cursor.rest.length ∧
      surplus cursor.rest = parenthesisSign c + surplus later.rest := by
  obtain ⟨_, hmoves, rfl⟩ := ensures_symbol c cursor reach a later reach' hrun
  rw [hmoves.rest, List.singleton_append, surplus_cons_of_not_isQuote hc]
  exact ⟨Nat.lt_succ_self _, rfl⟩

theorem refusesText_symbol_of_startsIn {c : Char} {text : List Char} (h : StartsIn (c ≠ ·) text) :
    RefusesText (symbol c) text :=
  (refusesText_token (blind_symbol c [] text h)).bind fun _ => pure ()

/-- With alike expressions on their left the tails make alike expressions. -/
def TailAlike (f f' : Expr → Expr) : Prop :=
  ∀ left left' : Expr, left.Alike left' → (f left).Alike (f' left')

/-- The suffixes make alike expressions of alike ones. -/
def SuffixAlike (s s' : Suffix) : Prop :=
  ∀ obj obj' : Expr, obj.Alike obj' → (s.apply obj).Alike (s'.apply obj')

/-! ### Rules without rules inside -/

theorem advances_literal {length : List Char → Nat} (h : Passes after length) (tag : String)
    (valueOf : String → Value) :
    Advances after limit (do
        let (text, loc) ← locatedToken tag length
        return .literal (valueOf text) (some loc))
      (do
        let (text, loc) ← locatedToken tag length
        return .literal (valueOf text) (some loc)) Expr.Alike :=
  (advances_locatedToken h tag).last fun _ _ hsame => by
    rw [hsame.spelling]
    exact alike_literal hsame _

section

variable (hafter : Closing after)

include hafter

theorem advances_symbol {c : Char} (hc : ¬ IsFence c) :
    Advances after limit (symbol c) (symbol c) fun _ _ => True :=
  (advances_token (passes_symbol hafter hc)).last fun _ _ _ => trivial

theorem advances_assignmentSign :
    Advances after limit assignmentSign assignmentSign fun _ _ => True :=
  (advances_token (passes_single hafter (by decide))).last fun _ _ _ => trivial

theorem advances_fieldSeparator :
    Advances after limit fieldSeparator fieldSeparator fun _ _ => True :=
  (advances_token (passes_oneOf hafter (by decide))).last fun _ _ _ => trivial

theorem advances_variableName : Advances after limit variableName variableName Expr.Alike :=
  (advances_locatedToken (passes_name hafter) "name").last fun _ _ hsame =>
    ⟨congrArg (Expr.variable · none) hsame.spelling, rfl⟩

theorem advances_stringLiteral : Advances after limit stringLiteral stringLiteral Expr.Alike :=
  advances_literal (passes_string hafter) "string"
    fun text => .str (unescape (String.ofList (stringBody text.toList)))

theorem advances_nameKey : Advances after limit nameKey nameKey Expr.Alike :=
  advances_literal (passes_name hafter) "name" .str

theorem advances_nilLiteral : Advances after limit nilLiteral nilLiteral Expr.Alike :=
  advances_literal (passes_keyword hafter "nil") "nil" fun _ => .nil

theorem advances_booleanLiteral : Advances after limit booleanLiteral booleanLiteral Expr.Alike :=
  advances_literal (passes_boolean hafter) "boolean" fun text => .bool (text == "true")

theorem advances_numberLiteral : Advances after limit numberLiteral numberLiteral Expr.Alike :=
  advances_literal (passes_number hafter) "number" fun text => .number (numeralValue text.toList)

theorem advances_fieldSuffix : Advances after limit fieldSuffix fieldSuffix SuffixAlike := by
  have hpoint : Advances after limit (discard (token (Token.single '.')))
      (discard (token (Token.single '.'))) fun _ _ => True :=
    (advances_token (passes_single hafter (by decide))).last fun _ _ _ => trivial
  have hkey := hpoint.bind fun _ _ _ => ((advances_nameKey hafter).spaced hafter).keeps
  exact (hkey.located "field_suffix").last fun _ _ hkey _ _ hobj => hobj.index hkey

/-! ### Parentheses -/

/-- A character tells whether the sign stands there, and the end of the text does where the sign is
no closing parenthesis. -/
theorem agrees_symbol {c : Char} {depth : Nat} {cursor cursor' : Cursor}
    (hend : cursor.rest = [] → c ≠ ')') (hrest : cursor'.rest = cursor.rest ++ after) :
    Agrees after depth (symbol c) (symbol c) (fun _ _ => True) cursor cursor' := by
  cases htext : cursor.rest with
  | nil =>
      have hstart : StartsIn (c ≠ ·) after := hafter.startsIn (hend htext)
      rw [htext, List.nil_append] at hrest
      exact .refuses (refusesText_symbol_of_startsIn startsIn_nil cursor htext)
        (refusesText_symbol_of_startsIn hstart cursor' hrest)
  | cons d rest =>
      rw [htext, List.cons_append] at hrest
      by_cases hd : c = d
      · subst hd
        obtain ⟨_, later, hgives, hlater, -⟩ := takesText_symbol c rest cursor htext
        obtain ⟨_, later', hgives', hlater', -⟩ := takesText_symbol c (rest ++ after) cursor' hrest
        exact .gives hgives hgives' (by rw [hlater, hlater']) trivial
      · exact .refuses (refusesText_symbol_cons hd rest cursor htext)
          (refusesText_symbol_cons hd (rest ++ after) cursor' hrest)

theorem extends_opening (m depth : Nat) :
    Extends after (m + 1) depth m (depth + 1) (symbol '(') (symbol '(') fun _ _ => True where
  takes hlimit hrun := by
    obtain ⟨hshort, hsurplus⟩ := takes_symbol rfl hrun
    have hsign : parenthesisSign '(' = 1 := rfl
    refine ⟨by omega, by omega, (), trivial⟩
  agrees _ hrest := agrees_symbol hafter (fun _ => by decide) hrest

/-- Where a closing parenthesis is missing, an open one is left open. -/
theorem extends_closing (m depth : Nat) :
    Extends after m (depth + 1) m depth (symbol ')') (symbol ')') fun _ _ => True where
  takes hlimit hrun := by
    obtain ⟨hshort, hsurplus⟩ := takes_symbol rfl hrun
    have hsign : parenthesisSign ')' = -1 := rfl
    refine ⟨by omega, by omega, (), trivial⟩
  agrees {cursor _} _ hrest := by
    by_cases hend : cursor.rest = []
    · have hsurplus : surplus cursor.rest = 0 := by rw [hend]; rfl
      exact .unclosed (by omega)
    · exact agrees_symbol hafter (fun hnil => absurd hnil hend) hrest

end

/-- The rules that contain themselves close the parentheses that they open. -/
structure Rules.Keep (after : List Char) (limit : Nat) (rules rules' : Rules) : Prop where
  expression : Keeps after limit rules.expression rules'.expression Expr.Alike
  concatenation : Keeps after limit rules.concatenation rules'.concatenation Expr.Alike
  unary : Keeps after limit rules.unary rules'.unary Expr.Alike

section

variable {rules rules' : Rules} (h : rules.Keep after limit rules') (hafter : Closing after)

include h hafter

theorem advances_enclosed {opening closing : Char} {shift : Nat}
    (hopening : ∀ m depth, Extends after (m + 1) depth m (depth + shift) (symbol opening)
      (symbol opening) fun _ _ => True)
    (hclosing : ∀ m depth, Extends after m (depth + shift) m depth (symbol closing)
      (symbol closing) fun _ _ => True) :
    Advances after limit (enclosed rules opening closing) (enclosed rules' opening closing)
      Expr.Alike :=
  fun m hm depth => (hopening m depth).bind fun _ _ _ =>
    ((h.expression m hm (depth + shift)).spaced hafter).bind fun _ _ hinner =>
      ((hclosing m depth).spaced hafter).bind fun _ _ _ => extends_pure hinner

theorem advances_group : Advances after limit (group rules) (group rules') Expr.Alike := by
  have hinner := advances_enclosed h hafter (extends_opening hafter) (extends_closing hafter)
  exact (hinner.located "group").last fun _ _ halike =>
    ⟨congrArg (Expr.paren · none) halike.unlocated, halike.overlong⟩

theorem advances_brackets :
    Advances after limit (enclosed rules '[' ']') (enclosed rules' '[' ']') Expr.Alike := by
  have hsign (c : Char) (hc : ¬ IsFence c) (m : Nat) :
      Advances after m (symbol c) (symbol c) fun _ _ => True :=
    advances_symbol hafter hc
  have hopening (m depth : Nat) : Extends after (m + 1) depth m (depth + 0) (symbol '[')
      (symbol '[') fun _ _ => True :=
    hsign '[' (by decide) m m (Nat.le_refl m) depth
  have hclosing (m depth : Nat) : Extends after m (depth + 0) m depth (symbol ']')
      (symbol ']') fun _ _ => True :=
    (hsign ']' (by decide) m).keeps m (Nat.le_refl m) depth
  exact advances_enclosed h hafter hopening hclosing

/-! ### Tables -/

theorem advances_keyedField :
    Advances after limit (keyedField rules) (keyedField rules') FieldAlike :=
  (advances_brackets h hafter).bind fun _ _ hkey =>
    ((advances_assignmentSign hafter).spaced hafter).keeps.bind fun _ _ _ =>
      (h.expression.spaced hafter).bind fun _ _ hvalue => keeps_pure (.keyed hkey hvalue)

theorem advances_namedField :
    Advances after limit (namedField rules) (namedField rules') FieldAlike :=
  (advances_nameKey hafter).bind fun _ _ hkey =>
    ((advances_assignmentSign hafter).spaced hafter).keeps.bind fun _ _ _ =>
      (h.expression.spaced hafter).bind fun _ _ hvalue => keeps_pure (.keyed hkey hvalue)

theorem keeps_field : Keeps after limit (field rules) (field rules') FieldAlike :=
  (advances_keyedField h hafter).keeps.orElse ((advances_namedField h hafter).keeps.orElse
    (h.expression.bind fun _ _ hvalue => keeps_pure (.positional hvalue)))

theorem keeps_fieldList :
    Keeps after limit (fieldList rules) (fieldList rules') (List.Forall₂ FieldAlike) := by
  have hseparator : Advances after limit (spaced fieldSeparator) (spaced fieldSeparator)
      fun _ _ => True :=
    (advances_fieldSeparator hafter).spaced hafter
  have hrest : Advances after limit (do spaced fieldSeparator; spaced (field rules))
      (do spaced fieldSeparator; spaced (field rules')) FieldAlike :=
    hseparator.bind fun _ _ _ => (keeps_field h hafter).spaced hafter
  exact (keeps_field h hafter).bind fun _ _ hfirst => hrest.many.bind fun _ _ hrest =>
    (hseparator.keeps.orElse (keeps_pure trivial)).bind fun _ _ _ =>
      keeps_pure (.cons hfirst hrest)

theorem advances_tableConstructor :
    Advances after limit (tableConstructor rules) (tableConstructor rules') Expr.Alike := by
  have hfields : Keeps after limit (spaced (fieldList rules) <|> pure [])
      (spaced (fieldList rules') <|> pure []) (List.Forall₂ FieldAlike) :=
    ((keeps_fieldList h hafter).spaced hafter).orElse (keeps_pure .nil)
  have hclosing : Keeps after limit (spaced (symbol '\x7d')) (spaced (symbol '\x7d'))
      fun _ _ => True :=
    ((advances_symbol hafter (by decide)).spaced hafter).keeps
  have hopening : Advances after limit (symbol '\x7b') (symbol '\x7b') fun _ _ => True :=
    advances_symbol hafter (by decide)
  have hinside := hopening.bind fun _ _ _ => hfields.bind fun _ _ hfields =>
    hclosing.bind fun _ _ _ => keeps_pure hfields
  exact (hinside.located "table").last fun _ _ hfields =>
    ⟨congrArg (Expr.tableConstructor · none) (alike_fields hfields).1, (alike_fields hfields).2⟩

/-! ### Operands -/

theorem advances_primary : Advances after limit (primary rules) (primary rules') Expr.Alike :=
  (advances_nilLiteral hafter).orElse <| (advances_booleanLiteral hafter).orElse <|
    (advances_numberLiteral hafter).orElse <| (advances_stringLiteral hafter).orElse <|
      (advances_tableConstructor h hafter).orElse <| (advances_group h hafter).orElse
        (advances_variableName hafter)

theorem keeps_argumentList :
    Keeps after limit (argumentList rules) (argumentList rules') (List.Forall₂ Expr.Alike) := by
  have hrest : Advances after limit (do spaced (symbol ','); spaced rules.expression)
      (do spaced (symbol ','); spaced rules'.expression) Expr.Alike :=
    ((advances_symbol hafter (by decide)).spaced hafter).bind fun _ _ _ =>
      h.expression.spaced hafter
  exact h.expression.bind fun _ _ hfirst => hrest.many.bind fun _ _ hrest =>
    keeps_pure (.cons hfirst hrest)

theorem advances_arguments :
    Advances after limit (arguments rules) (arguments rules') (List.Forall₂ Expr.Alike) := by
  have hlist : Keeps after limit (spaced (argumentList rules) <|> pure [])
      (spaced (argumentList rules') <|> pure []) (List.Forall₂ Expr.Alike) :=
    ((keeps_argumentList h hafter).spaced hafter).orElse (keeps_pure .nil)
  have hcall : Advances after limit (do
        symbol '('
        let args ← spaced (argumentList rules) <|> pure []
        spaced (symbol ')')
        return args)
      (do
        symbol '('
        let args ← spaced (argumentList rules') <|> pure []
        spaced (symbol ')')
        return args) (List.Forall₂ Expr.Alike) :=
    fun m hm depth => (extends_opening hafter m depth).bind fun _ _ _ =>
      (hlist m hm (depth + 1)).bind fun _ _ hargs =>
        ((extends_closing hafter m depth).spaced hafter).bind fun _ _ _ => extends_pure hargs
  exact hcall.orElse <|
    ((advances_stringLiteral hafter).last fun _ _ hargument => .cons hargument .nil).orElse
      ((advances_tableConstructor h hafter).last fun _ _ hargument => .cons hargument .nil)

theorem advances_suffix : Advances after limit (suffix rules) (suffix rules') SuffixAlike := by
  have hindex : Advances after limit (indexSuffix rules) (indexSuffix rules') SuffixAlike :=
    ((advances_brackets h hafter).located "index_suffix").last fun _ _ hkey _ _ hobj =>
      hobj.index hkey
  have hcall : Advances after limit (callSuffix rules) (callSuffix rules') SuffixAlike :=
    ((advances_arguments h hafter).located "call_suffix").last fun _ _ hargs _ _ hobj =>
      hobj.call hargs
  have hmethod : Advances after limit (methodSuffix rules) (methodSuffix rules') SuffixAlike := by
    have hcolon : Advances after limit (symbol ':') (symbol ':') fun _ _ => True :=
      advances_symbol hafter (by decide)
    have hname : Keeps after limit (spaced name) (spaced name) SameToken :=
      ((advances_locatedToken (passes_name hafter) "name").spaced hafter).keeps
    have hargs : Keeps after limit (spaced (arguments rules)) (spaced (arguments rules'))
        (List.Forall₂ Expr.Alike) :=
      ((advances_arguments h hafter).spaced hafter).keeps
    have hboth (found found' : String × Location) (hsame : SameToken found found') :
        Keeps after limit (do return (found.1, ← spaced (arguments rules)))
          (do return (found'.1, ← spaced (arguments rules'))) fun named named' =>
            named.1 = named'.1 ∧ List.Forall₂ Expr.Alike named.2 named'.2 :=
      hargs.bind fun _ _ hargs => keeps_pure ⟨hsame.spelling, hargs⟩
    have hnamed := hcolon.bind fun _ _ _ => hname.bind hboth
    refine (hnamed.located "method_suffix").last ?_
    rintro ⟨⟨name, args⟩, _⟩ ⟨⟨_, args'⟩, _⟩ ⟨rfl, hargs⟩ obj obj' hobj
    exact hobj.methodCall name hargs
  exact (advances_fieldSuffix hafter).orElse (hindex.orElse (hcall.orElse hmethod))

theorem advances_suffixed : Advances after limit (suffixed rules) (suffixed rules') Expr.Alike :=
  (advances_primary h hafter).bind fun _ _ hbase =>
    ((advances_suffix h hafter).spaced hafter).many.bind fun _ _ hsuffixes =>
      keeps_pure (List.rel_foldl (fun obj obj' hobj _ _ hsuffix => hsuffix obj obj' hobj) hbase
        hsuffixes)

end

/-! ### Operators -/

section

variable {operator : List Char → Nat} {operand operand' : Reader Expr}
  {tail tail' : Reader (Expr → Expr)}

theorem advances_binaryTail (hafter : Closing after) (hoperator : Passes after operator)
    (hoperand : Keeps after limit operand operand' Expr.Alike) (tag : String) :
    Advances after limit (binaryTail tag operator operand) (binaryTail tag operator operand')
      TailAlike :=
  ((advances_locatedToken hoperator tag).spaced hafter).bind fun _ _ hsame =>
    (hoperand.spaced hafter).bind fun _ _ hright => keeps_pure fun _ _ hleft => by
      rw [hsame.spelling]
      exact hleft.binary _ hright

theorem advances_logicalTail (hafter : Closing after) (hoperator : Passes after operator)
    (hoperand : Keeps after limit operand operand' Expr.Alike) (tag : String) :
    Advances after limit (logicalTail tag operator operand) (logicalTail tag operator operand')
      TailAlike :=
  ((advances_locatedToken hoperator tag).spaced hafter).bind fun _ _ hsame =>
    (hoperand.spaced hafter).bind fun _ _ hright => keeps_pure fun _ _ hleft => by
      rw [hsame.spelling]
      exact hleft.logical _ hright

theorem advances_chained (hoperand : Advances after limit operand operand' Expr.Alike)
    (htail : Advances after limit tail tail' TailAlike) :
    Advances after limit (chained operand tail) (chained operand' tail') Expr.Alike :=
  hoperand.bind fun _ _ hfirst => htail.many.bind fun _ _ htails =>
    keeps_pure (List.rel_foldl (fun left left' hleft _ _ htail => htail left left' hleft) hfirst
      htails)

theorem advances_rightward (hoperand : Advances after limit operand operand' Expr.Alike)
    (htail : Advances after limit tail tail' TailAlike) :
    Advances after limit (rightward operand tail) (rightward operand' tail') Expr.Alike :=
  hoperand.bind fun left left' hleft => (htail.keeps.orElse (keeps_pure fun _ _ => id)).bind
    fun _ _ htail => keeps_pure (htail left left' hleft)

end

section

variable {rules rules' : Rules} (h : rules.Keep after limit rules') (hafter : Closing after)

include h hafter

theorem advances_power : Advances after limit (power rules) (power rules') Expr.Alike :=
  advances_rightward (advances_suffixed h hafter)
    (advances_binaryTail hafter (passes_oneOf hafter (by decide)) h.unary _)

theorem advances_unaryExpr :
    Advances after limit (unaryExpr rules) (unaryExpr rules') Expr.Alike := by
  have hsigned : Advances after limit (do
        let spelling ← token Token.unaryOp
        let operand ← spaced rules.unary
        return (spelling, operand))
      (do
        let spelling ← token Token.unaryOp
        let operand ← spaced rules'.unary
        return (spelling, operand)) fun found found' =>
          found.1 = found'.1 ∧ found.2.Alike found'.2 :=
    (advances_token (passes_unaryOp hafter)).bind fun _ _ hsame =>
      (h.unary.spaced hafter).bind fun _ _ hoperand => keeps_pure ⟨hsame, hoperand⟩
  refine (hsigned.located "unary_op_expr").last ?_
  rintro ⟨⟨spelling, operand⟩, _⟩ ⟨⟨_, operand'⟩, _⟩ ⟨rfl, hoperand⟩
  exact ⟨congrArg (Expr.unary (.ofSpelling (String.ofList spelling)) · none) hoperand.unlocated,
    hoperand.overlong⟩

theorem advances_unary : Advances after limit (unary rules) (unary rules') Expr.Alike :=
  (advances_unaryExpr h hafter).orElse (advances_power h hafter)

theorem advances_product : Advances after limit (product rules) (product rules') Expr.Alike :=
  advances_chained (advances_unary h hafter)
    (advances_binaryTail hafter (passes_oneOf hafter (by decide)) (advances_unary h hafter).keeps _)

theorem advances_sum : Advances after limit (sum rules) (sum rules') Expr.Alike :=
  advances_chained (advances_product h hafter)
    (advances_binaryTail hafter (passes_oneOf hafter (by decide)) (advances_product h hafter).keeps
      _)

theorem advances_concatenation :
    Advances after limit (concatenation rules) (concatenation rules') Expr.Alike :=
  advances_rightward (advances_sum h hafter)
    (advances_binaryTail hafter (passes_oneOf hafter (by decide)) h.concatenation _)

theorem advances_comparison :
    Advances after limit (comparison rules) (comparison rules') Expr.Alike :=
  advances_chained (advances_concatenation h hafter)
    (advances_binaryTail hafter (passes_oneOf hafter (by decide))
      (advances_concatenation h hafter).keeps _)

theorem advances_conjunction :
    Advances after limit (conjunction rules) (conjunction rules') Expr.Alike :=
  advances_chained (advances_comparison h hafter)
    (advances_logicalTail hafter (passes_keyword hafter "and")
      (advances_comparison h hafter).keeps _)

theorem advances_expression :
    Advances after limit (expression rules) (expression rules') Expr.Alike :=
  advances_chained (advances_conjunction h hafter)
    (advances_logicalTail hafter (passes_keyword hafter "or")
      (advances_conjunction h hafter).keeps _)

end

/-- A text needs no more depth than it has characters, so the second run may have any depth that is
not smaller. -/
theorem rules_keep (hafter : Closing after) (depth more : Nat) :
    (rules depth).Keep after depth (rules (depth + more)) := by
  induction depth with
  | zero =>
      have hnone (reader reader' : Reader Expr) : Keeps after 0 reader reader' Expr.Alike := by
        rintro _ ⟨⟩ depth
        exact ⟨fun hlimit => absurd hlimit (Nat.not_lt_zero _),
          fun hlimit => absurd hlimit (Nat.not_lt_zero _)⟩
      exact ⟨hnone _ _, hnone _ _, hnone _ _⟩
  | succ depth ih =>
      rw [Nat.add_right_comm]
      exact ⟨(advances_expression ih hafter).keeps_succ,
        (advances_concatenation ih hafter).keeps_succ, (advances_unary ih hafter).keeps_succ⟩

end Grammar

/-! ### Texts that are expressions -/

open Reader Grammar

/-- The root rule reads an expression and takes the blanks around it. -/
theorem run_root_eq_some {cursor later : Cursor} {reach reach' : Reach} {e : Expr}
    (h : root cursor reach = (some (e, later), reach')) :
    ∃ middle reach₁, spaced (rules (cursor.rest.length + 1)).expression cursor reach =
      (some (e, middle), reach₁) ∧ later.rest = middle.rest.dropWhile isBlank := by
  rw [root, bind_run, get_run] at h
  dsimp only at h
  rw [bind_run] at h
  split at h
  · next found middle reach₁ hrun =>
      rw [bind_run, blanks_run] at h
      dsimp only at h
      rw [pure_run] at h
      obtain ⟨⟨rfl, rfl⟩, -⟩ := by simpa using h
      exact ⟨middle, _, hrun, rest_skip List.takeWhile_append_dropWhile.symm⟩
  · cases h

theorem run_expression_of_readExpr {text : List Char} {e : Expr} (h : readExpr text = .ok e) :
    e.overlongInteger? = none ∧ ∃ later reach, Gap later.rest ∧
      spaced (rules (text.length + 1)).expression (Cursor.ofText text) Reach.start =
        (some (e, later), reach) := by
  unfold readExpr at h
  split at h
  · cases h
  · next result cursor _ hroot =>
      obtain ⟨later, reach, hrun, hlater⟩ := run_root_eq_some hroot
      split_ifs at h with hempty
      cases hlong : result.overlongInteger? with
      | some count =>
          rw [hlong] at h
          cases h
      | none =>
          rw [hlong] at h
          obtain rfl := Except.ok.inj h
          refine ⟨hlong, later, reach, ?_, hrun⟩
          rw [List.isEmpty_iff.mp hempty] at hlater
          exact List.dropWhile_eq_nil_iff.mp hlater.symm

/-- A text that is an expression is read as the same in front of closing parentheses. -/
theorem takesText_of_readExpr {text after : List Char} {e : Expr} (h : readExpr text = .ok e)
    (hafter : Closing after) {depth : Nat} (hdepth : text.length < depth) :
    ∃ inner gap, text = inner ++ gap ∧ Gap gap ∧
      TakesText (spaced (rules depth).expression) inner (gap ++ after) (·.Recovers e) := by
  obtain ⟨hshort, later, reach, hgap, hrun⟩ := run_expression_of_readExpr h
  obtain ⟨more, rfl⟩ : ∃ more, depth = text.length + 1 + more :=
    ⟨depth - (text.length + 1), by omega⟩
  have hread : Extends after (text.length + 1) 0 (text.length + 1) 0
      (spaced (rules (text.length + 1)).expression)
      (spaced (rules (text.length + 1 + more)).expression) Expr.Alike :=
    ((rules_keep hafter (text.length + 1) more).expression _ (Nat.le_refl _) 0).spaced hafter
  have hlimit : (Cursor.ofText text).rest.length < text.length + 1 := Nat.lt_succ_self _
  have hbalanced : surplus text = 0 := by
    have hsurplus : surplus text + ((0 : Nat) : Int) = surplus later.rest + ((0 : Nat) : Int) :=
      (hread.takes hlimit hrun).2.1
    have hblank : surplus later.rest = 0 := by
      rw [← List.append_nil later.rest,
        surplus_append_of_not_isFence fun c hc => not_isFence_of_isBlank (hgap c hc)]
      rfl
    omega
  obtain ⟨inner, hmoves, -⟩ := (rules_balances _).expression.spaced _ _ _ _ _ hrun
  refine ⟨inner, later.rest, hmoves.rest, hgap, fun cursor hcursor => ?_⟩
  have hrest : cursor.rest = (Cursor.ofText text).rest ++ after := by
    rw [hcursor, hmoves.rest, List.append_assoc]
  cases hread.agrees hlimit hrest with
  | unclosed hopen => exact absurd hopen (by rw [Cursor.ofText, hbalanced]; decide)
  | refuses hrefuses =>
      obtain ⟨_, hnone⟩ := hrefuses Reach.start
      rw [hnone] at hrun
      cases hrun
  | @gives a a' later' end' hgives hgives' hend halike =>
      obtain ⟨_, hsame⟩ := hgives Reach.start
      rw [hsame] at hrun
      obtain ⟨⟨rfl, rfl⟩, -⟩ := by simpa using hrun
      exact ⟨a', end', hgives', hend, halike.recovers hshort⟩

end TemplateScript
