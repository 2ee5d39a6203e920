import TemplateScript.Expr.Parse
import TemplateScript.Proofs.Expr.Reader
import TemplateScript.Proofs.Value.Containment
import TemplateScript.Proofs.Value.Multiplicity

/-!
# Literals of parsed expressions

The literals of an expression that is read from a text are nil, true and false, numbers and texts.
So nothing in it has a number, and a text means the same in every environment; nor does it hold
several results of a call.
-/

namespace TemplateScript

mutual

/-- The values of all literals in an expression. -/
def Expr.literals : Expr → List Value
  | .literal value _ => [value]
  | .variable _ _ | .bare _ => []
  | .index left right _ | .binary _ left right _ | .logical _ left right _ =>
    left.literals ++ right.literals
  | .call e args _ | .methodCall e _ args _ => e.literals ++ literalsOfAll args
  | .unary _ inner _ | .paren inner _ => inner.literals
  | .tableConstructor fields _ => literalsOfFields fields

def literalsOfAll : List Expr → List Value
  | [] => []
  | e :: rest => e.literals ++ literalsOfAll rest

def literalsOfFields : List (Option Expr × Expr) → List Value
  | [] => []
  | (none, value) :: rest => value.literals ++ literalsOfFields rest
  | (some key, value) :: rest => key.literals ++ value.literals ++ literalsOfFields rest

end

/-- All literals of the expression are nil, booleans, numbers and texts. -/
def Expr.IsPlain (e : Expr) : Prop :=
  ∀ v ∈ e.literals, v.isPlain

mutual

theorem Expr.entities_of_isPlain (e : Expr) (h : e.IsPlain) : e.entities = [] := by
  match e with
  | .literal value _ => exact Value.entities_of_isPlain (h value (List.mem_singleton_self _))
  | .variable _ _ | .bare _ => rfl
  | .index left right _ | .binary _ left right _ | .logical _ left right _ =>
      obtain ⟨hleft, hright⟩ := List.forall_mem_append.mp h
      rw [Expr.entities, Expr.entities_of_isPlain left hleft, Expr.entities_of_isPlain right hright]
      rfl
  | .call e args _ | .methodCall e _ args _ =>
      obtain ⟨he, hargs⟩ := List.forall_mem_append.mp h
      rw [Expr.entities, Expr.entities_of_isPlain e he, entitiesOfExprs_of_isPlain args hargs]
      rfl
  | .unary _ inner _ | .paren inner _ => exact Expr.entities_of_isPlain inner h
  | .tableConstructor fields _ => exact entitiesOfFields_of_isPlain fields h

theorem entitiesOfExprs_of_isPlain (es : List Expr) (h : ∀ v ∈ literalsOfAll es, v.isPlain) :
    entitiesOfExprs es = [] := by
  match es with
  | [] => rfl
  | e :: rest =>
      obtain ⟨he, hrest⟩ := List.forall_mem_append.mp h
      rw [entitiesOfExprs, Expr.entities_of_isPlain e he, entitiesOfExprs_of_isPlain rest hrest]
      rfl

theorem entitiesOfFields_of_isPlain (fields : List (Option Expr × Expr))
    (h : ∀ v ∈ literalsOfFields fields, v.isPlain) : entitiesOfFields fields = [] := by
  match fields with
  | [] => rfl
  | (none, value) :: rest =>
      obtain ⟨hvalue, hrest⟩ := List.forall_mem_append.mp h
      rw [entitiesOfFields, Expr.entities_of_isPlain value hvalue,
        entitiesOfFields_of_isPlain rest hrest]
      rfl
  | (some key, value) :: rest =>
      obtain ⟨hboth, hrest⟩ := List.forall_mem_append.mp h
      obtain ⟨hkey, hvalue⟩ := List.forall_mem_append.mp hboth
      rw [entitiesOfFields, Expr.entities_of_isPlain key hkey,
        Expr.entities_of_isPlain value hvalue, entitiesOfFields_of_isPlain rest hrest]
      rfl

end

mutual

theorem Expr.multiFree_of_isPlain (e : Expr) (h : e.IsPlain) : e.MultiFree := by
  match e with
  | .literal value _ => exact Value.multiFree_of_isPlain (h value (List.mem_singleton_self _))
  | .variable _ _ | .bare _ => rfl
  | .index left right _ | .binary _ left right _ | .logical _ left right _ =>
      obtain ⟨hleft, hright⟩ := List.forall_mem_append.mp h
      exact Bool.or_eq_false_iff.mpr
        ⟨Expr.multiFree_of_isPlain left hleft, Expr.multiFree_of_isPlain right hright⟩
  | .call e args _ | .methodCall e _ args _ =>
      obtain ⟨he, hargs⟩ := List.forall_mem_append.mp h
      exact Bool.or_eq_false_iff.mpr
        ⟨Expr.multiFree_of_isPlain e he, exprsHaveMulti_of_isPlain args hargs⟩
  | .unary _ inner _ | .paren inner _ => exact Expr.multiFree_of_isPlain inner h
  | .tableConstructor fields _ => exact fieldsHaveMulti_of_isPlain fields h

theorem exprsHaveMulti_of_isPlain (es : List Expr) (h : ∀ v ∈ literalsOfAll es, v.isPlain) :
    exprsHaveMulti es = false := by
  match es with
  | [] => rfl
  | e :: rest =>
      obtain ⟨he, hrest⟩ := List.forall_mem_append.mp h
      exact Bool.or_eq_false_iff.mpr
        ⟨Expr.multiFree_of_isPlain e he, exprsHaveMulti_of_isPlain rest hrest⟩

theorem fieldsHaveMulti_of_isPlain (fields : List (Option Expr × Expr))
    (h : ∀ v ∈ literalsOfFields fields, v.isPlain) : fieldsHaveMulti fields = false := by
  match fields with
  | [] => rfl
  | (none, value) :: rest =>
      obtain ⟨hvalue, hrest⟩ := List.forall_mem_append.mp h
      exact Bool.or_eq_false_iff.mpr
        ⟨Expr.multiFree_of_isPlain value hvalue, fieldsHaveMulti_of_isPlain rest hrest⟩
  | (some key, value) :: rest =>
      obtain ⟨hboth, hrest⟩ := List.forall_mem_append.mp h
      obtain ⟨hkey, hvalue⟩ := List.forall_mem_append.mp hboth
      refine Bool.or_eq_false_iff.mpr ⟨?_, fieldsHaveMulti_of_isPlain rest hrest⟩
      exact Bool.or_eq_false_iff.mpr
        ⟨Expr.multiFree_of_isPlain key hkey, Expr.multiFree_of_isPlain value hvalue⟩

end

/-! ### Readers -/

namespace Reader

variable {α β : Type} {p : α → Prop} {q : β → Prop}

/-- All that the reader reads has a property. -/
def Yields (p : α → Prop) (reader : Reader α) : Prop :=
  ∀ cursor reach result later reach', reader cursor reach = (some (result, later), reach') →
    p result

theorem yields_any (reader : Reader α) : reader.Yields fun _ => True :=
  fun _ _ _ _ _ _ => trivial

theorem yields_pure {a : α} (h : p a) : (pure a : Reader α).Yields p := by
  intro cursor reach result later reach' hrun
  rw [pure_run] at hrun
  cases hrun
  exact h

theorem yields_failure : (failure : Reader α).Yields p := by
  intro cursor reach result later reach' hrun
  cases hrun

theorem Yields.bind {reader : Reader α} {next : α → Reader β} (h : reader.Yields p)
    (hnext : ∀ a, p a → (next a).Yields q) : (reader >>= next).Yields q := by
  intro cursor reach result later reach' hrun
  rw [bind_run] at hrun
  split at hrun
  · next a middle reach₁ hfirst =>
      exact hnext a (h _ _ _ _ _ hfirst) _ _ _ _ _ hrun
  · cases hrun

/-- What a reader reads first does not matter. -/
theorem yields_after {reader : Reader α} {next : α → Reader β}
    (hnext : ∀ a, (next a).Yields q) : (reader >>= next).Yields q :=
  (yields_any reader).bind fun a _ => hnext a

theorem Yields.orElse {first second : Reader α} (hfirst : first.Yields p)
    (hsecond : second.Yields p) : (first <|> second).Yields p := by
  intro cursor reach result later reach' hrun
  rw [orElse_run] at hrun
  split at hrun
  · next found reach₁ hfound =>
      obtain ⟨rfl, -⟩ := Prod.mk.inj hrun |>.imp_left Option.some.inj
      exact hfirst _ _ _ _ _ hfound
  · exact hsecond _ _ _ _ _ hrun

theorem Yields.spaced {reader : Reader α} (h : reader.Yields p) : (spaced reader).Yields p :=
  yields_after fun _ => h

theorem Yields.manyUpTo {reader : Reader α} (h : reader.Yields p) (limit : Nat) :
    (manyUpTo reader limit).Yields fun results => ∀ a ∈ results, p a := by
  induction limit with
  | zero => exact yields_pure (List.forall_mem_nil _)
  | succ limit ih =>
      refine .orElse (h.bind fun first hfirst => ih.bind fun rest hrest => ?_) ?_
      · exact yields_pure (List.forall_mem_cons.mpr ⟨hfirst, hrest⟩)
      · exact yields_pure (List.forall_mem_nil _)

theorem Yields.many {reader : Reader α} (h : reader.Yields p) :
    (many reader).Yields fun results => ∀ a ∈ results, p a :=
  yields_after fun cursor => h.manyUpTo cursor.rest.length

theorem Yields.located {reader : Reader α} (h : reader.Yields p) (tag : String) :
    (located tag reader).Yields fun result => p result.1 :=
  yields_after fun _ => h.bind fun _ ha => yields_after fun _ => yields_pure ha

end Reader

namespace Grammar

open Reader

def ArePlain (es : List Expr) : Prop := ∀ e ∈ es, e.IsPlain

def FieldIsPlain (field : Option Expr × Expr) : Prop :=
  (∀ key ∈ field.1, key.IsPlain) ∧ field.2.IsPlain

/-- What is made of an expression with plain literals is another one. -/
def KeepsPlain (make : Expr → Expr) : Prop := ∀ e, e.IsPlain → (make e).IsPlain

theorem ArePlain.literals {es : List Expr} (h : ArePlain es) :
    ∀ v ∈ literalsOfAll es, v.isPlain := by
  induction es with
  | nil => exact List.forall_mem_nil _
  | cons e rest ih =>
      obtain ⟨he, hrest⟩ := List.forall_mem_cons.mp h
      exact List.forall_mem_append.mpr ⟨he, ih hrest⟩

theorem isPlain_tableConstructor {fields : List (Option Expr × Expr)} {loc : Option Location}
    (h : ∀ field ∈ fields, FieldIsPlain field) : (Expr.tableConstructor fields loc).IsPlain := by
  rw [Expr.IsPlain, Expr.literals]
  induction fields with
  | nil => exact List.forall_mem_nil _
  | cons field rest ih =>
      obtain ⟨⟨hkey, hvalue⟩, hrest⟩ := List.forall_mem_cons.mp h
      obtain ⟨_ | key, value⟩ := field
      · exact List.forall_mem_append.mpr ⟨hvalue, ih hrest⟩
      · refine List.forall_mem_append.mpr ⟨?_, ih hrest⟩
        exact List.forall_mem_append.mpr ⟨hkey key rfl, hvalue⟩

theorem isPlain_foldl {β : Type} {step : Expr → β → Expr} {parts : List β} {e : Expr}
    (h : ∀ part ∈ parts, KeepsPlain (step · part)) (he : e.IsPlain) :
    (parts.foldl step e).IsPlain := by
  induction parts generalizing e with
  | nil => exact he
  | cons part rest ih =>
      obtain ⟨hpart, hrest⟩ := List.forall_mem_cons.mp h
      exact ih hrest (hpart e he)

/-! ### Rules -/

theorem nilLiteral_yields : nilLiteral.Yields Expr.IsPlain :=
  yields_after fun _ => yields_pure (List.forall_mem_singleton.mpr rfl)

theorem booleanLiteral_yields : booleanLiteral.Yields Expr.IsPlain :=
  yields_after fun _ => yields_pure (List.forall_mem_singleton.mpr rfl)

theorem numberLiteral_yields : numberLiteral.Yields Expr.IsPlain :=
  yields_after fun _ => yields_pure (List.forall_mem_singleton.mpr rfl)

theorem stringLiteral_yields : stringLiteral.Yields Expr.IsPlain :=
  yields_after fun _ => yields_pure (List.forall_mem_singleton.mpr rfl)

theorem variableName_yields : variableName.Yields Expr.IsPlain :=
  yields_after fun _ => yields_pure (List.forall_mem_nil _)

theorem nameKey_yields : nameKey.Yields Expr.IsPlain :=
  yields_after fun _ => yields_pure (List.forall_mem_singleton.mpr rfl)

/-- The rules that contain themselves read expressions with plain literals. -/
structure Rules.ArePlain (rules : Rules) : Prop where
  expression : rules.expression.Yields Expr.IsPlain
  concatenation : rules.concatenation.Yields Expr.IsPlain
  unary : rules.unary.Yields Expr.IsPlain

section

variable {rules : Rules} (h : rules.ArePlain)

include h

theorem enclosed_yields (opening closing : Char) :
    (enclosed rules opening closing).Yields Expr.IsPlain :=
  yields_after fun _ => h.expression.spaced.bind fun _ he => yields_after fun _ => yields_pure he

theorem field_yields : (field rules).Yields FieldIsPlain := by
  have hkeyed {key : Expr} (hkey : key.IsPlain) :
      (do
        spaced assignmentSign
        let value ← spaced rules.expression
        return (some key, value) : Reader (Option Expr × Expr)).Yields FieldIsPlain :=
    yields_after fun _ => h.expression.spaced.bind fun _ hvalue =>
      yields_pure ⟨fun _ hmem => Option.mem_some.mp hmem ▸ hkey, hvalue⟩
  refine .orElse ((enclosed_yields h _ _).bind fun _ hkey => hkeyed hkey) (.orElse ?_ ?_)
  · exact nameKey_yields.bind fun _ hkey => hkeyed hkey
  · exact h.expression.bind fun _ hvalue => yields_pure ⟨fun _ hmem => (nomatch hmem), hvalue⟩

theorem fieldList_yields :
    (fieldList rules).Yields fun fields => ∀ field ∈ fields, FieldIsPlain field :=
  (field_yields h).bind fun _ hfirst =>
    (Yields.many (yields_after fun _ => (field_yields h).spaced)).bind fun _ hrest =>
      yields_after fun _ => yields_pure (List.forall_mem_cons.mpr ⟨hfirst, hrest⟩)

theorem tableConstructor_yields : (tableConstructor rules).Yields Expr.IsPlain := by
  have hfields : (do
      symbol '\x7b'
      let fields ← spaced (fieldList rules) <|> pure []
      spaced (symbol '\x7d')
      return fields : Reader (List (Option Expr × Expr))).Yields
        fun fields => ∀ field ∈ fields, FieldIsPlain field :=
    yields_after fun _ =>
      ((fieldList_yields h).spaced.orElse (yields_pure (List.forall_mem_nil _))).bind
        fun _ hfields => yields_after fun _ => yields_pure hfields
  exact (hfields.located "table").bind fun _ hfields =>
    yields_pure (isPlain_tableConstructor hfields)

theorem group_yields : (group rules).Yields Expr.IsPlain :=
  ((enclosed_yields h _ _).located _).bind fun _ he => yields_pure he

theorem primary_yields : (primary rules).Yields Expr.IsPlain :=
  nilLiteral_yields.orElse <| booleanLiteral_yields.orElse <| numberLiteral_yields.orElse <|
    stringLiteral_yields.orElse <| (tableConstructor_yields h).orElse <|
      (group_yields h).orElse variableName_yields

theorem arguments_yields : (arguments rules).Yields ArePlain := by
  have hlist : (argumentList rules).Yields ArePlain :=
    h.expression.bind fun _ hfirst =>
      (Yields.many (yields_after fun _ => h.expression.spaced)).bind fun _ hrest =>
        yields_pure (List.forall_mem_cons.mpr ⟨hfirst, hrest⟩)
  have henclosed : (do
      symbol '('
      let args ← spaced (argumentList rules) <|> pure []
      spaced (symbol ')')
      return args : Reader (List Expr)).Yields ArePlain :=
    yields_after fun _ => (hlist.spaced.orElse (yields_pure (List.forall_mem_nil _))).bind
      fun _ hargs => yields_after fun _ => yields_pure hargs
  refine henclosed.orElse (.orElse ?_ ?_)
  · exact stringLiteral_yields.bind fun _ he => yields_pure (List.forall_mem_singleton.mpr he)
  · exact (tableConstructor_yields h).bind fun _ he =>
      yields_pure (List.forall_mem_singleton.mpr he)

theorem suffix_yields :
    (suffix rules).Yields fun suffix => KeepsPlain fun obj => suffix.apply obj := by
  refine .orElse ?_ (.orElse ?_ (.orElse ?_ ?_))
  · exact (Yields.located (yields_after fun _ => nameKey_yields.spaced) _).bind fun _ hkey =>
      yields_pure fun _ hobj => List.forall_mem_append.mpr ⟨hobj, hkey⟩
  · exact ((enclosed_yields h _ _).located _).bind fun _ hkey =>
      yields_pure fun _ hobj => List.forall_mem_append.mpr ⟨hobj, hkey⟩
  · exact ((arguments_yields h).located _).bind fun _ hargs =>
      yields_pure fun _ hobj => List.forall_mem_append.mpr ⟨hobj, hargs.literals⟩
  · refine (Yields.located (p := fun call : String × List Expr => ArePlain call.2) ?_ _).bind
      fun _ hargs => yields_pure fun _ hobj => List.forall_mem_append.mpr ⟨hobj, hargs.literals⟩
    exact yields_after fun _ => yields_after fun _ => (arguments_yields h).spaced.bind
      fun _ hargs => yields_pure hargs

theorem suffixed_yields : (suffixed rules).Yields Expr.IsPlain :=
  (primary_yields h).bind fun _ hbase => (suffix_yields h).spaced.many.bind fun _ hsuffixes =>
    yields_pure (isPlain_foldl hsuffixes hbase)

end

section

variable {operand : Reader Expr} {tail : Reader (Expr → Expr)}

theorem binaryTail_yields (h : operand.Yields Expr.IsPlain) (tag : String)
    (operator : List Char → Nat) : (binaryTail tag operator operand).Yields KeepsPlain :=
  yields_after fun _ => h.spaced.bind fun _ hright =>
    yields_pure fun _ hleft => List.forall_mem_append.mpr ⟨hleft, hright⟩

theorem logicalTail_yields (h : operand.Yields Expr.IsPlain) (tag : String)
    (operator : List Char → Nat) : (logicalTail tag operator operand).Yields KeepsPlain :=
  yields_after fun _ => h.spaced.bind fun _ hright =>
    yields_pure fun _ hleft => List.forall_mem_append.mpr ⟨hleft, hright⟩

theorem chained_yields (h : operand.Yields Expr.IsPlain) (htail : tail.Yields KeepsPlain) :
    (chained operand tail).Yields Expr.IsPlain :=
  h.bind fun _ hfirst => htail.many.bind fun _ htails =>
    yields_pure (isPlain_foldl htails hfirst)

theorem rightward_yields (h : operand.Yields Expr.IsPlain) (htail : tail.Yields KeepsPlain) :
    (rightward operand tail).Yields Expr.IsPlain :=
  h.bind fun _ hleft => (htail.orElse (yields_pure fun _ he => he)).bind fun _ hmake =>
    yields_pure (hmake _ hleft)

end

section

variable {rules : Rules} (h : rules.ArePlain)

include h

theorem unary_yields : (unary rules).Yields Expr.IsPlain := by
  have hpower : (power rules).Yields Expr.IsPlain :=
    rightward_yields (suffixed_yields h) (binaryTail_yields h.unary _ _)
  have hunary : (unaryExpr rules).Yields Expr.IsPlain :=
    (Yields.located (yields_after fun _ => h.unary.spaced.bind fun operand he =>
      yields_pure (p := fun found : List Char × Expr => found.2.IsPlain) he) _).bind
        fun _ he => yields_pure he
  exact hunary.orElse hpower

theorem concatenation_yields : (concatenation rules).Yields Expr.IsPlain := by
  have hproduct : (product rules).Yields Expr.IsPlain :=
    chained_yields (unary_yields h) (binaryTail_yields (unary_yields h) _ _)
  have hsum : (sum rules).Yields Expr.IsPlain :=
    chained_yields hproduct (binaryTail_yields hproduct _ _)
  exact rightward_yields hsum (binaryTail_yields h.concatenation _ _)

theorem expression_yields : (expression rules).Yields Expr.IsPlain := by
  have hcomparison : (comparison rules).Yields Expr.IsPlain :=
    chained_yields (concatenation_yields h) (binaryTail_yields (concatenation_yields h) _ _)
  have hconjunction : (conjunction rules).Yields Expr.IsPlain :=
    chained_yields hcomparison (logicalTail_yields hcomparison _ _)
  exact chained_yields hconjunction (logicalTail_yields hconjunction _ _)

end

theorem plain_rules (depth : Nat) : (rules depth).ArePlain := by
  induction depth with
  | zero => exact ⟨yields_failure, yields_failure, yields_failure⟩
  | succ depth ih => exact ⟨expression_yields ih, concatenation_yields ih, unary_yields ih⟩

theorem root_yields : root.Yields Expr.IsPlain :=
  yields_after fun _ => (plain_rules _).expression.spaced.bind fun _ he =>
    yields_after fun _ => yields_pure he

end Grammar

theorem isPlain_of_parseExpr {source : String} {e : Expr} (h : parseExpr source = .ok e) :
    e.IsPlain := by
  rw [parseExpr, readExpr] at h
  rcases hroot : Grammar.root (Cursor.ofText source.toList) Reach.start with
    ⟨_ | ⟨found, cursor⟩, reach⟩
  · rw [hroot] at h
    cases h
  · have hfound : found.IsPlain := Grammar.root_yields _ _ _ _ _ hroot
    rw [hroot] at h
    dsimp only at h
    split at h
    · split at h
      · cases h
      · cases h
        exact hfound
    · cases h

/-- Nothing has a number in an expression that is read from a text. -/
theorem entities_of_parseExpr {source : String} {e : Expr} (h : parseExpr source = .ok e) :
    e.entities = [] :=
  e.entities_of_isPlain (isPlain_of_parseExpr h)

theorem multiFree_of_parseExpr {source : String} {e : Expr} (h : parseExpr source = .ok e) :
    e.MultiFree :=
  e.multiFree_of_isPlain (isPlain_of_parseExpr h)

end TemplateScript
