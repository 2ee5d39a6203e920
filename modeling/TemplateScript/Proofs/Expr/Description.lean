import TemplateScript.Proofs.Expr.Displayed
import TemplateScript.Proofs.Expr.Literals

/-!
# Descriptions of equal expressions

Equality compares the literals of two expressions as the host does, where one is 1.0 and true;
their descriptions spell them out. What holds of the texts of equal literals, and is kept when texts
are put together, holds of the descriptions of equal expressions. So the texts of the literals
settle the description, and the description of an expression that is read from a text settles the
texts.
-/

namespace TemplateScript

/-- The descriptions of the literals, from left to right. -/
def Expr.literalTexts (e : Expr) : List (List Char) :=
  e.literals.map (Value.text .description)

/-! ### Expressions that agree -/

/-- Expressions of one kind with fields that agree. -/
inductive Expr.FieldsAgree : Expr → Expr → Prop where
  | literal {v w loc loc'} (h : v.agrees .contents w = true) :
    FieldsAgree (.literal v loc) (.literal w loc')
  | variable {name loc loc'} : FieldsAgree (.variable name loc) (.variable name loc')
  | index {obj key obj' key' loc loc'} (hobj : obj.agrees obj' = true)
    (hkey : key.agrees key' = true) : FieldsAgree (.index obj key loc) (.index obj' key' loc')
  | call {fn args fn' args' loc loc'} (hfn : fn.agrees fn' = true)
    (hargs : agreesExprs args args' = true) : FieldsAgree (.call fn args loc) (.call fn' args' loc')
  | methodCall {obj name args obj' args' loc loc'} (hobj : obj.agrees obj' = true)
    (hargs : agreesExprs args args' = true) :
    FieldsAgree (.methodCall obj name args loc) (.methodCall obj' name args' loc')
  | binary {op left right op' left' right' loc loc'} (hop : op.spelling = op'.spelling)
    (hleft : left.agrees left' = true) (hright : right.agrees right' = true) :
    FieldsAgree (.binary op left right loc) (.binary op' left' right' loc')
  | logical {op left right op' left' right' loc loc'} (hop : op.spelling = op'.spelling)
    (hleft : left.agrees left' = true) (hright : right.agrees right' = true) :
    FieldsAgree (.logical op left right loc) (.logical op' left' right' loc')
  | unary {op operand op' operand' loc loc'} (hop : op.spelling = op'.spelling)
    (hoperand : operand.agrees operand' = true) :
    FieldsAgree (.unary op operand loc) (.unary op' operand' loc')
  | paren {inner inner' loc loc'} (h : inner.agrees inner' = true) :
    FieldsAgree (.paren inner loc) (.paren inner' loc')
  | tableConstructor {fields fields' loc loc'} (h : agreesFields fields fields' = true) :
    FieldsAgree (.tableConstructor fields loc) (.tableConstructor fields' loc')
  | bare {loc loc'} : FieldsAgree (.bare loc) (.bare loc')

theorem Expr.fieldsAgree_of_agrees {a b : Expr} (h : a.agrees b = true) : a.FieldsAgree b := by
  cases a with
  | literal v _ =>
      cases b with
      | literal w _ => exact .literal h
      | _ => cases h
  | «variable» name _ =>
      cases b with
      | «variable» name' _ =>
          obtain rfl : name = name' := beq_iff_eq.mp h
          exact .variable
      | _ => cases h
  | index obj key _ =>
      cases b with
      | index obj' key' _ =>
          obtain ⟨hobj, hkey⟩ := Bool.and_eq_true_iff.mp h
          exact .index hobj hkey
      | _ => cases h
  | call fn args _ =>
      cases b with
      | call fn' args' _ =>
          obtain ⟨hfn, hargs⟩ := Bool.and_eq_true_iff.mp h
          exact .call hfn hargs
      | _ => cases h
  | methodCall obj name args _ =>
      cases b with
      | methodCall obj' name' args' _ =>
          obtain ⟨hfront, hargs⟩ := Bool.and_eq_true_iff.mp h
          obtain ⟨hobj, hname⟩ := Bool.and_eq_true_iff.mp hfront
          obtain rfl : name = name' := beq_iff_eq.mp hname
          exact .methodCall hobj hargs
      | _ => cases h
  | binary op left right _ =>
      cases b with
      | binary op' left' right' _ =>
          obtain ⟨hfront, hright⟩ := Bool.and_eq_true_iff.mp h
          obtain ⟨hop, hleft⟩ := Bool.and_eq_true_iff.mp hfront
          exact .binary (beq_iff_eq.mp hop) hleft hright
      | _ => cases h
  | logical op left right _ =>
      cases b with
      | logical op' left' right' _ =>
          obtain ⟨hfront, hright⟩ := Bool.and_eq_true_iff.mp h
          obtain ⟨hop, hleft⟩ := Bool.and_eq_true_iff.mp hfront
          exact .logical (beq_iff_eq.mp hop) hleft hright
      | _ => cases h
  | unary op operand _ =>
      cases b with
      | unary op' operand' _ =>
          obtain ⟨hop, hoperand⟩ := Bool.and_eq_true_iff.mp h
          exact .unary (beq_iff_eq.mp hop) hoperand
      | _ => cases h
  | paren inner _ =>
      cases b with
      | paren inner' _ => exact .paren h
      | _ => cases h
  | tableConstructor fields _ =>
      cases b with
      | tableConstructor fields' _ => exact .tableConstructor h
      | _ => cases h
  | bare _ =>
      cases b with
      | bare _ => exact .bare
      | _ => cases h

/-! ### Texts put together -/

/-- Where rows that begin with `x` and `y` are equal, so are `u` and `v`, and what follows. -/
def Settles {α β : Type} (x y : List α) (u v : List β) : Prop :=
  ∀ s t, x ++ s = y ++ t → u = v ∧ s = t

theorem Settles.append {α β : Type} {x y x' y' : List α} {u v u' v' : List β}
    (h : Settles x y u v) (h' : Settles x' y' u' v') :
    Settles (x ++ x') (y ++ y') (u ++ u') (v ++ v') := by
  intro s t hrow
  rw [List.append_assoc, List.append_assoc] at hrow
  obtain ⟨rfl, hrest⟩ := h _ _ hrow
  obtain ⟨rfl, htail⟩ := h' _ _ hrest
  exact ⟨rfl, htail⟩

theorem Settles.of_eq {α β : Type} {x y : List α} {u v : List β} (h : Settles x y u v)
    (hrow : x = y) : u = v :=
  (h [] [] (congrArg (· ++ []) hrow)).1

theorem Settles.of_append_eq {α β : Type} {x y x' y' : List α} {u v u' v' : List β}
    (h : Settles x y u v) (h' : Settles x' y' u' v') (hrow : x ++ x' = y ++ y') :
    u = v ∧ u' = v' := by
  obtain ⟨hfront, hrest⟩ := h x' y' hrow
  exact ⟨hfront, h'.of_eq hrest⟩

theorem settles_same {α β : Type} (x : List α) (u : List β) : Settles x x u u :=
  fun _ _ hrow => ⟨rfl, List.append_cancel_left hrow⟩

/-- How the texts of two expressions lie to each other, and the texts of their literals. -/
abbrev TextRelation := List Char → List Char → List (List Char) → List (List Char) → Prop

/-- A relation between descriptions that is kept when they are put together. -/
structure TextRelation.Composes (R : TextRelation) : Prop where
  same (x : List Char) : R x x [] []
  append {x y x' y' : List Char} {u v u' v' : List (List Char)} :
    R x y u v → R x' y' u' v' → R (x ++ x') (y ++ y') (u ++ u') (v ++ v')

namespace TextRelation

variable {R : TextRelation} {x y : List Char} {u v : List (List Char)}

theorem Composes.between (h : R.Composes) (before after : List Char) (hparts : R x y u v) :
    R (before ++ x ++ after) (before ++ y ++ after) u v := by
  have hwhole := h.append (h.append (h.same before) hparts) (h.same after)
  rwa [List.nil_append, List.append_nil, List.nil_append, List.append_nil] at hwhole

theorem Composes.before (h : R.Composes) (before : List Char) (hparts : R x y u v) :
    R (before ++ x) (before ++ y) u v := by
  have hwhole := h.append (h.same before) hparts
  rwa [List.nil_append, List.nil_append] at hwhole

/-- Two lists of parts are related alone and behind a part in front of them. -/
structure Lists (R : TextRelation) (xs ys : List (List Char)) (u v : List (List Char)) : Prop where
  alone : R (commaSeparated xs) (commaSeparated ys) u v
  behind : R (xs.flatMap ([',', ' '] ++ ·)) (ys.flatMap ([',', ' '] ++ ·)) u v

theorem Composes.nil (h : R.Composes) : R.Lists [] [] [] [] :=
  ⟨h.same [], h.same []⟩

theorem Composes.cons (h : R.Composes) {xs ys us vs : List (List Char)} (hfirst : R x y u v)
    (hrest : R.Lists xs ys us vs) : R.Lists (x :: xs) (y :: ys) (u ++ us) (v ++ vs) := by
  constructor
  · rw [commaSeparated_cons, commaSeparated_cons]
    exact h.append hfirst hrest.behind
  · rw [List.flatMap_cons, List.flatMap_cons]
    exact h.append (h.before _ hfirst) hrest.behind

theorem Composes.singleton (h : R.Composes) (hpart : R x y u v) : R.Lists [x] [y] u v := by
  have hlist := h.cons hpart h.nil
  rwa [List.append_nil, List.append_nil] at hlist

/-- A part without literals stands in front. -/
theorem Composes.constant (h : R.Composes) (part : List Char) {xs ys us vs : List (List Char)}
    (hrest : R.Lists xs ys us vs) : R.Lists (part :: xs) (part :: ys) us vs :=
  h.cons (h.same part) hrest

theorem Composes.spelling (h : R.Composes) {op op' : String} (hop : op = op')
    {xs ys us vs : List (List Char)} (hrest : R.Lists xs ys us vs) :
    R.Lists ((quoted op).toList :: xs) ((quoted op').toList :: ys) us vs :=
  hop ▸ h.constant _ hrest

theorem Composes.pair (h : R.Composes) {x' y' : List Char} {u' v' : List (List Char)}
    (hleft : R x y u v) (hright : R x' y' u' v') :
    R.Lists [x, x'] [y, y'] (u ++ u') (v ++ v') :=
  h.cons hleft (h.singleton hright)

variable {xs ys : List (List Char)}

theorem Composes.inParentheses (h : R.Composes) (hlist : R.Lists xs ys u v) :
    R (parenthesized xs) (parenthesized ys) u v :=
  h.between ['('] [')'] hlist.alone

theorem Composes.inBrackets (h : R.Composes) (hlist : R.Lists xs ys u v) :
    R ('[' :: commaSeparated xs ++ [']']) ('[' :: commaSeparated ys ++ [']']) u v :=
  h.between ['['] [']'] hlist.alone

/-- A relation that is kept and holds between the texts of literals that agree. -/
structure Spans (R : TextRelation) (p : Value → Prop) : Prop extends R.Composes where
  literal {v w : Value} : p v → v.agrees .contents w = true →
    R (parenthesized [v.text .description]) (parenthesized [w.text .description])
      [v.text .description] [w.text .description]

end TextRelation

section

variable {R : TextRelation} {p : Value → Prop} (hR : R.Spans p)

include hR

mutual

/-- What holds of the texts of literals that agree, and is kept when texts are put together, holds
of the descriptions of expressions that agree. -/
theorem Expr.related_of_agrees (a b : Expr) (ha : ∀ v ∈ a.literals, p v) (h : a.agrees b = true) :
    R a.describe b.describe a.literalTexts b.literalTexts := by
  match a with
  | .literal v _ =>
      cases Expr.fieldsAgree_of_agrees h with
      | literal hvalue =>
          have hv : p v := ha v (List.mem_singleton_self v)
          exact hR.before "Literal".toList (hR.literal hv hvalue)
  | .variable _ _ =>
      cases Expr.fieldsAgree_of_agrees h with
      | «variable» => exact hR.same _
  | .index obj key _ =>
      cases Expr.fieldsAgree_of_agrees h with
      | index hobj hkey =>
          obtain ⟨hleft, hright⟩ := List.forall_mem_append.mp ha
          have hlist := hR.pair (Expr.related_of_agrees obj _ hleft hobj)
            (Expr.related_of_agrees key _ hright hkey)
          simp only [Expr.literalTexts, Expr.literals, List.map_append]
          exact hR.before "Index".toList (hR.inParentheses hlist)
  | .call fn args _ =>
      cases Expr.fieldsAgree_of_agrees h with
      | call hfn hargs =>
          obtain ⟨hleft, hright⟩ := List.forall_mem_append.mp ha
          have hlist := hR.pair (Expr.related_of_agrees fn _ hleft hfn)
            (hR.inBrackets (relatedList_of_agrees args _ hright hargs))
          simp only [Expr.literalTexts, Expr.literals, List.map_append]
          exact hR.before "Call".toList (hR.inParentheses hlist)
  | .methodCall obj name args _ =>
      cases Expr.fieldsAgree_of_agrees h with
      | methodCall hobj hargs =>
          obtain ⟨hleft, hright⟩ := List.forall_mem_append.mp ha
          have hbrackets := hR.inBrackets (relatedList_of_agrees args _ hright hargs)
          have hlist := hR.cons (Expr.related_of_agrees obj _ hleft hobj)
            (hR.constant (quoted name).toList (hR.singleton hbrackets))
          simp only [Expr.literalTexts, Expr.literals, List.map_append]
          exact hR.before "MethodCall".toList (hR.inParentheses hlist)
  | .binary op left right _ =>
      cases Expr.fieldsAgree_of_agrees h with
      | binary hop hl hr =>
          obtain ⟨hleft, hright⟩ := List.forall_mem_append.mp ha
          have hlist := hR.spelling hop (hR.pair (Expr.related_of_agrees left _ hleft hl)
            (Expr.related_of_agrees right _ hright hr))
          simp only [Expr.literalTexts, Expr.literals, List.map_append]
          exact hR.before "BinOp".toList (hR.inParentheses hlist)
  | .logical op left right _ =>
      cases Expr.fieldsAgree_of_agrees h with
      | logical hop hl hr =>
          obtain ⟨hleft, hright⟩ := List.forall_mem_append.mp ha
          have hlist := hR.spelling hop (hR.pair (Expr.related_of_agrees left _ hleft hl)
            (Expr.related_of_agrees right _ hright hr))
          simp only [Expr.literalTexts, Expr.literals, List.map_append]
          exact hR.before "LogicalOp".toList (hR.inParentheses hlist)
  | .unary op operand _ =>
      cases Expr.fieldsAgree_of_agrees h with
      | unary hop hoperand =>
          have hlist := hR.spelling hop
            (hR.singleton (Expr.related_of_agrees operand _ ha hoperand))
          exact hR.before "UnaryOp".toList (hR.inParentheses hlist)
  | .paren inner _ =>
      cases Expr.fieldsAgree_of_agrees h with
      | paren hinner =>
          have hlist := hR.singleton (Expr.related_of_agrees inner _ ha hinner)
          exact hR.before "Paren".toList (hR.inParentheses hlist)
  | .tableConstructor fields _ =>
      cases Expr.fieldsAgree_of_agrees h with
      | tableConstructor hfields =>
          have hlist := hR.singleton (hR.inBrackets (relatedFields_of_agrees fields _ ha hfields))
          exact hR.before "TableConstructor".toList (hR.inParentheses hlist)
  | .bare _ =>
      cases Expr.fieldsAgree_of_agrees h with
      | bare => exact hR.same _
termination_by structural a

theorem relatedList_of_agrees (xs ys : List Expr) (hxs : ∀ v ∈ literalsOfAll xs, p v)
    (h : agreesExprs xs ys = true) :
    R.Lists (describeList xs) (describeList ys)
      ((literalsOfAll xs).map (Value.text .description))
      ((literalsOfAll ys).map (Value.text .description)) := by
  match xs, ys with
  | [], [] => exact hR.nil
  | [], _ :: _ | _ :: _, [] => cases h
  | x :: xs, y :: ys =>
      obtain ⟨hfirst, hrest⟩ := Bool.and_eq_true_iff.mp h
      obtain ⟨hx, hxs⟩ := List.forall_mem_append.mp hxs
      rw [literalsOfAll, literalsOfAll, List.map_append, List.map_append]
      exact hR.cons (Expr.related_of_agrees x y hx hfirst) (relatedList_of_agrees xs ys hxs hrest)
termination_by structural xs

theorem relatedFields_of_agrees (xs ys : List (Option Expr × Expr))
    (hxs : ∀ v ∈ literalsOfFields xs, p v) (h : agreesFields xs ys = true) :
    R.Lists (describeFields xs) (describeFields ys)
      ((literalsOfFields xs).map (Value.text .description))
      ((literalsOfFields ys).map (Value.text .description)) := by
  match xs, ys with
  | [], [] => exact hR.nil
  | [], (none, _) :: _ | [], (some _, _) :: _ | (none, _) :: _, [] | (some _, _) :: _, []
  | (none, _) :: _, (some _, _) :: _ | (some _, _) :: _, (none, _) :: _ => cases h
  | (none, v) :: xs, (none, w) :: ys =>
      obtain ⟨hfirst, hrest⟩ := Bool.and_eq_true_iff.mp h
      obtain ⟨hv, hxs⟩ := List.forall_mem_append.mp hxs
      rw [literalsOfFields, literalsOfFields, List.map_append, List.map_append]
      have hvalue := hR.singleton (Expr.related_of_agrees v w hv hfirst)
      exact hR.cons (hR.inParentheses (hR.constant "None".toList hvalue))
        (relatedFields_of_agrees xs ys hxs hrest)
  | (some k, v) :: xs, (some l, w) :: ys =>
      obtain ⟨hfirst, hrest⟩ := Bool.and_eq_true_iff.mp h
      obtain ⟨hkey, hvalue⟩ := Bool.and_eq_true_iff.mp hfirst
      obtain ⟨hboth, hxs⟩ := List.forall_mem_append.mp hxs
      obtain ⟨hk, hv⟩ := List.forall_mem_append.mp hboth
      rw [literalsOfFields, literalsOfFields, List.map_append, List.map_append, List.map_append,
        List.map_append]
      have hpair :=
        hR.pair (Expr.related_of_agrees k l hk hkey) (Expr.related_of_agrees v w hv hvalue)
      exact hR.cons (hR.inParentheses hpair) (relatedFields_of_agrees xs ys hxs hrest)
termination_by structural xs

end

end

/-! ### Spellings settle descriptions -/

theorem spans_settled : TextRelation.Spans (fun x y u v => Settles u v x y) fun _ => True where
  same x := settles_same [] x
  append h h' := h.append h'
  literal _ _ := by
    rintro s t hrow
    obtain ⟨htext, hrest⟩ := List.cons.inj hrow
    exact ⟨congrArg (fun text => parenthesized [text]) htext, hrest⟩

/-- Equal expressions with literals that are spelled alike have the same descriptions. -/
theorem Expr.settles_describe {a b : Expr} (h : a.agrees b = true) :
    Settles a.literalTexts b.literalTexts a.describe b.describe :=
  Expr.related_of_agrees spans_settled a b (fun _ _ => trivial) h

theorem settles_describeList {xs ys : List Expr} (h : agreesExprs xs ys = true) :
    Settles ((literalsOfAll xs).map (Value.text .description))
      ((literalsOfAll ys).map (Value.text .description))
      ('[' :: commaSeparated (describeList xs) ++ [']'])
      ('[' :: commaSeparated (describeList ys) ++ [']']) :=
  spans_settled.inBrackets (relatedList_of_agrees spans_settled xs ys (fun _ _ => trivial) h)

theorem settles_describeFields {xs ys : List (Option Expr × Expr)}
    (h : agreesFields xs ys = true) :
    Settles ((literalsOfFields xs).map (Value.text .description))
      ((literalsOfFields ys).map (Value.text .description))
      ('[' :: commaSeparated (describeFields xs) ++ [']'])
      ('[' :: commaSeparated (describeFields ys) ++ [']']) :=
  spans_settled.inBrackets (relatedFields_of_agrees spans_settled xs ys (fun _ _ => trivial) h)

/-! ### Descriptions settle spellings -/

theorem not_mem_decimalDigits (n : Nat) : ')' ∉ decimalDigits n := by
  intro hmem
  have hdigit : ')'.isDigit := Nat.isDigit_of_mem_toDigits (by decide) (by decide) hmem
  exact absurd hdigit (by decide)

theorem not_mem_exponentSuffix (exponent : Int) : ')' ∉ exponentSuffix exponent := by
  have hdigits := not_mem_decimalDigits exponent.natAbs
  unfold exponentSuffix
  dsimp only
  split <;> split <;> simp [hdigits]

theorem not_mem_withPoint {whole fraction : List Char} (hwhole : ')' ∉ whole)
    (hfraction : ')' ∉ fraction) (keepPoint : Bool) :
    ')' ∉ withPoint keepPoint whole fraction := by
  unfold withPoint
  split <;> simp [hwhole, hfraction]

namespace Decimal

theorem not_mem_withoutTrailingZeros {d : Decimal} (h : ')' ∉ d.digits) :
    ')' ∉ d.withoutTrailingZeros.digits := by
  rw [withoutTrailingZeros]
  split
  · simp
  · rw [List.mem_reverse]
    intro hmem
    exact h (List.mem_reverse.mp ((List.dropWhile_sublist _).subset hmem))

theorem not_mem_ofSignificant (count num den : Nat) :
    ')' ∉ (ofSignificant count num den).digits := by
  unfold ofSignificant
  dsimp only
  split <;> exact not_mem_decimalDigits _

theorem not_mem_of_neighbour? {m : Magnitude} {count : Nat} {d : Decimal}
    (h : neighbour? m count = some d) : ')' ∉ d.digits := by
  unfold neighbour? at h
  obtain ⟨n, -, rfl⟩ := Option.map_eq_some_iff.mp h
  exact not_mem_decimalDigits n

theorem not_mem_shortest (m : Magnitude) : ')' ∉ (shortest m).digits := by
  apply not_mem_withoutTrailingZeros
  cases hfound : ((List.range 17).map (· + 1)).findSome? (neighbour? m) with
  | none => exact not_mem_ofSignificant _ _ _
  | some d =>
      obtain ⟨count, -, hd⟩ := List.exists_of_findSome?_eq_some hfound
      exact not_mem_of_neighbour? hd

end Decimal

theorem not_mem_scientific {d : Decimal} (h : ')' ∉ d.digits) : ')' ∉ scientific false d := by
  rw [scientific, List.mem_append, not_or]
  refine ⟨not_mem_withPoint ?_ ?_ false, not_mem_exponentSuffix d.exponent⟩
  · exact fun hmem => h (List.mem_of_mem_take hmem)
  · exact fun hmem => h (List.mem_of_mem_drop hmem)

theorem not_mem_positional {d : Decimal} (h : ')' ∉ d.digits) : ')' ∉ positional false d := by
  have hzeros (n : Nat) : ')' ∉ List.replicate n '0' := by
    simp
  unfold positional
  split
  · refine not_mem_withPoint (by decide) ?_ false
    rw [List.mem_append, not_or]
    exact ⟨hzeros _, h⟩
  · refine not_mem_withPoint ?_ (fun hmem => h (List.mem_of_mem_drop hmem)) false
    rw [List.mem_append, not_or]
    exact ⟨fun hmem => h (List.mem_of_mem_take hmem), hzeros _⟩

theorem not_mem_shortestText (x : Binary64) : ')' ∉ x.shortestText := by
  cases x with
  | nan _ _ => exact show ')' ∉ "nan".toList by decide
  | infinite negative => cases negative <;> decide
  | finite negative m =>
      have hdigits := Decimal.not_mem_shortest m
      have hsigned {text : List Char} (h : ')' ∉ text) :
          ')' ∉ if negative then '-' :: text else text := by
        split <;> simp [h]
      apply hsigned
      split
      · decide
      · dsimp only
        split
        · exact not_mem_scientific hdigits
        · split
          · exact not_mem_positional hdigits
          · rw [List.mem_append, not_or]
            exact ⟨not_mem_positional hdigits, by decide⟩

/-- The text of a number or a truth value ends before the parenthesis behind it. -/
theorem Value.not_mem_text {v : Value} {n : Number} (h : v.asNumber? = some n) :
    ')' ∉ v.text .description := by
  cases v with
  | bool b => cases b <;> exact show ')' ∉ String.toList _ by decide
  | number n =>
      cases n with
      | int k =>
          have hdigits := not_mem_decimalDigits k.natAbs
          show ')' ∉ integerText k
          rw [integerText]
          split <;> simp [hdigits]
      | float x => exact not_mem_shortestText x
  | _ => cases h

theorem append_cons_inj_of_not_mem {x y s t : List Char} {c : Char} (hx : c ∉ x) (hy : c ∉ y)
    (h : x ++ c :: s = y ++ c :: t) : x = y ∧ s = t := by
  induction x generalizing y with
  | nil =>
      cases y with
      | nil => exact ⟨rfl, (List.cons.inj h).2⟩
      | cons d y => exact absurd (List.cons.inj h).1 fun heq => hy (heq ▸ List.mem_cons_self)
  | cons d x ih =>
      cases y with
      | nil => exact absurd (List.cons.inj h).1.symm fun heq => hx (heq ▸ List.mem_cons_self)
      | cons e y =>
          obtain ⟨rfl, hrest⟩ := List.cons.inj h
          obtain ⟨rfl, htail⟩ := ih (fun hmem => hx (.tail _ hmem)) (fun hmem => hy (.tail _ hmem))
            hrest
          exact ⟨rfl, htail⟩

/-- A value that agrees with a number counts as one. -/
theorem Value.agrees_of_asNumber? {v w : Value} {comparing : Comparing} {m : Number}
    (h : v.asNumber? = some m) :
    v.agrees comparing w = w.asNumber?.any fun n => m.isSame n := by
  cases v with
  | bool b =>
      cases h
      rw [agrees]
      cases w.asNumber? <;> rfl
  | number n =>
      cases h
      rw [agrees]
      cases w.asNumber? <;> rfl
  | _ => cases h

theorem Value.eq_of_str_agrees {s : String} {w : Value} {comparing : Comparing}
    (h : (str s).agrees comparing w = true) : w = .str s := by
  cases w with
  | str t => exact congrArg Value.str (beq_iff_eq.mp h).symm
  | _ => cases h

theorem Value.eq_of_nil_agrees {w : Value} {comparing : Comparing}
    (h : nil.agrees comparing w = true) : w = .nil := by
  cases w with
  | nil => rfl
  | _ => cases h

theorem spans_plain : TextRelation.Spans Settles fun v => v.isPlain = true where
  same x := settles_same x []
  append := Settles.append
  literal {v w} hv h := by
    intro s t hrow
    have hnumber {m : Number} (hm : v.asNumber? = some m) :
        [v.text .description] = [w.text .description] ∧ s = t := by
      rw [Value.agrees_of_asNumber? hm, Option.any_eq_true] at h
      obtain ⟨n, hn, -⟩ := h
      have hrow : v.text .description ++ ')' :: s = w.text .description ++ ')' :: t := by
        simpa [parenthesized, commaSeparated, List.intercalate] using hrow
      obtain ⟨htext, hrest⟩ :=
        append_cons_inj_of_not_mem (Value.not_mem_text hm) (Value.not_mem_text hn) hrow
      exact ⟨congrArg (fun text => [text]) htext, hrest⟩
    cases v with
    | nil =>
        obtain rfl := Value.eq_of_nil_agrees h
        exact settles_same _ _ s t hrow
    | str text =>
        obtain rfl := Value.eq_of_str_agrees h
        exact settles_same _ _ s t hrow
    | bool b => exact hnumber rfl
    | number n => exact hnumber rfl
    | _ => cases hv

/-- In an expression that is read from a text the literals can be told from its description. -/
theorem Expr.settles_literalTexts {a b : Expr} (ha : a.IsPlain) (h : a.agrees b = true) :
    Settles a.describe b.describe a.literalTexts b.literalTexts :=
  Expr.related_of_agrees spans_plain a b ha h

end TemplateScript
