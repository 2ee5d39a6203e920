import Mathlib.Data.List.Forall2
import TemplateScript.Expr.Parse
import TemplateScript.Proofs.Expr.Lexeme

/-!
# Writing expressions

The lexemes of an expression in their order, without any that the expression does not hold itself.
Nothing is put in parentheses, so only an expression whose operands bind as tightly as their places
ask for is written in this way, and each has a level: one for `or`, two for `and`, and so on up to
nine for what a suffix may follow.
-/

namespace TemplateScript

/-! ### Expressions without locations -/

mutual

/-- The expression without its locations. The value of a literal stays as it is. -/
def Expr.unlocated : Expr → Expr
  | .literal value _ => .literal value none
  | .variable name _ => .variable name none
  | .index obj key _ => .index obj.unlocated key.unlocated none
  | .call fn args _ => .call fn.unlocated (unlocatedAll args) none
  | .methodCall obj name args _ => .methodCall obj.unlocated name (unlocatedAll args) none
  | .binary op left right _ => .binary op left.unlocated right.unlocated none
  | .logical op left right _ => .logical op left.unlocated right.unlocated none
  | .unary op operand _ => .unary op operand.unlocated none
  | .paren inner _ => .paren inner.unlocated none
  | .tableConstructor fields _ => .tableConstructor (unlocatedFields fields) none
  | .bare _ => .bare none

def unlocatedAll : List Expr → List Expr
  | [] => []
  | e :: rest => e.unlocated :: unlocatedAll rest

def unlocatedFields : List (Option Expr × Expr) → List (Option Expr × Expr)
  | [] => []
  | (none, value) :: rest => (none, value.unlocated) :: unlocatedFields rest
  | (some key, value) :: rest =>
    (some key.unlocated, value.unlocated) :: unlocatedFields rest

end

/-- The first expression is the second one but for locations, and can be read without a decimal
integer that is too long. -/
structure Expr.Recovers (a e : Expr) : Prop where
  unlocated : a.unlocated = e.unlocated
  overlong : a.overlongInteger? = none

/-- The same for a field of a table. -/
inductive FieldRecovers : Option Expr × Expr → Option Expr × Expr → Prop
  | positional {a e : Expr} (hvalue : a.Recovers e) : FieldRecovers (none, a) (none, e)
  | keyed {a e key key' : Expr} (hkey : key.Recovers key') (hvalue : a.Recovers e) :
      FieldRecovers (some key, a) (some key', e)

theorem recovers_all {found es : List Expr} (h : List.Forall₂ Expr.Recovers found es) :
    unlocatedAll found = unlocatedAll es ∧ overlongIn? found = none := by
  induction h with
  | nil => exact ⟨rfl, rfl⟩
  | cons hfirst _ ih =>
      rw [unlocatedAll, unlocatedAll, hfirst.unlocated, ih.1, overlongIn?, hfirst.overlong, ih.2]
      exact ⟨rfl, rfl⟩

theorem recovers_fields {found fields : List (Option Expr × Expr)}
    (h : List.Forall₂ FieldRecovers found fields) :
    unlocatedFields found = unlocatedFields fields ∧ overlongInFields? found = none := by
  induction h with
  | nil => exact ⟨rfl, rfl⟩
  | cons hfirst _ ih =>
      cases hfirst with
      | positional hvalue =>
          rw [unlocatedFields, unlocatedFields, hvalue.unlocated, ih.1, overlongInFields?,
            hvalue.overlong, ih.2]
          exact ⟨rfl, rfl⟩
      | keyed hkey hvalue =>
          rw [unlocatedFields, unlocatedFields, hkey.unlocated, hvalue.unlocated, ih.1,
            overlongInFields?, hkey.overlong, hvalue.overlong, ih.2]
          exact ⟨rfl, rfl⟩

/-! ### Levels -/

namespace BinaryOp

def level : BinaryOp → Nat
  | .equal | .notEqual | .comparison _ => 3
  | .concat => 4
  | .arithmetic .add | .arithmetic .sub => 5
  | .arithmetic .mul | .arithmetic .div | .arithmetic .floorDiv | .arithmetic .mod => 6
  | .arithmetic .pow => 8
  | .unknown _ => 0

/-- How tightly the left operand has to bind. -/
def leftLevel : BinaryOp → Nat
  | .concat => 5
  | .arithmetic .pow => 9
  | op => op.level

/-- How tightly the right operand has to bind. -/
def rightLevel : BinaryOp → Nat
  | .concat => 4
  | .arithmetic .pow => 7
  | op => op.level + 1

end BinaryOp

namespace LogicalOp

def level : LogicalOp → Nat
  | .or => 1
  | .and => 2
  | .unknown _ => 0

end LogicalOp

/-- How tightly an expression binds. -/
def Expr.level : Expr → Nat
  | .binary op _ _ _ => op.level
  | .logical op _ _ _ => op.level
  | .unary _ _ _ => 7
  | _ => 9

/-- An expression of the language whose operands all bind as tightly as their places ask for. -/
inductive Expr.Grouped : Expr → Prop
  | nil (loc : Option Location) : Grouped (.literal .nil loc)
  | bool (b : Bool) (loc : Option Location) : Grouped (.literal (.bool b) loc)
  | int {n : Nat} (hlength : (Nat.toDigits 10 n).length ≤ digitLimit) (loc : Option Location) :
      Grouped (.literal (.number (.int n)) loc)
  | str (s : String) (loc : Option Location) : Grouped (.literal (.str s) loc)
  | name {name : String} (hname : Token.isName name.toList) (loc : Option Location) :
      Grouped (.variable name loc)
  | index {obj key : Expr} (hobj : Grouped obj) (htight : 9 ≤ obj.level) (hkey : Grouped key)
      (loc : Option Location) : Grouped (.index obj key loc)
  | call {fn : Expr} {args : List Expr} (hfn : Grouped fn) (htight : 9 ≤ fn.level)
      (hargs : ∀ arg ∈ args, Grouped arg) (loc : Option Location) : Grouped (.call fn args loc)
  | methodCall {obj : Expr} {name : String} {args : List Expr} (hobj : Grouped obj)
      (htight : 9 ≤ obj.level) (hname : Token.isName name.toList)
      (hargs : ∀ arg ∈ args, Grouped arg) (loc : Option Location) :
      Grouped (.methodCall obj name args loc)
  | binary {op : BinaryOp} {left right : Expr} (hop : op ∈ BinaryOp.known) (hleft : Grouped left)
      (hright : Grouped right) (hleftTight : op.leftLevel ≤ left.level)
      (hrightTight : op.rightLevel ≤ right.level) (loc : Option Location) :
      Grouped (.binary op left right loc)
  | logical {op : LogicalOp} {left right : Expr} (hop : op = .or ∨ op = .and)
      (hleft : Grouped left) (hright : Grouped right) (hleftTight : op.level ≤ left.level)
      (hrightTight : op.level < right.level) (loc : Option Location) :
      Grouped (.logical op left right loc)
  | unary {op : UnaryOp} {operand : Expr} (hop : op = .not ∨ op = .neg ∨ op = .length)
      (hoperand : Grouped operand) (htight : 7 ≤ operand.level) (loc : Option Location) :
      Grouped (.unary op operand loc)
  | paren {inner : Expr} (hinner : Grouped inner) (loc : Option Location) :
      Grouped (.paren inner loc)
  | table {fields : List (Option Expr × Expr)}
      (hkeys : ∀ field ∈ fields, ∀ key ∈ field.1, Grouped key)
      (hvalues : ∀ field ∈ fields, Grouped field.2) (loc : Option Location) :
      Grouped (.tableConstructor fields loc)

theorem Expr.Grouped.level_bounds {e : Expr} (h : e.Grouped) : 1 ≤ e.level ∧ e.level ≤ 9 := by
  have hbinary : ∀ op ∈ BinaryOp.known, 1 ≤ op.level ∧ op.level ≤ 9 := by decide
  cases h with
  | binary hop => exact hbinary _ hop
  | logical hop => rw [Expr.level]; rcases hop with rfl | rfl <;> decide
  | _ => simp only [Expr.level]; decide

/-! ### Lexemes -/

/-- Lexemes between two brackets. -/
def bracketed (left right : String) (ts : List Lexeme) : List Lexeme :=
  .mark left :: (ts ++ [.mark right])

/-- The lexemes of several parts with a separator between each two. -/
def separated (separator : String) : List (List Lexeme) → List Lexeme
  | [] => []
  | first :: rest => first ++ rest.flatMap (.mark separator :: ·)

def Value.lexemes : Value → List Lexeme
  | .nil => [.mark "nil"]
  | .bool b => [.mark (if b then "true" else "false")]
  | .number (.int n) => [.numeral n.toNat]
  | .str s => [.string s]
  | _ => []

section

-- Fields of a table are kept apart by commas or by semicolons.
variable (separator : String)

mutual

/-- The lexemes of an expression. -/
def Expr.lexemes : Expr → List Lexeme
  | .literal value _ => value.lexemes
  | .variable name _ => [.name name]
  | .index obj key _ => obj.lexemes ++ bracketed "[" "]" key.lexemes
  | .call fn args _ => fn.lexemes ++ bracketed "(" ")" (separated "," (lexemesOfAll args))
  | .methodCall obj name args _ =>
    obj.lexemes ++ .mark ":" :: .name name ::
      bracketed "(" ")" (separated "," (lexemesOfAll args))
  | .binary op left right _ => left.lexemes ++ .mark op.spelling :: right.lexemes
  | .logical op left right _ => left.lexemes ++ .mark op.spelling :: right.lexemes
  | .unary op operand _ => .mark op.spelling :: operand.lexemes
  | .paren inner _ => bracketed "(" ")" inner.lexemes
  | .tableConstructor fields _ =>
    bracketed "\x7b" "\x7d" (separated separator (lexemesOfFields fields))
  | .bare _ => []

def lexemesOfAll : List Expr → List (List Lexeme)
  | [] => []
  | e :: rest => e.lexemes :: lexemesOfAll rest

def lexemesOfField : Option Expr × Expr → List Lexeme
  | (none, value) => value.lexemes
  | (some key, value) => bracketed "[" "]" key.lexemes ++ .mark "=" :: value.lexemes

def lexemesOfFields : List (Option Expr × Expr) → List (List Lexeme)
  | [] => []
  | field :: rest => lexemesOfField field :: lexemesOfFields rest

end

theorem lexemesOfAll_eq_map (es : List Expr) :
    lexemesOfAll separator es = es.map (Expr.lexemes separator) := by
  induction es with
  | nil => rfl
  | cons e rest ih => rw [lexemesOfAll, ih, List.map_cons]

theorem lexemesOfFields_eq_map (fields : List (Option Expr × Expr)) :
    lexemesOfFields separator fields = fields.map (lexemesOfField separator) := by
  induction fields with
  | nil => rfl
  | cons field rest ih => rw [lexemesOfFields, ih, List.map_cons]

end

end TemplateScript
