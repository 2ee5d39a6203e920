import TemplateScript.Value.Text

/-!
# Equality

Two equalities of values. The host compares containers by their contents, with true and false as
the numbers one and zero, and tables by identity; a table equals a mapping of the host with the
same slots. Keys of mappings agree where the host finds them equal, with one more condition on
parsed expressions: their descriptions agree too. The language compares numbers with numbers, and
all other values only with values of the same type.
-/

namespace TemplateScript

/-- Whether two values are compared as contents or as keys. -/
inductive Comparing where
  | contents | keys
deriving DecidableEq

namespace Value

/-- The number that a number, true or false counts as in a comparison of the host. -/
def asNumber? : Value → Option Number
  | .number n => some n
  | .bool b => some (.int (if b then 1 else 0))
  | _ => none

end Value

/-- Two NaNs are the same where they carry the same mark. -/
def Number.isSame (left right : Number) : Bool :=
  left.beq right ||
    match left, right with
    | .float (.nan _ leftMark), .float (.nan _ rightMark) => leftMark == rightMark && leftMark != 0
    | _, _ => false

mutual

/-- Equality inside containers, where a value also equals itself. -/
def Value.agrees (comparing : Comparing) : Value → Value → Bool
  | .nil, .nil => true
  | .bool a, w =>
    match w.asNumber? with
    | some n => (Number.int (if a then 1 else 0)).isSame n
    | none => false
  | .number m, w =>
    match w.asNumber? with
    | some n => m.isSame n
    | none => false
  | .str a, .str b => a == b
  | .list xs, .list ys => agreesList .contents xs ys
  | .tuple xs, .tuple ys | .tuple xs, .multi ys | .multi xs, .tuple ys | .multi xs, .multi ys =>
    agreesList comparing xs ys
  | .dict xs, .dict ys => xs.length == ys.length && agreesEntries xs ys
  | .table id _, .table otherId _ => id == otherId
  | .table _ xs, .dict ys => xs.length == ys.length && agreesEntries xs ys
  | .dict xs, .table _ ys => xs.length == ys.length && agreesEntries xs ys
  | .expression a, .expression b =>
    a.agrees b && (comparing == .contents || a.describe == b.describe)
  | .function f, .function g => f == g
  | .bytes a, .bytes b => a == b
  | .date a, .date b => a == b
  | .dateTime a, .dateTime b => a == b
  | .set xs, .set ys => xs.length == ys.length && agreesMembers xs ys
  | _, _ => false
termination_by structural left _ => left

def agreesList (comparing : Comparing) : List Value → List Value → Bool
  | [], [] => true
  | x :: xs, y :: ys => x.agrees comparing y && agreesList comparing xs ys
  | _, _ => false
termination_by structural left _ => left

/-- Every entry on the left has one on the right with the same key and an equal value. -/
def agreesEntries : List (Value × Value) → List (Value × Value) → Bool
  | [], _ => true
  | (k, v) :: xs, ys =>
    (match ys.find? fun entry => k.agrees .keys entry.1 with
      | some (_, w) => v.agrees .contents w
      | none => false) && agreesEntries xs ys
termination_by structural left _ => left

def agreesMembers : List Value → List Value → Bool
  | [], _ => true
  | x :: xs, ys => ys.any (fun y => x.agrees .keys y) && agreesMembers xs ys
termination_by structural left _ => left

/-- Expressions agree where their kinds and parts do; locations do not count. -/
def Expr.agrees : Expr → Expr → Bool
  | .literal a _, .literal b _ => a.agrees .contents b
  | .variable a _, .variable b _ => a == b
  | .index a b _, .index c d _ => a.agrees c && b.agrees d
  | .call f xs _, .call g ys _ => f.agrees g && agreesExprs xs ys
  | .methodCall a m xs _, .methodCall b n ys _ => a.agrees b && m == n && agreesExprs xs ys
  | .binary o a b _, .binary p c d _ => o.spelling == p.spelling && a.agrees c && b.agrees d
  | .logical o a b _, .logical p c d _ => o.spelling == p.spelling && a.agrees c && b.agrees d
  | .unary o a _, .unary p b _ => o.spelling == p.spelling && a.agrees b
  | .paren a _, .paren b _ => a.agrees b
  | .tableConstructor xs _, .tableConstructor ys _ => agreesFields xs ys
  | .bare _, .bare _ => true
  | _, _ => false
termination_by structural left _ => left

def agreesExprs : List Expr → List Expr → Bool
  | [], [] => true
  | x :: xs, y :: ys => x.agrees y && agreesExprs xs ys
  | _, _ => false
termination_by structural left _ => left

def agreesFields : List (Option Expr × Expr) → List (Option Expr × Expr) → Bool
  | [], [] => true
  | (none, v) :: xs, (none, w) :: ys => v.agrees w && agreesFields xs ys
  | (some k, v) :: xs, (some l, w) :: ys => k.agrees l && v.agrees w && agreesFields xs ys
  | _, _ => false
termination_by structural left _ => left

end

namespace Value

/-- Equality of the host, in which no NaN equals anything. -/
def hostEq (a b : Value) : Bool :=
  match a.asNumber?, b.asNumber? with
  | some m, some n => m.beq n
  | _, _ => a.agrees .contents b

/-- The kinds of values that the language keeps apart in comparisons. -/
inductive Kind where
  | nil | bool | number | str | list | tuple | multi | dict | table | function
  | bytes | date | dateTime | set
  | expression (kind : String)
deriving DecidableEq

def kind : Value → Kind
  | .nil => .nil
  | .bool _ => .bool
  | .number _ => .number
  | .str _ => .str
  | .list _ => .list
  | .tuple _ => .tuple
  | .multi _ => .multi
  | .dict _ => .dict
  | .table _ _ => .table
  | .function _ => .function
  | .bytes _ => .bytes
  | .date _ => .date
  | .dateTime _ => .dateTime
  | .set _ => .set
  | .expression e => .expression e.kindName

/-- Equality of the language. -/
def scriptEq (a b : Value) : Bool :=
  a.kind == b.kind && a.hostEq b

/-- Whether two keys address the same slot. -/
def sameKey (a b : Value) : Bool :=
  a.agrees .keys b

/-- What keeps a value from being a key. -/
inductive Unhashable where
  /-- It is or holds a container of this kind, which changes. -/
  | container (typeName : String)
  /-- It is or holds a parsed expression with an integer too long to be written. Expressions are
  filed under their descriptions. -/
  | tooManyDigits
deriving DecidableEq

mutual

/-- What keeps a value from being a key; of a tuple the first item that is none decides. -/
def unhashable? : Value → Option Unhashable
  | .list _ => some (.container "list")
  | .dict _ => some (.container "dict")
  | .set _ => some (.container "set")
  | .tuple items | .multi items => unhashableIn? items
  | .expression e => if e.isWritable then none else some .tooManyDigits
  | _ => none

def unhashableIn? : List Value → Option Unhashable
  | [] => none
  | v :: rest => v.unhashable?.or (unhashableIn? rest)

end

end Value

namespace Expr

/-- Whether the descriptions of two expressions agree kind by kind and part by part. -/
def sameHash (a b : Expr) : Bool :=
  a.describe == b.describe

end Expr

end TemplateScript
