import TemplateScript.Number.Binary64

/-!
# Numbers of the language

A number is an integer of any size or a floating-point number. Integers stay integers under
addition, subtraction, multiplication, flooring division and its remainder; every other operation,
and every operation with a floating-point operand, works on floating-point numbers. Comparison is
exact.
-/

namespace TemplateScript

inductive Number where
  | int (value : Int)
  | float (value : Binary64)
deriving DecidableEq

/-- Why an operation on numbers has no result. -/
inductive NumberFault where
  | integerTooLarge
  | quotientTooLarge
  | integerDivisionByZero
  | integerModuloByZero
deriving DecidableEq, Repr

namespace Number

def isZero : Number → Bool
  | .int n => n == 0
  | .float x => x.isZero

def isNan : Number → Bool
  | .int _ => false
  | .float x => x.isNan

/-- The floating-point number nearest to a number, unless it is an integer past the largest. -/
def toFloat : Number → Except NumberFault Binary64
  | .int n =>
    match Binary64.ofInt n with
    | .finite negative m => .ok (.finite negative m)
    | _ => .error .integerTooLarge
  | .float x => .ok x

/-- The exact value as an integer over a natural number. -/
def fraction? : Number → Option (Int × Nat)
  | .int n => some (n, 1)
  | .float x => x.fraction?

/-- How two numbers lie to each other, unless one of them is a NaN. -/
def compare? (left right : Number) : Option Ordering :=
  match left.fraction?, right.fraction? with
  | some (leftNum, leftDen), some (rightNum, rightDen) =>
    some (compare (leftNum * rightDen) (rightNum * leftDen))
  | _, _ =>
    match left, right with
    | .float (.nan _ _), _ | _, .float (.nan _ _) => none
    | .float (.infinite left), .float (.infinite right) =>
      some (if left = right then .eq else if left then .lt else .gt)
    | .float (.infinite negative), _ => some (if negative then .lt else .gt)
    | _, .float (.infinite negative) => some (if negative then .gt else .lt)
    | _, _ => none

def beq (left right : Number) : Bool :=
  left.compare? right == some .eq

def blt (left right : Number) : Bool :=
  left.compare? right == some .lt

def ble (left right : Number) : Bool :=
  left.blt right || left.beq right

/-- The integer that a number equals, if it equals one. -/
def toInt? : Number → Option Int
  | .int n => some n
  | .float x => x.toInt?

/-- The sign of a quotient with a zero divisor decides it: infinity of the dividend's sign, or an
undefined result for a zero or a NaN. -/
def divideByZero (dividend : Number) : Binary64 :=
  if dividend.isZero || dividend.isNan then .undefined
  else .infinite (dividend.blt (.int 0))

def neg : Number → Number
  | .int n => .int (-n)
  | .float x => .float x.neg

def abs : Number → Number
  | .int n => .int n.natAbs
  | .float x => .float x.abs

/-- Integers by `onInts`, all else by `onFloats`. -/
def lift (onInts : Int → Int → Int) (onFloats : Binary64 → Binary64 → Binary64)
    (left right : Number) : Except NumberFault Number :=
  match left, right with
  | .int left, .int right => .ok (.int (onInts left right))
  | left, right => do
    let x ← left.toFloat
    let y ← right.toFloat
    return .float (onFloats x y)

def add : Number → Number → Except NumberFault Number :=
  lift (· + ·) Binary64.add

def sub : Number → Number → Except NumberFault Number :=
  lift (· - ·) Binary64.sub

def mul : Number → Number → Except NumberFault Number :=
  lift (· * ·) Binary64.mul

/-- The quotient is the floating-point number nearest to the exact one, of integers too. -/
def quotient (left right : Number) : Except NumberFault Binary64 :=
  match left, right with
  | .int left, .int right =>
    let negative := decide (left < 0) != decide (right < 0)
    match Binary64.ofQuotient negative left.natAbs right.natAbs with
    | .finite negative m => .ok (.finite negative m)
    | _ => .error .quotientTooLarge
  | left, right => do
    let x ← left.toFloat
    let y ← right.toFloat
    return x.div y

def div (left right : Number) : Except NumberFault Number :=
  if right.isZero then .ok (.float (divideByZero left))
  else .float <$> left.quotient right

/-- The quotient to the integer below. Of integers the quotient is exact; otherwise it is rounded
before it is floored. -/
def floorDiv (left right : Number) : Except NumberFault Number :=
  match left, right with
  | .int left, .int right =>
    if right = 0 then .error .integerDivisionByZero else .ok (.int (left.fdiv right))
  | left, right =>
    if right.isZero then .ok (.float (divideByZero left))
    else do
      let q ← left.quotient right
      return .float ((q.floor?.map Binary64.ofInt).getD q)

/-- The remainder of the flooring division, which has the sign of the divisor. -/
def floorMod (left right : Number) : Except NumberFault Number :=
  match left, right with
  | .int left, .int right =>
    if right = 0 then .error .integerModuloByZero else .ok (.int (left.fmod right))
  | left, right =>
    if right.isZero then .ok (.float .undefined)
    else lift Int.fmod Binary64.floorMod left right

/-- The largest integer not above a number; a number without one is its own floor. -/
def floor : Number → Number
  | .int n => .int n
  | .float x => (x.floor?.map Number.int).getD (.float x)

/-- The smallest integer not below a number; a number without one is its own ceiling. -/
def ceil : Number → Number
  | .int n => .int n
  | .float x => (x.ceil?.map Number.int).getD (.float x)

/-- A negative number has no root. -/
def sqrt (n : Number) : Except NumberFault Number := do
  if n.blt (.int 0) then return .float .undefined
  return .float (← n.toFloat).sqrt

/-- The greatest of the numbers, the first of several; a NaN is greater than nothing. -/
def maximum (first : Number) (rest : List Number) : Number :=
  rest.foldl (fun best n => if best.blt n then n else best) first

/-- The least of the numbers, the first of several; a NaN is less than nothing. -/
def minimum (first : Number) (rest : List Number) : Number :=
  rest.foldl (fun best n => if n.blt best then n else best) first

end Number

end TemplateScript
