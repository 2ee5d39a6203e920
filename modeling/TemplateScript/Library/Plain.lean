import TemplateScript.Library.Strings
import TemplateScript.Library.Tables

/-!
# Plain library functions

The results of the plain members of the libraries, which depend on the arguments alone.
-/

namespace TemplateScript

namespace PlainMember

/-- The text of an integer in a base, nil where it is none. -/
def numberInBase (value : Value) (base : Int) : Except HostFault Value :=
  match Argument.text "tonumber" 1 value with
  | .error fault => if fault.kind = .value then .ok .nil else .error fault
  | .ok text =>
    if base = 0 ∨ (2 ≤ base ∧ base ≤ 36) then
      match readInteger base.toNat text.toList with
      | .ok n => .ok (.ofInt n)
      | .error _ => .ok .nil
    else .ok .nil

/-- The arguments from the `n`th on, counted from the end for a negative `n`. -/
def selection (n : Int) (args : List Value) : Except HostFault Value :=
  if n < 0 then
    let start := args.length + n
    if start < 0 then .error .selectionOutOfRange else .ok (.multi (args.drop start.toNat))
  else if n = 0 then .error .selectionOutOfRange
  else .ok (.multi (args.drop (n - 1).toNat))

def numbersFrom (function : String) : Nat → List Value → Except HostFault (List Number)
  | _, [] => .ok []
  | position, v :: rest => do
    let n ← Argument.number function position v
    return n :: (← numbersFrom function (position + 1) rest)

/-- One of the numbers, of which there has to be one at least. -/
def ofNumbers (function : String) (choose : Number → List Number → Number) (args : List Value) :
    Except HostFault Value := do
  match ← numbersFrom function 1 args with
  | [] => throw (.noNumberArgument 1 function)
  | first :: rest => return .number (choose first rest)

def concatenation (t separator : Value) (i j : Value) : Except HostFault Value := do
  let separator ← Argument.text "concat" 2 separator
  let i ← Argument.integer "concat" 3 i
  let last (length : Nat) : Except HostFault Int :=
    match j with
    | .nil => .ok length
    | j => Argument.integer "concat" 4 j
  match t with
  | .table _ slots =>
    return .str (← Tables.concat (Tables.slotValue slots) separator i (← last (border slots)))
  | .list items | .tuple items | .multi items =>
    return .str (← Tables.concat (Tables.itemAt items) separator i (← last items.length))
  | t => throw (.badArgument 1 "concat" "table" t.typeName)

/-- The result of a member on arguments of the right number. -/
def run (m : PlainMember) (args : List Value) : Except Fault Value :=
  let argOr (index : Nat) (default : Value) : Value := args.getD index default
  let arg (index : Nat) : Value := argOr index .nil
  let host {α : Type} (result : Except HostFault α) : Except Fault α := result.mapError .host
  match m with
  | .tostring => host do return .str (← (arg 0).display)
  | .tonumber =>
    match arg 1 with
    | .nil => .ok (((arg 0).toNumber?.map .number).getD .nil)
    | base => host do numberInBase (arg 0) (← Argument.integer "tonumber" 2 base)
  | .type => .ok (.str (arg 0).typeName)
  | .select =>
    match arg 0 with
    | .str "#" => .ok (.ofInt (args.length - 1 : Nat))
    | n => host do selection (← Argument.integer "select" 1 n) (args.drop 1)
  | .error => do throw (.plain (.raised (← host (arg 0).display)))
  | .assert => do
    let message := argOr 1 (.str "assertion failed!")
    if (arg 0).isTruthy then return .multi (arg 0 :: message :: args.drop 2)
    throw (.plain (.raised (← host message.display)))
  | .upper => host do return .str (Strings.upper (← Argument.text "upper" 1 (arg 0)))
  | .lower => host do return .str (Strings.lower (← Argument.text "lower" 1 (arg 0)))
  | .len => host do return .ofInt (← Argument.text "len" 1 (arg 0)).utf8ByteSize
  | .rep => host do
    let s ← Argument.text "rep" 1 (arg 0)
    let n ← Argument.integer "rep" 2 (arg 1)
    if n ≤ 0 then return .str ""
    return .str (← Strings.rep s (← Argument.text "rep" 3 (argOr 2 (.str ""))) n)
  | .sub => host do
    let s ← Argument.text "sub" 1 (arg 0)
    let i ← Argument.integer "sub" 2 (argOr 1 (.ofInt 1))
    let j ← Argument.integer "sub" 3 (argOr 2 (.ofInt (-1)))
    return .str (Strings.sub s i j)
  | .format => host do
    return .str (← Format.format (← Argument.text "format" 1 (arg 0)) (args.drop 1))
  | .floor => host do return .number (← Argument.number "floor" 1 (arg 0)).floor
  | .ceil => host do return .number (← Argument.number "ceil" 1 (arg 0)).ceil
  | .abs => host do return .number (← Argument.number "abs" 1 (arg 0)).abs
  | .sqrt => host do
    let n ← Argument.number "sqrt" 1 (arg 0)
    return .number (← n.sqrt.mapError HostFault.ofNumber)
  | .max => host (ofNumbers "max" Number.maximum args)
  | .min => host (ofNumbers "min" Number.minimum args)
  | .concat => host (concatenation (arg 0) (argOr 1 (.str "")) (argOr 2 (.ofInt 1)) (arg 3))

end PlainMember

end TemplateScript
