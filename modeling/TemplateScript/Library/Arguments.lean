import TemplateScript.Fault
import TemplateScript.Value.Conversion

/-!
# Arguments of library functions

How many arguments each library function takes, and the coercions of single arguments: texts take
numbers, numbers take texts that read as numbers, and integers take whole numbers.
-/

namespace TemplateScript

namespace Library

/-- The name of a library in messages about argument counts. -/
def title : Library → String
  | .core => "CoreLib"
  | .string => "StringLib"
  | .math => "MathLib"
  | .table => "TableLib"
  | .splice => "SpliceLib"

end Library

/-- The parameters of a function: the names of those without default, the number of those with one,
and whether further arguments are taken. -/
structure Signature where
  required : List String
  defaults : Nat
  variadic : Bool

def PlainMember.signature : PlainMember → Signature
  | .tostring | .type => ⟨[], 1, false⟩
  | .tonumber | .error => ⟨[], 2, false⟩
  | .select => ⟨["n"], 0, true⟩
  | .assert => ⟨[], 2, true⟩
  | .upper | .lower | .len => ⟨["s"], 0, false⟩
  | .rep => ⟨["s", "n"], 1, false⟩
  | .sub => ⟨["s"], 2, false⟩
  | .format => ⟨["fmt"], 0, true⟩
  | .floor | .ceil | .abs | .sqrt => ⟨["x"], 0, false⟩
  | .max | .min => ⟨[], 0, true⟩
  | .concat => ⟨["t"], 3, false⟩

def FramedMember.signature : FramedMember → Signature
  | .parseExpression => ⟨["text"], 0, false⟩
  | .evalExpression => ⟨["parsed"], 1, false⟩
  | .interpolate => ⟨["template"], 1, false⟩
  | .baseUrl => ⟨[], 0, false⟩

namespace Member

def signature : Member → Signature
  | .plain m => m.signature
  | .framed m => m.signature

/-- The arguments that every call brings along: the library, and the frame for those that work in
it. -/
def implicitArguments (m : Member) : Nat :=
  if m.library = .splice then 2 else 1

/-- The name of a member in messages about argument counts. -/
def qualifiedName (m : Member) : String :=
  m.library.title ++ "." ++ m.internalName

/-- Refuses a wrong number of arguments. -/
def checkCount (m : Member) (args : List Value) : Except HostFault Unit :=
  let signature := m.signature
  let least := signature.required.length
  let most := least + signature.defaults
  if !signature.variadic && most < args.length then
    .error (.surplusArguments m.qualifiedName (least + m.implicitArguments)
      (most + m.implicitArguments) (args.length + m.implicitArguments))
  else if args.length < least then
    .error (.missingArguments m.qualifiedName (signature.required.drop args.length))
  else .ok ()

end Member

namespace Value

/-- The text of a value that a script sees. -/
def display (v : Value) : Except HostFault String :=
  match v.display? with
  | some text => .ok text
  | none => .error .tooManyDigits

/-- Whether a value stands for a text of its own: a text or a number. -/
def isConcatenable : Value → Bool
  | .str _ | .number _ => true
  | _ => false

end Value

namespace Argument

def text (function : String) (position : Nat) (v : Value) : Except HostFault String :=
  match v with
  | .str s => .ok s
  | .number n => (Value.number n).display
  | v => .error (.badArgument position function "string" v.typeName)

def number (function : String) (position : Nat) (v : Value) : Except HostFault Number :=
  match v.toNumber? with
  | some n => .ok n
  | none => .error (.badArgument position function "number" v.typeName)

def integer (function : String) (position : Nat) (v : Value) : Except HostFault Int := do
  match (← number function position v).toInt? with
  | some n => return n
  | none => throw (.noIntegerValue position function)

end Argument

end TemplateScript
