import TemplateScript.Number.Reading
import TemplateScript.Text.Quoted

/-!
# Numerals that have to be numbers

Reading a text that is required to be an integer or a floating-point number. What it is instead is
a fault, which shows the text.
-/

namespace TemplateScript

inductive LiteralFault where
  | integer (base : Nat) (text : List Char)
  | float (text : List Char)
  | tooManyDigits (count : Nat)
deriving DecidableEq, Repr

namespace LiteralFault

/-- How many characters of the quoted form of a text a message shows. -/
def shownLimit : Nat := 200

def message : LiteralFault → String
  | .integer base text =>
    s!"invalid literal for int() with base {base}: " ++
      String.ofList ((Quoted.encode text).take shownLimit)
  | .float text => "could not convert string to float: " ++ quoted (String.ofList text)
  | .tooManyDigits count =>
    s!"Exceeds the limit ({digitLimit} digits) for integer string conversion: " ++
      s!"value has {count} digits; use sys.set_int_max_str_digits() to increase the limit"

end LiteralFault

/-- Reads the integer of a text in a base. -/
def integerOf (base : Nat) (text : List Char) : Except LiteralFault Int :=
  (readInteger base text).mapError fun
    | .malformed => .integer base text
    | .tooManyDigits count => .tooManyDigits count

/-- Reads the floating-point number of a text in decimal notation. -/
def floatOf (text : List Char) : Except LiteralFault Binary64 :=
  match readFloat? text with
  | some x => .ok x
  | none => .error (.float text)

end TemplateScript
