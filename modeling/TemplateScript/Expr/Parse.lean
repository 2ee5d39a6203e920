import TemplateScript.Expr.Grammar
import TemplateScript.Fault

/-!
# Parsing expressions

A text is an expression if the grammar takes all of it and no decimal integer in it is too long.
Otherwise the fault says where the text after a complete expression begins, or the farthest place
at which a token was missing.
-/

namespace TemplateScript

/-- Whether a numeral is a decimal integer. -/
def isDecimalInteger (text : List Char) : Bool :=
  text.all isDecimalDigit

mutual

/-- The number of digits of the first decimal integer that is too long to be read. -/
def Expr.overlongInteger? : Expr → Option Nat
  | .literal _ (some ⟨_, some "number", some text⟩) =>
    if isDecimalInteger text.toList && decide (digitLimit < text.length) then some text.length
    else none
  | .literal _ _ | .variable _ _ | .bare _ => none
  | .index obj key _ => obj.overlongInteger?.or key.overlongInteger?
  | .call fn args _ => fn.overlongInteger?.or (overlongIn? args)
  | .methodCall obj _ args _ => obj.overlongInteger?.or (overlongIn? args)
  | .binary _ left right _ | .logical _ left right _ =>
    left.overlongInteger?.or right.overlongInteger?
  | .unary _ operand _ => operand.overlongInteger?
  | .paren inner _ => inner.overlongInteger?
  | .tableConstructor fields _ => overlongInFields? fields

def overlongIn? : List Expr → Option Nat
  | [] => none
  | e :: rest => e.overlongInteger?.or (overlongIn? rest)

def overlongInFields? : List (Option Expr × Expr) → Option Nat
  | [] => none
  | (none, value) :: rest => value.overlongInteger?.or (overlongInFields? rest)
  | (some key, value) :: rest =>
    (key.overlongInteger?.or value.overlongInteger?).or (overlongInFields? rest)

end

/-- The whole characters of a text that fit into a number of bytes. -/
def takeBytes : Nat → List Char → List Char
  | _, [] => []
  | bytes, c :: rest =>
    if c.utf8Size ≤ bytes then c :: takeBytes (bytes - c.utf8Size) rest else []

/-- What a message shows of an unread text: twenty bytes of its first line. -/
def unreadExcerpt (text : List Char) : String :=
  String.ofList (takeBytes 20 (text.takeWhile (· != '\n')))

/-- Reads a text as an expression. -/
def readExpr (text : List Char) : Except ParseFault Expr :=
  match Grammar.root (Cursor.ofText text) Reach.start with
  | (none, reach) => .error (.unexpected reach.position)
  | (some (e, cursor), _) =>
    if cursor.rest.isEmpty then
      match e.overlongInteger? with
      | some count => .error (.tooManyDigits count)
      | none => .ok e
    else .error (.unconsumed cursor.position (unreadExcerpt cursor.rest))

def parseExpr (source : String) : Except Fault Expr :=
  (readExpr source.toList).mapError fun why => .parse why (some source)

end TemplateScript
