import TemplateScript.Expr.Cursor
import TemplateScript.Expr.Token
import TemplateScript.Number.Reading
import TemplateScript.Text.Escape

/-!
# Grammar of expressions

The rules of the grammar, loosest first: `or`, `and`, comparisons, `..` to the right, sums,
products, the unary operators, and `^` to the right, whose left operand is a postfix expression and
whose right operand is a unary one. Each rule is a reader over the readers of the three rules that
contain themselves; `rules` ties them to a depth of nesting.

An operator stands at its token, and an index, a call or a method call at its own suffix.
-/

namespace TemplateScript

/-- The value of a numeral: hexadecimal, with a point or an exponent, or a decimal integer. -/
def numeralValue (text : List Char) : Number :=
  match text with
  | '0' :: 'x' :: digits | '0' :: 'X' :: digits =>
    .int (valueOfDigits 16 (digits.filterMap alphanumericDigit?))
  | text =>
    if text.any fun c => c == '.' || c == 'e' || c == 'E' then
      .float ((readFloat? text).getD (.zeroOf false))
    else .int (valueOfDigits 10 (text.filterMap alphanumericDigit?))

/-- The text between the quotes of a string literal. -/
def stringBody (text : List Char) : List Char :=
  text.tail.dropLast

/-- What follows a primary expression. -/
inductive Suffix where
  | field (key : Expr) (loc : Location)
  | index (key : Expr) (loc : Location)
  | call (args : List Expr) (loc : Location)
  | method (name : String) (args : List Expr) (loc : Location)

namespace Suffix

def apply (obj : Expr) : Suffix → Expr
  | .field key loc | .index key loc => .index obj key (some loc)
  | .call args loc => .call obj args (some loc)
  | .method name args loc => .methodCall obj name args (some loc)

end Suffix

namespace Grammar

open Reader

/-- The rules that contain themselves. -/
structure Rules where
  expression : Reader Expr
  concatenation : Reader Expr
  unary : Reader Expr

def nilLiteral : Reader Expr := do
  let (_, loc) ← locatedToken "nil" (Token.keyword "nil")
  return .literal .nil (some loc)

def booleanLiteral : Reader Expr := do
  let (text, loc) ← locatedToken "boolean" Token.boolean
  return .literal (.bool (text == "true")) (some loc)

def numberLiteral : Reader Expr := do
  let (text, loc) ← locatedToken "number" Token.number
  return .literal (.number (numeralValue text.toList)) (some loc)

def stringLiteral : Reader Expr := do
  let (text, loc) ← locatedToken "string" Token.string
  return .literal (.str (unescape (String.ofList (stringBody text.toList)))) (some loc)

def name : Reader (String × Location) :=
  locatedToken "name" Token.name

def variableName : Reader Expr := do
  let (text, loc) ← name
  return .variable text (some loc)

/-- A name that stands for itself as a key. -/
def nameKey : Reader Expr := do
  let (text, loc) ← name
  return .literal (.str text) (some loc)

/-- A sign with one equality sign, which assigns. -/
def assignmentSign : Reader Unit := discard (token (Token.single '='))

def symbol (c : Char) : Reader Unit := discard (token (Token.symbol c))

section

variable (rules : Rules)

/-- An expression between two signs. -/
def enclosed (opening closing : Char) : Reader Expr := do
  symbol opening
  let inner ← spaced rules.expression
  spaced (symbol closing)
  return inner

def keyedField : Reader (Option Expr × Expr) := do
  let key ← enclosed rules '[' ']'
  spaced assignmentSign
  let value ← spaced rules.expression
  return (some key, value)

def namedField : Reader (Option Expr × Expr) := do
  let key ← nameKey
  spaced assignmentSign
  let value ← spaced rules.expression
  return (some key, value)

def positionalField : Reader (Option Expr × Expr) := do
  return (none, ← rules.expression)

def field : Reader (Option Expr × Expr) :=
  keyedField rules <|> namedField rules <|> positionalField rules

def fieldSeparator : Reader Unit := discard (token (Token.oneOf [",", ";"]))

/-- Fields with separators between them and perhaps one after the last. -/
def fieldList : Reader (List (Option Expr × Expr)) := do
  let first ← field rules
  let rest ← many do
    spaced fieldSeparator
    spaced (field rules)
  spaced fieldSeparator <|> pure ()
  return first :: rest

def tableConstructor : Reader Expr := do
  let (fields, loc) ← located "table" do
    symbol '\x7b'
    let fields ← spaced (fieldList rules) <|> pure []
    spaced (symbol '\x7d')
    return fields
  return .tableConstructor fields (some loc)

def group : Reader Expr := do
  let (inner, loc) ← located "group" (enclosed rules '(' ')')
  return .paren inner (some loc)

def primary : Reader Expr :=
  nilLiteral <|> booleanLiteral <|> numberLiteral <|> stringLiteral <|> tableConstructor rules <|>
    group rules <|> variableName

def argumentList : Reader (List Expr) := do
  let first ← rules.expression
  let rest ← many do
    spaced (symbol ',')
    spaced rules.expression
  return first :: rest

/-- Arguments in parentheses, or one string or table without any. -/
def arguments : Reader (List Expr) :=
  (do
    symbol '('
    let args ← spaced (argumentList rules) <|> pure []
    spaced (symbol ')')
    return args) <|>
  (do return [← stringLiteral]) <|>
  (do return [← tableConstructor rules])

def fieldSuffix : Reader Suffix := do
  let (key, loc) ← located "field_suffix" do
    discard (token (Token.single '.'))
    spaced nameKey
  return .field key loc

def indexSuffix : Reader Suffix := do
  let (key, loc) ← located "index_suffix" (enclosed rules '[' ']')
  return .index key loc

def callSuffix : Reader Suffix := do
  let (args, loc) ← located "call_suffix" (arguments rules)
  return .call args loc

def methodSuffix : Reader Suffix := do
  let ((name, args), loc) ← located "method_suffix" do
    symbol ':'
    let (name, _) ← spaced name
    let args ← spaced (arguments rules)
    return (name, args)
  return .method name args loc

def suffix : Reader Suffix :=
  fieldSuffix <|> indexSuffix rules <|> callSuffix rules <|> methodSuffix rules

def suffixed : Reader Expr := do
  let base ← primary rules
  let suffixes ← many (spaced (suffix rules))
  return suffixes.foldl Suffix.apply base

/-- A binary operator with its operand on the right, as the expression that they make with an
operand on the left. -/
def binaryTail (tag : String) (operator : List Char → Nat) (operand : Reader Expr) :
    Reader (Expr → Expr) := do
  let (spelling, loc) ← spaced (locatedToken tag operator)
  let right ← spaced operand
  return fun left => .binary (.ofSpelling spelling) left right (some loc)

def logicalTail (tag : String) (operator : List Char → Nat) (operand : Reader Expr) :
    Reader (Expr → Expr) := do
  let (spelling, loc) ← spaced (locatedToken tag operator)
  let right ← spaced operand
  return fun left => .logical (.ofSpelling spelling) left right (some loc)

/-- Operators that bind to the left. -/
def chained (operand : Reader Expr) (tail : Reader (Expr → Expr)) : Reader Expr := do
  let first ← operand
  let tails ← many tail
  return tails.foldl (fun left tail => tail left) first

/-- An operator that binds to the right. -/
def rightward (operand : Reader Expr) (tail : Reader (Expr → Expr)) : Reader Expr := do
  let left ← operand
  let tail ← tail <|> pure id
  return tail left

def power : Reader Expr :=
  rightward (suffixed rules) (binaryTail "pow_op" (Token.oneOf ["^"]) rules.unary)

def unaryExpr : Reader Expr := do
  let ((spelling, operand), loc) ← located "unary_op_expr" do
    let spelling ← token Token.unaryOp
    let operand ← spaced rules.unary
    return (spelling, operand)
  return .unary (.ofSpelling (String.ofList spelling)) operand (some loc)

def unary : Reader Expr := unaryExpr rules <|> power rules

def product : Reader Expr :=
  chained (unary rules)
    (binaryTail "mul_op" (Token.oneOf ["//", "*", "/", "%"]) (unary rules))

def sum : Reader Expr :=
  chained (product rules) (binaryTail "add_op" (Token.oneOf ["+", "-"]) (product rules))

def concatenation : Reader Expr :=
  rightward (sum rules) (binaryTail "concat_op" (Token.oneOf [".."]) rules.concatenation)

def comparison : Reader Expr :=
  chained (concatenation rules)
    (binaryTail "compare_op" (Token.oneOf ["==", "~=", "<=", ">=", "<", ">"])
      (concatenation rules))

def conjunction : Reader Expr :=
  chained (comparison rules)
    (logicalTail "and_op" (Token.keyword "and") (comparison rules))

def expression : Reader Expr :=
  chained (conjunction rules)
    (logicalTail "or_op" (Token.keyword "or") (conjunction rules))

end

/-- The rules for expressions nested up to a depth. -/
def rules : Nat → Rules
  | 0 => ⟨failure, failure, failure⟩
  | depth + 1 =>
    let inner := rules depth
    ⟨expression inner, concatenation inner, unary inner⟩

/-- An expression with blanks around it. No text nests deeper than it is long. -/
def root : Reader Expr := do
  let depth := (← get).rest.length + 1
  let result ← spaced (rules depth).expression
  blanks
  return result

end Grammar

end TemplateScript
