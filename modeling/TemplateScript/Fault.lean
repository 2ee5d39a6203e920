import TemplateScript.Url.Label
import TemplateScript.Value.Table

/-!
# Faults

Everything that can go wrong, as causes. A fault of a host function, of an argument or of a number
has a text of its own; a fault at run time also carries the text of the expression it belongs to,
whether it is a cancellation, and where it happened. Wrapping a fault keeps it as the cause, and its
message ends the message of the wrapper.
-/

namespace TemplateScript

/-- The kinds of faults that host functions raise. -/
inductive HostFaultKind where
  | type | value | key | overflow | other
deriving DecidableEq, Repr

/-- A fault of the host or of a library function, outside the fault kinds of the language. -/
inductive HostFault where
  | badArgument (position : Nat) (function expected found : String)
  | noIntegerValue (position : Nat) (function : String)
  | noArgument (position : Nat) (function : String)
  | noNumberArgument (position : Nat) (function : String)
  | selectionOutOfRange
  | notConcatenable (index : Int)
  | missingArguments (function : String) (names : List String)
  | surplusArguments (function : String) (least most given : Nat)
  | unhashable (container : String)
  | missingKey (description : String)
  | integerTooLarge
  | quotientTooLarge
  /-- An integer has too many digits to be written. -/
  | tooManyDigits
  | codeOutOfRange
  | codeTooLarge
  /-- A text would hold the half of a surrogate pair. Texts are made of characters, so the
  evaluation ends here; the host goes on with a text of its own sort. -/
  | surrogate (code : Nat)
  | repetitionTooLarge
  | outOfMemory
  /-- Evaluations start each other too deep. -/
  | nestedTooDeep
  | fieldTooWide
  | precisionTooBig
  | unsupportedConversion (code index : Nat)
  /-- The host of a location is no domain name. -/
  | malformedDomain (why : DomainFault)
  | raised (kind : HostFaultKind) (text : String)
deriving DecidableEq, Repr

/-- `'a'`, `'a' and 'b'`, `'a', 'b', and 'c'`. -/
def enumerated (names : List String) : String :=
  let shown := names.map fun name => "'" ++ name ++ "'"
  match shown with
  | [] => ""
  | [a] => a
  | [a, b] => a ++ " and " ++ b
  | shown => ", ".intercalate shown.dropLast ++ ", and " ++ shown.getLastD ""

namespace HostFault

def kind : HostFault → HostFaultKind
  | .badArgument .. | .missingArguments .. | .surplusArguments .. | .unhashable _ => .type
  | .noIntegerValue .. | .noArgument .. | .noNumberArgument .. | .selectionOutOfRange
  | .notConcatenable _ | .tooManyDigits | .codeOutOfRange | .surrogate _ | .fieldTooWide
  | .precisionTooBig | .unsupportedConversion .. => .value
  | .outOfMemory | .nestedTooDeep | .malformedDomain _ => .other
  | .missingKey _ => .key
  | .integerTooLarge | .quotientTooLarge | .codeTooLarge | .repetitionTooLarge => .overflow
  | .raised kind _ => kind

def message : HostFault → String
  | .badArgument position function expected found =>
    s!"bad argument #{position} to '{function}' ({expected} expected, got {found})"
  | .noIntegerValue position function =>
    s!"bad argument #{position} to '{function}' (number has no integer representation)"
  | .noArgument position function => s!"bad argument #{position} to '{function}' (no value)"
  | .noNumberArgument position function =>
    s!"bad argument #{position} to '{function}' (number expected, got no value)"
  | .selectionOutOfRange => "bad argument #1 to 'select' (index out of range)"
  | .notConcatenable index => s!"invalid value (at index {index}) in table for 'concat'"
  | .missingArguments function names =>
    let noun := if names.length = 1 then "argument" else "arguments"
    s!"{function}() missing {names.length} required positional {noun}: " ++ enumerated names
  | .surplusArguments function least most given =>
    let range := if least = most then s!"{most}" else s!"from {least} to {most}"
    let noun := if least = most ∧ most = 1 then "argument" else "arguments"
    let verb := if given = 1 then "was" else "were"
    s!"{function}() takes {range} positional {noun} but {given} {verb} given"
  | .unhashable container => s!"unhashable type: '{container}'"
  | .missingKey description => description
  | .integerTooLarge => "int too large to convert to float"
  | .quotientTooLarge => "integer division result too large for a float"
  | .tooManyDigits =>
    s!"Exceeds the limit ({digitLimit} digits) for integer string conversion; " ++
      "use sys.set_int_max_str_digits() to increase the limit"
  | .codeOutOfRange => "chr() arg not in range(0x110000)"
  | .codeTooLarge => "Python int too large to convert to C int"
  | .surrogate code => s!"code {code} is the half of a surrogate pair"
  | .repetitionTooLarge => "cannot fit 'int' into an index-sized integer"
  | .outOfMemory => ""
  | .nestedTooDeep => "maximum recursion depth exceeded"
  | .fieldTooWide => "width too big"
  | .precisionTooBig => "precision too big"
  | .unsupportedConversion code index =>
    "unsupported format character '?' (0x" ++ String.ofList (Nat.toDigits 16 code) ++
      s!") at index {index}"
  | .malformedDomain why => why.message
  | .raised _ text => text

/-- The fault of a number outside the evaluation of an operator. -/
def ofNumber : NumberFault → HostFault
  | .quotientTooLarge => .quotientTooLarge
  | _ => .integerTooLarge

/-- The fault of a value that is to be a key and is none. -/
def ofUnhashable : Value.Unhashable → HostFault
  | .container typeName => .unhashable typeName
  | .tooManyDigits => .tooManyDigits

end HostFault

/-- Why a text does not parse. -/
inductive ParseFault where
  /-- What was to be parsed is no text but a value of this type. -/
  | notText (role typeName : String)
  /-- An expression ends before the text does. -/
  | unconsumed (position : Position) (rest : String)
  | unexpected (position : Position)
  | tooManyDigits (count : Nat)
  | raised (text : String)
deriving DecidableEq, Repr

namespace ParseFault

def message : ParseFault → String
  | .notText role typeName => s!"{role} must be a string, not {typeName}"
  | .unconsumed position rest =>
    s!"Parse Error in input text at L{position.line}:C{position.column}. " ++
      "Rule 'expression_root' parsed successfully, but failed to consume the entire input. " ++
      s!"Unconsumed text begins with: '{rest}...'"
  | .unexpected position =>
    s!"Syntax error in input text at L{position.line}:C{position.column} " ++
      "while parsing rule 'expression_root'"
  | .tooManyDigits count =>
    s!"ParseError: transform failed: Exceeds the limit ({digitLimit} digits) for integer string " ++
      s!"conversion: value has {count} digits; " ++
      "use sys.set_int_max_str_digits() to increase the limit"
  | .raised text => text

end ParseFault

inductive FaultKind where
  | error | cancelled
deriving DecidableEq, Repr

/-- How an expression is named in a message about its value. -/
inductive Subject where
  | anonymous
  | variable (name : String)
  | field (name : String)
  | method (name : String)
  | constantText
deriving DecidableEq, Repr

def Subject.text : Subject → String
  | .anonymous => ""
  | .variable name => s!" (global '{name}')"
  | .field name => s!" (field '{name}')"
  | .method name => s!" (method '{name}')"
  | .constantText => " (constant string)"

mutual

inductive Fault where
  | parse (why : ParseFault) (source : Option String)
  /-- A frame has no global environment. -/
  | noGlobals
  | runtime (why : RuntimeFault) (kind : FaultKind) (expression : Option String)
      (loc : Option Location)
  | host (why : HostFault)

inductive RuntimeFault where
  | index (typeName : String) (subject : Subject)
  | call (typeName : String) (subject : Subject)
  | arithmetic (typeName : String)
  | concat (typeName : String)
  | compare (left right : String)
  | length (typeName : String) (subject : Subject)
  | integerDivisionByZero
  | integerModuloByZero
  | unknownOperator (spelling : String)
  | notEvaluable (kindName : String)
  | nilKey
  | nanKey
  | cancelled (reason : String)
  /-- A script raised the fault itself. -/
  | raised (message : String)
  | augmentation (typeName : String)
  | notExpression (typeName : String)
  | callFailed (function : String) (cause : HostFault)
  | evaluation (expression : String) (cause : Fault)

end

mutual

def Fault.message : Fault → String
  | .parse why _ => why.message
  | .noGlobals => "Frame carries no global environment"
  | .runtime why _ _ _ => why.message
  | .host why => why.message

def RuntimeFault.message : RuntimeFault → String
  | .index typeName subject => s!"attempt to index a {typeName} value" ++ subject.text
  | .call typeName subject => s!"attempt to call a {typeName} value" ++ subject.text
  | .arithmetic typeName => s!"attempt to perform arithmetic on a {typeName} value"
  | .concat typeName => s!"attempt to concatenate a {typeName} value"
  | .compare left right => s!"attempt to compare {left} with {right}"
  | .length typeName subject => s!"attempt to get length of a {typeName} value" ++ subject.text
  | .integerDivisionByZero => "attempt to perform 'n//0'"
  | .integerModuloByZero => "attempt to perform 'n%%0'"
  | .unknownOperator spelling => "unknown operator " ++ quoted spelling
  | .notEvaluable kindName => s!"cannot evaluate {kindName}"
  | .nilKey => "table index is nil"
  | .nanKey => "table index is NaN"
  | .cancelled reason => reason
  | .raised message => message
  | .augmentation typeName => s!"augmentation must be a table, not {typeName}"
  | .notExpression typeName => s!"expected a parsed expression, got {typeName}"
  | .callFailed function cause => s!"{function}: " ++ cause.message
  | .evaluation expression cause => s!"Error evaluating \"{expression}\": " ++ cause.message

end

namespace Fault

/-- Whether a fault is a cancellation or wraps one. -/
def kind : Fault → FaultKind
  | .runtime _ kind _ _ => kind
  | _ => .error

/-- A runtime fault outside any frame. -/
def plain (why : RuntimeFault) : Fault :=
  .runtime why .error none none

/-- The fault of an evaluation, which names the expression and keeps a cancellation one. -/
def ofEvaluation (expression : String) (cause : Fault) : Fault :=
  .runtime (.evaluation expression cause) cause.kind (some expression) none

/-- Places a runtime fault that has no place yet. -/
def locatedAt (loc : Location) : Fault → Fault
  | .runtime why kind expression none => .runtime why kind expression (some loc)
  | fault => fault

/-- The fault of the evaluation of a value. The message names the value as the host writes it, and
where the host cannot write it, that is the fault. Only a text is carried as the expression. -/
def ofSource (source : Value) (cause : Fault) : Fault :=
  match source with
  | .str text => .ofEvaluation text cause
  | other =>
    match other.hostText? with
    | some shown => .runtime (.evaluation shown cause) cause.kind none none
    | none => .host .tooManyDigits

def ofTable : TableFault → Fault
  | .nilKey => .plain .nilKey
  | .unhashable why => .host (.ofUnhashable why)
  | .missing key => .host (.missingKey (String.ofList (key.text .description)))

end Fault

end TemplateScript
