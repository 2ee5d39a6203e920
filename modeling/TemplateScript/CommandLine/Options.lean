import TemplateScript.CommandLine.Assignment

/-!
# Options

The command line names a template at most, and assignments. An option may be shortened, and after
two dashes alone everything is a name. A request for help is granted as soon as it is read; a name
too many is a fault only if nothing else is wrong.
-/

namespace TemplateScript

structure Options where
  template : Option String
  assignments : List String
deriving DecidableEq, Repr

/-- What a command line asks for. -/
inductive Request where
  | help
  | run (options : Options)
deriving DecidableEq, Repr

inductive UsageFault where
  | ambiguous (text : String)
  | missingValue
  | needlessValue (text : String)
  | unrecognized (arguments : List String)
deriving DecidableEq, Repr

def UsageFault.message : UsageFault → String
  | .ambiguous text => s!"ambiguous option: {text} could match --help, --set"
  | .missingValue => "argument --set: expected one argument"
  | .needlessValue text => "argument -h/--help: ignored explicit argument " ++ quoted text
  | .unrecognized arguments => "unrecognized arguments: " ++ " ".intercalate arguments

def usage : String := "usage: splice [-h] [--set KEY=VALUE] [template]\n"

def helpText : String :=
  usage ++ "\nRender $\x7b...\x7d templates.\n\n" ++
    "positional arguments:\n" ++
    "  template         template file to render\n\n" ++
    "options:\n" ++
    "  -h, --help       show this help message and exit\n" ++
    "  --set KEY=VALUE  bind a name for the template (repeatable)\n"

/-- An argument by itself. -/
inductive Argument where
  | name
  | help (value : Option String)
  | set (value : Option String)
  | unknown
deriving DecidableEq, Repr

namespace Argument

/-- Whether an argument is a negative number. -/
def isNegativeNumber : List Char → Bool
  | '-' :: rest =>
    match splitAtFirst (· == '.') rest with
    | (digits, none) => !digits.isEmpty && digits.all isDecimalDigit
    | (digits, some fraction) =>
      digits.all isDecimalDigit && !fraction.isEmpty && fraction.all isDecimalDigit
  | _ => false

/-- Whether an argument is a beginning of a long option, with a letter at least. -/
def shortens (option : String) (argument : List Char) : Bool :=
  3 ≤ argument.length && argument.isPrefixOf option.toList

def ofText (argument : String) : Argument :=
  let text := argument.toList
  let (option, value) := splitAtFirst (· == '=') text
  let value := value.map String.ofList
  match text with
  | '-' :: c :: _ =>
    if option = "-h".toList || shortens "--help" option then .help value
    else if shortens "--set" option then .set value
    else if c = 'h' then .help none
    else if isNegativeNumber text || text.contains ' ' then .name
    else .unknown
  | _ => .name

end Argument

namespace Options

/-- Adds a name that is no option. -/
def addName (options : Options) (surplus : List String) (name : String) : Options × List String :=
  match options.template with
  | none => ({ options with template := some name }, surplus)
  | some _ => (options, surplus ++ [name])

def addNames (options : Options) (surplus : List String) : List String → Options × List String
  | [] => (options, surplus)
  | name :: rest =>
    let (options, surplus) := options.addName surplus name
    options.addNames surplus rest

def addAssignment (options : Options) (item : String) : Options :=
  { options with assignments := options.assignments ++ [item] }

def finish (options : Options) (surplus : List String) : Except UsageFault Request :=
  if surplus.isEmpty then .ok (.run options) else .error (.unrecognized surplus)

/-- Reads further arguments; `surplus` holds the ones that have no meaning so far. -/
def readFrom (options : Options) (surplus : List String) :
    List String → Except UsageFault Request
  | [] => options.finish surplus
  | "--" :: rest =>
    let (options, surplus) := options.addNames surplus rest
    options.finish surplus
  | argument :: rest =>
    match Argument.ofText argument with
    | .name =>
      let (options, surplus) := options.addName surplus argument
      options.readFrom surplus rest
    | .unknown => options.readFrom (surplus ++ [argument]) rest
    | .help none => .ok .help
    | .help (some text) => .error (.needlessValue text)
    | .set (some item) => (options.addAssignment item).readFrom surplus rest
    | .set none =>
      match rest with
      | item :: rest =>
        if item ≠ "--" ∧ Argument.ofText item = .name then
          (options.addAssignment item).readFrom surplus rest
        else .error .missingValue
      | [] => .error .missingValue

/-- Whether an argument shortens every long option, as two dashes with a value do. -/
def isAmbiguous (argument : String) : Bool :=
  "--=".toList.isPrefixOf argument.toList

/-- Reads a command line. -/
def read (arguments : List String) : Except UsageFault Request :=
  match (arguments.takeWhile (· != "--")).find? isAmbiguous with
  | some text => .error (.ambiguous text)
  | none => readFrom ⟨none, []⟩ [] arguments

end Options

end TemplateScript
