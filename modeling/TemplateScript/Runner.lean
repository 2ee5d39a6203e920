import TemplateScript.Evaluation.Template
import TemplateScript.Library.Environment

/-!
# Runner

A runner keeps a global environment and the address of its scripts. It evaluates expressions, fills
templates, and reports the outcome of a template with the place of its first fault.
-/

namespace TemplateScript

structure Runner where
  globals : Option Bindings
  location : Option String
  /-- Whether the parts of a template are filled together. -/
  concurrent : Bool

/-- How deep evaluations may start each other. This stands for the limit that the host sets to
recursion, which in the host also counts what is between two evaluations. All other recursions, into
trees, expressions and values, are taken as unlimited. -/
def nestingLimit : Nat := 100

/-- What became of a template. -/
inductive Report where
  | success (text : String)
  | failure (message : String) (token : Option Location) (cancelled : Bool)
deriving DecidableEq, Repr

/-- The text of a failure: its place comes first, unless the message names one already. -/
def formatFailure (message : String) (line column : Option Int) : String :=
  let message := if message = "" then "Unknown error" else message
  let opening := "Error on line "
  match line with
  | none => message
  | some line =>
    if opening.toList.isPrefixOf message.toList then message
    else
      let place := match column with
        | some column => s!", col {column}"
        | none => ""
      s!"{opening}{line}{place}: {message}"

namespace Report

def format : Report → String
  | .success _ => ""
  | .failure message token _ =>
    formatFailure message (token.map fun loc => loc.position.line)
      (token.map fun loc => loc.position.column)

/-- A fault as a report. Faults of parsing and of the set-up are named by their sort. A fault of the
host would not be reported but go on to the caller; no template ends with one, as
`interpolate_ne_host` says. -/
def ofFault : Fault → Report
  | .runtime why kind _ loc => .failure why.message loc (kind = .cancelled)
  | .parse why _ => .failure ("ParseError: " ++ why.message) none false
  | .noGlobals => .failure ("ConfigurationError: " ++ Fault.noGlobals.message) none false
  | .host why => .failure why.message none false

end Report

namespace Runner

/-- The words that switch a setting on, in either case and with blanks around them. -/
def isAffirmative (setting : String) : Bool :=
  let word := toLowerCase (strip setting.toList)
  word == "1".toList || word == "true".toList || word == "yes".toList

/-- A runner in the standard environment. What is not given is taken from the settings, in which an
empty location is none. -/
def ofSettings (settings : String → Option String) (location : Option String)
    (concurrent : Option Bool) : Runner where
  globals := some (standardEnvironment 0)
  location := location.or ((settings "SPLICE_LOCATION").filter (· != ""))
  concurrent := concurrent.getD (((settings "SPLICE_CONCURRENT").map isAffirmative).getD false)

variable {σ : Type} (runner : Runner) (hosts : HostFunctions σ)

def frame (source : Option String) : Frame := ⟨runner.globals, source, runner.location⟩

/-- The host's form of the value of an expression, which has to be a text. Faults name what is given
as the expression. -/
def evaluate (source augmentation : Value) : Eval σ Value :=
  tryCatch
    (evalSource hosts (nestedTo hosts nestingLimit) (runner.frame source.string?) source
      augmentation)
    fun fault => throw (.ofSource source fault)

def interpolate (template augmentation : Value) : Eval σ String :=
  TemplateScript.interpolate hosts (nestedTo hosts nestingLimit) runner.concurrent
    (runner.frame none) template augmentation

/-- Fills a template and reports what became of it. -/
def handle (template augmentation : Value) : StateM (World σ) Report := do
  match ← (runner.interpolate hosts template augmentation).run with
  | .ok text => return .success text
  | .error fault => return .ofFault fault

end Runner

end TemplateScript
