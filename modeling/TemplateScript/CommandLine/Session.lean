import TemplateScript.CommandLine.Options
import TemplateScript.Runner

/-!
# Sessions

What the command line program writes: the filling of one template, or a dialogue in which each line
is a template. A line that says `exit` ends the dialogue, and so does the end of the input.
-/

namespace TemplateScript

/-- What was written to the two outputs. -/
structure Output where
  out : String
  err : String
deriving DecidableEq, Repr

namespace Output

def empty : Output := ⟨"", ""⟩

def append (first second : Output) : Output :=
  ⟨first.out ++ second.out, first.err ++ second.err⟩

end Output

/-- The end of a program: its output and its exit code. -/
structure Ending where
  output : Output
  code : Nat
deriving DecidableEq, Repr

/-- The host lends no functions to the command line. -/
def noHosts : HostFunctions Unit := fun _ _ => return .nil

/-- The world in which a program begins. -/
def World.initial : World Unit := ⟨none, Library.tableCount, ()⟩

/-- Every kind of line end becomes a line feed. -/
def unifyLineEnds : List Char → List Char
  | [] => []
  | '\r' :: '\n' :: rest => '\n' :: unifyLineEnds rest
  | '\r' :: rest => '\n' :: unifyLineEnds rest
  | c :: rest => c :: unifyLineEnds rest

namespace Runner

variable (runner : Runner) (names : Value)

/-- Fills a template for the command line. -/
def respond (template : String) : StateM (World Unit) Report :=
  runner.handle noHosts (.str template) names

/-- Fills the template of a file, or reports that there is no such file. -/
def fillFile (path : String) (contents : Option String) : Ending :=
  match contents with
  | none => ⟨⟨"", s!"Error: file not found: {path}\n"⟩, 1⟩
  | some contents =>
    let template := String.ofList (unifyLineEnds contents.toList)
    match ((runner.respond names template).run World.initial).1 with
    | .success text => ⟨⟨text, ""⟩, 0⟩
    | report => ⟨⟨"", report.format ++ "\n"⟩, 1⟩

def banner : String := "splice REPL v0.1\nType 'exit' or press Ctrl+D to quit.\n"

def prompt : String := ">> "

/-- What is written at the end of the input. -/
def farewell : String := "\nExiting.\n"

/-- Answers a line of a dialogue; nothing if it ends the dialogue. -/
def answerLine (line : String) : StateM (World Unit) (Option Output) := do
  let word := strip line.toList
  if word.isEmpty then return some .empty
  else if word = "exit".toList then return none
  else
    match ← runner.respond names line with
    | .success text => return some ⟨text ++ "\n", ""⟩
    | report => return some ⟨"", report.format ++ "\n"⟩

/-- Answers lines up to the end of the input. -/
def answerLines : List String → StateM (World Unit) Output
  | [] => return ⟨prompt ++ farewell, ""⟩
  | line :: rest => do
    match ← runner.answerLine names line with
    | none => return ⟨prompt, ""⟩
    | some output =>
      return Output.append ⟨prompt, ""⟩ (output.append (← answerLines rest))

/-- The lines of an input; a line feed at its end begins no further line. -/
def linesOf (input : String) : List String :=
  let lines := (input.toList.splitOn '\n').map String.ofList
  if lines.getLastD "" = "" then lines.dropLast else lines

/-- The dialogue on an input. -/
def dialogue (input : String) : Output :=
  Output.append ⟨banner, ""⟩ ((runner.answerLines names (linesOf input)).run World.initial).1

end Runner

/-- What a command line comes to before anything is read. -/
inductive Start where
  | ended (ending : Ending)
  | fill (path : String) (names : Value)
  | converse (names : Value)

/-- The ending of a wrong command line. -/
def usageEnding (message : String) : Ending :=
  ⟨⟨"", usage ++ s!"splice: error: {message}\n"⟩, 2⟩

/-- Whether a fault of an assignment is a fault of its text, which the usage explains. -/
def AssignmentFault.isUsage : AssignmentFault → Bool
  | .noKey _ => true
  | .value _ (.content (.literal _)) | .value _ (.content (.calendar _)) => true
  | .value _ (.content (.code n)) => n < 0x80000000
  | .value _ (.content _) => false
  | .value _ _ => true

/-- How a command line begins. An empty name of a template is none. -/
def Start.ofArguments (arguments : List String) : Except AssignmentFault Start :=
  match Options.read arguments with
  | .error why => .ok (.ended (usageEnding why.message))
  | .ok .help => .ok (.ended ⟨⟨helpText, ""⟩, 0⟩)
  | .ok (.run options) =>
    match parseAssignments options.assignments with
    | .error why =>
      if why.isUsage then .ok (.ended (usageEnding why.message)) else .error why
    | .ok bindings =>
      match options.template.filter (· ≠ "") with
      | some path => .ok (.fill path bindings.toMapping)
      | none => .ok (.converse bindings.toMapping)

end TemplateScript
