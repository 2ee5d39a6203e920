import TemplateScript.CommandLine.Session

/-!
# The program

Reads the arguments, the settings and the inputs, and writes what the session says.
-/

open TemplateScript

def finish (ending : Ending) : IO UInt32 := do
  IO.print ending.output.out
  IO.eprint ending.output.err
  return ending.code.toUInt32

/-- Reads a file; nothing if there is none. -/
def readFile? (path : String) : IO (Option String) := do
  try return some (← IO.FS.readFile path)
  catch
    | .noFileOrDirectory .. => return none
    | other => throw other

/-- Answers lines as they come. -/
partial def converse (runner : Runner) (names : Value) (world : World Unit) : IO UInt32 := do
  IO.print Runner.prompt
  (← IO.getStdout).flush
  let line ← (← IO.getStdin).getLine
  if line.isEmpty then
    IO.print Runner.farewell
    return 0
  let text := (line.dropEndWhile (· == '\n')).toString
  let (answer, world) := (runner.answerLine names text).run world
  match answer with
  | none => return 0
  | some output =>
    IO.print output.out
    IO.eprint output.err
    converse runner names world

def main (arguments : List String) : IO UInt32 := do
  let location ← IO.getEnv "SPLICE_LOCATION"
  let concurrent ← IO.getEnv "SPLICE_CONCURRENT"
  let settings (name : String) : Option String :=
    if name = "SPLICE_LOCATION" then location else concurrent
  let runner := Runner.ofSettings settings none none
  match Start.ofArguments arguments with
  | .error why => finish ⟨⟨"", why.message ++ "\n"⟩, 1⟩
  | .ok (.ended ending) => finish ending
  | .ok (.fill path names) => finish (runner.fillFile names path (← readFile? path))
  | .ok (.converse names) =>
    IO.print Runner.banner
    converse runner names World.initial
