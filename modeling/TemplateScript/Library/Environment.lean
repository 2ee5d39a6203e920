import TemplateScript.Scope
import TemplateScript.Value.Text

/-!
# The standard environment

The global environment holds the core functions under their own names and one table for each other
library.
-/

namespace TemplateScript

namespace Library

/-- How many tables an environment has. -/
def tableCount : Nat := 4

/-- The members of a library with their names, for the environment of number `home`. -/
def entries (library : Library) (home : Nat) : List (String × Value) :=
  library.members.map fun m => (m.name, .function (.member m home))

/-- The ratio of a circle's circumference to its diameter. -/
def pi : Binary64 := .ofBits 0x400921FB54442D18

def constants : Library → List (String × Value)
  | .math => [("huge", .ofFloat .infinity), ("pi", .ofFloat pi)]
  | _ => []

/-- The table of a library. -/
def asTable (library : Library) (home id : Nat) : Value :=
  .table id ((library.entries home ++ library.constants).map fun (name, v) => (.str name, v))

end Library

/-- The environment of number `home`, whose tables have the identities from `home` on. -/
def standardEnvironment (home : Nat) : Bindings :=
  Library.core.entries home ++
    [("string", Library.string.asTable home home),
     ("math", Library.math.asTable home (home + 1)),
     ("table", Library.table.asTable home (home + 2)),
     ("splice", Library.splice.asTable home (home + 3))]

end TemplateScript
