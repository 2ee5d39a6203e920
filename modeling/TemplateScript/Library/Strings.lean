import TemplateScript.Library.Format

/-!
# Functions on texts

The members of the `string` library. Positions count characters from one, and negative positions
from the end; `len` counts bytes.
-/

namespace TemplateScript

namespace Strings

def upper (s : String) : String := String.ofList (toUpperCase s.toList)

def lower (s : String) : String := String.ofList (toLowerCase s.toList)

/-- The start of a slice: a negative one counts from the end, and none lies before one. -/
def sliceStart (length i : Int) : Int :=
  if i < 0 then max (length + i + 1) 1 else if i = 0 then 1 else i

/-- The end of a slice: a negative one counts from the end, and none lies past the length. -/
def sliceEnd (length j : Int) : Int :=
  if j < 0 then length + j + 1 else if length < j then length else j

/-- The characters at the positions from `i` to `j`. -/
def slice (s : List Char) (i j : Int) : List Char :=
  let start := sliceStart s.length i
  let stop := sliceEnd s.length j
  if start ≤ stop then (s.take stop.toNat).drop (start - 1).toNat else []

def sub (s : String) (i j : Int) : String := String.ofList (slice s.toList i j)

/-- Past this many copies a text fits into no memory. -/
def copyLimit : Int := Int.pow 2 40

/-- `n` copies of a text with a separator between them. -/
def rep (s separator : String) (n : Int) : Except HostFault String :=
  if Int.pow 2 63 ≤ n then .error .repetitionTooLarge
  else if copyLimit ≤ n then .error .outOfMemory
  else .ok (separator.intercalate (List.replicate n.toNat s))

end Strings

end TemplateScript
