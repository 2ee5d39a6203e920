import TemplateScript.Text.Digit

/-!
# Addresses

The numeric forms of a host: four decimal octets, and eight groups of hexadecimal digits, of which
one run of zeros may be left out.
-/

namespace TemplateScript

namespace Address

/-- A number up to 255 without leading zeros. -/
def isOctet (text : List Char) : Bool :=
  match text with
  | [] => false
  | first :: _ =>
    text.all Char.isDigit && (text.length == 1 || first != '0') &&
      decide (text.length ≤ 3 ∧ Nat.ofDigitChars 10 text 0 ≤ 255)

/-- Four octets with dots between them. -/
def isDottedQuad (text : List Char) : Bool :=
  let octets := text.splitOn '.'
  octets.length == 4 && octets.all isOctet

/-- Four runs of digits with dots between them. Such a host cannot be a name. -/
def hasFourRuns (text : List Char) : Bool :=
  let runs := text.splitOn '.'
  runs.length == 4 && runs.all fun run => !run.isEmpty && run.all Char.isDigit

def isHexGroup (text : List Char) : Bool :=
  text.all isHexDigit && decide (0 < text.length ∧ text.length ≤ 4)

/-- How many groups of 16 bits the groups of a text stand for. The last may be a dotted quad. -/
def groupCount? : List (List Char) → Option Nat
  | [] => some 0
  | [last] => if isHexGroup last then some 1 else if isDottedQuad last then some 2 else none
  | group :: rest => if isHexGroup group then (groupCount? rest).map (· + 1) else none

/-- The texts before and after the first two colons in a row. -/
def splitAtGap : List Char → Option (List Char × List Char)
  | [] => none
  | ':' :: ':' :: rest => some ([], rest)
  | c :: rest => (splitAtGap rest).map fun (before, after) => (c :: before, after)

def colonGroups (text : List Char) : List (List Char) :=
  if text.isEmpty then [] else text.splitOn ':'

/-- Groups of 16 bits: eight, or fewer around a gap. -/
def isGroups (text : List Char) : Bool :=
  match splitAtGap text with
  | none => groupCount? (colonGroups text) == some 8
  | some (before, after) =>
    let before := colonGroups before
    let after := (groupCount? (colonGroups after)).any fun count => before.length + count ≤ 7
    before.all isHexGroup && after

/-- Groups of 16 bits, to which a percent sign may add the zone that the address belongs to. -/
def isGroupedAddress (text : List Char) : Bool :=
  match text.splitOn '%' with
  | [groups] => isGroups groups
  | [groups, zone] => isGroups groups && !zone.isEmpty
  | _ => false

end Address

end TemplateScript
