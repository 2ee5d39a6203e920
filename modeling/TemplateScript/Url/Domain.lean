import TemplateScript.Url.Label

/-!
# Domain names

The labels of a name, and the dots between them. A name may end with a dot. Any of the full stops
of a script serves as a dot, and on the wire there is one kind.
-/

namespace TemplateScript

namespace Domain

/-- The longest name, the dot at its end apart. -/
def longest : Nat := 253

def isDot (c : Char) : Bool :=
  c == '.' || c == '\u3002' || c == '\uff0e' || c == '\uff61'

/-- The labels of a name, and whether a dot ends it. -/
def labels (name : List Char) : Except DomainFault (List (List Char) × Bool) :=
  if longest + 1 < name.length then .error .longDomain
  else
    match name.splitOnP isDot with
    | [] | [[]] => .error .emptyDomain
    | parts =>
      if parts.getLast? = some [] then .ok (parts.dropLast, true) else .ok (parts, false)

/-- A name of labels, which a dot ends if `isRooted`. -/
def ofLabels (labels : List (List Char)) (isRooted : Bool) : List Char :=
  ['.'].intercalate labels ++ if isRooted then ['.'] else []

/-- The name in basic characters. -/
def encode (name : List Char) : Except DomainFault (List Char) := do
  let (labels, isRooted) ← labels name
  let encoded := ofLabels (← labels.mapM Label.encode) isRooted
  let limit := if isRooted then longest + 1 else longest
  if limit < encoded.length then throw .longDomain
  return encoded

/-- The name that a name in basic characters stands for. -/
def decode (name : List Char) : Except DomainFault (List Char) := do
  let (labels, isRooted) ← labels name
  return ofLabels (← labels.mapM Label.decode) isRooted

end Domain

end TemplateScript
