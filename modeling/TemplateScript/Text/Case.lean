import TemplateScript.Text.CaseTable

/-!
# Case of a text

Upper, lower and capitalised forms. A letter may become several characters, and a capital sigma
becomes the final form of the letter where it ends a word.
-/

namespace TemplateScript

namespace CaseRun

def contains (run : CaseRun) (code : Nat) : Bool :=
  decide (run.first ≤ code) && decide (code ≤ run.last) && (code - run.first) % run.step == 0

end CaseRun

namespace CaseMap

/-- The letters that stand for `c` in this case. -/
def apply (map : CaseMap) (c : Char) : List Char :=
  match map.expansions.find? fun entry => entry.1 == c.toNat with
  | some (_, codes) => codes.map Char.ofNat
  | none =>
    match map.runs.find? fun run => run.contains c.toNat with
    | some run => [Char.ofNat ((c.toNat : Int) + run.shift).toNat]
    | none => [c]

end CaseMap

def isCased (c : Char) : Bool :=
  inRanges casedRanges c.toNat

def isCaseIgnorable (c : Char) : Bool :=
  inRanges caseIgnorableRanges c.toNat

/-- Whether the characters next to a sigma, nearest first, hold a letter of its word. -/
def touchesLetter (neighbours : List Char) : Bool :=
  match neighbours.dropWhile isCaseIgnorable with
  | [] => false
  | c :: _ => isCased c

/-- The lower case of a character between the reversed text before it and the text after it. -/
def lowerAt (before : List Char) (c : Char) (after : List Char) : List Char :=
  if c = 'Σ' then
    if touchesLetter before && !touchesLetter after then ['ς'] else ['σ']
  else
    lowerCaseMap.apply c

/-- The lower case of `text`, whose reversed left context is `before`. -/
def lowerAfter (before : List Char) : List Char → List Char
  | [] => []
  | c :: after => lowerAt before c after ++ lowerAfter (c :: before) after

def toLowerCase (text : List Char) : List Char :=
  lowerAfter [] text

def toUpperCase (text : List Char) : List Char :=
  text.flatMap upperCaseMap.apply

/-- The first letter in title case and the others in lower case. -/
def capitalize : List Char → List Char
  | [] => []
  | c :: rest => titleCaseMap.apply c ++ lowerAfter [c] rest

end TemplateScript
