/-!
# Punycode

A text of any script in basic characters. The text is given by its codes, some of which may be no
characters. The basic characters of the text come first, and a hyphen after them. The others are
inserted one by one, in the order of their codes: a counter runs through all places of the text for
one code, then for the next code, and each insertion is written as the steps that the counter takes
to it. The digits of a number say themselves where it ends, by thresholds that adapt to the numbers
before it.
-/

namespace TemplateScript

namespace Punycode

def isBasic (code : Nat) : Bool := decide (code < 0x80)

/-- The last code that there is. -/
def lastCode : Nat := 0x10FFFF

/-- The code from which insertions are counted. -/
def firstCode : Nat := 0x80

def firstBias : Nat := 72

/-- The letters have the values up to 25, and the decimal digits those after them. -/
def digit (value : Nat) : Char :=
  if value < 26 then Char.ofNat ('a'.toNat + value) else Char.ofNat ('0'.toNat + (value - 26))

def digitValue? (c : Char) : Option Nat :=
  if 'a' ≤ c ∧ c ≤ 'z' then some (c.toNat - 'a'.toNat)
  else if 'A' ≤ c ∧ c ≤ 'Z' then some (c.toNat - 'A'.toNat)
  else if '0' ≤ c ∧ c ≤ '9' then some (c.toNat - '0'.toNat + 26)
  else none

/-- A digit below the threshold of its place ends a number. -/
def threshold (bias place : Nat) : Nat :=
  min 26 (max 1 (36 * (place + 1) - bias))

theorem threshold_pos (bias place : Nat) : 0 < threshold bias place := by
  simp only [threshold]
  omega

/-- Bias for numbers of the size of `steps`, which has been scaled down by `scaled` places. -/
def biasFor (steps scaled : Nat) : Nat :=
  if 455 < steps then biasFor (steps / 35) (scaled + 36) else scaled + 36 * steps / (steps + 38)
termination_by steps
decreasing_by omega

/-- The bias after an insertion that took `steps` and made a text of `length` characters. -/
def adapted (isFirst : Bool) (steps length : Nat) : Nat :=
  let damped := if isFirst then steps / 700 else steps / 2
  biasFor (damped + damped / length) 0

/-- The digits of a number from `place` on. -/
def digitsOf (bias place n : Nat) : List Char :=
  let least := threshold bias place
  if n < least then [digit n]
  else
    let beyond := n - least
    digit (least + beyond % (36 - least)) :: digitsOf bias (place + 1) (beyond / (36 - least))
termination_by n
decreasing_by
  have positive := threshold_pos bias place
  exact Nat.lt_of_le_of_lt (Nat.div_le_self _ _) (by omega)

/-- A code to insert and the place where it goes. -/
structure Insertion where
  code : Nat
  place : Nat

/-- The places of `code` in a text, behind `before` characters that go in sooner. -/
def placesOf (code before : Nat) : List Nat → List Nat
  | [] => []
  | other :: rest =>
    if other = code then before :: placesOf code (before + 1) rest
    else if other < code then placesOf code (before + 1) rest
    else placesOf code before rest

def insertions (text : List Nat) : List Insertion :=
  let codes := text.filter fun code => !isBasic code
  codes.mergeSort.eraseDups.flatMap fun code =>
    (placesOf code 0 text).map fun place => ⟨code, place⟩

/-- Where the counter stands, how long the text is by now, and how numbers are written. -/
structure Counter where
  code : Nat
  place : Nat
  length : Nat
  bias : Nat
  isFirst : Bool

namespace Counter

def start (length : Nat) : Counter := ⟨firstCode, 0, length, firstBias, true⟩

/-- The counter after the insertion of `code` at `place`, which took `steps`. -/
def inserted (counter : Counter) (steps code place : Nat) : Counter :=
  let length := counter.length + 1
  ⟨code, place + 1, length, adapted counter.isFirst steps length, false⟩

end Counter

def written (counter : Counter) : List Insertion → List Char
  | [] => []
  | ⟨code, place⟩ :: rest =>
    let steps := (code - counter.code) * (counter.length + 1) + place - counter.place
    digitsOf counter.bias 0 steps ++ written (counter.inserted steps code place) rest

def encode (text : List Nat) : List Char :=
  let basic := (text.filter isBasic).map Char.ofNat
  let opening := if basic.isEmpty then [] else basic ++ ['-']
  opening ++ written (Counter.start basic.length) (insertions text)

/--
Inserts the codes that the digits tell into `text`. The number that is being read has the
value `steps` up to the digit at `place`, which counts `weight` times.
-/
def insertAll (counter : Counter) (steps weight place : Nat) (text : List Nat) :
    List Char → Option (List Nat)
  | [] => if place = 0 then some text else none
  | c :: rest => do
    let value ← digitValue? c
    let steps := steps + value * weight
    let least := threshold counter.bias place
    if least ≤ value then
      insertAll counter steps (weight * (36 - least)) (place + 1) text rest
    else
      let reached := counter.place + steps
      let code := counter.code + reached / (counter.length + 1)
      let position := reached % (counter.length + 1)
      if code ≤ lastCode then
        let text := text.insertIdx position code
        insertAll (counter.inserted steps code position) 0 1 0 text rest
      else none

/-- Reads a text in basic characters, the last hyphen of which ends the basic part. -/
def decode (text : List Char) : Option (List Nat) :=
  let digits := text.reverse.takeWhile fun c => c != '-'
  let basic := (text.reverse.drop (digits.length + 1)).reverse.map Char.toNat
  insertAll (Counter.start basic.length) 0 1 0 basic digits.reverse

end Punycode

end TemplateScript
