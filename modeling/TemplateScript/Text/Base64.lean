/-!
# Base64

Bytes as text: four characters of sixty-four stand for three bytes. Reading skips all other
characters, and padding ends the text once it completes a group of four.
-/

namespace TemplateScript.Base64

def sextet? (c : Char) : Option Nat :=
  if 'A' ≤ c ∧ c ≤ 'Z' then some (c.toNat - 'A'.toNat)
  else if 'a' ≤ c ∧ c ≤ 'z' then some (c.toNat - 'a'.toNat + 26)
  else if '0' ≤ c ∧ c ≤ '9' then some (c.toNat - '0'.toNat + 52)
  else if c = '+' then some 62
  else if c = '/' then some 63
  else none

inductive DecodeFault where
  /-- One character stands alone behind complete groups. -/
  | incompleteGroup (count : Nat)
  | missingPadding
deriving DecidableEq, Repr

def DecodeFault.message : DecodeFault → String
  | .incompleteGroup count =>
    s!"Invalid base64-encoded string: number of data characters ({count}) cannot be 1 more than " ++
      "a multiple of 4"
  | .missingPadding => "Incorrect padding"

/-- The sextets before the padding that completes a group, and whether there is such. `place` is the
place of the next sextet in its group, and `pads` counts the padding characters since the last
sextet. -/
def sextets (place pads : Nat) : List Char → List Nat × Bool
  | [] => ([], false)
  | c :: rest =>
    if c = '=' then
      if 2 ≤ place ∧ 4 ≤ place + pads + 1 then ([], true)
      else sextets place (if 2 ≤ place then pads + 1 else pads) rest
    else
      match sextet? c with
      | none => sextets place pads rest
      | some s =>
        let (others, padded) := sextets ((place + 1) % 4) 0 rest
        (s :: others, padded)

/-- The whole bytes of sextets. -/
def bytesOf : List Nat → List UInt8
  | a :: b :: c :: d :: rest =>
    UInt8.ofNat (a * 4 + b / 16) :: UInt8.ofNat (b % 16 * 16 + c / 4) ::
      UInt8.ofNat (c % 4 * 64 + d) :: bytesOf rest
  | [a, b, c] => [UInt8.ofNat (a * 4 + b / 16), UInt8.ofNat (b % 16 * 16 + c / 4)]
  | [a, b] => [UInt8.ofNat (a * 4 + b / 16)]
  | _ => []

def decode (text : List Char) : Except DecodeFault (List UInt8) :=
  let (sextets, padded) := sextets 0 0 text
  if padded ∨ sextets.length % 4 = 0 then .ok (bytesOf sextets)
  else if sextets.length % 4 = 1 then .error (.incompleteGroup sextets.length)
  else .error .missingPadding

end TemplateScript.Base64
