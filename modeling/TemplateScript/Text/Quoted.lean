import TemplateScript.Text.Printable

/-!
# Quoted texts

The quoted form in which a text shows inside the description of an expression, a scope or a
missing key, and the escapes of string literals.
-/

namespace TemplateScript

/-- The hexadecimal digits of `n`, padded with zeros on the left. -/
def hexPadded (width n : Nat) : List Char :=
  let digits := Nat.toDigits 16 n
  List.replicate (width - digits.length) '0' ++ digits

namespace Quoted

/-- Double quotes stand around a text that holds single quotes and no double ones. -/
def delimiter (text : List Char) : Char :=
  if text.contains '\'' && !text.contains '"' then '"' else '\''

/-- A backslash, a letter for the number of digits, and the hexadecimal digits of a code. -/
def hexEscape (code : Nat) : List Char :=
  if code < 0x100 then ['\\', 'x'] ++ hexPadded 2 code
  else if code < 0x10000 then ['\\', 'u'] ++ hexPadded 4 code
  else ['\\', 'U'] ++ hexPadded 8 code

def encodeChar (quote c : Char) : List Char :=
  if c = quote ∨ c = '\\' then ['\\', c]
  else if c = '\n' then ['\\', 'n']
  else if c = '\r' then ['\\', 'r']
  else if c = '\t' then ['\\', 't']
  else if isPrintable c then [c]
  else hexEscape c.toNat

def encode (text : List Char) : List Char :=
  let quote := delimiter text
  [quote] ++ text.flatMap (encodeChar quote) ++ [quote]

/-- The quoted form of a text that is given by its codes. A code that is no character is escaped. -/
def encodeCodes (codes : List Nat) : List Char :=
  let quote := delimiter (codes.map Char.ofNat)
  let shown := codes.flatMap fun code =>
    if code.isValidChar then encodeChar quote (Char.ofNat code) else hexEscape code
  [quote] ++ shown ++ [quote]

/-- A byte shows as the character of its code where that is printable ASCII. -/
def encodeByte (quote : Char) (byte : UInt8) : List Char :=
  let c := Char.ofNat byte.toNat
  if c = quote ∨ c = '\\' then ['\\', c]
  else if c = '\n' then ['\\', 'n']
  else if c = '\r' then ['\\', 'r']
  else if c = '\t' then ['\\', 't']
  else if 0x20 ≤ byte.toNat ∧ byte.toNat < 0x7F then [c]
  else hexEscape byte.toNat

def encodeBytes (bytes : List UInt8) : List Char :=
  let quote := delimiter (bytes.map fun byte => Char.ofNat byte.toNat)
  ['b', quote] ++ bytes.flatMap (encodeByte quote) ++ [quote]

end Quoted

/-- The quoted form of a text. -/
def quoted (text : String) : String :=
  String.ofList (Quoted.encode text.toList)

end TemplateScript
