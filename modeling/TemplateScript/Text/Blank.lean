import TemplateScript.Text.CharRange

/-!
# Blanks

Two sets of blank characters. Those of an expression separate its tokens. Those of a margin are
taken off the ends of a text before it is read as a number: they hold the four information
separators besides, and leave out the Mongolian vowel separator.
-/

namespace TemplateScript

/-- Characters that may stand between the tokens of an expression. -/
def blankRanges : List (Nat × Nat) := [
  (0x9, 0xD), (0x20, 0x20), (0x85, 0x85), (0xA0, 0xA0), (0x1680, 0x1680), (0x180E, 0x180E),
  (0x2000, 0x200A), (0x2028, 0x2029), (0x202F, 0x202F), (0x205F, 0x205F), (0x3000, 0x3000)]

def isBlank (c : Char) : Bool :=
  inRanges blankRanges c.toNat

/-- Characters that are taken off the ends of a text. -/
def marginRanges : List (Nat × Nat) := [
  (0x9, 0xD), (0x1C, 0x20), (0x85, 0x85), (0xA0, 0xA0), (0x1680, 0x1680),
  (0x2000, 0x200A), (0x2028, 0x2029), (0x202F, 0x202F), (0x205F, 0x205F), (0x3000, 0x3000)]

def isMargin (c : Char) : Bool :=
  inRanges marginRanges c.toNat

/-- Takes the characters that satisfy `p` off the end of a text. -/
def trimEnd (p : Char → Bool) (text : List Char) : List Char :=
  (text.reverse.dropWhile p).reverse

/-- Takes the margin off both ends of a text. -/
def strip (text : List Char) : List Char :=
  trimEnd isMargin (text.dropWhile isMargin)

end TemplateScript
