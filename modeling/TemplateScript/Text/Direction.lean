import TemplateScript.Text.CharRange
import TemplateScript.Text.Mark

/-!
# Direction of writing

Which way the characters of a domain name run. Digits run in the direction of the text around
them, and marks in the direction of their letter. Letters that came into use later have no known
direction. The ranges close over characters that no domain name holds.
-/

namespace TemplateScript

inductive Direction where
  | leftToRight | rightToLeft | europeanNumber | arabicNumber | nonspacing | neutral | unknown
deriving DecidableEq, Repr

def rightToLeftRanges : List (Nat × Nat) := [
  (0x5D0, 0x5F4), (0x620, 0x64A), (0x66E, 0x66F), (0x671, 0x6D5), (0x6E5, 0x6E6), (0x6EE, 0x6EF),
  (0x6FA, 0x710), (0x712, 0x72F), (0x74D, 0x7A5), (0x7B1, 0x7EA), (0x7F4, 0x7F5), (0x800, 0x815),
  (0x81A, 0x81A), (0x824, 0x824), (0x828, 0x828), (0x840, 0x858), (0x860, 0x88E), (0x8A0, 0x8C9),
  (0xFE73, 0xFE73), (0x10800, 0x10939), (0x10980, 0x10A00), (0x10A10, 0x10A35),
  (0x10A60, 0x10AE4), (0x10B00, 0x10D23), (0x10E80, 0x10EA9), (0x10EB0, 0x10EB1),
  (0x10F00, 0x10F45), (0x10F70, 0x10F81), (0x10FB0, 0x10FF6), (0x1E800, 0x1E8C4),
  (0x1E922, 0x1E943), (0x1E94B, 0x1E959)]

def europeanNumberRanges : List (Nat × Nat) := [
  (0x30, 0x39), (0x6F0, 0x6F9)]

def arabicNumberRanges : List (Nat × Nat) := [
  (0x660, 0x669), (0x10D30, 0x10D39)]

def neutralRanges : List (Nat × Nat) := [
  (0x2D, 0x2D), (0xB7, 0xB7), (0x2B9, 0x2BA), (0x2C6, 0x2CF), (0x2EC, 0x2EC), (0x375, 0x375),
  (0x200C, 0x200D), (0x2E2F, 0x2E2F), (0x30FB, 0x30FB), (0xA67F, 0xA67F), (0xA717, 0xA71F),
  (0xA788, 0xA788)]

/-- Letters that the other tables are too old for. -/
def laterLetterRanges : List (Nat × Nat) := [
  (0x88F, 0x897), (0xC5C, 0xC5C), (0xCDC, 0xCDC), (0xCF3, 0xCF3), (0xECE, 0xECE),
  (0x1ACF, 0x1AEB), (0x1C8A, 0x1C8A), (0xA7CD, 0xA7CF), (0xA7DB, 0xA7DB), (0x105C0, 0x105F3),
  (0x10940, 0x10959), (0x10D40, 0x10D85), (0x10EC2, 0x10EFF), (0x1123F, 0x11241),
  (0x11380, 0x113E2), (0x116D0, 0x116E3), (0x11B60, 0x11BF9), (0x11DB0, 0x11DE9),
  (0x11F00, 0x11F5A), (0x1342F, 0x143FA), (0x16100, 0x16139), (0x16D40, 0x16D79),
  (0x16EBB, 0x16ED3), (0x16FF2, 0x16FF3), (0x187F8, 0x187FF), (0x18CFF, 0x18CFF),
  (0x18D09, 0x18DF2), (0x1B132, 0x1B132), (0x1B155, 0x1B155), (0x1DF25, 0x1DF2A),
  (0x1E08F, 0x1E08F), (0x1E4D0, 0x1E6FF), (0x2B739, 0x2B73F), (0x2CEA2, 0x2CEAD),
  (0x2EBF0, 0x2EE5D), (0x31350, 0x33479)]

namespace Direction

def ofCode (code : Nat) : Direction :=
  if inRanges laterLetterRanges code then .unknown
  else if isNonspacingMark code then .nonspacing
  else if inRanges europeanNumberRanges code then .europeanNumber
  else if inRanges arabicNumberRanges code then .arabicNumber
  else if inRanges neutralRanges code then .neutral
  else if inRanges rightToLeftRanges code then .rightToLeft
  else .leftToRight

/-- Whether a text with such a character has to be laid out from right to left in part. -/
def turns (d : Direction) : Bool :=
  d == .rightToLeft || d == .arabicNumber

def isNumber (d : Direction) : Bool :=
  d == .europeanNumber || d == .arabicNumber

end Direction

end TemplateScript
