import JdkFinder.Text.Blocks
import JdkFinder.Text.DirectionTable
import JdkFinder.Text.MarkTable

/-!
# Directions

In which direction a character is written, for the characters that may stand in a domain name.
-/

namespace JdkFinder.Text

/-- The direction of a character. -/
inductive Direction where
  | leftToRight
  | rightToLeft
  | europeanNumber
  | arabicNumber
  /-- The direction of its neighbours. -/
  | neutral
  /-- The direction of the character that the mark stands on. -/
  | nonspacing
  deriving DecidableEq, Repr

/-- The direction in which a character is written. -/
def directionOf (c : Char) : Direction :=
  if c.toNat < 0x80 then
    if c.isAlpha then .leftToRight else if c.isDigit then .europeanNumber else .neutral
  else if inBlocks rightToLeftBlocks c then .rightToLeft
  else if inBlocks europeanNumberBlocks c then .europeanNumber
  else if inBlocks arabicNumberBlocks c then .arabicNumber
  else if inBlocks neutralBlocks c then .neutral
  else if inBlocks nonspacingBlocks c then .nonspacing
  else .leftToRight

/-- Whether a text with the character is written from right to left in parts. -/
def Direction.isRightToLeft (d : Direction) : Bool :=
  d = .rightToLeft || d = .arabicNumber

end JdkFinder.Text
