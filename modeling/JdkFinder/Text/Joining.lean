import JdkFinder.Text.Blocks
import JdkFinder.Text.JoiningTable
import JdkFinder.Text.MarkTable

/-!
# Joining letters

Letters of some scripts change their shapes to join with their neighbours; marks between two
letters do not keep them apart.
-/

namespace JdkFinder.Text

/-- Whether a letter can join with the one after it. -/
def joinsNext (c : Char) : Bool :=
  inBlocks dualJoiningBlocks c || inBlocks leftJoiningBlocks c

/-- Whether a letter can join with the one before it. -/
def joinsPrevious (c : Char) : Bool :=
  inBlocks dualJoiningBlocks c || inBlocks rightJoiningBlocks c

/-- A mark that is skipped where letters join. -/
def isTransparent (c : Char) : Bool :=
  inBlocks nonspacingBlocks c || inBlocks transparentBlocks c

end JdkFinder.Text
