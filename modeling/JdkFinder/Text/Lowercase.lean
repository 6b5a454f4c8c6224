import JdkFinder.Text.Blocks
import JdkFinder.Text.CaseTable

/-!
# Lower case

The full lower-case form of a text.  Each character is mapped on its own, with two exceptions:
the dotted capital `İ` becomes two characters, and a capital sigma at the end of a word becomes
the final form `ς`.
-/

namespace JdkFinder.Text

/-! ## §1 Single characters -/

/-- The lower-case form of one character, without regard to its neighbours. -/
def lowercaseChar (c : Char) : List Char :=
  if c.toNat < 0x80 then [c.toLower]
  else if c.toNat = 0x130 then ['i', Char.ofNat 0x307]
  else [Char.ofNat ((shiftedIn? c.toNat lowercaseRuns).getD c.toNat)]

/-! ## §2 The final sigma -/

/-- Whether, case-ignorable characters skipped, the list starts with a cased character. -/
def meetsCased (cs : List Char) : Bool :=
  match cs.dropWhile (inBlocks caseIgnorableBlocks) with
  | [] => false
  | c :: _ => inBlocks casedBlocks c

/-- A sigma ends a word if a cased character comes before it and none after it; the characters
before it are given last first. -/
def endsWord (before after : List Char) : Bool :=
  meetsCased before && !meetsCased after

/-! ## §3 Texts -/

/-- The lower-case form of a text that stands after `before`, whose characters are given last
first. -/
def lowercaseAfter (before : List Char) : List Char → List Char
  | [] => []
  | c :: rest =>
    (if c = 'Σ' then [if endsWord before rest then 'ς' else 'σ'] else lowercaseChar c)
      ++ lowercaseAfter (c :: before) rest

/-- The lower-case form of a text. -/
def lowercase (s : List Char) : List Char :=
  lowercaseAfter [] s

end JdkFinder.Text
