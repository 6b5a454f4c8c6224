/-!
# Blocks of characters

Tables of characters are given by ranges of their code points.  This module reads them.
-/

namespace JdkFinder.Text

/-- Whether a character lies in one of the blocks, each given by its first and last code point. -/
def inBlocks (blocks : List (Nat × Nat)) (c : Char) : Bool :=
  blocks.any fun (lo, hi) => lo ≤ c.toNat && c.toNat ≤ hi

/-- The code point that stands for `n` in runs `(first, last, step, shift)`: every `step`-th code
point from `first` to `last` has the one `shift` code points further on. -/
def shiftedIn? (n : Nat) : (runs : List (Nat × Nat × Nat × Int)) → Option Nat
  | [] => none
  | (first, last, step, shift) :: rest =>
    if first ≤ n && n ≤ last && (n - first) % step == 0 then some (n + shift).toNat
    else shiftedIn? n rest

/-- Whether a text holds characters of ASCII only. -/
def isAscii (s : List Char) : Bool :=
  s.all (·.toNat < 0x80)

end JdkFinder.Text
