import JdkFinder.Text.Utf8

/-!
# Percent-encoding

A character that may not stand in a part of a URL is written as its bytes in UTF-8, each as a
percent sign and two hexadecimal digits.  The parts of a URL differ in the characters that have to
be written so.
-/

namespace JdkFinder.Percent

/-! ## §1 Writing -/

/-- The hexadecimal digit, in upper case, of a number below 16. -/
def hexDigit (n : Nat) : Char :=
  if n < 10 then Char.ofNat ('0'.toNat + n) else Char.ofNat ('A'.toNat + (n - 10))

/-- A byte as a percent sign and two digits. -/
def encodeByte (b : UInt8) : List Char :=
  ['%', hexDigit (b.toNat / 16), hexDigit (b.toNat % 16)]

/-- A text in which the characters of a set and all that are not printable ASCII are encoded. -/
def encode (set : List Char) (s : List Char) : List Char :=
  s.flatMap fun c =>
    if 0x20 ≤ c.toNat && c.toNat < 0x7F && !set.contains c then [c]
    else (String.singleton c).toUTF8.toList.flatMap encodeByte

/-- Encoded in opaque hosts and paths: nothing that is printable. -/
def controls : List Char := []

/-- Encoded in fragments. -/
def fragmentSet : List Char := [' ', '"', '<', '>', '\x60']

/-- Encoded in queries. -/
def querySet : List Char := [' ', '"', '#', '<', '>']

/-- Encoded in the queries of special schemes. -/
def specialQuerySet : List Char := '\'' :: querySet

/-- Encoded in paths. -/
def pathSet : List Char := ['#', '?', '\x7b', '\x7d'] ++ fragmentSet

/-- Encoded in user names and passwords. -/
def userinfoSet : List Char := ['/', ':', ';', '=', '@', '[', '\\', ']', '^', '|'] ++ pathSet

/-! ## §2 Reading -/

/-- The value of a hexadecimal digit. -/
def hexValue? (c : Char) : Option Nat :=
  if '0' ≤ c ∧ c ≤ '9' then some (c.toNat - '0'.toNat)
  else if 'a' ≤ c ∧ c ≤ 'f' then some (c.toNat - 'a'.toNat + 10)
  else if 'A' ≤ c ∧ c ≤ 'F' then some (c.toNat - 'A'.toNat + 10)
  else none

/-- The byte that two hexadecimal digits write. -/
def byteOf? (high low : Char) : Option UInt8 := do
  some (UInt8.ofNat ((← hexValue? high) * 16 + (← hexValue? low)))

/-- The bytes of a text, where encoded bytes are read; other percent signs stand for
themselves. -/
def decode : List Char → List UInt8
  | '%' :: high :: low :: rest =>
    match byteOf? high low with
    | some b => b :: decode rest
    | none => UInt8.ofNat '%'.toNat :: decode (high :: low :: rest)
  | c :: rest => (String.singleton c).toUTF8.toList ++ decode rest
  | [] => []
termination_by s => s.length

end JdkFinder.Percent
