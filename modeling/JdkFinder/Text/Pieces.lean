/-!
# Pieces of texts

Prefixes, suffixes, infixes and lines of texts given as lists of characters.
-/

namespace JdkFinder.Text

/-! ## §1 Ends -/

/-- What follows a given beginning. -/
def stripPrefix? : (beginning s : List Char) → Option (List Char)
  | [], s => some s
  | _ :: _, [] => none
  | b :: bs, c :: cs => if b = c then stripPrefix? bs cs else none

/-- What precedes a given ending. -/
def stripSuffix? (ending s : List Char) : Option (List Char) :=
  (stripPrefix? ending.reverse s.reverse).map List.reverse

theorem length_le_of_stripPrefix? {beginning s rest : List Char}
    (h : stripPrefix? beginning s = some rest) :
    rest.length + beginning.length = s.length := by
  induction beginning generalizing s with
  | nil => simp_all [stripPrefix?]
  | cons b bs ih =>
    cases s with
    | nil => simp [stripPrefix?] at h
    | cons c cs =>
      simp only [stripPrefix?] at h
      split at h
      · have := ih h
        simp only [List.length_cons]
        omega
      · simp at h

/-- The text without any number of copies of a beginning at its front. -/
def dropCopies (beginning s : List Char) : List Char :=
  if hb : beginning = [] then s
  else
    match h : stripPrefix? beginning s with
    | none => s
    | some rest =>
      have : rest.length < s.length := by
        have := length_le_of_stripPrefix? h
        have := List.length_pos_iff.2 hb
        omega
      dropCopies beginning rest
termination_by s.length

/-! ## §2 Infixes -/

/-- Whether a text occurs somewhere inside another. -/
def occursIn (part : List Char) : List Char → Bool
  | [] => part.isEmpty
  | c :: cs => part.isPrefixOf (c :: cs) || occursIn part cs

/-- The text before and after the first separator. -/
def splitOnce? (sep : Char) : List Char → Option (List Char × List Char)
  | [] => none
  | c :: cs =>
    if c = sep then some ([], cs)
    else (splitOnce? sep cs).map fun (before, after) => (c :: before, after)

/-! ## §3 Lines -/

/-- A line without the carriage return at its end. -/
def chomp (line : List Char) : List Char :=
  (stripSuffix? ['\r'] line).getD line

/-- The lines of a text: each ends with a line feed, or a carriage return and a line feed, and
the last one may lack its end. -/
def lines (s : List Char) : List (List Char) :=
  let pieces := s.splitOn '\n'
  pieces.dropLast.map chomp ++ pieces.getLast?.toList.filter (!·.isEmpty)

end JdkFinder.Text
