import JdkFinder.Candidate
import JdkFinder.Requirement

/-!
# Matching

Which candidates meet a requirement, and which of them is chosen.

A candidate is eligible when it may be used at all, its version is known, and the requirement
accepts its version and its vendor.  Of several the one with the greatest version is chosen, and of
those the last in the list.
-/

namespace JdkFinder

variable {α : Type} [Selectable α]

/-- Whether a candidate meets a requirement. -/
def Requirement.admits (r : Requirement) (candidate : α) : Bool :=
  Selectable.isUsable candidate
    && (Selectable.version? candidate).any r.acceptsVersion
    && r.acceptsVendor (Selectable.vendor? candidate)

/-- The better of two candidates, of which the first stands earlier. -/
def better (a b : α × Version) : α × Version :=
  if Version.compare a.2 b.2 = .gt then a else b

/-- The candidate with the greatest version, the last one of those. -/
def pickBest? (candidates : List α) : Option α :=
  let versioned := candidates.filterMap fun c => (Selectable.version? c).map (c, ·)
  match versioned with
  | [] => none
  | first :: rest => some (rest.foldl better first).1

/-- The best candidate that meets a requirement. -/
def Requirement.bestMatch? (r : Requirement) (candidates : List α) : Option α :=
  pickBest? (candidates.filter r.admits)

end JdkFinder
