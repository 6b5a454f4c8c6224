import JdkFinder.Version
import Mathlib.Order.Std

/-!
# The order of versions

Versions are compared number by number, so their order is a lexicographic one, and a linear one
because the orders of the numbers are.  Nothing of a version is left out of the comparison: versions
that compare as equal are the same.
-/

namespace JdkFinder

namespace Version

variable {v w : Version}

/-! ## §1 The comparison -/

/-- The order compares one part after the other; the early-access mark counts the other way. -/
theorem compare_eq_lex : Version.compare =
    compareLex (compareOn Version.feature) (compareLex (compareOn Version.interim)
      (compareLex (compareOn Version.update) (compareLex (compareOn Version.patch)
        (compareLex (compareOn Version.build) fun v w => compareOn Version.early w v)))) :=
  rfl

instance : Std.TransCmp Version.compare := by
  rw [Version.compare_eq_lex]
  infer_instance

theorem eq_of_compare (h : compare v w = .eq) : v = w := by
  simp only [compare, Ordering.then_eq_eq, Std.LawfulEqOrd.compare_eq_iff_eq] at h
  obtain ⟨hfeature, hinterim, hupdate, hpatch, hbuild, hearly⟩ := h
  cases v
  cases w
  cases hfeature
  cases hinterim
  cases hupdate
  cases hpatch
  cases hbuild
  cases hearly
  rfl

instance : Std.LawfulEqCmp Version.compare where
  eq_of_compare := eq_of_compare

/-- Of two versions with the same numbers and the same build the early-access one is less. -/
theorem compare_of_early (hnumbers : v.numbers = w.numbers) (hbuild : v.build = w.build)
    (hv : v.early = true) (hw : w.early = false) : compare v w = .lt := by
  simp only [numbers, List.cons.injEq, and_true] at hnumbers
  obtain ⟨hfeature, hinterim, hupdate, hpatch⟩ := hnumbers
  rw [compare, hfeature, hinterim, hupdate, hpatch, hbuild, hv, hw]
  simp only [Std.ReflCmp.compare_self, Ordering.eq_then]
  rfl

/-! ## §2 The linear order -/

theorem le_iff : v ≤ w ↔ (compare v w).isLE = true :=
  Iff.rfl

theorem lt_iff : v < w ↔ compare v w = .lt :=
  Ordering.isLT_iff_eq_lt

instance : Std.TransOrd Version :=
  inferInstanceAs (Std.TransCmp Version.compare)

instance : Std.LawfulEqOrd Version :=
  inferInstanceAs (Std.LawfulEqCmp Version.compare)

instance : Std.LawfulOrderOrd Version where
  isLE_compare _ _ := Iff.rfl
  isGE_compare v w := by
    rw [← Ordering.isLE_swap, ← Std.OrientedCmp.eq_swap]
    exact Iff.rfl

instance : Std.LawfulOrderLT Version where
  lt_iff v w := by
    have hswap : compare w v = (compare v w).swap := Std.OrientedCmp.eq_swap
    rw [le_iff, le_iff, lt_iff, hswap]
    cases compare v w <;> decide

instance : LinearOrder Version :=
  .ofStd Version

end Version

end JdkFinder
