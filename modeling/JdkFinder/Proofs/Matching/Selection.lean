import JdkFinder.Outcome
import JdkFinder.Proofs.Version.Order
import Mathlib.Data.List.Induction

/-!
# Which candidate is chosen

A search takes the last of the greatest eligible candidates of a list (`Requirement.Chooses`), and
fails only when none is eligible (`Requirement.Declines`).  Of the three lists the first one with an
eligible candidate counts.
-/

namespace JdkFinder

variable {α : Type}

/-! ## §1 The greatest candidate -/

/-- The better one is the later one unless it is less. -/
theorem better_cases (a b : α × Version) :
    (Version.compare b.2 a.2 = .lt ∧ better a b = a) ∨
      ((Version.compare a.2 b.2).isLE ∧ better a b = b) := by
  by_cases h : Version.compare a.2 b.2 = .gt
  · exact .inl ⟨Std.OrientedCmp.lt_of_gt h, if_pos h⟩
  · exact .inr ⟨Ordering.isLE_iff_ne_gt.mpr h, if_neg h⟩

/-- Going through a list, one keeps the last of the greatest. -/
theorem foldl_better (first : α × Version) (rest : List (α × Version)) :
    ∃ before after, first :: rest = before ++ rest.foldl better first :: after ∧
      (∀ p ∈ first :: rest, (Version.compare p.2 (rest.foldl better first).2).isLE) ∧
      ∀ p ∈ after, Version.compare p.2 (rest.foldl better first).2 = .lt := by
  induction rest using List.reverseRecOn with
  | nil => exact ⟨[], [], rfl, by simp [Std.ReflCmp.compare_self], by simp⟩
  | append_singleton rest last ih =>
    obtain ⟨before, after, hlist, hle, hlt⟩ := ih
    rw [List.foldl_append, List.foldl_cons, List.foldl_nil, ← List.cons_append]
    rcases better_cases (rest.foldl better first) last with ⟨hless, heq⟩ | ⟨hgreatest, heq⟩
    · rw [heq]
      refine ⟨before, after ++ [last], ?_, ?_, ?_⟩
      · rw [hlist, List.append_assoc, List.cons_append]
      · intro p hp
        rcases List.mem_append.mp hp with hp | hp
        · exact hle p hp
        · cases List.mem_singleton.mp hp
          exact Ordering.isLE_of_eq_lt hless
      · intro p hp
        rcases List.mem_append.mp hp with hp | hp
        · exact hlt p hp
        · cases List.mem_singleton.mp hp
          exact hless
    · -- The last one is no less than the greatest so far, so no less than any other one.
      rw [heq]
      refine ⟨first :: rest, [], rfl, ?_, by simp⟩
      intro p hp
      rcases List.mem_append.mp hp with hp | hp
      · exact Std.TransCmp.isLE_trans (hle p hp) hgreatest
      · cases List.mem_singleton.mp hp
        simp [Std.ReflCmp.compare_self]

section Lists

variable [Selectable α] {r : Requirement} {list : List α}

/-! ## §2 Eligible candidates -/

/-- A candidate of version `v` that meets a requirement. -/
structure Requirement.Eligible (r : Requirement) (candidate : α) (v : Version) : Prop where
  usable : Selectable.isUsable candidate = true
  version : Selectable.version? candidate = some v
  acceptsVersion : r.acceptsVersion v = true
  acceptsVendor : r.acceptsVendor (Selectable.vendor? candidate) = true

/-- No candidate of the list is eligible. -/
def Requirement.Declines (r : Requirement) (list : List α) : Prop :=
  ∀ candidate ∈ list, ∀ v, ¬ r.Eligible candidate v

/-- The candidate is eligible, none of the list is greater, and all that stand after it are less. -/
def Requirement.Chooses (r : Requirement) (list : List α) (best : α) : Prop :=
  ∃ before after v, list = before ++ best :: after ∧ r.Eligible best v ∧
    (∀ other ∈ list, ∀ w, r.Eligible other w → (Version.compare w v).isLE) ∧
    ∀ other ∈ after, ∀ w, r.Eligible other w → Version.compare w v = .lt

/-- An eligible candidate with its version. -/
def Requirement.eligible? (r : Requirement) (candidate : α) : Option (α × Version) :=
  if r.admits candidate then (Selectable.version? candidate).map (candidate, ·) else none

theorem Requirement.eligible?_eq_some_iff {candidate : α} {p : α × Version} :
    r.eligible? candidate = some p ↔ p.1 = candidate ∧ r.Eligible candidate p.2 := by
  constructor
  · intro h
    simp only [eligible?, admits, Bool.and_eq_true, Option.ite_none_right_eq_some,
      Option.map_eq_some_iff] at h
    obtain ⟨⟨⟨husable, haccepts⟩, hvendor⟩, v, hversion, rfl⟩ := h
    rw [hversion, Option.any_some] at haccepts
    exact ⟨rfl, husable, hversion, haccepts, hvendor⟩
  · rintro ⟨rfl, husable, hversion, haccepts, hvendor⟩
    simp [eligible?, admits, husable, hversion, haccepts, hvendor]

theorem Requirement.bestMatch?_eq (r : Requirement) (list : List α) :
    r.bestMatch? list = match list.filterMap r.eligible? with
      | [] => none
      | first :: rest => some (rest.foldl better first).1 := by
  rw [bestMatch?, pickBest?, List.filterMap_filter]
  rfl

theorem Requirement.filterMap_eligible?_eq_nil_iff :
    list.filterMap r.eligible? = [] ↔ r.Declines list := by
  rw [List.filterMap_eq_nil_iff]
  constructor
  · intro h candidate hmem v heligible
    have hsome : r.eligible? candidate = some (candidate, v) :=
      eligible?_eq_some_iff.mpr ⟨rfl, heligible⟩
    rw [h candidate hmem] at hsome
    cases hsome
  · intro h candidate hmem
    cases hsome : r.eligible? candidate with
    | none => rfl
    | some p => exact absurd (eligible?_eq_some_iff.mp hsome).2 (h candidate hmem p.2)

/-! ## §3 The candidate of a search -/

theorem Requirement.bestMatch?_eq_none_iff : r.bestMatch? list = none ↔ r.Declines list := by
  rw [bestMatch?_eq, ← filterMap_eligible?_eq_nil_iff]
  cases list.filterMap r.eligible? <;> simp

theorem Requirement.chooses_of_bestMatch? {best : α} (h : r.bestMatch? list = some best) :
    r.Chooses list best := by
  rw [bestMatch?_eq] at h
  cases heligible : list.filterMap r.eligible? with
  | nil =>
    rw [heligible] at h
    cases h
  | cons first rest =>
    rw [heligible] at h
    obtain ⟨before, after, hlist, hle, hlt⟩ := foldl_better first rest
    rw [← heligible] at hlist hle
    -- The pairs before and after the chosen one come from what stands before and after it.
    obtain ⟨front, back, rfl, -, hback⟩ := List.filterMap_eq_append_iff.mp hlist
    obtain ⟨skipped, candidate, behind, rfl, -, hcandidate, hbehind⟩ :=
      List.filterMap_eq_cons_iff.mp hback
    obtain ⟨hbest, helig⟩ := eligible?_eq_some_iff.mp hcandidate
    obtain rfl : candidate = best := hbest.symm.trans (Option.some.inj h)
    refine ⟨front ++ skipped, behind, _, by rw [List.append_assoc], helig, ?_, ?_⟩
    · intro other hother w hw
      exact hle (other, w) (List.mem_filterMap.mpr
        ⟨other, hother, eligible?_eq_some_iff.mpr ⟨rfl, hw⟩⟩)
    · intro other hother w hw
      rw [← hbehind] at hlt
      exact hlt (other, w) (List.mem_filterMap.mpr
        ⟨other, hother, eligible?_eq_some_iff.mpr ⟨rfl, hw⟩⟩)

/-- Of two JDKs of one version the later one is taken. -/
example :
    let jdk (home : String) : DetectedJdk := ⟨home, "17", .ofFeature 17, "17", none⟩
    (Requirement.mk .latest none).bestMatch? [jdk "/a", jdk "/b"] = some (jdk "/b") := by
  decide

end Lists

/-! ## §4 Resolving a requirement -/

/-- Nothing is found exactly when no list has an eligible candidate.  Otherwise the outcome is made
from the candidate that is chosen from the first list that has one. -/
theorem Requirement.resolve_selects (r : Requirement) (registered : List RegisteredJdk)
    (detected : List DetectedJdk) (catalog : List DownloadableJdk) :
    (r.resolve registered detected catalog = none ↔
      r.Declines registered ∧ r.Declines detected ∧ r.Declines catalog) ∧
    ∀ outcome, r.resolve registered detected catalog = some outcome →
      (∃ jdk, r.Chooses registered jdk ∧ outcome = .localFix
        ⟨jdk.home, String.ofList jdk.version.format, jdk.suggestedName, .registered⟩) ∨
      (r.Declines registered ∧ ∃ jdk, r.Chooses detected jdk ∧ outcome = .localFix
        ⟨jdk.home, String.ofList jdk.version.format, jdk.suggestedName, .detected⟩) ∨
      (r.Declines registered ∧ r.Declines detected ∧
        ∃ jdk, r.Chooses catalog jdk ∧ outcome = .download jdk) := by
  -- The three lists are asked in turn, and a list is passed over only if it declines.
  simp only [← bestMatch?_eq_none_iff, resolve, resolveLocal, resolveDownload]
  cases hregistered : r.bestMatch? registered with
  | some jdk =>
    refine ⟨by simp, fun outcome houtcome => .inl ⟨jdk, chooses_of_bestMatch? hregistered, ?_⟩⟩
    exact (Option.some.inj houtcome).symm
  | none =>
    cases hdetected : r.bestMatch? detected with
    | some jdk =>
      refine ⟨by simp, fun outcome houtcome => .inr (.inl ⟨rfl, jdk, ?_, ?_⟩)⟩
      · exact chooses_of_bestMatch? hdetected
      · exact (Option.some.inj houtcome).symm
    | none =>
      cases hcatalog : r.bestMatch? catalog with
      | some jdk =>
        refine ⟨by simp, fun outcome houtcome => .inr (.inr ⟨rfl, rfl, jdk, ?_, ?_⟩)⟩
        · exact chooses_of_bestMatch? hcatalog
        · exact (Option.some.inj houtcome).symm
      | none => exact ⟨by simp, fun outcome houtcome => by cases houtcome⟩

end JdkFinder
