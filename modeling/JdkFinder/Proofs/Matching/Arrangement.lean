import JdkFinder.Proofs.Matching.Selection
import Mathlib.Order.MinMax

/-!
# Lists in another arrangement

The order of versions is lawful, and so it leaves nothing to the arrangement of a list.  However a
list is arranged, sorting it gives the same versions one after the other, and the best candidate is
one of the same version (`Version.lawful_order_decides_choice`).

What a stable sort makes of a list is told by two properties (`Version.StablySorted`), and there is
only one list that has them.
-/

namespace JdkFinder

variable {α : Type}

/-! ## §1 Stable sorts -/

namespace Version

variable {version : α → Version} {list list' sorted sorted' : List α}

/-- A list in the order of versions, in which the elements of each version are those of another
list, and as they stand there. -/
structure StablySorted (version : α → Version) (list sorted : List α) : Prop where
  ascending : sorted.Pairwise fun a b => version a ≤ version b
  stable : ∀ v, sorted.filter (version · = v) = list.filter (version · = v)

theorem decide_le_trans (version : α → Version) (a b c : α)
    (hab : decide (version a ≤ version b) = true) (hbc : decide (version b ≤ version c) = true) :
    decide (version a ≤ version c) = true :=
  decide_eq_true (le_trans (of_decide_eq_true hab) (of_decide_eq_true hbc))

theorem decide_le_total (version : α → Version) (a b : α) :
    (decide (version a ≤ version b) || decide (version b ≤ version a)) = true := by
  simpa using le_total (version a) (version b)

theorem ascending_sortBy (version : α → Version) (list : List α) :
    (sortBy version list).Pairwise fun a b => version a ≤ version b :=
  (List.pairwise_mergeSort (decide_le_trans version) (decide_le_total version) list).imp
    of_decide_eq_true

theorem perm_sortBy (version : α → Version) (list : List α) : (sortBy version list).Perm list :=
  List.mergeSort_perm _ _

theorem stablySorted_sortBy (version : α → Version) (list : List α) :
    StablySorted version list (sortBy version list) where
  ascending := ascending_sortBy version list
  stable v := by
    have hsame : (list.filter (version · = v)).Pairwise
        fun a b => decide (version a ≤ version b) = true := by
      refine List.pairwise_filter.mpr (List.pairwise_of_forall fun a b ha hb => ?_)
      rw [of_decide_eq_true ha, of_decide_eq_true hb]
      exact decide_eq_true le_rfl
    -- Elements of one version are in order as they stand, so the sort keeps them as they stand.
    have hkept : (list.filter (version · = v)).Sublist (sortBy version list) :=
      List.sublist_mergeSort (decide_le_trans version) (decide_le_total version) hsame
        List.filter_sublist
    have hfiltered := hkept.filter (version · = v)
    simp only [List.filter_filter, Bool.and_self] at hfiltered
    exact (hfiltered.eq_of_length ((perm_sortBy version list).filter _).length_eq.symm).symm

theorem mem_iff_of_filter_eq
    (h : ∀ v, sorted.filter (version · = v) = sorted'.filter (version · = v)) (a : α) :
    a ∈ sorted ↔ a ∈ sorted' := by
  have ha : a ∈ sorted.filter (version · = version a) ↔
      a ∈ sorted'.filter (version · = version a) := by rw [h]
  simpa using ha

/-- Lists in the order of versions that have the same elements of each version are the same. -/
theorem eq_of_ascending (hsorted : sorted.Pairwise fun a b => version a ≤ version b)
    (hsorted' : sorted'.Pairwise fun a b => version a ≤ version b)
    (h : ∀ v, sorted.filter (version · = v) = sorted'.filter (version · = v)) :
    sorted = sorted' := by
  induction sorted generalizing sorted' with
  | nil =>
    have hnone (b : α) : b ∉ sorted' := fun hb => nomatch (mem_iff_of_filter_eq h b).mpr hb
    exact (List.eq_nil_iff_forall_not_mem.mpr hnone).symm
  | cons a sorted ih =>
    have ha := (mem_iff_of_filter_eq h a).mp List.mem_cons_self
    cases sorted' with
    | nil => cases ha
    | cons b sorted' =>
      have hb := (mem_iff_of_filter_eq h b).mpr List.mem_cons_self
      obtain ⟨hleast, hrest⟩ := List.pairwise_cons.mp hsorted
      obtain ⟨hleast', hrest'⟩ := List.pairwise_cons.mp hsorted'
      have hle : ∀ c ∈ a :: sorted, version a ≤ version c :=
        List.forall_mem_cons.mpr ⟨le_rfl, hleast⟩
      have hle' : ∀ c ∈ b :: sorted', version b ≤ version c :=
        List.forall_mem_cons.mpr ⟨le_rfl, hleast'⟩
      -- Either list has the first element of the other one, so both start with the least version.
      have hversion : version a = version b := le_antisymm (hle b hb) (hle' a ha)
      have hfirst := h (version b)
      rw [List.filter_cons_of_pos (by simpa using hversion), List.filter_cons_of_pos (by simp)]
        at hfirst
      obtain ⟨rfl, hsame⟩ := List.cons.inj hfirst
      refine congrArg (a :: ·) (ih hrest hrest' fun v => ?_)
      by_cases hv : version a = v
      · rw [← hv]
        exact hsame
      · have hother := h v
        rwa [List.filter_cons_of_neg (by simpa using hv),
          List.filter_cons_of_neg (by simpa using hv)] at hother

/-- There is just one stable sort of a list. -/
theorem stablySorted_iff : StablySorted version list sorted ↔ sorted = sortBy version list := by
  constructor
  · intro h
    have hsort := stablySorted_sortBy version list
    exact eq_of_ascending h.ascending hsort.ascending fun v =>
      (h.stable v).trans (hsort.stable v).symm
  · rintro rfl
    exact stablySorted_sortBy version list

/-- The versions of a sorted list do not depend on how the list was arranged. -/
theorem map_version_sortBy (version : α → Version) (h : list.Perm list') :
    (sortBy version list).map version = (sortBy version list').map version := by
  have hperm : ((sortBy version list).map version).Perm ((sortBy version list').map version) :=
    (((perm_sortBy version list).trans h).trans (perm_sortBy version list').symm).map version
  have hascending (list : List α) : ((sortBy version list).map version).Pairwise (· ≤ ·) :=
    List.pairwise_map.mpr (ascending_sortBy version list)
  exact hperm.eq_of_pairwise (fun v w _ _ => le_antisymm) (hascending list) (hascending list')

end Version

/-! ## §2 The greatest version -/

section Greatest

variable [Selectable α]

/-- The best candidate is one of the greatest version that there is. -/
theorem version?_pickBest? (list : List α) :
    (pickBest? list).map Selectable.version? =
      (list.filterMap Selectable.version?).max?.map some := by
  have hversions : list.filterMap Selectable.version? =
      (list.filterMap fun c => (Selectable.version? c).map (c, ·)).map Prod.snd := by
    simp only [List.map_filterMap, Option.map_map, Function.comp_def, Option.map_id']
  rw [hversions, pickBest?]
  cases hpairs : list.filterMap fun c => (Selectable.version? c).map (c, ·) with
  | nil => rfl
  | cons first rest =>
    obtain ⟨before, after, hlist, hle, -⟩ := foldl_better first rest
    have hbest : rest.foldl better first ∈ first :: rest := by
      rw [hlist]
      exact List.mem_append_right _ List.mem_cons_self
    have hmax : ((first :: rest).map Prod.snd).max? = some (rest.foldl better first).2 := by
      refine List.max?_eq_some_iff.mpr ⟨List.mem_map.mpr ⟨_, hbest, rfl⟩, ?_⟩
      intro v hv
      obtain ⟨p, hp, rfl⟩ := List.mem_map.mp hv
      exact hle p hp
    -- The best pair is one of a candidate and its version.
    obtain ⟨c, -, hc⟩ := List.mem_filterMap.mp (hpairs ▸ hbest)
    obtain ⟨v, hv, hpair⟩ := Option.map_eq_some_iff.mp hc
    rw [hmax]
    dsimp only [Option.map_some]
    rw [← hpair, hv]

/-- The version of the best candidate does not depend on how the candidates are arranged. -/
theorem version?_pickBest?_of_perm {list list' : List α} (h : list.Perm list') :
    (pickBest? list).map Selectable.version? = (pickBest? list').map Selectable.version? := by
  have hversions := h.filterMap Selectable.version?
  have hmax : (list.filterMap Selectable.version?).max? =
      (list'.filterMap Selectable.version?).max? :=
    Option.ext fun v => by simp only [List.max?_eq_some_iff, hversions.mem_iff]
  rw [version?_pickBest?, version?_pickBest?, hmax]

end Greatest

/-! ## §3 The order and what it decides -/

/-- The comparison of versions is a total order that tells any two versions apart and puts an
early-access version before the general one.  So there is one stable sort of a list by it, and
neither its versions nor the version of the best candidate, which is the greatest one, change when
the list is rearranged. -/
theorem Version.lawful_order_decides_choice :
    (∀ a b c : Version,
      compare b a = (compare a b).swap ∧
      ((compare a b).isLE → (compare b a).isLE → a = b) ∧
      ((compare a b).isLE → (compare b c).isLE → (compare a c).isLE) ∧
      (∀ o, compare a b = o → compare b c = o → compare a c = o) ∧
      ((compare a b).isLE ∨ (compare b a).isLE) ∧
      partialCompare? a b = some (compare a b) ∧
      (a < b ↔ compare a b = .lt) ∧
      (a ≤ b ↔ (compare a b).isLE) ∧
      (compare a b = .eq ↔ a = b) ∧
      (a.numbers = b.numbers → a.build = b.build → a.early = true → b.early = false →
        compare a b = .lt)) ∧
    (∀ (β : Type) (version : β → Version) (list list' : List β), list.Perm list' →
      (∀ sorted, StablySorted version list sorted ↔ sorted = sortBy version list) ∧
      (sortBy version list).map version = (sortBy version list').map version) ∧
    ∀ (β : Type) [Selectable β] (list list' : List β), list.Perm list' →
      (pickBest? list).map Selectable.version? =
        (list.filterMap Selectable.version?).max?.map some ∧
      (pickBest? list).map Selectable.version? = (pickBest? list').map Selectable.version? := by
  refine ⟨fun a b c => ?_, fun β version list list' h => ?_, fun β _ list list' h => ?_⟩
  · -- Transitivity for a given result follows for each of the three results.
    have hsame (o : Ordering) (hab : compare a b = o) (hbc : compare b c = o) :
        compare a c = o := by
      cases o with
      | lt => exact Std.TransCmp.lt_trans hab hbc
      | eq => exact Std.TransCmp.eq_trans hab hbc
      | gt => exact Std.TransCmp.gt_trans hab hbc
    exact ⟨Std.OrientedCmp.eq_swap, fun hab hba => le_antisymm (le_iff.mpr hab) (le_iff.mpr hba),
      Std.TransCmp.isLE_trans, hsame, le_total a b, rfl, lt_iff, le_iff,
      Std.LawfulEqCmp.compare_eq_iff_eq, compare_of_early⟩
  · -- A stable sort is unique, and what it shows of the versions is decided by the list as a bag.
    exact ⟨fun sorted => stablySorted_iff, map_version_sortBy version h⟩
  · exact ⟨version?_pickBest? list, version?_pickBest?_of_perm h⟩

/-- Three JDKs in two arrangements: the general release is the best one in both. -/
theorem Version.order_decides_choice_of_three :
    let early : Version := ⟨17, 0, 2, 0, 0, true⟩
    let general : Version := ⟨17, 0, 2, 0, 0, false⟩
    let jdk (home : String) (v : Version) : DetectedJdk := ⟨home, "", v, "", none⟩
    let list := [jdk "/a" general, jdk "/b" early, jdk "/c" (.ofFeature 11)]
    let list' := [jdk "/c" (.ofFeature 11), jdk "/a" general, jdk "/b" early]
    compare early general = .lt ∧ list.Perm list' ∧
      (sortBy (·.version) list).map (·.version) = (sortBy (·.version) list').map (·.version) ∧
      (pickBest? list').map Selectable.version? = some (some general) := by
  intro early general jdk list list'
  obtain ⟨hlaws, hsorts, hpicks⟩ := lawful_order_decides_choice
  obtain ⟨-, -, -, -, -, -, -, -, -, hearly⟩ := hlaws early general general
  have hperm : list.Perm list' := by decide
  refine ⟨hearly rfl rfl rfl rfl, hperm, (hsorts _ (·.version) list list' hperm).2, ?_⟩
  rw [← (hpicks _ list list' hperm).2]
  decide

end JdkFinder
