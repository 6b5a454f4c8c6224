import JdkFinder.Proofs.Matching.Selection

/-!
# Listing and choosing

A listing holds the candidates of the three lists that meet a requirement, those of one list after
those of the other.  What resolving the requirement comes to can be read off the listing alone: it
is made from the last of the greatest candidates of the first source that the listing has
(`Candidate.Picked`), and there is nothing to resolve to exactly if the listing is empty.
-/

namespace JdkFinder

variable {α : Type}

/-! ## §1 The candidates of one list -/

section Lists

variable [Selectable α] {r : Requirement} {list : List α}

theorem Requirement.admits_iff {candidate : α} :
    r.admits candidate = true ↔ ∃ v, r.Eligible candidate v := by
  constructor
  · intro h
    have hsome : (r.eligible? candidate).isSome := by
      -- A candidate without a version is not admitted.
      cases hversion : Selectable.version? candidate <;> simp_all [eligible?, admits]
    obtain ⟨p, hp⟩ := Option.isSome_iff_exists.mp hsome
    exact ⟨p.2, (eligible?_eq_some_iff.mp hp).2⟩
  · rintro ⟨v, husable, hversion, haccepts, hvendor⟩
    simp [admits, husable, hversion, haccepts, hvendor]

/-- A part of a list that holds what meets a requirement: nothing else, in the order of the list,
and each candidate as often as it stands there. -/
structure Requirement.IsMatchingPart [DecidableEq α] (r : Requirement) (list part : List α) :
    Prop where
  sublist : part.Sublist list
  accepted : ∀ candidate ∈ part, ∃ v, r.Eligible candidate v
  complete : ∀ candidate v, r.Eligible candidate v → part.count candidate = list.count candidate

theorem Requirement.isMatchingPart_filter [DecidableEq α] (r : Requirement) (list : List α) :
    r.IsMatchingPart list (list.filter r.admits) := by
  refine ⟨List.filter_sublist, ?_, ?_⟩
  · intro candidate hmem
    exact admits_iff.mp (List.mem_filter.mp hmem).2
  · intro candidate v heligible
    exact List.count_filter (admits_iff.mpr ⟨v, heligible⟩)

theorem Requirement.filter_admits_eq_nil_iff : list.filter r.admits = [] ↔ r.Declines list := by
  rw [List.filter_eq_nil_iff]
  constructor
  · intro h candidate hmem v heligible
    exact h candidate hmem (admits_iff.mpr ⟨v, heligible⟩)
  · intro h candidate hmem hadmits
    obtain ⟨v, heligible⟩ := admits_iff.mp hadmits
    exact h candidate hmem v heligible

end Lists

/-! ## §2 Listings -/

/-- The matching parts of the three lists, one after the other. -/
def Requirement.IsListing (r : Requirement) (registered : List RegisteredJdk)
    (detected : List DetectedJdk) (catalog : List DownloadableJdk) (listing : List Candidate) :
    Prop :=
  ∃ part₁ part₂ part₃,
    listing = part₁.map .registered ++ part₂.map .detected ++ part₃.map .downloadable ∧
      r.IsMatchingPart registered part₁ ∧ r.IsMatchingPart detected part₂ ∧
      r.IsMatchingPart catalog part₃

/-- What resolving comes to if a candidate is chosen. -/
def Candidate.outcome : Candidate → Outcome
  | registered jdk => .localFix (.ofRegistered jdk)
  | detected jdk => .localFix (.ofDetected jdk)
  | downloadable jdk => .download jdk

/-- The candidate is of the first source that the listing has, none of that source is greater, and
all of that source that stand after it are less. -/
def Candidate.Picked (listing : List Candidate) (best : Candidate) : Prop :=
  listing.head?.map sourceName = some best.sourceName ∧
  ∃ before after v, listing = before ++ best :: after ∧ Selectable.version? best = some v ∧
    (∀ other ∈ listing, other.sourceName = best.sourceName →
      ∀ w, Selectable.version? other = some w → (Version.compare w v).isLE) ∧
    ∀ other ∈ after, other.sourceName = best.sourceName →
      ∀ w, Selectable.version? other = some w → Version.compare w v = .lt

/-- An outcome that can be read off a listing. -/
structure Outcome.FitsListing (outcome : Option Outcome) (listing : List Candidate) : Prop where
  none_iff : outcome = none ↔ listing = []
  some_picked : ∀ o, outcome = some o → ∃ best, Candidate.Picked listing best ∧ o = best.outcome

namespace Outcome.FitsListing

theorem none_nil : FitsListing none [] :=
  ⟨by simp, fun _ h => by cases h⟩

theorem of_picked {outcome : Option Outcome} {listing : List Candidate} {best : Candidate}
    (houtcome : outcome = some best.outcome) (h : Candidate.Picked listing best) :
    FitsListing outcome listing := by
  subst houtcome
  refine ⟨?_, ?_⟩
  · -- The picked candidate stands in the listing, which is not empty then.
    obtain ⟨-, before, after, v, rfl, -⟩ := h
    simp
  · intro o ho
    exact ⟨best, h, (Option.some.inj ho).symm⟩

end Outcome.FitsListing

/-! ## §3 The candidate that is picked -/

/-- The candidate that is chosen from a list is picked if the part of that list stands first.  The
candidates of the list are those of source `name`, as which `make` takes them. -/
theorem Candidate.picked_of_chooses [Selectable α] {r : Requirement} {list : List α} {best : α}
    {make : α → Candidate} {name : String} {rest : List Candidate}
    (hversion : ∀ a, Selectable.version? (make a) = Selectable.version? a)
    (hname : ∀ a, (make a).sourceName = name) (hrest : ∀ c ∈ rest, c.sourceName ≠ name)
    (h : r.Chooses list best) :
    Picked ((list.filter r.admits).map make ++ rest) (make best) := by
  obtain ⟨before, after, v, rfl, heligible, hle, hlt⟩ := h
  have hadmits : r.admits best = true := Requirement.admits_iff.mpr ⟨v, heligible⟩
  have hsplit : (before ++ best :: after).filter r.admits =
      before.filter r.admits ++ best :: after.filter r.admits := by
    rw [List.filter_append, List.filter_cons_of_pos hadmits]
  -- A matching candidate that is taken as one of this source is eligible with its version.
  have heligible_of : ∀ a, r.admits a = true → ∀ w, Selectable.version? (make a) = some w →
      r.Eligible a w := by
    intro a ha w hw
    obtain ⟨w', hw'⟩ := Requirement.admits_iff.mp ha
    rw [hversion, hw'.version] at hw
    cases hw
    exact hw'
  refine ⟨?_, (before.filter r.admits).map make, (after.filter r.admits).map make ++ rest, v,
    ?_, ?_, ?_, ?_⟩
  · -- The part is not empty, so the listing starts with a candidate of this source.
    rw [hsplit, hname]
    cases before.filter r.admits <;> simp [hname]
  · simp [hsplit]
  · rw [hversion, heligible.version]
  · intro other hother hsource w hw
    rw [hname] at hsource
    rcases List.mem_append.mp hother with hmem | hmem
    · obtain ⟨a, ha, rfl⟩ := List.mem_map.mp hmem
      obtain ⟨hlist, hadmitted⟩ := List.mem_filter.mp ha
      exact hle a hlist w (heligible_of a hadmitted w hw)
    · exact absurd hsource (hrest other hmem)
  · intro other hother hsource w hw
    rw [hname] at hsource
    rcases List.mem_append.mp hother with hmem | hmem
    · obtain ⟨a, ha, rfl⟩ := List.mem_map.mp hmem
      obtain ⟨hafter, hadmitted⟩ := List.mem_filter.mp ha
      exact hlt a hafter w (heligible_of a hadmitted w hw)
    · exact absurd hsource (hrest other hmem)

/-- The matching parts of three lists, as they are listed. -/
def Requirement.listing (r : Requirement) (registered : List RegisteredJdk)
    (detected : List DetectedJdk) (catalog : List DownloadableJdk) : List Candidate :=
  (registered.filter r.admits).map .registered ++ (detected.filter r.admits).map .detected
    ++ (catalog.filter r.admits).map .downloadable

section Listing

variable (r : Requirement) (registered : List RegisteredJdk) (detected : List DetectedJdk)
  (catalog : List DownloadableJdk)

theorem Requirement.isListing_listing :
    r.IsListing registered detected catalog (r.listing registered detected catalog) :=
  ⟨_, _, _, rfl, r.isMatchingPart_filter registered, r.isMatchingPart_filter detected,
    r.isMatchingPart_filter catalog⟩

theorem Requirement.listing_eq_nil_iff :
    r.listing registered detected catalog = [] ↔
      r.Declines registered ∧ r.Declines detected ∧ r.Declines catalog := by
  simp only [listing, List.append_eq_nil_iff, List.map_eq_nil_iff, filter_admits_eq_nil_iff,
    and_assoc]

variable {r registered detected catalog}

/-- A listing starts with the registered JDKs. -/
theorem Candidate.picked_registered {jdk : RegisteredJdk} (h : r.Chooses registered jdk) :
    Picked (r.listing registered detected catalog) (.registered jdk) := by
  rw [Requirement.listing, List.append_assoc]
  -- What stands behind the part is of another source.
  refine picked_of_chooses (fun _ => rfl) (fun _ => rfl) (fun c hc => ?_) h
  rcases List.mem_append.mp hc with hc | hc
  · obtain ⟨other, -, rfl⟩ := List.mem_map.mp hc
    show "local" ≠ "registered"
    decide
  · obtain ⟨other, -, rfl⟩ := List.mem_map.mp hc
    show "download" ≠ "registered"
    decide

/-- Without registered JDKs a listing starts with the detected ones. -/
theorem Candidate.picked_detected {jdk : DetectedJdk} (hregistered : r.Declines registered)
    (h : r.Chooses detected jdk) :
    Picked (r.listing registered detected catalog) (.detected jdk) := by
  rw [Requirement.listing, Requirement.filter_admits_eq_nil_iff.mpr hregistered, List.map_nil,
    List.nil_append]
  refine picked_of_chooses (fun _ => rfl) (fun _ => rfl) (fun c hc => ?_) h
  obtain ⟨other, -, rfl⟩ := List.mem_map.mp hc
  show "download" ≠ "local"
  decide

/-- Without local JDKs a listing is that of the catalog. -/
theorem Candidate.picked_downloadable {jdk : DownloadableJdk} (hregistered : r.Declines registered)
    (hdetected : r.Declines detected) (h : r.Chooses catalog jdk) :
    Picked (r.listing registered detected catalog) (.downloadable jdk) := by
  have hlisting : r.listing registered detected catalog =
      (catalog.filter r.admits).map .downloadable ++ [] := by
    rw [Requirement.listing, Requirement.filter_admits_eq_nil_iff.mpr hregistered,
      Requirement.filter_admits_eq_nil_iff.mpr hdetected, List.map_nil, List.map_nil,
      List.nil_append, List.nil_append, List.append_nil]
  rw [hlisting]
  exact picked_of_chooses (fun _ => rfl) (fun _ => rfl) (by simp) h

variable (r registered detected catalog)

/-- Resolving a requirement and listing the candidates for it agree. -/
theorem Requirement.resolve_fitsListing :
    Outcome.FitsListing (r.resolve registered detected catalog)
      (r.listing registered detected catalog) := by
  -- The first list from which a candidate is chosen is the first one with a part in the listing.
  cases hregistered : r.bestMatch? registered with
  | some jdk =>
    have hresolve : r.resolve registered detected catalog =
        some (Candidate.registered jdk).outcome := by
      simp only [resolve, resolveLocal, hregistered, Candidate.outcome]
    exact .of_picked hresolve (Candidate.picked_registered (chooses_of_bestMatch? hregistered))
  | none =>
    have hdeclined := bestMatch?_eq_none_iff.mp hregistered
    cases hdetected : r.bestMatch? detected with
    | some jdk =>
      have hresolve : r.resolve registered detected catalog =
          some (Candidate.detected jdk).outcome := by
        simp only [resolve, resolveLocal, hregistered, hdetected, Option.map_some,
          Candidate.outcome]
      exact .of_picked hresolve
        (Candidate.picked_detected hdeclined (chooses_of_bestMatch? hdetected))
    | none =>
      -- No JDK on the machine meets the requirement, and what is left is the catalog.
      have hdeclined' := bestMatch?_eq_none_iff.mp hdetected
      have hresolve : r.resolve registered detected catalog =
          (r.bestMatch? catalog).map .download := by
        simp only [resolve, resolveLocal, hregistered, hdetected, Option.map_none, resolveDownload]
      cases hcatalog : r.bestMatch? catalog with
      | some jdk =>
        have hchosen : r.resolve registered detected catalog =
            some (Candidate.downloadable jdk).outcome := by
          rw [hresolve, hcatalog, Option.map_some, Candidate.outcome]
        exact .of_picked hchosen
          (Candidate.picked_downloadable hdeclined hdeclined' (chooses_of_bestMatch? hcatalog))
      | none =>
        -- All three lists decline, and the listing is empty.
        have hempty : r.listing registered detected catalog = [] :=
          (r.listing_eq_nil_iff registered detected catalog).mpr
            ⟨hdeclined, hdeclined', bestMatch?_eq_none_iff.mp hcatalog⟩
        rw [hcatalog] at hresolve
        rw [hresolve, hempty]
        exact .none_nil

end Listing

end JdkFinder
