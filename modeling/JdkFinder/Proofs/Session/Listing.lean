import JdkFinder.Proofs.Matching.Listing
import JdkFinder.Proofs.Session.Refinement

/-!
# Sessions list what they resolve to

A session that is asked both to resolve an SDK and to list the candidates for it gives answers that
agree, whichever call comes first: the outcome is the one that can be read off the listing.  The
second call may find lists that the first one has left, or lists of which the first had no need.
-/

namespace JdkFinder

variable {σ : Type} {c : Collaborators σ} {s t u : Session σ}

/-! ## §1 Listings for given lists -/

theorem Program.answerFor_candidates {registered : List RegisteredJdk} {detected : List DetectedJdk}
    {catalog : List DownloadableJdk} (parse? : UnknownSdk → Option Requirement) (sdk : UnknownSdk) :
    (candidates parse? sdk).answerFor registered detected catalog =
      .ok ((sdk.resolvableBy? parse?).elim [] (·.listing registered detected catalog)) := by
  rw [candidates, answerFor_withRequirement]
  cases sdk.resolvableBy? parse? <;> rfl

/-! ## §2 Two calls one after the other -/

theorem Session.Supplied.of_earlier {registered : List RegisteredJdk} {detected : List DetectedJdk}
    {catalog : List DownloadableJdk} (h : s.Supplied u registered detected catalog)
    (ht : t.Sound) (hu : u.Sound) (hgrows : t.Grows u) :
    s.Supplied t registered detected catalog := by
  refine ⟨?_, ?_, ?_, ?_⟩
  · intro hsince
    exact h.uncancelled (hsince.of_earlier hgrows)
  · intro reply hreply
    exact h.registered reply ((newEntries_of_earlier _ hgrows.replies).subset hreply)
  · -- What has been obtained by the first call is kept, so the second one has the same lists.
    intro list hlist
    have hkept := ht.detected.first_eq_kept.symm.trans hlist
    exact h.detected list (hu.detected.first_eq_kept.trans (hgrows.detected.kept list hkept))
  · intro list hlist
    have hkept := ht.catalog.first_eq_kept.symm.trans hlist
    exact h.catalog list (hu.catalog.first_eq_kept.trans (hgrows.catalog.kept list hkept))

theorem Session.Supplied.of_later {registered : List RegisteredJdk} {detected : List DetectedJdk}
    {catalog : List DownloadableJdk} (h : s.Supplied u registered detected catalog)
    (hgrows : s.Grows t) : t.Supplied u registered detected catalog := by
  refine ⟨?_, ?_, h.detected, h.catalog⟩
  · intro hsince
    exact h.uncancelled (hsince.of_later hgrows)
  · intro reply hreply
    exact h.registered reply ((newEntries_of_later hgrows.replies _).subset hreply)

/-- Two calls that follow one another both answer for the lists that the session was given. -/
theorem Session.Sound.answer_pair (hs : s.Sound) (first second : Call)
    {registered : List RegisteredJdk} {detected : List DetectedJdk} {catalog : List DownloadableJdk}
    (h : s.Supplied ((s.answer c first).2.answer c second).2 registered detected catalog) :
    (s.answer c first).1 =
        (first.programBy c.parse?).answerFor registered detected catalog ∧
      ((s.answer c first).2.answer c second).1 =
        (second.programBy c.parse?).answerFor registered detected catalog := by
  obtain ⟨hgrows, ht⟩ := hs.run (c := c) (first.programBy c.parse?)
  obtain ⟨hgrows', hu⟩ := ht.run (c := c) (second.programBy c.parse?)
  constructor
  · have hfirst := h.of_earlier ht hu hgrows'
    exact Program.run_eq_answerFor hs hfirst
  · have hsecond := h.of_later hgrows
    exact Program.run_eq_answerFor ht hsecond

/-! ## §3 Outcomes and listings -/

/-- The replies to resolving an SDK and to listing its candidates: the listing has all that meets
the requirement, and the outcome can be read off it. -/
def UnknownSdk.RepliesAgree (parse? : UnknownSdk → Option Requirement) (sdk : UnknownSdk)
    (registered : List RegisteredJdk) (detected : List DetectedJdk)
    (catalog : List DownloadableJdk) (resolved listed : Except Error Reply) : Prop :=
  ∃ outcome listing, resolved = .ok (.outcome outcome) ∧ listed = .ok (.candidates listing) ∧
    Outcome.FitsListing outcome listing ∧
    (sdk.resolvableBy? parse?).elim (listing = []) (·.IsListing registered detected catalog listing)

theorem UnknownSdk.repliesAgree (parse? : UnknownSdk → Option Requirement) (sdk : UnknownSdk)
    (registered : List RegisteredJdk) (detected : List DetectedJdk)
    (catalog : List DownloadableJdk) :
    sdk.RepliesAgree parse? registered detected catalog
      (((Call.resolve sdk).programBy parse?).answerFor registered detected catalog)
      (((Call.candidates sdk).programBy parse?).answerFor registered detected catalog) := by
  simp only [Call.programBy, Program.answerFor_map, Program.answerFor_resolve,
    Program.answerFor_candidates]
  refine ⟨_, _, rfl, rfl, ?_⟩
  cases sdk.resolvableBy? parse? with
  | none => exact ⟨.none_nil, rfl⟩
  | some r => exact ⟨r.resolve_fitsListing _ _ _, r.isListing_listing _ _ _⟩

/-- As long as there is no cancellation and the table gives the same list to both calls, the listing
and the outcome agree, whichever is asked for first. -/
theorem Session.Reached.listing_agrees_with_outcome (hs : s.Reached c) (sdk : UnknownSdk)
    (registered : List RegisteredJdk) (detected : List DetectedJdk)
    (catalog : List DownloadableJdk) :
    let resolved := s.answer c (.resolve sdk)
    let listedNext := resolved.2.answer c (.candidates sdk)
    let listed := s.answer c (.candidates sdk)
    let resolvedNext := listed.2.answer c (.resolve sdk)
    (s.Supplied listedNext.2 registered detected catalog →
      sdk.RepliesAgree c.parse? registered detected catalog resolved.1 listedNext.1) ∧
    (s.Supplied resolvedNext.2 registered detected catalog →
      sdk.RepliesAgree c.parse? registered detected catalog resolvedNext.1 listed.1) := by
  intro resolved listedNext listed resolvedNext
  -- In either order the second call finds the lists that the first one left.
  constructor
  · intro h
    obtain ⟨hfirst, hsecond⟩ := hs.sound.answer_pair _ _ h
    rw [hfirst, hsecond]
    exact sdk.repliesAgree c.parse? registered detected catalog
  · intro h
    obtain ⟨hfirst, hsecond⟩ := hs.sound.answer_pair _ _ h
    rw [hfirst, hsecond]
    exact sdk.repliesAgree c.parse? registered detected catalog

/-- The table breaks down both times, one JDK is found on the machine, and the catalog cannot be
fetched by the call that comes to need it. -/
theorem Session.lists_detected_jdk :
    let jdk : DetectedJdk := ⟨"/jdk", "17", .ofFeature 17, "jdk-17", none⟩
    let s := Session.start false (Script.mk [.crash] [.serve [jdk]] [.crash])
    let sdk : UnknownSdk := ⟨"17", .java⟩
    let resolved := s.answer Collaborators.scripted (.resolve sdk)
    let listed := s.answer Collaborators.scripted (.candidates sdk)
    s.Reached Collaborators.scripted ∧
      sdk.RepliesAgree UnknownSdk.requirement? [] [jdk] [] resolved.1
        (resolved.2.answer Collaborators.scripted (.candidates sdk)).1 ∧
      sdk.RepliesAgree UnknownSdk.requirement? [] [jdk] []
        (listed.2.answer Collaborators.scripted (.resolve sdk)).1 listed.1 := by
  intro jdk s sdk resolved listed
  have hs : s.Reached Collaborators.scripted := ⟨false, _, .refl⟩
  have hsdk : UnknownSdk.requirement? sdk = some ⟨.major 17, none⟩ := by decide +kernel
  have hparse : Collaborators.scripted.parse? = UnknownSdk.requirement? := rfl
  -- Both orders leave the same session.
  let failure : Except Error (List DownloadableJdk) := .error (.internal "the work broke down")
  let u : Session Script :=
    { s with
      replies := [.crashed, .crashed]
      detected :=
        ⟨some [jdk], [.begun (.pending false (.ready false (.ok [jdk]))), .ended (.ok [jdk])]⟩
      catalog := ⟨some [], [.begun (.ready false failure), .ended failure]⟩ }
  have hresolved : (resolved.2.answer Collaborators.scripted (.candidates sdk)).2 = u := by
    simp only [resolved, Session.answer, hparse, Call.programBy, Program.resolve, Program.localFix,
      Program.candidates, Program.withRequirement, hsdk]
    rfl
  have hlisted : (listed.2.answer Collaborators.scripted (.resolve sdk)).2 = u := by
    simp only [listed, Session.answer, hparse, Call.programBy, Program.resolve, Program.localFix,
      Program.candidates, Program.withRequirement, hsdk]
    rfl
  have hu : s.Supplied u [] [jdk] [] := by
    refine ⟨?_, ?_, ?_, ?_⟩
    · -- Nothing was cancelled in the session, and neither list was cut short.
      rintro (h | h | ⟨future, h, -⟩ | ⟨future, h, -⟩)
      · cases h
      · simp [u, s, Session.start, newEntries] at h
      · have hended := h.subset (List.mem_cons_of_mem _ (List.mem_singleton.mpr rfl))
        simp [u, s, Session.start, Memo.empty, newEntries] at hended
      · have hended := h.subset (List.mem_cons_of_mem _ (List.mem_singleton.mpr rfl))
        simp [u, s, Session.start, Memo.empty, newEntries, failure] at hended
    · -- The table gave nothing, the scan the JDK, and a fetch that failed is an empty catalog.
      intro reply hreply list hlist
      have hcrashed : reply = .crashed := by
        simpa [u, s, Session.start, newEntries] using hreply
      rw [hcrashed] at hlist
      exact Option.some.inj hlist
    · intro list hlist
      exact Option.some.inj hlist
    · intro list hlist
      exact Option.some.inj hlist
  obtain ⟨hfirst, hsecond⟩ := hs.listing_agrees_with_outcome sdk [] [jdk] []
  exact ⟨hs, hfirst (by rw [hresolved]; exact hu), hsecond (by rw [hlisted]; exact hu)⟩

end JdkFinder
