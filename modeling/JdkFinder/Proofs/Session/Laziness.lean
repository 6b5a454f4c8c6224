import JdkFinder.Proofs.Matching.Selection
import JdkFinder.Proofs.Session.Effects

/-!
# Calls ask for no more than they need

A call that resolves an SDK asks for a list only if the lists before it have nothing that meets the
requirement, and a call that is declined or cancelled from the start asks for nothing at all.
`UnknownSdk.Frugal` bounds what resolving an SDK may ask for.
-/

namespace JdkFinder

variable {σ α : Type} {c : Collaborators σ}

/-! ## §1 Resolving an SDK -/

/-- What a call that resolves an SDK may ask for: `cancelled` tells whether the token was cancelled
when the call began, and `kept` are the JDKs on the machine that are known when it has ended. -/
structure UnknownSdk.Frugal (parse? : UnknownSdk → Option Requirement) (sdk : UnknownSdk)
    (cancelled : Bool) (kept : Option (List DetectedJdk)) (e : Effects) : Prop where
  declined : sdk.resolvableBy? parse? = none → e = .none
  cancelled : cancelled = true → e = .none
  looks : e.replies.length ≤ 1
  registered : ∀ r reply list, sdk.resolvableBy? parse? = some r → reply ∈ e.replies →
    reply.served? = some list → ¬ r.Declines list → e.scans = 0 ∧ e.fetches = 0
  detected : ∀ r list, sdk.resolvableBy? parse? = some r → kept = some list →
    ¬ r.Declines list → e.fetches = 0

section Calls

variable {β : Type} {parse? : UnknownSdk → Option Requirement} {sdk : UnknownSdk}
  {detected : List DetectedJdk} {e : Effects}

theorem Program.invokes_of_map {f : α → β} {p : Program α} (h : (p.map f).Invokes detected e) :
    p.Invokes detected e := by
  -- On the program: mapping the result changes no question.
  induction p generalizing e with
  | done result => cases result <;> exact h
  | check next ih => exact h.imp_right ih
  | registered next ih =>
    refine h.imp_right ?_
    rintro ⟨reply, rest, rfl, hrest⟩
    refine ⟨reply, rest, rfl, hrest.imp_right ?_⟩
    rintro ⟨list, hlist, hnext⟩
    exact ⟨list, hlist, ih list hnext⟩
  | detected next ih =>
    obtain ⟨n, hn, rest, rfl, hrest⟩ := h
    exact ⟨n, hn, rest, rfl, ih detected hrest⟩
  | catalog next ih =>
    obtain ⟨n, hn, rest, list, rfl, hrest⟩ := h
    exact ⟨n, hn, rest, list, rfl, ih list hrest⟩

theorem Program.withRequirement_of_none (h : sdk.resolvableBy? parse? = none) (declined : α)
    (next : Requirement → Program α) :
    withRequirement parse? sdk declined next = .check (.value declined) := by
  rw [UnknownSdk.resolvableBy?] at h
  rw [withRequirement]
  split at h
  · rw [if_pos ‹_›, h]
  · rw [if_neg ‹_›]

theorem Program.withRequirement_of_some {r : Requirement} (h : sdk.resolvableBy? parse? = some r)
    (declined : α) (next : Requirement → Program α) :
    withRequirement parse? sdk declined next = .check (next r) := by
  rw [UnknownSdk.resolvableBy?] at h
  rw [withRequirement]
  split at h
  · rw [if_pos ‹_›, h]
  · cases h

theorem Program.invokes_resolve_of_none (hsdk : sdk.resolvableBy? parse? = none)
    (h : (resolve parse? sdk).Invokes detected e) : e = .none := by
  rw [resolve, localFix, download, withRequirement_of_none hsdk, withRequirement_of_none hsdk] at h
  -- Both parts of the call look at the token and decline the SDK.
  rcases h with h | h | h
  all_goals exact h

/-- The call ends with the table unless that declines, and asks for no more than the JDKs on the
machine unless they decline as well. -/
theorem Program.invokes_resolve_of_some {r : Requirement} (hsdk : sdk.resolvableBy? parse? = some r)
    (h : (resolve parse? sdk).Invokes detected e) :
    e = .none ∨ ∃ reply, e = ⟨[reply], 0, 0⟩ ∨ ∃ list, reply.served? = some list ∧
      r.Declines list ∧ ∃ scans fetches, e = ⟨[reply], scans, fetches⟩ ∧
        (fetches = 0 ∨ r.Declines detected) := by
  rw [resolve, localFix, withRequirement_of_some hsdk] at h
  rcases h with h | h | ⟨reply, rest, rfl, hrest⟩
  · exact .inl h
  · exact .inl h
  refine .inr ⟨reply, ?_⟩
  rcases hrest with rfl | ⟨list, hserved, hnext⟩
  · exact .inl rfl
  dsimp only at hnext
  cases hlist : r.bestMatch? list with
  | some jdk =>
    rw [hlist] at hnext
    cases hnext
    exact .inl rfl
  | none =>
    rw [hlist] at hnext
    obtain ⟨scans, -, later, rfl, hlater⟩ := hnext
    refine .inr ⟨list, hserved, Requirement.bestMatch?_eq_none_iff.mp hlist, ?_⟩
    dsimp only at hlater
    cases hdetected : r.bestMatch? detected with
    | some jdk =>
      rw [hdetected] at hlater
      cases hlater
      exact ⟨scans, 0, by simp [Effects.followedBy, Effects.none], .inl rfl⟩
    | none =>
      -- The search for a download reads the requirement once more.
      rw [hdetected] at hlater
      have hdownload := invokes_of_map hlater
      rw [download, withRequirement_of_some hsdk] at hdownload
      rcases hdownload with rfl | ⟨fetches, -, last, catalog, rfl, hlast⟩
      · exact ⟨scans, 0, by simp [Effects.followedBy, Effects.none], .inl rfl⟩
      · cases hlast
        refine ⟨scans, fetches, by simp [Effects.followedBy, Effects.none], .inr ?_⟩
        exact Requirement.bestMatch?_eq_none_iff.mp hdetected

theorem Program.invokes_download (h : (download parse? sdk).Invokes detected e) :
    e.replies = [] ∧ e.scans = 0 := by
  cases hsdk : sdk.resolvableBy? parse? with
  | none =>
    rw [download, withRequirement_of_none hsdk] at h
    rcases h with rfl | rfl
    all_goals exact ⟨rfl, rfl⟩
  | some r =>
    rw [download, withRequirement_of_some hsdk] at h
    rcases h with rfl | ⟨fetches, -, last, catalog, rfl, hlast⟩
    · exact ⟨rfl, rfl⟩
    · cases hlast
      exact ⟨rfl, rfl⟩

theorem UnknownSdk.frugal_of_invokes {cancelled : Bool} {kept : Option (List DetectedJdk)}
    (hcancelled : cancelled = true → e = .none)
    (h : (Program.resolve parse? sdk).Invokes (kept.getD []) e) :
    sdk.Frugal parse? cancelled kept e := by
  refine ⟨fun hsdk => Program.invokes_resolve_of_none hsdk h, hcancelled, ?_, ?_, ?_⟩
  · cases hsdk : sdk.resolvableBy? parse? with
    | none =>
      rw [Program.invokes_resolve_of_none hsdk h]
      exact Nat.zero_le 1
    | some r =>
      rcases Program.invokes_resolve_of_some hsdk h with
        rfl | ⟨reply, rfl | ⟨list, -, -, scans, fetches, rfl, -⟩⟩
      · exact Nat.zero_le 1
      · exact Nat.le_refl 1
      · exact Nat.le_refl 1
  · intro r reply list hsdk hreply hserved hmatches
    rcases Program.invokes_resolve_of_some hsdk h with
      rfl | ⟨reply', rfl | ⟨list', hserved', hdeclines, scans, fetches, rfl, -⟩⟩
    · exact ⟨rfl, rfl⟩
    · exact ⟨rfl, rfl⟩
    · -- The only look at the table has given this list, and nothing on it meets the requirement.
      cases List.mem_singleton.mp hreply
      cases hserved.symm.trans hserved'
      exact absurd hdeclines hmatches
  · intro r list hsdk hkept hmatches
    rcases Program.invokes_resolve_of_some hsdk h with
      rfl | ⟨reply, rfl | ⟨-, -, -, scans, fetches, rfl, hfetches⟩⟩
    · rfl
    · rfl
    · rw [hkept, Option.getD_some] at hfetches
      exact hfetches.resolve_right hmatches

end Calls

/-- What answering a call asks of the collaborators. -/
def Session.effectsOf (c : Collaborators σ) (s : Session σ) (call : Call) : Effects :=
  s.effects (s.answer c call).2

/-- However a session was used before, and whatever else goes on in it, resolving an SDK asks for no
more than it needs; proposing a download asks for neither the table nor a scan. -/
theorem Session.Reached.resolves_lazily {s : Session σ} (hs : s.Reached c) (sdk : UnknownSdk) :
    sdk.Frugal c.parse? s.cancelled (s.answer c (.resolve sdk)).2.detected.kept
      (s.effectsOf c (.resolve sdk)) ∧
    ((s.effectsOf c (.download sdk)).replies = [] ∧ (s.effectsOf c (.download sdk)).scans = 0) ∧
    ∀ calls schedule index,
      let w := Concurrence.start (calls.map (·.programBy c.parse?)) s
      (calls[index]? = some (.resolve sdk) →
        sdk.Frugal c.parse? (w.beginsCancelled c index schedule)
          (s.together c calls schedule).shared.session.detected.kept
          (w.effectsOf c index schedule)) ∧
      (calls[index]? = some (.download sdk) →
        (w.effectsOf c index schedule).replies = [] ∧
          (w.effectsOf c index schedule).scans = 0) := by
  refine ⟨?_, ?_, ?_⟩
  · -- A call on its own, whose effects are those of its program.
    refine UnknownSdk.frugal_of_invokes ?_ ?_
    · intro hcancelled
      rw [effectsOf, answer_of_cancelled hcancelled rfl, effects_self]
    · exact Program.invokes_of_map (Program.invokes_of_run hs.sound _)
  · exact Program.invokes_download (Program.invokes_of_map (Program.invokes_of_run hs.sound _))
  · -- Among other calls the effects are followed over every step of the schedule.
    intro calls schedule index w
    have hw : w.Consistent := Concurrence.start_consistent hs.sound _
    have hactivity : ∀ call, calls[index]? = some call →
        w.activities[index]? = some (.standing (call.programBy c.parse?)) := by
      intro call hcall
      simp [w, Concurrence.start, hcall]
    constructor
    · intro hcall
      have ha := hactivity _ hcall
      refine UnknownSdk.frugal_of_invokes ?_ ?_
      · -- A call that begins after the cancellation is ended by its first check.
        intro hcancelled
        obtain ⟨next, hnext⟩ := (Call.resolve sdk).exists_check c.parse? rfl
        rw [hnext] at ha
        exact Concurrence.effectsOf_of_beginsCancelled hw ha hcancelled
      · exact Program.invokes_of_map (Concurrence.invokes_kept hw schedule ha)
    · intro hcall
      have ha := hactivity _ hcall
      exact Program.invokes_download (Program.invokes_of_map
        (Concurrence.invokes_kept hw schedule ha))

/-- The table breaks down, a JDK is found on the machine, and the catalog is left alone. -/
theorem Session.resolves_without_fetch :
    let jdk : DetectedJdk := ⟨"/jdk", "17", .ofFeature 17, "jdk-17", none⟩
    let s := Session.start false (Script.mk [.crash] [.serve [jdk]] [])
    let sdk : UnknownSdk := ⟨"17", .java⟩
    let e := s.effectsOf Collaborators.scripted (.resolve sdk)
    s.Reached Collaborators.scripted ∧ e = ⟨[.crashed], 1, 0⟩ ∧
      sdk.Frugal UnknownSdk.requirement? false (some [jdk]) e := by
  intro jdk s sdk e
  have hs : s.Reached Collaborators.scripted := ⟨false, _, .refl⟩
  have hsdk : UnknownSdk.requirement? sdk = some ⟨.major 17, none⟩ := by decide +kernel
  have hparse : Collaborators.scripted.parse? = UnknownSdk.requirement? := rfl
  -- The whole answer is evaluated: the table crashes, and the scan gives the JDK.
  have hanswer : (s.answer Collaborators.scripted (.resolve sdk)).2 =
      { s with
        replies := [.crashed]
        detected := ⟨some [jdk],
          [.begun (.pending false (.ready false (.ok [jdk]))), .ended (.ok [jdk])]⟩ } := by
    rw [Session.answer]
    simp only [hparse, Call.programBy, Program.resolve, Program.localFix, Program.withRequirement,
      hsdk]
    rfl
  obtain ⟨hfrugal, -⟩ := hs.resolves_lazily sdk
  rw [hanswer] at hfrugal
  refine ⟨hs, ?_, hfrugal⟩
  simp only [e, effectsOf, hanswer]
  rfl

end JdkFinder
