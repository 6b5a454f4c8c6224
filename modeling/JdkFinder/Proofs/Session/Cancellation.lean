import JdkFinder.Proofs.Session.Answer
import JdkFinder.Proofs.Session.History
import JdkFinder.Session.Script

/-!
# Errors of a session

A call fails with a cancellation only, and then there was one: of the token, or of a collaborator
that has answered so.  Once the token is cancelled, calls about an SDK fail at once and leave the
session as it is.
-/

namespace JdkFinder

variable {σ α β : Type} {c : Collaborators σ}

/-! ## §1 Programs that never fail -/

/-- A program that ends in no error of its own. -/
def Program.NeverFails : Program α → Prop
  | .done result => ∃ a, result = .ok a
  | .check next => next.NeverFails
  | .registered next => ∀ list, (next list).NeverFails
  | .detected next => ∀ list, (next list).NeverFails
  | .catalog next => ∀ list, (next list).NeverFails

namespace Program.NeverFails

theorem value (a : α) : (Program.value a).NeverFails :=
  ⟨a, rfl⟩

theorem bind {p : Program α} {next : α → Program β} (h : p.NeverFails)
    (hnext : ∀ a, (next a).NeverFails) : (p.bind next).NeverFails := by
  induction p with
  | done result =>
    obtain ⟨a, rfl⟩ := h
    exact hnext a
  | check rest ih => exact ih h
  | registered rest ih => exact fun list => ih list (h list)
  | detected rest ih => exact fun list => ih list (h list)
  | catalog rest ih => exact fun list => ih list (h list)

theorem map {p : Program α} (h : p.NeverFails) (f : α → β) : (p.map f).NeverFails :=
  h.bind fun a => value (f a)

variable {parse? : UnknownSdk → Option Requirement}

theorem withRequirement {declined : α} {next : Requirement → Program α}
    (h : ∀ r, (next r).NeverFails) (sdk : UnknownSdk) :
    (Program.withRequirement parse? sdk declined next).NeverFails := by
  simp only [Program.withRequirement, NeverFails]
  split
  · split
    · exact h _
    · exact value _
  · exact value _

theorem localFix (sdk : UnknownSdk) : (Program.localFix parse? sdk).NeverFails := by
  refine withRequirement (fun r => ?_) sdk
  intro registered
  dsimp only
  split
  · exact value _
  · exact fun detected => value _

theorem download (sdk : UnknownSdk) : (Program.download parse? sdk).NeverFails := by
  refine withRequirement (fun r => ?_) sdk
  exact fun catalog => value _

theorem resolve (sdk : UnknownSdk) : (Program.resolve parse? sdk).NeverFails := by
  refine (localFix sdk).bind fun fix => ?_
  cases fix with
  | some fix => exact value _
  | none =>
    -- Without a proposal on this machine the search for a download goes on.
    exact (download sdk).map _

theorem candidates (sdk : UnknownSdk) : (Program.candidates parse? sdk).NeverFails := by
  refine withRequirement (fun r => ?_) sdk
  exact fun registered detected catalog => value _

theorem answers {p : Program α} (h : p.NeverFails) {tables : List RegisteredJdk → Prop}
    {detected : List DetectedJdk} {catalog : List DownloadableJdk} {r : Except Error α}
    (hr : p.AnswersFrom tables detected catalog r) : ∃ a, r = .ok a := by
  induction p with
  | done result =>
    obtain ⟨a, rfl⟩ := h
    exact ⟨a, hr⟩
  | check rest ih => exact ih h hr
  | registered rest ih =>
    obtain ⟨list, -, hrest⟩ := hr
    exact ih list (h list) hrest
  | detected rest ih => exact ih detected (h detected) hr
  | catalog rest ih => exact ih catalog (h catalog) hr

end Program.NeverFails

theorem Call.neverFails (parse? : UnknownSdk → Option Requirement) (call : Call) :
    (call.programBy parse?).NeverFails := by
  cases call with
  | localFix sdk => exact (Program.NeverFails.localFix sdk).map _
  | download sdk => exact (Program.NeverFails.download sdk).map _
  | resolve sdk => exact (Program.NeverFails.resolve sdk).map _
  | candidates sdk => exact (Program.NeverFails.candidates sdk).map _
  | registered => exact fun list => ⟨_, rfl⟩
  | detected => exact fun list => ⟨_, rfl⟩
  | catalog => exact fun list => ⟨_, rfl⟩

/-! ## §2 Calls about an SDK -/

/-- The SDK that a call is about. -/
def Call.sdk? : Call → Option UnknownSdk
  | localFix sdk => some sdk
  | download sdk => some sdk
  | resolve sdk => some sdk
  | candidates sdk => some sdk
  | registered => none
  | detected => none
  | catalog => none

/-- A call about an SDK looks at the token before anything else. -/
theorem Call.exists_check (parse? : UnknownSdk → Option Requirement) {call : Call}
    {sdk : UnknownSdk} (h : call.sdk? = some sdk) :
    ∃ next, call.programBy parse? = .check next := by
  cases call with
  | localFix => exact ⟨_, rfl⟩
  | download => exact ⟨_, rfl⟩
  | resolve => exact ⟨_, rfl⟩
  | candidates => exact ⟨_, rfl⟩
  | registered => cases h
  | detected => cases h
  | catalog => cases h

theorem Session.answer_of_cancelled {s : Session σ} (hs : s.cancelled = true) {call : Call}
    {sdk : UnknownSdk} (h : call.sdk? = some sdk) : s.answer c call = (.error .cancelled, s) := by
  obtain ⟨next, hcall⟩ := call.exists_check c.parse? h
  rw [answer, hcall, Program.run, hs]
  rfl

theorem SharedSession.advance_of_cancelled {w : SharedSession σ} (hw : w.session.cancelled = true)
    {call : Call} {sdk : UnknownSdk} (h : call.sdk? = some sdk) :
    (call.programBy c.parse?).advance c w = (.finished (.error .cancelled), w) := by
  obtain ⟨next, hcall⟩ := call.exists_check c.parse? h
  rw [hcall, Program.advance, hw]
  rfl

/-! ## §3 Errors of a session -/

/-- The lists that the session keeps agree with it, whatever the table gives. -/
theorem Session.agrees_kept (s t : Session σ) :
    s.Agrees t (fun _ => True) (t.detected.kept.getD []) (t.catalog.kept.getD []) := by
  refine ⟨fun _ _ _ _ => trivial, fun list hkept => ?_, fun list hkept => ?_⟩
  · rw [hkept, Option.getD_some]
  · rw [hkept, Option.getD_some]

/-- Calls, one after the other or at the same time, give a reply or else were cancelled; and from
the cancellation of the token on, whatever happens, a call about an SDK fails and changes
nothing. -/
theorem Session.Reached.errors_are_cancellations {s : Session σ} (hs : s.Reached c) :
    (∀ call, (∃ reply, (s.answer c call).1 = .ok reply) ∨
      s.Aborts (s.answer c call).2 (s.answer c call).1) ∧
    (∀ calls schedule (index : Nat) (r : Except Error Reply),
      let w := s.together c calls schedule
      w.activities[index]? = some (.finished r) →
      (∃ reply, r = .ok reply) ∨ s.Aborts w.shared.session r) ∧
    (s.cancelled = true → ∀ t, s.LeadsTo c t → ∀ (call : Call) (sdk : UnknownSdk),
      call.sdk? = some sdk → t.answer c call = (.error .cancelled, t)) ∧
    (∀ calls schedule later, (s.together c calls schedule).shared.session.cancelled = true →
      let w := (s.together c calls (schedule ++ later)).shared
      ∀ (call : Call) (sdk : UnknownSdk), call.sdk? = some sdk →
        (call.programBy c.parse?).advance c w = (.finished (.error .cancelled), w)) := by
  refine ⟨?_, ?_, ?_, ?_⟩
  · intro call
    exact (Program.run_answersFrom hs.sound _ (s.agrees_kept _)).imp_left
      (call.neverFails c.parse?).answers
  · intro calls schedule index r w hr
    obtain ⟨call, -, hp⟩ := Session.exists_call hr
    exact (Concurrence.answersFrom hs.sound hp hr (s.agrees_kept _)).imp_left
      (call.neverFails c.parse?).answers
  · intro hcancelled t ht call sdk h
    exact answer_of_cancelled ((ht.grows hs.sound).1.cancelled hcancelled) h
  · intro calls schedule later hcancelled w call sdk h
    obtain ⟨-, hconsistent⟩ := Concurrence.after_consistent (c := c)
      (Concurrence.start_consistent hs.sound (calls.map (·.programBy c.parse?))) schedule
    -- The token stays cancelled, whatever the later turns are.
    refine SharedSession.advance_of_cancelled ?_ h
    simp only [w, together, Concurrence.after_append]
    exact (Concurrence.after_consistent hconsistent later).1.cancelled hcancelled

/-- A table that breaks down counts as empty; a scan that cancels the token and still gives a list
has given it, but calls about an SDK fail from then on. -/
theorem Session.downloads_fail_after_scan :
    let s := Session.start false (Script.mk [.crash] [.cancelThenServe []] [])
    let t := s.afterCalls Collaborators.scripted [.registered, .detected]
    t.Reached Collaborators.scripted ∧ t.cancelled = true ∧ t.detected.kept = some [] ∧
      ∀ sdk, t.answer Collaborators.scripted (.download sdk) = (.error .cancelled, t) := by
  intro s t
  have ht : t.Reached Collaborators.scripted :=
    ⟨false, _, .answer .detected (.answer .registered .refl)⟩
  obtain ⟨-, -, hcancelled, -⟩ := ht.errors_are_cancellations
  exact ⟨ht, rfl, rfl, fun sdk => hcancelled rfl t .refl (.download sdk) sdk rfl⟩
end JdkFinder
