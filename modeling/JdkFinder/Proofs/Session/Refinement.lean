import JdkFinder.Proofs.Session.Answer
import JdkFinder.Proofs.Session.History
import JdkFinder.Session.Script

/-!
# Sessions and the pure matcher

Unless it is cancelled, a session answers what the pure functions on the three lists give: the
registered JDKs are those that the table serves during the call, the others are those that the first
finished scan and the first finished fetch have left.

- `Program.answerFor` evaluates a program for three lists; of the calls about an SDK it gives what
  the pure functions give.
- `Program.LooksAtMost` bounds the looks at the table.
- `Session.Supplied` says which lists a session was given.
-/

namespace JdkFinder

variable {σ α β : Type} {c : Collaborators σ}

/-! ## §1 Programs for given lists -/

section Evaluation

variable (registered : List RegisteredJdk) (detected : List DetectedJdk)
  (catalog : List DownloadableJdk)

/-- What a program answers when it is given these lists and no cancellation. -/
def Program.answerFor : Program α → Except Error α
  | .done result => result
  | .check next => next.answerFor
  | .registered next => (next registered).answerFor
  | .detected next => (next detected).answerFor
  | .catalog next => (next catalog).answerFor

variable {registered detected catalog}

theorem Program.answerFor_of_answersFrom {p : Program α} {r : Except Error α}
    (h : p.AnswersFrom (registered = ·) detected catalog r) :
    r = p.answerFor registered detected catalog := by
  induction p with
  | done result => exact h
  | check next ih => exact ih h
  | registered next ih =>
    obtain ⟨list, rfl, hnext⟩ := h
    exact ih registered hnext
  | detected next ih => exact ih detected h
  | catalog next ih => exact ih catalog h

theorem Program.answerFor_bind (p : Program α) (next : α → Program β) :
    (p.bind next).answerFor registered detected catalog =
      (p.answerFor registered detected catalog).bind
        fun a => (next a).answerFor registered detected catalog := by
  induction p with
  | done result => cases result <;> rfl
  | check rest ih => exact ih
  | registered rest ih => exact ih registered
  | detected rest ih => exact ih detected
  | catalog rest ih => exact ih catalog

theorem Program.answerFor_map (f : α → β) (p : Program α) :
    (p.map f).answerFor registered detected catalog =
      (p.answerFor registered detected catalog).map f := by
  rw [Program.map, answerFor_bind]
  cases p.answerFor registered detected catalog <;> rfl

end Evaluation

/-! ## §2 Requirements of SDKs -/

/-- The requirement that an SDK states, as `parse?` reads it, if SDKs of its kind can be
resolved. -/
def UnknownSdk.resolvableBy? (parse? : UnknownSdk → Option Requirement) (sdk : UnknownSdk) :
    Option Requirement :=
  if sdk.kind = .java then parse? sdk else none

/-- The requirement that an SDK states, if SDKs of its kind can be resolved. -/
def UnknownSdk.resolvable? (sdk : UnknownSdk) : Option Requirement :=
  if sdk.kind = .java then sdk.requirement? else none

section Calls

variable {registered : List RegisteredJdk} {detected : List DetectedJdk}
  {catalog : List DownloadableJdk} (parse? : UnknownSdk → Option Requirement) (sdk : UnknownSdk)

theorem Program.answerFor_withRequirement (declined : α) (next : Requirement → Program α) :
    (withRequirement parse? sdk declined next).answerFor registered detected catalog =
      (sdk.resolvableBy? parse?).elim (.ok declined)
        fun r => (next r).answerFor registered detected catalog := by
  simp only [withRequirement, answerFor, UnknownSdk.resolvableBy?]
  split
  · cases parse? sdk <;> rfl
  · rfl

theorem Program.answerFor_localFix :
    (localFix parse? sdk).answerFor registered detected catalog =
      .ok ((sdk.resolvableBy? parse?).bind (·.resolveLocal registered detected)) := by
  rw [localFix, answerFor_withRequirement]
  cases sdk.resolvableBy? parse? with
  | none => rfl
  | some r =>
    simp only [Option.elim_some, answerFor, Option.bind_some, Requirement.resolveLocal]
    cases r.bestMatch? registered <;> rfl

theorem Program.answerFor_download :
    (download parse? sdk).answerFor registered detected catalog =
      .ok ((sdk.resolvableBy? parse?).bind (·.resolveDownload catalog)) := by
  rw [download, answerFor_withRequirement]
  cases sdk.resolvableBy? parse? <;> rfl

theorem Program.answerFor_resolve :
    (resolve parse? sdk).answerFor registered detected catalog =
      .ok ((sdk.resolvableBy? parse?).bind (·.resolve registered detected catalog)) := by
  rw [resolve, answerFor_bind, answerFor_localFix]
  cases hsdk : sdk.resolvableBy? parse? with
  | none =>
    -- The search for a download declines the SDK once more.
    simp only [Option.bind_none, Except.bind]
    rw [answerFor_map, answerFor_download, hsdk]
    rfl
  | some r =>
    simp only [Option.bind_some, Except.bind, Requirement.resolve]
    cases r.resolveLocal registered detected with
    | some fix => rfl
    | none =>
      rw [answerFor_map, answerFor_download, hsdk]
      rfl

end Calls

/-! ## §3 Looks at the table -/

/-- A program that reads the table `n` times at most. -/
def Program.LooksAtMost : Nat → Program α → Prop
  | _, .done _ => True
  | n, .check next => next.LooksAtMost n
  | n, .registered next => ∃ k, n = k + 1 ∧ ∀ list, (next list).LooksAtMost k
  | n, .detected next => ∀ list, (next list).LooksAtMost n
  | n, .catalog next => ∀ list, (next list).LooksAtMost n

namespace Program.LooksAtMost

theorem bind {m n : Nat} {p : Program α} {next : α → Program β} (h : p.LooksAtMost m)
    (hnext : ∀ k a, (next a).LooksAtMost (k + n)) : (p.bind next).LooksAtMost (m + n) := by
  induction p generalizing m with
  | done result =>
    cases result with
    | ok a => exact hnext m a
    | error e => exact trivial
  | check rest ih => exact ih h
  | registered rest ih =>
    obtain ⟨k, rfl, hrest⟩ := h
    exact ⟨k + n, by omega, fun list => ih list (hrest list)⟩
  | detected rest ih => exact fun list => ih list (h list)
  | catalog rest ih => exact fun list => ih list (h list)

theorem map {n : Nat} {p : Program α} (h : p.LooksAtMost n) (f : α → β) :
    (p.map f).LooksAtMost n :=
  h.bind (n := 0) fun _ _ => trivial

variable {parse? : UnknownSdk → Option Requirement}

theorem withRequirement {n : Nat} {declined : α} {next : Requirement → Program α}
    (h : ∀ r, (next r).LooksAtMost n) (sdk : UnknownSdk) :
    (Program.withRequirement parse? sdk declined next).LooksAtMost n := by
  simp only [Program.withRequirement, LooksAtMost]
  split
  · split
    · exact h _
    · exact trivial
  · exact trivial

theorem localFix (sdk : UnknownSdk) : (Program.localFix parse? sdk).LooksAtMost 1 := by
  refine withRequirement (fun r => ?_) sdk
  refine ⟨0, rfl, fun registered => ?_⟩
  dsimp only
  split
  · exact trivial
  · exact fun detected => trivial

theorem download (n : Nat) (sdk : UnknownSdk) : (Program.download parse? sdk).LooksAtMost n := by
  refine withRequirement (fun r => ?_) sdk
  exact fun catalog => trivial

theorem resolve (sdk : UnknownSdk) : (Program.resolve parse? sdk).LooksAtMost 1 := by
  refine (localFix sdk).bind (n := 0) fun k fix => ?_
  cases fix with
  | some fix => exact trivial
  | none => exact (download _ sdk).map _

/-- Each look leaves one reply. -/
theorem run {n : Nat} {p : Program α} (h : p.LooksAtMost n) (s : Session σ) :
    ∃ added, (p.run c s).2.replies = s.replies ++ added ∧ added.length ≤ n := by
  induction p generalizing n s with
  | done result => exact ⟨[], by simp [Program.run], by simp⟩
  | check next ih =>
    simp only [Program.run]
    split
    · exact ⟨[], by simp, by simp⟩
    · exact ih h s
  | registered next ih =>
    obtain ⟨k, rfl, hnext⟩ := h
    -- The look leaves its reply even when it fails, and then the program ends.
    have hreplies : (s.readTable c).2.replies =
        s.replies ++ [(c.readTable s.cancelled s.world).1.1] := rfl
    simp only [Program.run]
    rcases hread : s.readTable c with ⟨e | list, s'⟩
    all_goals rw [hread] at hreplies
    · exact ⟨_, hreplies, by simp⟩
    · obtain ⟨added, hadded, hlength⟩ := ih list (hnext list) s'
      refine ⟨(c.readTable s.cancelled s.world).1.1 :: added, ?_, Nat.succ_le_succ hlength⟩
      rw [hadded, hreplies, List.append_assoc, List.singleton_append]
  | detected next ih =>
    have hreplies : (s.detectedJdks c).2.replies = s.replies := rfl
    simp only [Program.run]
    rcases hask : s.detectedJdks c with ⟨e | list, s'⟩
    all_goals rw [hask] at hreplies
    · exact ⟨[], by simpa using hreplies, by simp⟩
    · rw [← hreplies]
      exact ih list (h list) s'
  | catalog next ih =>
    have hreplies : (s.catalogJdks c).2.replies = s.replies := rfl
    simp only [Program.run]
    rcases hask : s.catalogJdks c with ⟨e | list, s'⟩
    all_goals rw [hask] at hreplies
    · exact ⟨[], by simpa using hreplies, by simp⟩
    · rw [← hreplies]
      exact ih list (h list) s'

end Program.LooksAtMost

/-! ## §4 First finished attempts -/

/-- The list that a finished attempt has left. -/
def MemoEvent.left? : MemoEvent α → Option (List α)
  | begun _ => none
  | ended result => finishedList? result

/-- The list that the first attempt to finish has left. -/
def Memo.first? (m : Memo α) : Option (List α) :=
  m.history.findSome? MemoEvent.left?

/-- The list that has been obtained. -/
def MemoStage.list? : MemoStage α → Option (List α)
  | .open => none
  | .underway _ => none
  | .obtained list => some list

theorem OnceHistory.findSome?_left {cancelled : Bool} {stage : MemoStage α}
    {history : List (MemoEvent α)} (h : OnceHistory cancelled stage history) :
    history.findSome? MemoEvent.left? = stage.list? := by
  induction h with
  | nil => rfl
  | begun future _ ih => rw [List.findSome?_append, ih]; rfl
  | lost _ _ ih => rw [List.findSome?_append, ih]; rfl
  | won _ _ hlist ih =>
    rw [List.findSome?_append, ih]
    simp only [MemoStage.list?, Option.none_or, List.findSome?_singleton, MemoEvent.left?, hlist]

theorem Supply.Consistent.first_eq_kept {p : Supply σ α} {futures : List (Future (List α))}
    (h : p.Consistent futures) : p.memo.first? = p.memo.kept := by
  cases h with
  | resting _ hhistory =>
    rw [Memo.first?, hhistory.findSome?_left]
    cases p.memo.kept <;> rfl
  | underway _ hkept _ hhistory =>
    rw [Memo.first?, hhistory.findSome?_left, hkept]
    rfl

/-! ## §5 Calls that are not cancelled -/

/-- Since `s` there was no cancellation, and these are the lists that the session was given: the
first by the table since `s`, the others by the first finished scan and the first finished fetch.  A
list that the session was not given may be any list. -/
structure Session.Supplied (s t : Session σ) (registered : List RegisteredJdk)
    (detected : List DetectedJdk) (catalog : List DownloadableJdk) : Prop where
  uncancelled : ¬ s.CancelledSince t
  registered : ∀ reply ∈ newEntries s.replies t.replies, ∀ list,
    reply.served? = some list → registered = list
  detected : ∀ list, t.detected.first? = some list → detected = list
  catalog : ∀ list, t.catalog.first? = some list → catalog = list

/-- The call reads the table once at most, and without a cancellation it gives the reply for the
lists that the session was given. -/
def Session.Yields (c : Collaborators σ) (s : Session σ) (call : Call)
    (reply : List RegisteredJdk → List DetectedJdk → List DownloadableJdk → Reply) : Prop :=
  (newEntries s.replies (s.answer c call).2.replies).length ≤ 1 ∧
    ∀ registered detected catalog, s.Supplied (s.answer c call).2 registered detected catalog →
      (s.answer c call).1 = .ok (reply registered detected catalog)

theorem Program.run_eq_answerFor {s : Session σ} (hs : s.Sound) {p : Program α}
    {registered : List RegisteredJdk} {detected : List DetectedJdk} {catalog : List DownloadableJdk}
    (h : s.Supplied (p.run c s).2 registered detected catalog) :
    (p.run c s).1 = p.answerFor registered detected catalog := by
  obtain ⟨-, hsound⟩ := hs.run (c := c) p
  have hagrees : s.Agrees (p.run c s).2 (registered = ·) detected catalog := by
    -- What is kept is what the first attempt to finish has left.
    refine ⟨h.registered, ?_, ?_⟩
    · intro list hkept
      exact h.detected list (hsound.detected.first_eq_kept.trans hkept)
    · intro list hkept
      exact h.catalog list (hsound.catalog.first_eq_kept.trans hkept)
  refine answerFor_of_answersFrom ((run_answersFrom hs p hagrees).resolve_right fun habort => ?_)
  exact h.uncancelled habort.2

theorem Session.Sound.yields {s : Session σ} (hs : s.Sound) {call : Call}
    {reply : List RegisteredJdk → List DetectedJdk → List DownloadableJdk → Reply}
    (hlooks : (call.programBy c.parse?).LooksAtMost 1)
    (hreply : ∀ registered detected catalog,
      (call.programBy c.parse?).answerFor registered detected catalog =
        .ok (reply registered detected catalog)) : s.Yields c call reply := by
  refine ⟨?_, fun registered detected catalog h => ?_⟩
  · obtain ⟨added, hadded, hlength⟩ := hlooks.run (c := c) s
    rw [Session.answer, hadded, newEntries_append]
    exact hlength
  · exact (Program.run_eq_answerFor hs h).trans (hreply registered detected catalog)

/-- After any calls whatsoever a session that is not cancelled answers as the matcher does. -/
theorem Session.Reached.refines_matcher {s : Session σ} (hs : s.Reached c)
    (hparse : c.parse? = UnknownSdk.requirement?) (sdk : UnknownSdk) :
    s.Yields c (.resolve sdk) (fun registered detected catalog =>
        .outcome (sdk.resolvable?.bind (·.resolve registered detected catalog))) ∧
      s.Yields c (.localFix sdk) (fun registered detected _ =>
        .localFix (sdk.resolvable?.bind (·.resolveLocal registered detected))) ∧
      s.Yields c (.download sdk) (fun _ _ catalog =>
        .download (sdk.resolvable?.bind (·.resolveDownload catalog))) := by
  -- Each of the three programs looks at a list at most as often as the lemma on a run allows, and
  -- its answer is that of the matcher.
  refine ⟨?_, ?_, ?_⟩
  · refine hs.sound.yields ((Program.LooksAtMost.resolve sdk).map _)
      fun registered detected catalog => ?_
    rw [hparse, Call.programBy, Program.answerFor_map, Program.answerFor_resolve]
    rfl
  · refine hs.sound.yields ((Program.LooksAtMost.localFix sdk).map _)
      fun registered detected _ => ?_
    rw [hparse, Call.programBy, Program.answerFor_map, Program.answerFor_localFix]
    rfl
  · refine hs.sound.yields ((Program.LooksAtMost.download 1 sdk).map _) fun _ _ catalog => ?_
    rw [hparse, Call.programBy, Program.answerFor_map, Program.answerFor_download]
    rfl

/-- The table breaks down, and the JDK that an earlier scan has found is taken. -/
theorem Session.resolves_to_detected_jdk :
    let jdk : DetectedJdk := ⟨"/jdk", "17", .ofFeature 17, "jdk-17", none⟩
    let s := (Session.start false (Script.mk [.crash] [.serve [jdk]] [])).afterCalls
      Collaborators.scripted [.detected]
    let sdk : UnknownSdk := ⟨"17", .java⟩
    s.Reached Collaborators.scripted ∧
      (s.answer Collaborators.scripted (.resolve sdk)).1 =
        .ok (.outcome (sdk.resolvable?.bind (·.resolve [] [jdk] []))) := by
  intro jdk s sdk
  have hs : s.Reached Collaborators.scripted := ⟨false, _, .answer .detected .refl⟩
  have hsdk : UnknownSdk.requirement? sdk = some ⟨.major 17, none⟩ := by decide +kernel
  have hparse : Collaborators.scripted.parse? = UnknownSdk.requirement? := rfl
  -- The whole answer is evaluated; what is left is to say what the lists of this session are.
  have ht : (s.answer Collaborators.scripted (.resolve sdk)).2 =
      { s with replies := [.crashed] } := by
    rw [Session.answer]
    simp only [hparse, Call.programBy, Program.resolve, Program.localFix, Program.withRequirement,
      hsdk]
    rfl
  obtain ⟨⟨-, hresolve⟩, -⟩ := hs.refines_matcher hparse sdk
  refine ⟨hs, hresolve [] [jdk] [] ?_⟩
  rw [ht]
  refine ⟨?_, ?_, ?_, ?_⟩
  · rintro (h | h | ⟨future, h, -⟩ | ⟨future, h, -⟩)
    · cases h
    · cases List.mem_singleton.mp h
    · cases List.infix_nil.mp h
    · cases List.infix_nil.mp h
  · intro reply hreply list hlist
    cases List.mem_singleton.mp hreply
    exact Option.some.inj hlist
  · intro list hlist
    exact Option.some.inj hlist
  · intro list hlist
    cases hlist
end JdkFinder
