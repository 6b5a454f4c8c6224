import JdkFinder.Proofs.Session.Answer
import JdkFinder.Proofs.Session.History
import JdkFinder.Session.Script

/-!
# Lists are obtained once

However calls follow one another or go on at the same time, each list is obtained once at most, and
all calls answer from the same lists.  Of an attempt that was cancelled nothing is kept: the next
call that comes to need the list begins another one.

- `Memo.ObtainedOnce` and `Supply.ObtainsOnce` say so of one list.
- `Session.Explains` says so of what a call answers.
-/

namespace JdkFinder

variable {σ α : Type} {c : Collaborators σ}

/-! ## §1 Finished attempts -/

/-- An attempt has ended with anything but a cancellation and has left this list. -/
def Memo.FinishedWith (m : Memo α) (list : List α) : Prop :=
  ∃ result, .ended result ∈ m.history ∧ finishedList? result = some list

/-- At most one attempt finishes, and it is the last one. -/
structure Memo.ObtainedOnce (m : Memo α) : Prop where
  /-- An attempt that ends with anything but a cancellation gives the answer of its collaborator,
  and nothing happens after it. -/
  last : ∀ before result after, m.history = before ++ .ended result :: after →
    result ≠ .error .cancelled →
    after = [] ∧ ∃ earlier future, before = earlier ++ [.begun future] ∧
      future.answer? = some result
  /-- What is kept is what the finished attempt has left. -/
  kept : ∀ list, m.kept = some list ↔ m.FinishedWith list

theorem OnceHistory.stage_of_finished {cancelled : Bool} {stage : MemoStage α} {m : Memo α}
    {list : List α} (h : OnceHistory cancelled stage m.history) (hlist : m.FinishedWith list) :
    stage = .obtained list := by
  obtain ⟨result, hmem, hresult⟩ := hlist
  -- The history is split where the attempt has ended.
  obtain ⟨before, after, hhistory⟩ := List.append_of_mem hmem
  have hne : result ≠ .error .cancelled := by
    intro heq
    rw [finishedList?_eq_none_iff.mpr heq] at hresult
    cases hresult
  obtain ⟨-, -, list', hlist', hstage⟩ := h.won_is_last hhistory hne
  rw [hstage, Option.some.inj (hresult.symm.trans hlist')]

theorem Supply.Consistent.obtainedOnce {p : Supply σ α} {futures : List (Future (List α))}
    (h : p.Consistent futures) : p.memo.ObtainedOnce := by
  cases h with
  | resting _ hhistory =>
    constructor
    · intro before result after heq hne
      obtain ⟨hafter, hown, -⟩ := hhistory.won_is_last heq hne
      exact ⟨hafter, hown⟩
    · intro list
      constructor
      · intro hkept
        rw [hkept] at hhistory
        exact hhistory.exists_ended
      · intro hlist
        have hstage := hhistory.stage_of_finished hlist
        cases hkept : p.memo.kept <;> rw [hkept] at hstage <;> cases hstage
        rfl
  | underway _ hnone _ hhistory =>
    -- As long as an attempt is under way nothing is kept, and nothing has finished.
    constructor
    · intro before result after heq hne
      obtain ⟨hafter, hown, -⟩ := hhistory.won_is_last heq hne
      exact ⟨hafter, hown⟩
    · intro list
      constructor
      · intro hkept
        rw [hnone] at hkept
        cases hkept
      · intro hlist
        cases hhistory.stage_of_finished hlist

/-! ## §2 Answers from the same lists -/

/-- The answer is a cancellation, or one for the lists that the session has obtained; a list that it
has not obtained may be any list. -/
def Session.Explains (s : Session σ) (p : Program α) (r : Except Error α) : Prop :=
  r = .error .cancelled ∨ ∀ detected catalog,
    (∀ list, s.detected.FinishedWith list → detected = list) →
    (∀ list, s.catalog.FinishedWith list → catalog = list) →
    p.AnswersFrom (fun _ => True) detected catalog r

theorem Session.explains_of_answersFrom {s t : Session σ} {p : Program α} {r : Except Error α}
    (hdetected : t.detected.ObtainedOnce) (hcatalog : t.catalog.ObtainedOnce)
    (h : ∀ detected catalog, s.Agrees t (fun _ => True) detected catalog →
      p.AnswersFrom (fun _ => True) detected catalog r ∨ s.Aborts t r) : t.Explains p r := by
  by_cases hcancelled : r = .error .cancelled
  · exact .inl hcancelled
  · refine .inr fun detected catalog hscanned hfetched => ?_
    have hagrees : s.Agrees t (fun _ => True) detected catalog :=
      ⟨fun _ _ _ _ => trivial,
        fun list hkept => hscanned list ((hdetected.kept list).mp hkept),
        fun list hkept => hfetched list ((hcatalog.kept list).mp hkept)⟩
    exact (h detected catalog hagrees).resolve_right fun habort => hcancelled habort.1

/-! ## §3 Asking again -/

/-- What asking for a list does, where `futures` are those being polled. -/
structure Supply.ObtainsOnce (start : σ → Future (List α) × σ) (p : Supply σ α)
    (futures : List (Future (List α))) : Prop where
  once : p.memo.ObtainedOnce
  /-- A list that was obtained is given again, and the collaborator is left alone. -/
  again : ∀ list, p.memo.FinishedWith list →
    p.ask start = (some (.decided (.ok list)), p) ∧ p.await start = (.ok list, p)
  /-- As long as no attempt has finished, asking begins another one if none is under way. -/
  anew : p.cancelled = false → (∀ list, ¬ p.memo.FinishedWith list) → futures = [] →
    (p.attempt start).2.memo.history <+: (p.ask start).2.memo.history ∧
      (p.attempt start).2.memo.history <+: (p.await start).2.memo.history

theorem Supply.Consistent.obtainsOnce {p : Supply σ α} {futures : List (Future (List α))}
    (h : p.Consistent futures) (start : σ → Future (List α) × σ) :
    p.ObtainsOnce start futures := by
  have honce := h.obtainedOnce
  refine ⟨honce, ?_, ?_⟩
  · intro list hlist
    have hkept := (honce.kept list).mpr hlist
    exact ⟨by simp only [Supply.ask, hkept], by simp only [await, hkept]⟩
  · intro hcancelled hopen hfutures
    subst hfutures
    have hkept : p.memo.kept = none :=
      Option.eq_none_iff_forall_ne_some.mpr fun list hkept =>
        hopen list ((honce.kept list).mp hkept)
    constructor
    · rcases hpoll : (p.attempt start).2.poll (p.attempt start).1 with ⟨race, q⟩
      have hask : p.ask start = (some race, q) := by
        simp only [Supply.ask, hkept, h.busy_eq_false, hcancelled, Bool.false_eq_true, ↓reduceIte,
          hpoll]
      -- The poll that begins the attempt may end it as well, which comes after the beginning.
      rw [hask]
      exact (poll_grows hpoll hkept).2.history
    · simp only [await, hkept, hcancelled, Bool.false_eq_true, ↓reduceIte]
      exact List.prefix_append _ _

/-- Whatever calls of a session do at the same time, each list is obtained once at most, it is given
again to everybody who asks for it, and only after a cancellation it is attempted again. -/
theorem Session.Reached.lists_obtained_once {s : Session σ} (hs : s.Reached c) (calls : List Call)
    (schedule : List Turn) :
    let w := s.together c calls schedule
    s.Grows w.shared.session ∧
      w.shared.detectedSupply.ObtainsOnce c.scan (w.activities.filterMap Activity.scan?) ∧
      w.shared.catalogSupply.ObtainsOnce c.fetch (w.activities.filterMap Activity.fetch?) ∧
      (∀ (index : Nat) (call : Call) (r : Except Error Reply), calls[index]? = some call →
        w.activities[index]? = some (.finished r) →
        w.shared.session.Explains (call.programBy c.parse?) r) ∧
      ∀ call, (s.answer c call).2.Explains (call.programBy c.parse?) (s.answer c call).1 := by
  intro w
  obtain ⟨hgrows, hconsistent⟩ := Concurrence.after_consistent (c := c)
    (Concurrence.start_consistent hs.sound (calls.map (·.programBy c.parse?))) schedule
  refine ⟨hgrows, hconsistent.detected.obtainsOnce c.scan, hconsistent.catalog.obtainsOnce c.fetch,
    ?_, ?_⟩
  · -- A call of the schedule that has finished.
    intro index call r hcall hr
    obtain ⟨call', hcall', hp⟩ := exists_call hr
    cases hcall.symm.trans hcall'
    exact explains_of_answersFrom hconsistent.detected.obtainedOnce hconsistent.catalog.obtainedOnce
      fun _ _ hagrees => Concurrence.answersFrom hs.sound hp hr hagrees
  · -- A call that is made on its own.
    intro call
    obtain ⟨-, hsound⟩ := hs.sound.run (c := c) (call.programBy c.parse?)
    exact explains_of_answersFrom hsound.detected.obtainedOnce hsound.catalog.obtainedOnce
      fun _ _ hagrees => Program.run_answersFrom hs.sound _ hagrees

/-- The scan of the first call is cancelled, and the second call scans again. -/
theorem Session.scan_again_once :
    let s := Session.start false (Script.mk [] [.fail .cancelled, .serve []] [])
    let w := s.together Collaborators.scripted [.detected, .detected] [.call 0, .call 1, .call 1]
    s.Reached Collaborators.scripted ∧ w.shared.session.invocations = ⟨0, 2, 0⟩ ∧
      w.shared.detectedSupply.ask Collaborators.scripted.scan =
        (some (.decided (.ok [])), w.shared.detectedSupply) := by
  intro s w
  have hs : s.Reached Collaborators.scripted := ⟨false, _, .refl⟩
  obtain ⟨-, hdetected, -⟩ := hs.lists_obtained_once [.detected, .detected]
    [.call 0, .call 1, .call 1]
  have hfinished : w.shared.session.detected.FinishedWith [] :=
    ⟨.ok [], .tail _ (.tail _ (.tail _ (.head _))), rfl⟩
  exact ⟨hs, rfl, (hdetected.again [] hfinished).1⟩
end JdkFinder
