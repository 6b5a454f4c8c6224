import JdkFinder.Proofs.Session.Answer

/-!
# Histories of a session

A call that is answered alone goes through polls like any other: `Program.exists_schedule` gives the
schedule.  So what holds of calls at the same time holds of calls one after the other as well, and
of every history of a session (`Session.LeadsTo`).
-/

namespace JdkFinder

variable {σ α β : Type} {c : Collaborators σ}

/-! ## §1 Attempts without other calls -/

/-- Polls an attempt until it is decided; between two polls others may cancel the token. -/
inductive Supply.Settles :
    Future (List β) → Supply σ β → Except Error (List β) → Supply σ β → Prop where
  | decided {future : Future (List β)} {p q : Supply σ β} {result : Except Error (List β)} :
      p.poll future = (.decided result, q) → Supply.Settles future p result q
  | undisturbed {future rest : Future (List β)} {p p' q : Supply σ β}
      {result : Except Error (List β)} :
      p.poll future = (.running rest, p') → Supply.Settles rest p' result q →
      Supply.Settles future p result q
  | cancelled {future rest : Future (List β)} {p p' q : Supply σ β}
      {result : Except Error (List β)} :
      p.poll future = (.running rest, p') →
      Supply.Settles rest { p' with cancelled := true } result q →
      Supply.Settles future p result q

namespace Supply

/-- An attempt whose race has ended. -/
def settled (p : Supply σ β) (end? : Except Error (List β) × Bool) : Supply σ β :=
  { p with memo := p.memo.conclude end?.1, busy := false, cancelled := end?.2 }

theorem settles_of_cancelled {p : Supply σ β} (h : p.cancelled = true) (future : Future (List β)) :
    Settles future p (.error .cancelled) (p.settled (.error .cancelled, true)) :=
  .decided (by simp [poll, Future.raceOnce, h, orEmpty, Error.isCancelled, settled])

/-- A race is settled by polls; one that would never end is cancelled by others. -/
theorem settles_race (future : Future (List β)) (p : Supply σ β) :
    Settles future p (orEmpty (future.race p.cancelled).1)
      (p.settled (future.race p.cancelled)) := by
  induction future generalizing p with
  | ready cancels result =>
    cases h : p.cancelled with
    | true => exact settles_of_cancelled h _
    | false =>
      exact .decided (by simp [poll, Future.raceOnce, h, Future.poll, Future.race, settled])
  | pending cancels rest ih =>
    cases h : p.cancelled with
    | true => exact settles_of_cancelled h _
    | false =>
      have hpoll : p.poll (.pending cancels rest) =
          (.running rest, { p with cancelled := cancels }) := by
        simp [poll, Future.raceOnce, h, Future.poll]
      exact .undisturbed hpoll (ih { p with cancelled := cancels })
  | stalled cancels =>
    cases h : p.cancelled with
    | true => exact settles_of_cancelled h _
    | false =>
      have hpoll : p.poll (.stalled cancels) =
          (.running (.stalled cancels), { p with cancelled := cancels }) := by
        simp [poll, Future.raceOnce, h, Future.poll]
      -- Such a future is polled in vain, so the next thing that happens is a cancellation.
      exact .cancelled hpoll (settles_of_cancelled rfl _)

/-- Waiting for a list is asking for it and, if an attempt is begun, polling that attempt. -/
theorem await_cases (start : σ → Future (List β) × σ) {p : Supply σ β} (hbusy : p.busy = false) :
    (∃ result, p.ask start = (some (.decided result), p) ∧ p.await start = (result, p)) ∨
    (p.ask start = ((p.attempt start).2.poll (p.attempt start).1).map some id ∧
      ∃ result q, Settles (p.attempt start).1 (p.attempt start).2 result q ∧ q.busy = false ∧
        p.await start = (result, q)) := by
  rcases ask_cases start p with ⟨list, hkept, hask⟩ | ⟨-, hbusy', -⟩ |
    ⟨hkept, -, hcancelled, hask⟩ | ⟨hkept, -, hcancelled, hask⟩
  · exact .inl ⟨_, hask, by simp only [await, hkept]⟩
  · simp [hbusy] at hbusy'
  · exact .inl ⟨_, hask, by simp only [await, hkept, hcancelled, ↓reduceIte]⟩
  · refine .inr ⟨hask, _, _, settles_race _ _, rfl, ?_⟩
    simp only [await, hkept, hcancelled, Bool.false_eq_true, ↓reduceIte]
    rfl

end Supply

/-! ## §2 Calls alone -/

/-- Turns of the schedule lead a single call from one state to another. -/
def Activity.LeadsAlone (c : Collaborators σ) (before after : Activity α × SharedSession σ) :
    Prop :=
  ∃ schedule, (⟨[before.1], before.2⟩ : Concurrence σ α).after c schedule = ⟨[after.1], after.2⟩

namespace Activity.LeadsAlone

variable {x y : Activity α × SharedSession σ}

theorem refl (x : Activity α × SharedSession σ) : LeadsAlone c x x :=
  ⟨[], rfl⟩

theorem trans {z : Activity α × SharedSession σ} (h : LeadsAlone c x y) (h' : LeadsAlone c y z) :
    LeadsAlone c x z := by
  obtain ⟨schedule, hschedule⟩ := h
  obtain ⟨schedule', hschedule'⟩ := h'
  exact ⟨schedule ++ schedule', by rw [Concurrence.after_append, hschedule, hschedule']⟩

theorem poll (h : LeadsAlone c (x.1.poll c x.2) y) : LeadsAlone c x y := by
  obtain ⟨schedule, hschedule⟩ := h
  exact ⟨.call 0 :: schedule, hschedule⟩

theorem cancel (h : LeadsAlone c (x.1, x.2.cancel) y) : LeadsAlone c x y := by
  obtain ⟨schedule, hschedule⟩ := h
  exact ⟨.cancellation :: schedule, hschedule⟩

end Activity.LeadsAlone

open Activity (LeadsAlone resume)

namespace SharedList

variable (l : SharedList σ β)

/-- Every poll of an attempt is a poll of the call that waits for it. -/
theorem leadsAlone_polling {future : Future (List β)} {p q : Supply σ β}
    {result : Except Error (List β)} (h : p.Settles future result q) (next : List β → Program α)
    {w : SharedSession σ} (hw : l.supply w = p) :
    LeadsAlone c ((l.polling future next).poll c w) (resume c next result (l.withSupply q w)) := by
  induction h generalizing w with
  | decided hpoll =>
    rw [l.poll_polling, hw, hpoll]
    exact .refl _
  | @undisturbed _ _ p p' _ _ hpoll _ ih =>
    rw [l.poll_polling, hw, hpoll]
    have hrest := ih (w := l.withSupply p' w) (l.supply_withSupply p' w)
    rw [l.withSupply_withSupply] at hrest
    exact .poll hrest
  | @cancelled _ _ p p' q _ hpoll _ ih =>
    -- Between this poll and the next one somebody else cancels the token.
    have hsupply : l.supply (l.withSupply p' w).cancel = { p' with cancelled := true } := by
      rw [l.cancel_withSupply, l.supply_withSupply]
    have hlater : l.withSupply q (l.withSupply p' w).cancel = l.withSupply q w := by
      rw [l.cancel_withSupply, l.withSupply_withSupply]
    have hrest := ih hsupply
    rw [hlater] at hrest
    rw [l.poll_polling, hw, hpoll]
    exact .cancel (.poll hrest)

/-- A call that asks for a list and runs alone goes on with what it gets. -/
theorem leadsAlone_asking (next : List β → Program α) {s : Session σ}
    (hbusy : (l.supply (.ofSession s)).busy = false) :
    LeadsAlone c ((l.asking next).advance c (.ofSession s))
      (resume c next (l.await c s).1 (.ofSession (l.await c s).2)) := by
  rcases Supply.await_cases (l.start c) hbusy with
    ⟨result, hask, hawait⟩ | ⟨hask, result, q, hsettles, hidle, hawait⟩
  · -- Nothing is begun, so that the session is left as it is.
    rw [l.advance_asking, hask]
    simp only [await, hawait, ← l.withSupply_ofSession hbusy]
    exact .refl _
  · -- An attempt is begun, which waiting follows to its end.
    rw [l.advance_asking_eq_poll hask]
    simp only [await, hawait, ← l.withSupply_ofSession hidle]
    have hpolling := l.leadsAlone_polling (c := c) hsettles next
      (l.supply_withSupply ((l.supply (.ofSession s)).attempt (l.start c)).2 (.ofSession s))
    rwa [l.withSupply_withSupply] at hpolling

end SharedList

namespace Program

/-- Polled again and again, a single call comes to the result that it has when it runs alone. -/
theorem leadsAlone_run (p : Program α) (s : Session σ) :
    LeadsAlone c (p.advance c (.ofSession s))
      (.finished (p.run c s).1, .ofSession (p.run c s).2) := by
  -- The induction follows the program; whatever the call asks for, the session is free again
  -- when it goes on.
  induction p generalizing s with
  | done result => exact .refl _
  | check next ih =>
    have hw : (SharedSession.ofSession s).session.cancelled = s.cancelled := rfl
    simp only [advance, run, hw]
    split
    · exact .refl _
    · exact ih s
  | registered next ih =>
    -- The table is read in one poll, and its list is there at the next one.
    have hw : (SharedSession.ofSession s).readTable c =
        ((s.readTable c).1, .ofSession (s.readTable c).2) := rfl
    simp only [advance, run, hw]
    rcases s.readTable c with ⟨e | list, s'⟩
    · exact .poll (.refl _)
    · exact .poll (ih list s')
  | detected next ih =>
    have hasking : LeadsAlone c ((Program.detected next).advance c (.ofSession s))
        (resume c next (s.detectedJdks c).1 (.ofSession (s.detectedJdks c).2)) :=
      SharedList.detected.leadsAlone_asking next rfl
    refine hasking.trans ?_
    simp only [run]
    rcases s.detectedJdks c with ⟨e | list, s'⟩
    · exact .refl _
    · exact ih list s'
  | catalog next ih =>
    have hasking : LeadsAlone c ((Program.catalog next).advance c (.ofSession s))
        (resume c next (s.catalogJdks c).1 (.ofSession (s.catalogJdks c).2)) :=
      SharedList.catalog.leadsAlone_asking next rfl
    refine hasking.trans ?_
    simp only [run]
    rcases s.catalogJdks c with ⟨e | list, s'⟩
    · exact .refl _
    · exact ih list s'

/-- A program that runs alone goes through the polls of some schedule. -/
theorem exists_schedule (p : Program α) (s : Session σ) :
    ∃ schedule, (Concurrence.start [p] s).after c schedule =
      ⟨[.finished (p.run c s).1], .ofSession (p.run c s).2⟩ :=
  LeadsAlone.poll (x := (.standing p, .ofSession s)) (p.leadsAlone_run s)

/-- A program that runs alone answers like a call among others. -/
theorem run_answersFrom {s : Session σ} {tables : List RegisteredJdk → Prop}
    {detected : List DetectedJdk} {catalog : List DownloadableJdk} (hs : s.Sound) (p : Program α)
    (hagrees : s.Agrees (p.run c s).2 tables detected catalog) :
    p.AnswersFrom tables detected catalog (p.run c s).1 ∨
      s.Aborts (p.run c s).2 (p.run c s).1 := by
  obtain ⟨schedule, hschedule⟩ := p.exists_schedule (c := c) s
  have hp : [p][0]? = some p := rfl
  have hr : ((Concurrence.start [p] s).after c schedule).activities[0]? =
      some (.finished (p.run c s).1) := by
    rw [hschedule]
    rfl
  have hsession : (p.run c s).2 = ((Concurrence.start [p] s).after c schedule).shared.session := by
    rw [hschedule]
    rfl
  rw [hsession] at hagrees ⊢
  exact Concurrence.answersFrom hs hp hr hagrees

end Program

/-! ## §3 Histories -/

/-- Calls of a session that go on at the same time, after the turns of a schedule. -/
def Session.together (c : Collaborators σ) (s : Session σ) (calls : List Call)
    (schedule : List Turn) : Concurrence σ Reply :=
  (Concurrence.start (calls.map (·.programBy c.parse?)) s).after c schedule

/-- Every activity is that of one of the calls. -/
theorem Session.exists_call {s : Session σ} {calls : List Call} {schedule : List Turn} {index : Nat}
    {a : Activity Reply} (h : (s.together c calls schedule).activities[index]? = some a) :
    ∃ call, calls[index]? = some call ∧
      (calls.map (·.programBy c.parse?))[index]? = some (call.programBy c.parse?) := by
  obtain ⟨hindex, -⟩ := List.getElem?_eq_some_iff.mp h
  have hlt : index < calls.length := by
    simpa [together, Concurrence.start] using hindex
  exact ⟨calls[index], List.getElem?_eq_getElem hlt, by simp [hlt]⟩

/-- What can become of a session: calls are answered, one alone or several at the same time, and the
token is cancelled. -/
inductive Session.LeadsTo (c : Collaborators σ) (s : Session σ) : Session σ → Prop where
  | refl : Session.LeadsTo c s s
  | cancel {t : Session σ} : Session.LeadsTo c s t → Session.LeadsTo c s t.cancel
  | answer {t : Session σ} (call : Call) :
      Session.LeadsTo c s t → Session.LeadsTo c s (t.answer c call).2
  | together {t u : Session σ} (calls : List Call) (schedule : List Turn)
      (results : List (Except Error Reply)) :
      Session.LeadsTo c s t →
      t.together c calls schedule = ⟨results.map .finished, .ofSession u⟩ →
      Session.LeadsTo c s u

/-- A session that the history of a new one has led to. -/
def Session.Reached (c : Collaborators σ) (s : Session σ) : Prop :=
  ∃ cancelled world, (Session.start cancelled world).LeadsTo c s

/-- Calls that have all finished leave a sound session. -/
theorem Session.Sound.of_finished {s t : Session σ} (h : s.Sound) {programs : List (Program α)}
    {schedule : List Turn} (results : List (Except Error α))
    (hafter : (Concurrence.start programs s).after c schedule =
      ⟨results.map .finished, .ofSession t⟩) : s.Grows t ∧ t.Sound := by
  obtain ⟨hgrows, hconsistent⟩ :=
    Concurrence.after_consistent (c := c) (Concurrence.start_consistent h programs) schedule
  rw [hafter] at hgrows hconsistent
  have hscans : (results.map Activity.finished).filterMap Activity.scan? = [] := by
    simp [List.filterMap_map, Activity.scan?, Function.comp_def]
  have hfetches : (results.map Activity.finished).filterMap Activity.fetch? = [] := by
    simp [List.filterMap_map, Activity.fetch?, Function.comp_def]
  rw [Concurrence.Consistent, hscans, hfetches] at hconsistent
  exact ⟨hgrows, hconsistent⟩

theorem Session.Sound.run {s : Session σ} (h : s.Sound) (p : Program α) :
    s.Grows (p.run c s).2 ∧ (p.run c s).2.Sound := by
  obtain ⟨schedule, hschedule⟩ := p.exists_schedule (c := c) s
  exact h.of_finished [_] hschedule

theorem Session.LeadsTo.grows {s t : Session σ} (h : s.LeadsTo c t) (hs : s.Sound) :
    s.Grows t ∧ t.Sound := by
  induction h with
  | refl => exact ⟨.refl _, hs⟩
  | @cancel t _ ih =>
    have hcancel : t.Grows t.cancel := SharedSession.cancel_grows (.ofSession t)
    exact ⟨ih.1.trans hcancel, ih.2.cancel⟩
  | answer call _ ih =>
    obtain ⟨hgrows, hsound⟩ := ih.2.run (c := c) (call.programBy c.parse?)
    exact ⟨ih.1.trans hgrows, hsound⟩
  | together calls schedule results _ hafter ih =>
    obtain ⟨hgrows, hsound⟩ := ih.2.of_finished results hafter
    exact ⟨ih.1.trans hgrows, hsound⟩

theorem Session.Reached.sound {s : Session σ} (h : s.Reached c) : s.Sound := by
  obtain ⟨cancelled, world, hleads⟩ := h
  exact (hleads.grows (start_sound cancelled world)).2

end JdkFinder
