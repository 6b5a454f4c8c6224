import JdkFinder.Proofs.Session.Cancellation
import JdkFinder.Proofs.Session.Refinement

/-!
# What calls ask for

- `Effects` is what a call asks of the collaborators; `Session.effects` reads it off the histories
  of a session, and `Concurrence.effectsOf` does so for one call among others.
- `Program.Invokes` says what a program can ask for, given the JDKs on the machine.  A call asks
  for no more than its program can (`Concurrence.invokes_of_after`).
-/

namespace JdkFinder

variable {σ α : Type} {c : Collaborators σ}

/-! ## §1 Effects -/

/-- What is asked of the collaborators: the looks at the table with what they give, and how many
scans and fetches are begun. -/
@[ext]
structure Effects where
  replies : List TableReply
  scans : Nat
  fetches : Nat

namespace Effects

/-- Nothing is asked for. -/
def none : Effects :=
  ⟨[], 0, 0⟩

/-- The effects of two pieces of work, one after the other. -/
def followedBy (e later : Effects) : Effects :=
  ⟨e.replies ++ later.replies, e.scans + later.scans, e.fetches + later.fetches⟩

@[simp] theorem none_followedBy (e : Effects) : none.followedBy e = e := by
  simp [none, followedBy]

@[simp] theorem followedBy_none (e : Effects) : e.followedBy none = e := by
  simp [none, followedBy]

theorem followedBy_assoc (e later last : Effects) :
    (e.followedBy later).followedBy last = e.followedBy (later.followedBy last) := by
  simp [followedBy, Nat.add_assoc]

end Effects

theorem newEntries_trans {β : Type} {old between new : List β} (h : old <+: between)
    (h' : between <+: new) :
    newEntries old new = newEntries old between ++ newEntries between new := by
  obtain ⟨added, rfl⟩ := h
  obtain ⟨later, rfl⟩ := h'
  rw [newEntries_append, newEntries_append, List.append_assoc, newEntries_append]

/-- How many attempts have begun since an earlier state. -/
def Memo.attemptsSince (m n : Memo α) : Nat :=
  (newEntries m.history n.history).countP MemoEvent.isBegun

theorem Memo.attemptsSince_self (m : Memo α) : m.attemptsSince m = 0 := by
  simp [attemptsSince, newEntries]

theorem Memo.attemptsSince_trans {m n k : Memo α} (h : m.Grows n) (h' : n.Grows k) :
    m.attemptsSince k = m.attemptsSince n + n.attemptsSince k := by
  rw [attemptsSince, newEntries_trans h.history h'.history, List.countP_append]
  rfl

namespace Session

variable {s t u : Session σ}

/-- What has been asked of the collaborators since an earlier state. -/
def effects (s t : Session σ) : Effects :=
  ⟨newEntries s.replies t.replies, s.detected.attemptsSince t.detected,
    s.catalog.attemptsSince t.catalog⟩

@[simp] theorem effects_self (s : Session σ) : s.effects s = .none := by
  simp [effects, Effects.none, newEntries, Memo.attemptsSince_self]

@[simp] theorem effects_cancel (s : Session σ) : s.effects s.cancel = .none :=
  s.effects_self

theorem effects_trans (h : s.Grows t) (h' : t.Grows u) :
    s.effects u = (s.effects t).followedBy (t.effects u) := by
  simp only [effects, Effects.followedBy, newEntries_trans h.replies h'.replies,
    Memo.attemptsSince_trans h.detected h'.detected, Memo.attemptsSince_trans h.catalog h'.catalog]

end Session

/-! ## §2 Effects of asking for lists -/

namespace Supply

variable {start : σ → Future (List α) × σ} {p q : Supply σ α} {future : Future (List α)}

theorem attemptsSince_of_poll {race : Race (List α)} (h : p.poll future = (race, q)) :
    p.memo.attemptsSince q.memo = 0 := by
  rcases poll_cases future p with ⟨rest, cancels, -, -, hpoll⟩ | ⟨result, after, -, -, hpoll⟩
  · cases h.symm.trans hpoll
    exact p.memo.attemptsSince_self
  · cases h.symm.trans hpoll
    simp [Memo.attemptsSince, Memo.conclude, MemoEvent.isBegun]

/-- A call that waits for another one begins nothing. -/
theorem attemptsSince_of_ask_none (h : p.ask start = (none, q)) :
    p.memo.attemptsSince q.memo = 0 := by
  rcases ask_cases start p with ⟨list, -, hask⟩ | ⟨-, -, hask⟩ | ⟨-, -, -, hask⟩ | ⟨-, -, -, hask⟩
  · cases h.symm.trans hask
  · cases h.symm.trans hask
    exact p.memo.attemptsSince_self
  · cases h.symm.trans hask
  · cases h.symm.trans hask

theorem attemptsSince_of_ask {race : Option (Race (List α))} (h : p.ask start = (race, q)) :
    p.memo.attemptsSince q.memo ≤ 1 := by
  rcases ask_cases start p with ⟨list, -, hask⟩ | ⟨-, -, hask⟩ | ⟨-, -, -, hask⟩ |
    ⟨hkept, -, -, hask⟩
  · cases h.symm.trans hask
    simp [p.memo.attemptsSince_self]
  · cases h.symm.trans hask
    simp [p.memo.attemptsSince_self]
  · cases h.symm.trans hask
    simp [p.memo.attemptsSince_self]
  · rcases hpoll : (p.attempt start).2.poll (p.attempt start).1 with ⟨race, q'⟩
    rw [hpoll] at hask
    cases h.symm.trans hask
    -- The attempt begins, and its first poll begins no other one.
    have hbegun : p.memo.attemptsSince (p.attempt start).2.memo = 1 := by
      simp [Memo.attemptsSince, Memo.attempt, MemoEvent.isBegun]
    have hpolled := attemptsSince_of_poll hpoll
    have hgrows := (poll_grows hpoll hkept).2
    have hall : p.memo.attemptsSince q'.memo = p.memo.attemptsSince (p.attempt start).2.memo +
        (p.attempt start).2.memo.attemptsSince q'.memo :=
      Memo.attemptsSince_trans (.attempt _ _) hgrows
    rw [hbegun, hpolled] at hall
    exact Nat.le_of_eq hall

end Supply

namespace SharedSession

variable {w w' : SharedSession σ}

theorem effects_of_readTable {result : Except Error (List RegisteredJdk)}
    (h : w.readTable c = (result, w')) :
    ∃ reply, reply.list = result ∧ w.session.effects w'.session = ⟨[reply], 0, 0⟩ := by
  cases h
  refine ⟨_, rfl, ?_⟩
  simp [Session.effects, Memo.attemptsSince_self]

end SharedSession

namespace SharedList

variable {β : Type} {l : SharedList σ β} {begun : Nat → Effects} {w w' : SharedSession σ}

/-- What is asked of the collaborators for a list is that attempts at it begin. -/
structure Counts (l : SharedList σ β) (begun : Nat → Effects) : Prop where
  zero : begun 0 = .none
  effects_withSupply : ∀ p w, w.session.effects (l.withSupply p w).session =
    begun ((l.supply w).memo.attemptsSince p.memo)

theorem counts_detected : (detected : SharedList σ DetectedJdk).Counts fun n => ⟨[], n, 0⟩ where
  zero := rfl
  effects_withSupply p w := by
    simp [Session.effects, detected, SharedSession.withDetected, Session.withDetected,
      SharedSession.detectedSupply, Session.detectedSupply, newEntries, Memo.attemptsSince_self]

theorem counts_catalog : (catalog : SharedList σ DownloadableJdk).Counts fun n => ⟨[], 0, n⟩ where
  zero := rfl
  effects_withSupply p w := by
    simp [Session.effects, catalog, SharedSession.withCatalog, Session.withCatalog,
      SharedSession.catalogSupply, Session.catalogSupply, newEntries, Memo.attemptsSince_self]

theorem Counts.of_ask (h : l.Counts begun) {race : Option (Race (List β))}
    (hask : l.ask c w = (race, w')) : ∃ n ≤ 1, w.session.effects w'.session = begun n := by
  obtain ⟨p, hp, rfl⟩ := l.exists_of_ask hask
  exact ⟨_, Supply.attemptsSince_of_ask hp, h.effects_withSupply p w⟩

theorem Counts.of_ask_none (h : l.Counts begun) (hask : l.ask c w = (none, w')) :
    w.session.effects w'.session = .none := by
  obtain ⟨p, hp, rfl⟩ := l.exists_of_ask hask
  rw [h.effects_withSupply, Supply.attemptsSince_of_ask_none hp, h.zero]

theorem Counts.of_poll (h : l.Counts begun) {future : Future (List β)} {race : Race (List β)}
    (hpoll : l.poll future w = (race, w')) : w.session.effects w'.session = .none := by
  obtain ⟨p, hp, rfl⟩ := l.exists_of_poll hpoll
  rw [h.effects_withSupply, Supply.attemptsSince_of_poll hp, h.zero]

end SharedList

/-! ## §3 What programs can ask for -/

section Invocations

variable (detected : List DetectedJdk)

/-- What a program can ask of the collaborators, where `detected` are the JDKs on the machine.  It
may be cut off anywhere. -/
def Program.Invokes : Program α → Effects → Prop
  | .done _, e => e = .none
  | .check next, e => e = .none ∨ next.Invokes e
  | .registered next, e => e = .none ∨ ∃ reply rest, e = .followedBy ⟨[reply], 0, 0⟩ rest ∧
      (rest = .none ∨ ∃ list, reply.served? = some list ∧ (next list).Invokes rest)
  | .detected next, e => ∃ n ≤ 1, ∃ rest, e = .followedBy ⟨[], n, 0⟩ rest ∧
      (next detected).Invokes rest
  | .catalog next, e => ∃ n ≤ 1, ∃ rest list, e = .followedBy ⟨[], 0, n⟩ rest ∧
      (next list).Invokes rest

/-- What a call can still ask of the collaborators. -/
def Activity.Invokes : Activity α → Effects → Prop
  | .standing program, e => program.Invokes detected e
  | .reading (.ok list) next, e => (next list).Invokes detected e
  | .reading (.error _) _, e => e = .none
  | .scanning _ next, e => (next detected).Invokes detected e
  | .fetching _ next, e => ∃ list, (next list).Invokes detected e
  | .finished _, e => e = .none

variable {detected}

theorem Program.invokes_none (p : Program α) : p.Invokes detected .none := by
  induction p with
  | done result => exact rfl
  | check next ih => exact .inl rfl
  | registered next ih => exact .inl rfl
  | detected next ih => exact ⟨0, by decide, .none, rfl, ih detected⟩
  | catalog next ih => exact ⟨0, by decide, .none, [], rfl, ih []⟩

theorem Activity.invokes_none (a : Activity α) : a.Invokes detected .none := by
  cases a with
  | standing p => exact p.invokes_none
  | reading result next =>
    cases result with
    | ok list => exact (next list).invokes_none
    | error e => exact rfl
  | scanning future next => exact (next detected).invokes_none
  | fetching future next => exact ⟨[], (next []).invokes_none⟩
  | finished result => exact rfl

open SharedSession

/-- Whatever a call asks for as it goes on with a program, and later, the program can ask for. -/
theorem Program.invokes_of_advance {p : Program α} {w : SharedSession σ} {later : Effects}
    (hkept : ∀ list, (p.advance c w).2.session.detected.kept = some list → detected = list)
    (h : (p.advance c w).1.Invokes detected later) :
    p.Invokes detected
      ((w.session.effects (p.advance c w).2.session).followedBy later) := by
  -- On the steps of the program: each is one of the effects, and those of the rest follow it.
  fun_induction Program.advance c p w with
  | case1 result w =>
    -- The program has ended, and there is nothing to follow.
    cases h
    simp [Invokes]
  | case2 next w hcancelled =>
    cases h
    exact .inl (by simp)
  | case3 next w hcancelled ih => exact .inr (ih hkept h)
  | case4 next w result w' hread =>
    obtain ⟨reply, hreply, heffects⟩ := effects_of_readTable hread
    refine .inr ⟨reply, later, by rw [heffects], ?_⟩
    -- The table gives rows and the program goes on, or it fails and the program ends with that
    -- error.
    cases result with
    | ok list => exact .inr ⟨list, TableReply.list_eq_ok_iff.mp hreply, h⟩
    | error e => exact .inl h
  | case5 next w w' hask =>
    -- Another call is at the list, and nothing has been asked for.
    rw [SharedList.counts_detected.of_ask_none hask, Effects.none_followedBy]
    exact h
  | case6 next w future w' hask =>
    -- The program has begun the work and waits for it.
    obtain ⟨n, hn, heffects⟩ := SharedList.counts_detected.of_ask hask
    exact ⟨n, hn, later, by rw [heffects], h⟩
  | case7 next w list w' hask ih =>
    -- What asking has given is still kept at the end, so it is the list of the statement.
    have hgrows := (next list).advance_grows (c := c) w'
    obtain rfl := hkept list (hgrows.detected.kept list (SharedList.detected.kept_of_ask hask))
    obtain ⟨n, hn, heffects⟩ := SharedList.counts_detected.of_ask hask
    refine ⟨n, hn, _, ?_, ih hkept h⟩
    rw [Session.effects_trans (SharedList.detected.ask_grows hask) hgrows,
      Effects.followedBy_assoc, heffects]
  | case8 next w e w' hask =>
    obtain ⟨n, hn, heffects⟩ := SharedList.counts_detected.of_ask hask
    cases h
    exact ⟨n, hn, .none, by rw [heffects], (next detected).invokes_none⟩
  | case9 next w w' hask =>
    -- The same cases for the catalog, whose list need not be the one that the scan has given.
    rw [SharedList.counts_catalog.of_ask_none hask, Effects.none_followedBy]
    exact h
  | case10 next w future w' hask =>
    obtain ⟨n, hn, heffects⟩ := SharedList.counts_catalog.of_ask hask
    obtain ⟨list, hlist⟩ := h
    exact ⟨n, hn, later, list, by rw [heffects], hlist⟩
  | case11 next w list w' hask ih =>
    have hgrows := (next list).advance_grows (c := c) w'
    obtain ⟨n, hn, heffects⟩ := SharedList.counts_catalog.of_ask hask
    refine ⟨n, hn, _, list, ?_, ih hkept h⟩
    rw [Session.effects_trans (SharedList.catalog.ask_grows hask) hgrows,
      Effects.followedBy_assoc, heffects]
  | case12 next w e w' hask =>
    obtain ⟨n, hn, heffects⟩ := SharedList.counts_catalog.of_ask hask
    cases h
    exact ⟨n, hn, .none, [], by rw [heffects], (next []).invokes_none⟩

theorem Activity.invokes_of_poll {a : Activity α} {w : SharedSession σ} {later : Effects}
    {scans : List (Future (List DetectedJdk))} {fetches : List (Future (List DownloadableJdk))}
    (hw : w.Consistent (a.scan?.toList ++ scans) (a.fetch?.toList ++ fetches))
    (hkept : ∀ list, (a.poll c w).2.session.detected.kept = some list → detected = list)
    (h : (a.poll c w).1.Invokes detected later) :
    a.Invokes detected ((w.session.effects (a.poll c w).2.session).followedBy later) := by
  cases a with
  | standing p => exact p.invokes_of_advance hkept h
  | reading result next =>
    cases result with
    | ok list => exact (next list).invokes_of_advance hkept h
    | error e =>
      cases h
      simp [Invokes, poll]
  | scanning future next =>
    -- The scan has begun before this poll, so the poll itself asks for nothing.
    obtain rfl := hw.detected.others_eq_nil
    rcases hpoll : w.pollDetected future with ⟨rest | (e | list), w'⟩
    all_goals
      have hgrows := (hw.pollDetected hpoll).1
      have heffects := SharedList.counts_detected.of_poll hpoll
      -- The work goes on, has failed, or has given the list with which the program goes on.
      simp only [poll, hpoll] at h hkept ⊢
    · rw [heffects, Effects.none_followedBy]
      exact h
    · cases h
      rw [heffects, Effects.none_followedBy]
      exact (next detected).invokes_none
    · have hadvance := (next list).advance_grows (c := c) w'
      have hlist := SharedList.detected.kept_of_poll hpoll
      obtain rfl := hkept list (hadvance.detected.kept list hlist)
      rw [Session.effects_trans hgrows hadvance, heffects, Effects.none_followedBy]
      exact (next detected).invokes_of_advance hkept h
  | fetching future next =>
    obtain rfl := hw.catalog.others_eq_nil
    rcases hpoll : w.pollCatalog future with ⟨rest | (e | list), w'⟩
    all_goals
      have hgrows := (hw.pollCatalog hpoll).1
      have heffects := SharedList.counts_catalog.of_poll hpoll
      simp only [poll, hpoll] at h hkept ⊢
    · rw [heffects, Effects.none_followedBy]
      exact h
    · cases h
      rw [heffects, Effects.none_followedBy]
      exact ⟨[], (next []).invokes_none⟩
    · have hadvance := (next list).advance_grows (c := c) w'
      rw [Session.effects_trans hgrows hadvance, heffects, Effects.none_followedBy]
      exact ⟨list, (next list).invokes_of_advance hkept h⟩
  | finished result =>
    cases h
    simp [Invokes, poll]

end Invocations

/-! ## §4 Effects of one call among others -/

namespace Concurrence

/-- What a turn asks of the collaborators on behalf of one of the calls. -/
def effectsAt (c : Collaborators σ) (index : Nat) (w : Concurrence σ α) (turn : Turn) : Effects :=
  if turn = .call index then w.shared.session.effects (w.step c turn).shared.session else .none

/-- What the turns of a schedule ask of the collaborators on behalf of one of the calls. -/
def effectsOf (c : Collaborators σ) (w : Concurrence σ α) (index : Nat) : List Turn → Effects
  | [] => .none
  | turn :: rest => (w.effectsAt c index turn).followedBy ((w.step c turn).effectsOf c index rest)

/-- Whether the token is cancelled when one of the calls is polled for the first time, or at the end
if it is never polled. -/
def beginsCancelled (c : Collaborators σ) (w : Concurrence σ α) (index : Nat) : List Turn → Bool
  | [] => w.shared.session.cancelled
  | turn :: rest =>
    if turn = .call index then w.shared.session.cancelled
    else (w.step c turn).beginsCancelled c index rest

variable {v : Concurrence σ α} {detected : List DetectedJdk}

/-- The turn of somebody else leaves a call as it is. -/
theorem getElem?_step_of_ne (v : Concurrence σ α) {index : Nat} {turn : Turn}
    (h : turn ≠ .call index) : (v.step c turn).activities[index]? = v.activities[index]? := by
  cases turn with
  | cancellation => rfl
  | call polled =>
    have hne : polled ≠ index := by
      intro heq
      exact h (congrArg Turn.call heq)
    cases hpolled : v.activities[polled]? with
    | none => rw [step, poll_eq_self hpolled]
    | some b => rw [step, poll_eq hpolled, List.getElem?_set_ne hne]

theorem invokes_of_step {index : Nat} {a a' : Activity α} {later : Effects} (hv : v.Consistent)
    (turn : Turn) (ha : v.activities[index]? = some a)
    (ha' : (v.step c turn).activities[index]? = some a')
    (hkept : ∀ list, (v.step c turn).shared.session.detected.kept = some list → detected = list)
    (h : a'.Invokes detected later) :
    a.Invokes detected ((v.effectsAt c index turn).followedBy later) := by
  -- A turn of another call has no effect that counts for this one.
  by_cases hturn : turn = .call index
  · subst hturn
    rw [effectsAt, if_pos rfl]
    simp only [step, poll_eq ha] at ha' hkept ⊢
    obtain ⟨hlt, -⟩ := List.getElem?_eq_some_iff.mp ha
    cases (List.getElem?_set_self hlt).symm.trans ha'
    exact Activity.invokes_of_poll (hv.front ha) hkept h
  · rw [effectsAt, if_neg hturn, Effects.none_followedBy]
    rw [getElem?_step_of_ne v hturn] at ha'
    cases ha.symm.trans ha'
    exact h

/-- What a call asks for in the turns of a schedule, its activity can ask for. -/
theorem invokes_of_after {index : Nat} {a : Activity α} (hv : v.Consistent) (schedule : List Turn)
    (ha : v.activities[index]? = some a)
    (hkept : ∀ list, (v.after c schedule).shared.session.detected.kept = some list →
      detected = list) :
    a.Invokes detected (effectsOf c v index schedule) := by
  -- On the schedule; what this turn has asked for comes first, and the rest follows.
  induction schedule generalizing v a with
  | nil => exact a.invokes_none
  | cons turn rest ih =>
    obtain ⟨hgrows, hstep⟩ := step_consistent (c := c) hv turn
    have hrest := (after_consistent (c := c) hstep rest).1
    obtain ⟨hlt, -⟩ := List.getElem?_eq_some_iff.mp ha
    have hnext := List.getElem?_eq_getElem ((length_step (c := c) v turn).symm ▸ hlt)
    refine invokes_of_step hv turn ha hnext ?_ (ih hstep hnext hkept)
    intro list hlist
    exact hkept list (hrest.detected.kept list hlist)

/-- The JDKs on the machine are those that the session keeps in the end. -/
theorem invokes_kept {index : Nat} {a : Activity α} (hv : v.Consistent) (schedule : List Turn)
    (ha : v.activities[index]? = some a) :
    a.Invokes ((v.after c schedule).shared.session.detected.kept.getD [])
      (effectsOf c v index schedule) := by
  refine invokes_of_after hv schedule ha ?_
  intro list hlist
  rw [hlist, Option.getD_some]

/-- A call that finds the token cancelled when it begins asks for nothing. -/
theorem effectsOf_of_beginsCancelled {index : Nat} {next : Program α} (hv : v.Consistent)
    {schedule : List Turn} (ha : v.activities[index]? = some (.standing (.check next)))
    (h : beginsCancelled c v index schedule = true) : effectsOf c v index schedule = .none := by
  induction schedule generalizing v with
  | nil => rfl
  | cons turn rest ih =>
    obtain ⟨-, hstep⟩ := step_consistent (c := c) hv turn
    by_cases hturn : turn = .call index
    · subst hturn
      rw [beginsCancelled, if_pos rfl] at h
      -- The first poll ends the call, and a call that has finished asks for nothing more.
      have hpoll : (Activity.standing (.check next)).poll c v.shared =
          (.finished (.error .cancelled), v.shared) := by
        simp only [Activity.poll, Program.advance, h, ↓reduceIte]
      obtain ⟨hlt, -⟩ := List.getElem?_eq_some_iff.mp ha
      have hfinished : (v.step c (.call index)).activities[index]? =
          some (.finished (.error .cancelled)) := by
        rw [step, poll_eq ha, hpoll, List.getElem?_set_self hlt]
      have hrest : effectsOf c (v.step c (.call index)) index rest = .none :=
        invokes_kept hstep rest hfinished
      have hturn : v.effectsAt c index (.call index) = .none := by
        rw [effectsAt, if_pos rfl, step, poll_eq ha, hpoll, Session.effects_self]
      rw [effectsOf, hturn, hrest, Effects.none_followedBy]
    · rw [beginsCancelled, if_neg hturn] at h
      have hnext := (getElem?_step_of_ne (c := c) v hturn).trans ha
      rw [effectsOf, effectsAt, if_neg hturn, Effects.none_followedBy, ih hstep hnext h]

/-- What is asked for on behalf of the only call is all that is asked for. -/
theorem effectsOf_single (hv : v.Consistent) (hlength : v.activities.length = 1)
    (schedule : List Turn) :
    effectsOf c v 0 schedule = v.shared.session.effects (v.after c schedule).shared.session := by
  induction schedule generalizing v with
  | nil => exact v.shared.session.effects_self.symm
  | cons turn rest ih =>
    obtain ⟨hgrows, hstep⟩ := step_consistent (c := c) hv turn
    have hrest := (after_consistent (c := c) hstep rest).1
    have hturn : v.effectsAt c 0 turn =
        v.shared.session.effects (v.step c turn).shared.session := by
      cases turn with
      | cancellation =>
        have hne : Turn.cancellation ≠ .call 0 := by decide
        rw [effectsAt, if_neg hne]
        exact v.shared.session.effects_cancel.symm
      | call polled =>
        cases polled with
        | zero => rw [effectsAt, if_pos rfl]
        | succ polled =>
          -- There is no other call to be polled.
          have hnone : v.activities[polled + 1]? = none := by
            rw [List.getElem?_eq_none_iff, hlength]
            omega
          have hne : Turn.call (polled + 1) ≠ .call 0 := by simp
          rw [effectsAt, if_neg hne, step, poll_eq_self hnone, Session.effects_self]
    rw [effectsOf, hturn, ih hstep (by rw [length_step, hlength])]
    exact (Session.effects_trans hgrows hrest).symm

end Concurrence

theorem Program.invokes_of_run {s : Session σ} (hs : s.Sound) (p : Program α) :
    p.Invokes ((p.run c s).2.detected.kept.getD []) (s.effects (p.run c s).2) := by
  obtain ⟨schedule, hschedule⟩ := p.exists_schedule (c := c) s
  have hstart := Concurrence.start_consistent hs [p]
  have hp : (Concurrence.start [p] s).activities[0]? = some (.standing p) := rfl
  have hinvokes := Concurrence.invokes_kept (c := c) hstart schedule hp
  rw [Concurrence.effectsOf_single hstart rfl, hschedule] at hinvokes
  exact hinvokes

end JdkFinder
