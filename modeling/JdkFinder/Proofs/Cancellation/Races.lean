import JdkFinder.Cancellation.Polling

/-!
# Who wins a race

A race is decided by the first of its polls that finds the token cancelled or the future at its
end, and in that order: the future wins if and only if it ends in a poll at whose beginning the
token is not cancelled (`RaceState.race_outcome`).  The waiter inside does not show: between two
polls of a running race it is parked, and it has been notified if and only if the token is cancelled
(`RaceState.IsReady`).  So every poll does what `Future.raceOnce` says (`RaceState.Shows.poll`), and
a race with nobody else comes to what `Future.race` says (`RaceState.exists_result_race`).
-/

namespace JdkFinder

variable {α : Type} {future : FuturePolls α}

/-! ## §1 One poll -/

/-- A computation that ends in some poll. -/
inductive Future.Ends : Future α → Prop where
  | ready (cancels : Bool) (result : Except Error α) : Ends (.ready cancels result)
  | pending (cancels : Bool) {rest : Future α} (h : Ends rest) : Ends (.pending cancels rest)

namespace Waiter

/-- A waiter that begins when the token is cancelled returns, and else it parks. -/
theorem poll_fresh (flag : Bool) :
    fresh.poll flag = if flag then ⟨.returned, false⟩ else ⟨.parked, false⟩ := by
  cases flag <;> rfl

/-- A parked waiter returns once it has been notified. -/
theorem poll_parked (flag woken : Bool) :
    (⟨.parked, woken⟩ : Waiter).poll flag =
      if woken then ⟨.returned, true⟩ else ⟨.parked, false⟩ := by
  cases woken <;> rfl

/-- A poll takes a waiter as far as it gets: its four steps are enough. -/
theorem step_poll (flag : Bool) (w : Waiter) : (w.poll flag).step flag = w.poll flag := by
  rcases w with ⟨stage, woken⟩
  cases stage <;> cases woken <;> cases flag <;> rfl

end Waiter

namespace RaceState

variable {s : RaceState α}

/-- A race that is not decided, between two polls: its waiter knows whether the token is
cancelled. -/
def IsReady (s : RaceState α) : Prop :=
  s.stage = .unstarted ∨ s.stage = .running ⟨.parked, s.flag⟩

theorem IsReady.result?_eq_none (h : s.IsReady) : s.result? = none := by
  rcases h with h | h <;> simp [result?, h]

/-- What a poll of the future makes of a race whose token is not cancelled. -/
def played (future : FuturePolls α) (s : RaceState α) : RaceState α where
  flag := (future s.polls).cancels
  polls := s.polls + 1
  stage :=
    match (future s.polls).result? with
    | some result => .decided result
    | none => .running ⟨.parked, (future s.polls).cancels⟩

theorem select_of_returned {waiter : Waiter} (h : (waiter.poll s.flag).stage = .returned) :
    s.select future waiter = s.lose := by
  rw [select, if_pos h]

theorem select_of_parked {waiter : Waiter} (hflag : s.flag = false)
    (h : waiter.poll s.flag = ⟨.parked, false⟩) : s.select future waiter = s.played future := by
  rw [select, h, if_neg (by simp), pollFuture, played]
  cases (future s.polls).cancels with
  | true => cases (future s.polls).result? <;> rfl
  | false => cases (future s.polls).result? <;> simp [hflag]

/-- A race loses if the poll begins with a cancelled token, and else polls the future. -/
theorem IsReady.poll_eq (h : s.IsReady) :
    s.poll future = if s.flag then s.lose else s.played future := by
  rcases h with hstage | hstage
  · rw [poll, hstage]
    cases hflag : s.flag with
    | true => rfl
    | false => exact select_of_parked hflag (by rw [hflag, Waiter.poll_fresh]; rfl)
  · rw [poll, hstage]
    cases hflag : s.flag with
    | true => exact select_of_returned (by rw [hflag, Waiter.poll_parked]; rfl)
    | false => exact select_of_parked hflag (by rw [hflag, Waiter.poll_parked]; rfl)

/-! ## §2 Other tasks -/

@[simp] theorem polls_cancel : s.cancel.polls = s.polls :=
  rfl

theorem IsReady.cancel (h : s.IsReady) : s.cancel.IsReady := by
  rcases h with h | h
  · exact .inl (by simp [RaceState.cancel, h])
  · exact .inr (by simp [RaceState.cancel, h, Waiter.notify, Waiter.isEnabled])

@[simp] theorem meet_zero : s.meet 0 = s :=
  rfl

theorem meet_succ (n : Nat) : s.meet (n + 1) = (s.meet n).cancel :=
  rfl

@[simp] theorem polls_meet (n : Nat) : (s.meet n).polls = s.polls := by
  induction n with
  | zero => rfl
  | succ n ih => rw [meet_succ, polls_cancel, ih]

theorem flag_meet (n : Nat) : (s.meet n).flag = true ↔ s.flag = true ∨ 0 < n := by
  cases n with
  | zero => simp
  | succ n => simp [meet_succ, RaceState.cancel]

theorem IsReady.meet (h : s.IsReady) (n : Nat) : (s.meet n).IsReady := by
  induction n with
  | zero => exact h
  | succ n ih => exact ih.cancel

theorem stage_meet_of_decided {result : Except Error α} (h : s.stage = .decided result) (n : Nat) :
    (s.meet n).stage = .decided result := by
  induction n with
  | zero => exact h
  | succ n ih => rw [meet_succ, RaceState.cancel, ih]

/-- A race that is decided stays so, and polls the future no more. -/
theorem poll_meet_of_decided {result : Except Error α} (h : s.stage = .decided result) (n : Nat) :
    ((s.meet n).poll future).stage = .decided result ∧
      ((s.meet n).poll future).polls = s.polls := by
  have hstage := stage_meet_of_decided h n
  rw [poll, hstage]
  exact ⟨hstage, polls_meet n⟩

/-! ## §3 Polls of the race and polls of a computation -/

/-- The race stands where a computation stands that is raced against the token. -/
inductive Shows (future : FuturePolls α) (s : RaceState α) : Race α × Bool → Prop where
  | running {rest : Future α} (ready : s.IsReady)
      (hrest : ∀ n, future (s.polls + n) = rest.polls n) : Shows future s (.running rest, s.flag)
  | decided {result : Except Error α} (hdecided : s.stage = .decided result) :
      Shows future s (.decided result, s.flag)

theorem Shows.start (flag : Bool) (computation : Future α) :
    Shows computation.polls (start flag) (.running computation, flag) :=
  .running (s := RaceState.start flag) (.inl rfl) fun n => by rw [RaceState.start, Nat.zero_add]

theorem Shows.played_running {cancels : Bool} {rest : Future α}
    (hfirst : future s.polls = ⟨cancels, none⟩)
    (hrest : ∀ n, future (s.polls + 1 + n) = rest.polls n) :
    Shows future (s.played future) (.running rest, cancels) := by
  have heq : s.played future = ⟨cancels, s.polls + 1, .running ⟨.parked, cancels⟩⟩ := by
    rw [played, hfirst]
  rw [heq]
  exact .running (s := ⟨cancels, _, _⟩) (.inr rfl) hrest

theorem Shows.played_decided {cancels : Bool} {result : Except Error α}
    (hfirst : future s.polls = ⟨cancels, some result⟩) :
    Shows future (s.played future) (.decided result, cancels) := by
  have heq : s.played future = ⟨cancels, s.polls + 1, .decided result⟩ := by
    rw [played, hfirst]
  rw [heq]
  exact .decided (s := ⟨cancels, _, _⟩) rfl

/-- A poll of the race does what a poll of the computation against the token does. -/
theorem Shows.poll {rest : Future α} {cancelled : Bool}
    (h : Shows future s (.running rest, cancelled)) :
    Shows future (s.poll future) (rest.raceOnce cancelled) := by
  cases h with
  | running ready hrest =>
    rw [ready.poll_eq, Future.raceOnce]
    cases hflag : s.flag with
    | true =>
      -- The race is lost, and so is the one against a single flag.
      rw [if_pos rfl, if_pos rfl, ← hflag]
      exact .decided (s := s.lose) rfl
    | false =>
      rw [if_neg Bool.false_ne_true, if_neg Bool.false_ne_true]
      have hlater (n : Nat) : future (s.polls + 1 + n) = rest.polls (n + 1) := by
        rw [Nat.add_assoc, Nat.add_comm 1 n, hrest]
      cases rest with
      | ready cancels result =>
        -- The poll is one of the future; what is left of its polls is the rest of the computation.
        exact .played_decided (hrest 0)
      | pending cancels rest => exact .played_running (hrest 0) hlater
      | stalled cancels => exact .played_running (hrest 0) hlater

theorem Shows.result?_eq {result : Except Error α} {cancelled : Bool}
    (h : Shows future s (.decided result, cancelled)) : s.result? = some result := by
  cases h with
  | decided hdecided => rw [result?, hdecided]

/-- Where nobody else cancels the token, the result of a race that has come so far is that of the
computation against the token. -/
theorem Shows.exists_result {rest : Future α} {flag cancelled : Bool} {n : Nat}
    (h : Shows future (after (fun _ => 0) flag future n) (.running rest, cancelled))
    (hends : rest.Ends) :
    ∃ m, (after (fun _ => 0) flag future m).result? = some (rest.race cancelled).1 := by
  -- On the polls that are still to come; the race is over when the future is ready or its token is
  -- cancelled.
  induction hends generalizing n cancelled with
  | ready cancels result =>
    have hnext : Shows future (after (fun _ => 0) flag future (n + 1)) _ := h.poll
    refine ⟨n + 1, ?_⟩
    cases cancelled <;> exact hnext.result?_eq
  | pending cancels _ ih =>
    have hnext : Shows future (after (fun _ => 0) flag future (n + 1)) _ := h.poll
    cases cancelled with
    | true => exact ⟨n + 1, hnext.result?_eq⟩
    | false => exact ih hnext

/-- The race poll by poll comes to what `Future.race` says of a computation that ends. -/
theorem exists_result_race (flag : Bool) {computation : Future α} (hends : computation.Ends) :
    ∃ n, (after (fun _ => 0) flag computation.polls n).result? =
      some (computation.race flag).1 :=
  (Shows.start flag computation).exists_result (n := 0) hends

end RaceState

/-! ## §4 What decides -/

namespace FuturePolls

/-- The future does not end in its first polls. -/
def PendingFor (future : FuturePolls α) (n : Nat) : Prop :=
  ∀ k < n, (future k).result? = none

/-- The future ends in the poll that has so many polls before it. -/
structure EndsAt (future : FuturePolls α) (n : Nat) (result : Except Error α) : Prop where
  pending : future.PendingFor n
  ends : (future n).result? = some result

/-- When the poll begins that has so many polls before it, the token is cancelled: it was from the
start, or another task has cancelled it, or the future has in an earlier poll. -/
def CancelledBy (others : Nat → Nat) (flag : Bool) (future : FuturePolls α) (n : Nat) : Prop :=
  flag = true ∨ (∃ k ≤ n, 0 < others k) ∨ ∃ k < n, (future k).cancels = true

variable {others : Nat → Nat} {flag : Bool} {k n : Nat} {result : Except Error α}

theorem PendingFor.mono (h : future.PendingFor n) (hk : k ≤ n) : future.PendingFor k :=
  fun j hj => h j (Nat.lt_of_lt_of_le hj hk)

theorem PendingFor.succ (h : future.PendingFor n) (hnone : (future n).result? = none) :
    future.PendingFor (n + 1) := by
  intro j hj
  rcases Nat.lt_succ_iff_lt_or_eq.mp hj with hbefore | rfl
  · exact h j hbefore
  · exact hnone

/-- A future goes on until it ends, and not longer. -/
theorem EndsAt.le (h : future.EndsAt k result) (hpending : future.PendingFor n) : n ≤ k := by
  apply Nat.le_of_not_lt
  intro hlater
  have hnone := hpending k hlater
  rw [h.ends] at hnone
  cases hnone

theorem EndsAt.unique {result' : Except Error α} (h : future.EndsAt k result)
    (h' : future.EndsAt n result') : k = n ∧ result = result' := by
  obtain rfl : k = n := Nat.le_antisymm (h'.le h.pending) (h.le h'.pending)
  exact ⟨rfl, Option.some.inj (h.ends.symm.trans h'.ends)⟩

/-- A cancellation is not taken back. -/
theorem CancelledBy.mono (h : CancelledBy others flag future k) (hk : k ≤ n) :
    CancelledBy others flag future n := by
  rcases h with h | ⟨j, hj, h⟩ | ⟨j, hj, h⟩
  · exact .inl h
  · exact .inr (.inl ⟨j, Nat.le_trans hj hk, h⟩)
  · exact .inr (.inr ⟨j, Nat.lt_of_lt_of_le hj hk, h⟩)

theorem cancelledBy_zero : CancelledBy others flag future 0 ↔ flag = true ∨ 0 < others 0 := by
  simp [CancelledBy]

theorem cancelledBy_succ :
    CancelledBy others flag future (n + 1) ↔
      CancelledBy others flag future n ∨ (future n).cancels = true ∨ 0 < others (n + 1) := by
  constructor
  · -- Whatever cancels up to the next poll did so before, or is in that poll, or comes right before
    -- it.
    rintro (h | ⟨k, hk, h⟩ | ⟨k, hk, h⟩)
    · exact .inl (.inl h)
    · rcases Nat.le_succ_iff.mp hk with hbefore | rfl
      · exact .inl (.inr (.inl ⟨k, hbefore, h⟩))
      · exact .inr (.inr h)
    · rcases Nat.lt_succ_iff_lt_or_eq.mp hk with hbefore | rfl
      · exact .inl (.inr (.inr ⟨k, hbefore, h⟩))
      · exact .inr (.inl h)
  · rintro (h | h | h)
    · exact h.mono (Nat.le_succ n)
    · exact .inr (.inr ⟨n, Nat.lt_succ_self n, h⟩)
    · exact .inr (.inl ⟨n + 1, Nat.le_refl _, h⟩)

end FuturePolls

/-! ## §5 Any number of polls -/

namespace RaceState

open FuturePolls

variable {s : RaceState α} {others : Nat → Nat} {flag : Bool} {n : Nat}

/-- Where a race stands after a number of polls, and why. -/
inductive Stands (others : Nat → Nat) (flag : Bool) (future : FuturePolls α) (n : Nat)
    (s : RaceState α) : Prop where
  /-- No poll has found the token cancelled or the future at its end. -/
  | running (ready : s.IsReady) (polls : s.polls = n) (pending : future.PendingFor n)
      (uncancelled : ∀ k < n, ¬ CancelledBy others flag future k)
      (flag_iff : (s.meet (others n)).flag = true ↔ CancelledBy others flag future n)
  /-- The future has ended in time. -/
  | won {k : Nat} {result : Except Error α} (before : k < n) (ends : future.EndsAt k result)
      (uncancelled : ¬ CancelledBy others flag future k) (stage : s.stage = .decided result)
      (polls : s.polls = k + 1)
  /-- A poll has found the token cancelled, before the future has ended. -/
  | lost {k : Nat} (before : k < n) (pending : future.PendingFor k)
      (cancelled : CancelledBy others flag future k)
      (uncancelled : ∀ j < k, ¬ CancelledBy others flag future j)
      (stage : s.stage = .decided (.error .cancelled)) (polls : s.polls = k)

theorem stands_start : Stands others flag future 0 (start flag) :=
  .running (.inl rfl) rfl (by intro k hk; cases hk) (by intro k hk; cases hk) <| by
    rw [flag_meet, cancelledBy_zero, start]

/-- A poll that begins with a cancelled token loses; else the end of the future wins, and without
an end the race goes on. -/
theorem Stands.step (h : Stands others flag future n s) :
    Stands others flag future (n + 1) ((s.meet (others n)).poll future) := by
  cases h with
  | running ready polls pending uncancelled flag_iff =>
    rw [(ready.meet _).poll_eq]
    have hpolls : (s.meet (others n)).polls = n := by rw [polls_meet, polls]
    -- The waiter is asked first, so a cancellation that is there when the poll begins decides.
    split
    case isTrue hcancelled =>
      exact .lost (Nat.lt_succ_self n) pending (flag_iff.mp hcancelled) uncancelled rfl hpolls
    case isFalse hactive =>
      rw [flag_iff] at hactive
      have hflag : ((s.meet (others n)).played future).flag = (future n).cancels := by
        rw [played, hpolls]
      have hnext : ((s.meet (others n)).played future).polls = n + 1 := by
        rw [played, hpolls]
      cases hend : (future n).result? with
      | some result =>
        exact .won (Nat.lt_succ_self n) ⟨pending, hend⟩ hactive (by simp [played, polls, hend])
          hnext
      | none =>
        refine .running (.inr (by simp [played, polls, hend])) hnext (pending.succ hend) ?_ ?_
        · intro k hk
          rcases Nat.lt_succ_iff_lt_or_eq.mp hk with hbefore | rfl
          · exact uncancelled k hbefore
          · exact hactive
        · -- Nobody had cancelled the token before, so the future has now or somebody will.
          rw [flag_meet, hflag, cancelledBy_succ]
          exact ⟨.inr, fun hcancelled => hcancelled.resolve_left hactive⟩
  | won before ends uncancelled stage polls =>
    obtain ⟨hstage, hpolls⟩ := poll_meet_of_decided stage (others n)
    exact .won (Nat.lt_succ_of_lt before) ends uncancelled hstage (hpolls.trans polls)
  | lost before pending cancelled uncancelled stage polls =>
    obtain ⟨hstage, hpolls⟩ := poll_meet_of_decided stage (others n)
    exact .lost (Nat.lt_succ_of_lt before) pending cancelled uncancelled hstage
      (hpolls.trans polls)

theorem stands_after (others : Nat → Nat) (flag : Bool) (future : FuturePolls α) (n : Nat) :
    Stands others flag future n (after others flag future n) := by
  induction n with
  | zero => exact stands_start
  | succ n ih => exact ih.step

theorem Stands.result?_eq_some_iff (h : Stands others flag future n s)
    (result : Except Error α) :
    s.result? = some result ↔
      (∃ k < n, future.EndsAt k result ∧ ¬ CancelledBy others flag future k) ∨
        result = .error .cancelled ∧
          ∃ k < n, future.PendingFor k ∧ CancelledBy others flag future k := by
  cases h with
  | running ready polls pending uncancelled flag_iff =>
    -- The future has not ended yet, and the token is not cancelled.
    rw [ready.result?_eq_none]
    constructor
    · rintro ⟨⟩
    · rintro (⟨k, hk, hends, -⟩ | ⟨-, k, hk, -, hcancelled⟩)
      · exact absurd (hends.le pending) (Nat.not_le_of_lt hk)
      · exact absurd hcancelled (uncancelled k hk)
  | @won k winner before ends uncancelled stage polls =>
    -- The future has ended in its poll, and it ends only once.
    rw [result?, stage]
    constructor
    · rintro ⟨⟩
      exact .inl ⟨k, before, ends, uncancelled⟩
    · rintro (⟨j, -, hends, -⟩ | ⟨-, j, -, hpending, hcancelled⟩)
      · rw [(ends.unique hends).2]
      · exact absurd (hcancelled.mono (ends.le hpending)) uncancelled
  | @lost k before pending cancelled uncancelled stage polls =>
    -- A future that ended before the cancellation would have won.
    rw [result?, stage]
    constructor
    · rintro ⟨⟩
      exact .inr ⟨rfl, k, before, pending, cancelled⟩
    · rintro (⟨j, -, hends, hactive⟩ | ⟨rfl, -⟩)
      · exact absurd (cancelled.mono (hends.le pending)) hactive
      · rfl

/-- The future is polled while it has not ended and the token is not cancelled. -/
theorem Stands.lt_polls_iff (h : Stands others flag future n s) (k : Nat) :
    k < s.polls ↔ k < n ∧ future.PendingFor k ∧ ¬ CancelledBy others flag future k := by
  cases h with
  | running ready polls pending uncancelled flag_iff =>
    -- Every poll of the race so far has been one of the future.
    rw [polls]
    exact ⟨fun hk => ⟨hk, pending.mono (Nat.le_of_lt hk), uncancelled k hk⟩, fun hk => hk.1⟩
  | won before ends uncancelled stage polls =>
    -- The last poll of the future is the one in which it has ended.
    rw [polls, Nat.lt_succ_iff]
    constructor
    · intro hk
      exact ⟨Nat.lt_of_le_of_lt hk before, ends.pending.mono hk,
        fun hcancelled => uncancelled (hcancelled.mono hk)⟩
    · rintro ⟨-, hpending, -⟩
      exact ends.le hpending
  | lost before pending cancelled uncancelled stage polls =>
    -- The poll that finds the token cancelled does not poll the future.
    rw [polls]
    constructor
    · intro hk
      exact ⟨Nat.lt_trans hk before, pending.mono (Nat.le_of_lt hk), uncancelled k hk⟩
    · rintro ⟨-, -, hactive⟩
      exact Nat.lt_of_not_le fun hk => hactive (cancelled.mono hk)

/-- The token is cancelled when a poll of an undecided race begins if somebody has cancelled it. -/
theorem Stands.flag_meet_iff (h : Stands others flag future n s) (hnone : s.result? = none) :
    (s.meet (others n)).flag = true ↔ CancelledBy others flag future n := by
  cases h with
  | running ready polls pending uncancelled flag_iff => exact flag_iff
  | won before ends uncancelled stage polls => simp [result?, stage] at hnone
  | lost before pending cancelled uncancelled stage polls => simp [result?, stage] at hnone

theorem stage_of_result? {result : Except Error α} (h : s.result? = some result) :
    s.stage = .decided result := by
  rw [result?] at h
  split at h
  case h_1 hstage =>
    rw [hstage, Option.some.inj h]
  case h_2 => cases h

/-- A race that is decided stays as it is, and polls the future no more. -/
theorem after_of_decided {m : Nat} {result : Except Error α} (hm : n ≤ m)
    (h : (after others flag future n).result? = some result) :
    (after others flag future m).result? = some result ∧
      (after others flag future m).polls = (after others flag future n).polls := by
  induction hm with
  | refl => exact ⟨h, rfl⟩
  | @step m _ ih =>
    obtain ⟨hstage, hpolls⟩ := poll_meet_of_decided (stage_of_result? ih.1) (others m)
    exact ⟨by rw [after, result?, hstage], hpolls.trans ih.2⟩

/-- A race that starts when the token is cancelled loses, and never polls the future.  Else the
future's own result is the result of the race if and only if the future ends in a poll at whose
beginning the token is not cancelled, be it cancelled in that poll; and the race is lost if and only
if the token is cancelled at the beginning of a poll before which the future has not ended.  Once
the race is decided, the future is polled no more. -/
theorem race_outcome (others : Nat → Nat) (flag : Bool) (future : FuturePolls α) (n : Nat) :
    ((beginning others flag future 0).flag = true →
      (after others flag future n).polls = 0 ∧
        (0 < n → (after others flag future n).result? = some (.error .cancelled))) ∧
    (∀ result, (after others flag future n).result? = some result ↔
      (∃ k < n, future.EndsAt k result ∧ ¬ CancelledBy others flag future k) ∨
        result = .error .cancelled ∧
          ∃ k < n, future.PendingFor k ∧ CancelledBy others flag future k) ∧
    (∀ k, k < (after others flag future n).polls ↔
      k < n ∧ future.PendingFor k ∧ ¬ CancelledBy others flag future k) ∧
    (∀ m result, n ≤ m → (after others flag future n).result? = some result →
      (after others flag future m).result? = some result ∧
        (after others flag future m).polls = (after others flag future n).polls) ∧
    ((after others flag future n).result? = none →
      ((beginning others flag future n).flag = true ↔ CancelledBy others flag future n)) := by
  have hstands := stands_after others flag future n
  refine ⟨?_, hstands.result?_eq_some_iff, hstands.lt_polls_iff,
    fun _ _ hm hresult => after_of_decided hm hresult, hstands.flag_meet_iff⟩
  -- A token that is cancelled from the start decides the first poll.
  intro hflag
  have hcancelled : CancelledBy others flag future 0 :=
    ((stands_after others flag future 0).flag_meet_iff rfl).mp hflag
  have hpending : future.PendingFor 0 := by
    intro k hk
    cases hk
  constructor
  · apply Nat.eq_zero_of_not_pos
    intro hpolled
    exact ((hstands.lt_polls_iff 0).mp hpolled).2.2 hcancelled
  · intro hn
    exact (hstands.result?_eq_some_iff _).mpr (.inr ⟨rfl, 0, hn, hpending, hcancelled⟩)

end RaceState

end JdkFinder
