import JdkFinder.Cancellation.Wakeup

/-!
# No wake-up is missed

The steps of waiters and cancellers interleave in any order.  Once a canceller has taken both of its
steps, every waiter that is parked has been notified, and no waiter finds the flag unset any more
(`WaitingRoom.no_wakeup_missed`).  So from then on every waiter returns after two turns of its own
(`WaitingRoom.returns_within_two_turns`).

The invariant is about the waiters that have found the flag unset.  They had enabled their
notification before, and every canceller sets the flag before it notifies: so whoever has finished
has notified all of them (`WaitingRoom.Sound`).
-/

namespace JdkFinder

/-! ## §1 One waiter -/

namespace Waiter

variable {flag : Bool} {w : Waiter}

/-- The waiter has found the flag unset. -/
def IsEarly (w : Waiter) : Prop :=
  w.stage = .unflagged ∨ w.stage = .parked

theorem not_isEarly_iff : ¬ w.IsEarly ↔ w.isBeforeReading = true ∨ w.stage = .returned := by
  rcases w with ⟨stage, woken⟩
  cases stage <;> simp [IsEarly, isBeforeReading]

/-- Only who reads an unset flag becomes an early waiter. -/
theorem isEarly_of_step (h : (w.step flag).IsEarly) : w.IsEarly ∨ flag = false := by
  rcases w with ⟨stage, woken⟩
  cases stage with
  | idle => simp [step, IsEarly] at h
  | enabled =>
    cases flag with
    | true => simp [step, IsEarly] at h
    | false => exact .inr rfl
  | unflagged => exact .inl (.inl rfl)
  | parked => exact .inl (.inr rfl)
  | returned => simp [step, IsEarly] at h

@[simp] theorem woken_step : (w.step flag).woken = w.woken := by
  rcases w with ⟨stage, woken⟩
  cases stage with
  | parked => cases woken <;> rfl
  | _ => rfl

/-- The notification of an early waiter is enabled. -/
theorem woken_notify_of_isEarly (h : w.IsEarly) : w.notify.woken = true := by
  have henabled : w.isEnabled = true := by
    rcases h with h | h <;> simp [isEnabled, h]
  rw [notify, henabled, Bool.or_true]

theorem woken_notify_of_woken (h : w.woken = true) : w.notify.woken = true := by
  rw [notify, h, Bool.true_or]

/-! ### The way to the end -/

/-- How many more turns the waiter needs once the flag is set and the early waiters are notified. -/
def turnsLeft (w : Waiter) : Nat :=
  match w.stage with
  | .idle => 2
  | .enabled => 1
  | .unflagged => 2
  | .parked => 1
  | .returned => 0

/-- The waiter has been notified if it has found the flag unset. -/
def IsServed (w : Waiter) : Prop :=
  w.IsEarly → w.woken = true

theorem turnsLeft_eq_zero_iff : w.turnsLeft = 0 ↔ w.stage = .returned := by
  rcases w with ⟨stage, woken⟩
  cases stage <;> simp [turnsLeft]

theorem turnsLeft_le_two (w : Waiter) : w.turnsLeft ≤ 2 := by
  rcases w with ⟨stage, woken⟩
  cases stage <;> simp [turnsLeft]

theorem IsServed.notify (h : w.IsServed) : w.notify.IsServed :=
  fun hearly => woken_notify_of_woken (h hearly)

theorem IsServed.step (h : w.IsServed) : (w.step true).IsServed := by
  intro hearly
  rw [woken_step]
  exact h ((isEarly_of_step hearly).resolve_right Bool.noConfusion)

/-- A waiter that has been served gets on with every turn. -/
theorem IsServed.turnsLeft_step (h : w.IsServed) : (w.step true).turnsLeft = w.turnsLeft - 1 := by
  rcases w with ⟨stage, woken⟩
  cases stage with
  | parked =>
    obtain rfl : woken = true := h (.inr rfl)
    rfl
  | _ => rfl

end Waiter

/-! ## §2 One turn -/

namespace WaitingRoom

variable {room : WaitingRoom} {turn : Turn}

/-- A turn is a step of a waiter, sets the flag, notifies the waiters, or does nothing. -/
theorem step_cases (room : WaitingRoom) (turn : Turn) :
    (∃ i, turn = .waiter i ∧
      room.step turn = { room with waiters := room.waiters.modify i (Waiter.step room.flag) }) ∨
    (∃ i, turn = .canceller i ∧ room.cancellers[i]? = some .idle ∧
      room.step turn = { room with flag := true, cancellers := room.cancellers.set i .flagged }) ∨
    (∃ i, turn = .canceller i ∧ room.cancellers[i]? = some .flagged ∧
      room.step turn =
        { room with
          waiters := room.waiters.map Waiter.notify
          cancellers := room.cancellers.set i .finished }) ∨
    (∃ i, turn = .canceller i ∧ room.step turn = room) := by
  cases turn with
  | waiter i => exact .inl ⟨i, rfl, rfl⟩
  | canceller i =>
    -- What a canceller does depends on how far it has come; a number may also belong to none.
    simp only [step]
    cases hcanceller : room.cancellers[i]? with
    | none => exact .inr (.inr (.inr ⟨i, rfl, rfl⟩))
    | some canceller =>
      cases canceller with
      | idle => exact .inr (.inl ⟨i, rfl, hcanceller, rfl⟩)
      | flagged => exact .inr (.inr (.inl ⟨i, rfl, hcanceller, rfl⟩))
      | finished => exact .inr (.inr (.inr ⟨i, rfl, rfl⟩))

/-- Nobody takes the flag down. -/
theorem flag_step (h : room.flag = true) (turn : Turn) : (room.step turn).flag = true := by
  rcases room.step_cases turn with ⟨i, -, hstep⟩ | ⟨i, -, -, hstep⟩ | ⟨i, -, -, hstep⟩ |
    ⟨i, -, hstep⟩
  · rw [hstep, h]
  · rw [hstep]
  · rw [hstep, h]
  · rw [hstep, h]

/-- A waiter takes its own steps, and others may notify it. -/
theorem exists_waiter_step (room : WaitingRoom) (turn : Turn) (i : Nat) :
    ∃ change, (room.step turn).waiters[i]? = room.waiters[i]?.map change ∧
      (turn = .waiter i ∧ change = Waiter.step room.flag ∨
        turn ≠ .waiter i ∧ (change = id ∨ change = Waiter.notify)) := by
  -- The four kinds of step: only one made by the waiter itself moves it, and only notifying touches
  -- the others.
  rcases room.step_cases turn with ⟨j, rfl, hstep⟩ | ⟨j, rfl, -, hstep⟩ | ⟨j, rfl, -, hstep⟩ |
    ⟨j, rfl, hstep⟩
  · rw [hstep]
    by_cases hsame : j = i
    · subst hsame
      exact ⟨_, by simp, .inl ⟨rfl, rfl⟩⟩
    · exact ⟨id, by simp [hsame], .inr ⟨by simpa [eq_comm] using hsame, .inl rfl⟩⟩
  · rw [hstep]
    exact ⟨id, by simp, .inr ⟨by simp, .inl rfl⟩⟩
  · rw [hstep]
    exact ⟨Waiter.notify, by simp, .inr ⟨by simp, .inr rfl⟩⟩
  · rw [hstep]
    exact ⟨id, by simp, .inr ⟨by simp, .inl rfl⟩⟩

/-! ## §3 The invariant -/

/-- A canceller that has begun has set the flag, and one that has finished has notified all who had
found it unset. -/
structure Sound (room : WaitingRoom) : Prop where
  flag_of_begun : ∀ c ∈ room.cancellers, c ≠ .idle → room.flag = true
  served_of_finished : .finished ∈ room.cancellers → ∀ w ∈ room.waiters, w.IsServed

theorem sound_start (waiters cancellers : Nat) : (start waiters cancellers).Sound where
  flag_of_begun c hc hbegun := absurd (List.eq_of_mem_replicate hc) hbegun
  served_of_finished hfinished := by cases List.eq_of_mem_replicate hfinished

theorem Sound.flag_of_finished (h : room.Sound) (hfinished : .finished ∈ room.cancellers) :
    room.flag = true :=
  h.flag_of_begun _ hfinished (by simp)

/-- A waiter that takes a step does not find the flag unset once a canceller has finished. -/
theorem Sound.waiter (h : room.Sound) (i : Nat) :
    ({ room with waiters := room.waiters.modify i (Waiter.step room.flag) } :
      WaitingRoom).Sound where
  flag_of_begun := h.flag_of_begun
  served_of_finished hfinished w hw := by
    have hserved := h.served_of_finished hfinished
    obtain ⟨j, hj⟩ := List.mem_iff_getElem?.mp hw
    rw [List.getElem?_modify] at hj
    obtain ⟨before, hbefore, rfl⟩ := Option.map_eq_some_iff.mp hj
    have hbefore := hserved before (List.mem_of_getElem? hbefore)
    split
    · rw [h.flag_of_finished hfinished]
      exact hbefore.step
    · exact hbefore

/-- A canceller that begins is not the one that has finished. -/
theorem Sound.begin (h : room.Sound) (i : Nat) :
    ({ room with flag := true, cancellers := room.cancellers.set i .flagged } :
      WaitingRoom).Sound where
  flag_of_begun _ _ _ := rfl
  served_of_finished hfinished := by
    rcases List.mem_or_eq_of_mem_set hfinished with hbefore | hself
    · exact h.served_of_finished hbefore
    · cases hself

/-- A canceller that notifies serves every waiter. -/
theorem Sound.finish (h : room.Sound) {i : Nat} (hflagged : room.cancellers[i]? = some .flagged) :
    ({ room with
        waiters := room.waiters.map Waiter.notify
        cancellers := room.cancellers.set i .finished } : WaitingRoom).Sound where
  flag_of_begun _ _ _ := h.flag_of_begun _ (List.mem_of_getElem? hflagged) (by simp)
  served_of_finished _ w hw := by
    obtain ⟨before, -, rfl⟩ := List.mem_map.mp hw
    exact fun hearly => Waiter.woken_notify_of_isEarly hearly

theorem Sound.step (h : room.Sound) (turn : Turn) : (room.step turn).Sound := by
  rcases room.step_cases turn with ⟨i, -, hstep⟩ | ⟨i, -, -, hstep⟩ | ⟨i, -, hflagged, hstep⟩ |
    ⟨i, -, hstep⟩
  · rw [hstep]
    exact h.waiter i
  · rw [hstep]
    exact h.begin i
  · rw [hstep]
    exact h.finish hflagged
  · rw [hstep]
    exact h

theorem Sound.after (h : room.Sound) (turns : List Turn) : (room.after turns).Sound := by
  induction turns generalizing room with
  | nil => exact h
  | cons turn rest ih => exact ih (h.step turn)

/-! ## §4 Any number of turns -/

variable {w w' : Waiter} {i : Nat}

theorem flag_after (h : room.flag = true) (turns : List Turn) : (room.after turns).flag = true := by
  induction turns generalizing room with
  | nil => exact h
  | cons turn rest ih => exact ih (flag_step h turn)

/-- Once the flag is set, no waiter that is still to read it becomes an early one. -/
theorem not_isEarly_after (hflag : room.flag = true) (hw : room.waiters[i]? = some w)
    (hearly : ¬ w.IsEarly) (turns : List Turn)
    (hw' : (room.after turns).waiters[i]? = some w') : ¬ w'.IsEarly := by
  induction turns generalizing room w with
  | nil =>
    obtain rfl : w = w' := Option.some.inj (hw.symm.trans hw')
    exact hearly
  | cons turn rest ih =>
    obtain ⟨change, hchange, hkind⟩ := room.exists_waiter_step turn i
    rw [hw, Option.map_some] at hchange
    refine ih (flag_step hflag turn) hchange ?_ hw'
    rcases hkind with ⟨-, rfl⟩ | ⟨-, rfl | rfl⟩
    · -- Once the flag is set, no look at it finds it unset.
      intro hstep
      rcases Waiter.isEarly_of_step hstep with hbefore | hunset
      · exact hearly hbefore
      · rw [hflag] at hunset
        cases hunset
    · exact hearly
    · exact hearly

/-- A waiter that has been served gets on with each of its own turns. -/
theorem turnsLeft_after (hflag : room.flag = true) (hw : room.waiters[i]? = some w)
    (hserved : w.IsServed) (turns : List Turn) :
    ∃ w', (room.after turns).waiters[i]? = some w' ∧
      w'.turnsLeft ≤ w.turnsLeft - turns.count (.waiter i) := by
  induction turns generalizing room w with
  | nil => exact ⟨w, hw, Nat.le_refl _⟩
  | cons turn rest ih =>
    obtain ⟨change, hchange, hkind⟩ := room.exists_waiter_step turn i
    rw [hw, Option.map_some] at hchange
    rcases hkind with ⟨rfl, rfl⟩ | ⟨hother, hchanged⟩
    · -- A turn of its own brings the waiter one step on.
      rw [hflag] at hchange
      obtain ⟨w', hw', hleft⟩ := ih (flag_step hflag _) hchange hserved.step
      refine ⟨w', hw', ?_⟩
      rw [hserved.turnsLeft_step] at hleft
      rw [List.count_cons_self]
      omega
    · -- Any other turn notifies the waiter or leaves it alone.
      have hkept : (change w).IsServed ∧ (change w).turnsLeft = w.turnsLeft := by
        rcases hchanged with rfl | rfl
        · exact ⟨hserved, rfl⟩
        · exact ⟨hserved.notify, rfl⟩
      obtain ⟨w', hw', hleft⟩ := ih (flag_step hflag _) hchange hkept.1
      refine ⟨w', hw', ?_⟩
      rwa [List.count_cons_of_ne hother, ← hkept.2]

/-- Once a canceller has taken both of its steps, no waiter is parked without having been notified,
and who has not read the flag yet will find it set. -/
theorem no_wakeup_missed (waiters cancellers : Nat) (turns : List Turn)
    (hfinished : .finished ∈ ((start waiters cancellers).after turns).cancellers) :
    (∀ w ∈ ((start waiters cancellers).after turns).waiters,
      w.stage = .parked → w.woken = true) ∧
    ∀ (i : Nat) (w : Waiter), ((start waiters cancellers).after turns).waiters[i]? = some w →
      w.isBeforeReading = true → ∀ later : List Turn,
        (((start waiters cancellers).after turns).after later).flag = true ∧
        ∀ w' : Waiter,
          (((start waiters cancellers).after turns).after later).waiters[i]? = some w' →
            w'.isBeforeReading = true ∨ w'.stage = .returned := by
  have hsound := (sound_start waiters cancellers).after turns
  have hflag := hsound.flag_of_finished hfinished
  refine ⟨fun w hw hparked => hsound.served_of_finished hfinished w hw (.inr hparked), ?_⟩
  intro i w hw hbefore later
  refine ⟨flag_after hflag later, fun w' hw' => ?_⟩
  have hlate : ¬ w.IsEarly := Waiter.not_isEarly_iff.mpr (.inl hbefore)
  exact Waiter.not_isEarly_iff.mp (not_isEarly_after hflag hw hlate later hw')

/-- The flag is set after the first waiter has read it and before that waiter parks: it has enabled
its notification by then, so it is notified in time.  The other waiter has yet to begin. -/
theorem wakes_waiter_parked_after_flag :
    ((start 2 1).after [.waiter 0, .waiter 0, .canceller 0, .waiter 0, .canceller 0]).waiters =
        [⟨.parked, true⟩, ⟨.idle, false⟩] ∧
      ∀ later : List Turn, ∀ w' : Waiter,
        (((start 2 1).after [.waiter 0, .waiter 0, .canceller 0, .waiter 0, .canceller 0]).after
          later).waiters[1]? = some w' →
        w'.isBeforeReading = true ∨ w'.stage = .returned := by
  have h := no_wakeup_missed 2 1 [.waiter 0, .waiter 0, .canceller 0, .waiter 0, .canceller 0]
    (by decide)
  exact ⟨by decide, fun later => (h.2 1 ⟨.idle, false⟩ (by decide) (by decide) later).2⟩

/-- Once a canceller has finished, every waiter returns after two turns of its own. -/
theorem returns_within_two_turns (waiters cancellers : Nat) (turns later : List Turn)
    (hfinished : .finished ∈ ((start waiters cancellers).after turns).cancellers)
    (hw : ((start waiters cancellers).after turns).waiters[i]? = some w)
    (hturns : 2 ≤ later.count (.waiter i)) :
    ∃ w', (((start waiters cancellers).after turns).after later).waiters[i]? = some w' ∧
      w'.stage = .returned := by
  have hsound := (sound_start waiters cancellers).after turns
  have hserved := hsound.served_of_finished hfinished w (List.mem_of_getElem? hw)
  obtain ⟨w', hw', hleft⟩ :=
    turnsLeft_after (hsound.flag_of_finished hfinished) hw hserved later
  have hmost := w.turnsLeft_le_two
  exact ⟨w', hw', Waiter.turnsLeft_eq_zero_iff.mp (by omega)⟩

end WaitingRoom

end JdkFinder
