import JdkFinder.Cancellation.Token

/-!
# Races in a pool

What a task cancels while it is raced against a token is told by its polls (`Task.Cancels`).  A poll
is made if none before it has cancelled the family of the token, and then all that it cancels is
cancelled, whether or not it ends the task.  A task that never ends and leaves the family alone
loses in the end to a cancellation from outside.  A race in a pool cancels the families that are
told in this way, and no others (`TokenPool.Sound.cancelled_in_race`).

Of what a task cancels in a race only the family of the raced token decides it, as if there were one
flag (`TokenPool.Sound.race_seenBy`).
-/

namespace JdkFinder

variable {α : Type}

/-! ## §1 What a task cancels -/

namespace Task

/-- The tokens that each poll of a task cancels.  All polls of a stalled task cancel the same ones,
so that one of them stands for all. -/
def polls : Task α → List (List Nat)
  | ready cancels _ => [cancels]
  | pending cancels rest => cancels :: rest.polls
  | stalled cancels => [cancels]

/-- No poll ends the task. -/
def NeverEnds : Task α → Prop
  | ready _ _ => False
  | pending _ rest => rest.NeverEnds
  | stalled _ => True

section Polls

/-! `OfFamily` tells the tokens that are one family with the raced one. -/

variable (OfFamily : Nat → Prop)

/-- None of the polls cancels a token of the family. -/
def Spares (polls : List (List Nat)) : Prop :=
  ∀ poll ∈ polls, ∀ u ∈ poll, ¬ OfFamily u

/-- One of the polls cancels the token, and all polls before it spare the family, so that it is
made. -/
def CancelledIn (polls : List (List Nat)) (u : Nat) : Prop :=
  ∃ earlier poll later, polls = earlier ++ poll :: later ∧ Spares OfFamily earlier ∧ u ∈ poll

/-- What a task cancels when it is raced against a token that is not cancelled before. -/
inductive Cancels (token : Nat) (task : Task α) : Nat → Prop where
  | inPoll {u : Nat} (hpoll : CancelledIn OfFamily task.polls u) : Cancels token task u
  /-- Nothing that the task does ends the race, and so somebody else cancels the raced token. -/
  | fromOutside (hends : task.NeverEnds) (hspares : Spares OfFamily task.polls) :
      Cancels token task token

end Polls

variable {OfFamily : Nat → Prop} {polls : List (List Nat)} {poll cancels : List Nat} {token u : Nat}

theorem spares_nil : Spares OfFamily [] :=
  fun _ hpoll => nomatch hpoll

theorem spares_cons_iff :
    Spares OfFamily (poll :: polls) ↔ (∀ v ∈ poll, ¬ OfFamily v) ∧ Spares OfFamily polls :=
  List.forall_mem_cons

theorem not_cancelledIn_nil : ¬ CancelledIn OfFamily [] u := by
  rintro ⟨earlier, poll, later, hpolls, -⟩
  cases earlier <;> cases hpolls

/-- The first poll is made in any case, and the others are made if it spares the family. -/
theorem cancelledIn_cons_iff : CancelledIn OfFamily (poll :: polls) u ↔
    u ∈ poll ∨ (∀ v ∈ poll, ¬ OfFamily v) ∧ CancelledIn OfFamily polls u := by
  constructor
  · rintro ⟨earlier, poll', later, hpolls, hspares, hu⟩
    -- The poll that cancels is the first one, or the first one spares the family and comes before
    -- it.
    cases earlier with
    | nil =>
      cases hpolls
      exact .inl hu
    | cons first earlier =>
      obtain ⟨rfl, hrest⟩ := List.cons.inj hpolls
      obtain ⟨hfirst, hearlier⟩ := spares_cons_iff.mp hspares
      exact .inr ⟨hfirst, earlier, poll', later, hrest, hearlier, hu⟩
  · rintro (hu | ⟨hfirst, earlier, poll', later, rfl, hearlier, hu⟩)
    · exact ⟨[], poll, polls, rfl, spares_nil, hu⟩
    · exact ⟨poll :: earlier, poll', later, rfl, spares_cons_iff.mpr ⟨hfirst, hearlier⟩, hu⟩

theorem cancels_iff {task : Task α} : task.Cancels OfFamily token u ↔
    CancelledIn OfFamily task.polls u ∨
      task.NeverEnds ∧ Spares OfFamily task.polls ∧ u = token := by
  constructor
  · rintro (hpoll | ⟨hends, hspares⟩)
    · exact .inl hpoll
    · exact .inr ⟨hends, hspares, rfl⟩
  · rintro (hpoll | ⟨hends, hspares, rfl⟩)
    · exact .inPoll hpoll
    · exact .fromOutside hends hspares

theorem cancels_ready_iff {result : Except Error α} :
    (ready cancels result).Cancels OfFamily token u ↔ u ∈ cancels := by
  simp [cancels_iff, Task.polls, NeverEnds, cancelledIn_cons_iff, not_cancelledIn_nil]

theorem cancels_pending_iff {rest : Task α} : (pending cancels rest).Cancels OfFamily token u ↔
    u ∈ cancels ∨ (∀ v ∈ cancels, ¬ OfFamily v) ∧ rest.Cancels OfFamily token u := by
  simp only [cancels_iff, Task.polls, NeverEnds, cancelledIn_cons_iff, spares_cons_iff]
  constructor
  · rintro ((hu | ⟨hfirst, hpoll⟩) | ⟨hends, ⟨hfirst, hspares⟩, hu⟩)
    · exact .inl hu
    · exact .inr ⟨hfirst, .inl hpoll⟩
    · exact .inr ⟨hfirst, .inr ⟨hends, hspares, hu⟩⟩
  · rintro (hu | ⟨hfirst, hpoll | ⟨hends, hspares, hu⟩⟩)
    · exact .inl (.inl hu)
    · exact .inl (.inr ⟨hfirst, hpoll⟩)
    · exact .inr ⟨hends, ⟨hfirst, hspares⟩, hu⟩

theorem cancels_stalled_iff : (stalled cancels : Task α).Cancels OfFamily token u ↔
    u ∈ cancels ∨ (∀ v ∈ cancels, ¬ OfFamily v) ∧ u = token := by
  simp [cancels_iff, Task.polls, NeverEnds, cancelledIn_cons_iff, not_cancelledIn_nil,
    spares_cons_iff, spares_nil]

end Task

/-! ## §2 Cancelling in a pool -/

namespace TokenPool

variable {pool : TokenPool} {token family : Nat}

/-- Whether a family is cancelled. -/
def isFlagged (pool : TokenPool) (family : Nat) : Bool :=
  pool.states[family]?.getD false

/-- The pool knows the state of every family that it has a token of. -/
def Sound (pool : TokenPool) : Prop :=
  ∀ family ∈ pool.families, family < pool.states.length

/-- The pool has the tokens in one family. -/
def Related (pool : TokenPool) (t u : Nat) : Prop :=
  ∃ family, pool.families[t]? = some family ∧ pool.families[u]? = some family

instance (t u : Nat) : Decidable (pool.Related t u) :=
  decidable_of_iff ((pool.families[t]?).isSome = true ∧ pool.families[u]? = pool.families[t]?) <| by
    rw [Related]
    cases pool.families[t]? <;> simp

theorem isCancelled_iff : pool.isCancelled token = true ↔
    ∃ family, pool.families[token]? = some family ∧ pool.isFlagged family = true :=
  Option.any_eq_true _ _

theorem Sound.lt_of_family (h : pool.Sound) (hfamily : pool.families[token]? = some family) :
    family < pool.states.length :=
  h family (List.mem_of_getElem? hfamily)

@[simp] theorem families_cancel : (pool.cancel token).families = pool.families := by
  rw [cancel]
  split <;> rfl

@[simp] theorem length_states_cancel :
    (pool.cancel token).states.length = pool.states.length := by
  rw [cancel]
  split <;> simp

theorem Sound.cancel (h : pool.Sound) : (pool.cancel token).Sound := by
  rwa [Sound, families_cancel, length_states_cancel]

/-- Cancelling a token flags its family and no other. -/
theorem Sound.isFlagged_cancel (h : pool.Sound) :
    (pool.cancel token).isFlagged family = true ↔
      pool.isFlagged family = true ∨ pool.families[token]? = some family := by
  cases hfamily : pool.families[token]? with
  | none => simp [TokenPool.cancel, hfamily]
  | some own =>
    have hlt := h.lt_of_family hfamily
    by_cases hsame : own = family
    · simp [TokenPool.cancel, hfamily, isFlagged, hsame, hsame ▸ hlt]
    · simp [TokenPool.cancel, hfamily, isFlagged, hsame]

@[simp] theorem families_cancelAll (tokens : List Nat) :
    (pool.cancelAll tokens).families = pool.families := by
  induction tokens generalizing pool with
  | nil => rfl
  | cons first rest ih =>
    show ((pool.cancel first).cancelAll rest).families = pool.families
    rw [ih, families_cancel]

theorem Sound.cancelAll (h : pool.Sound) (tokens : List Nat) : (pool.cancelAll tokens).Sound := by
  induction tokens generalizing pool with
  | nil => exact h
  | cons first rest ih => exact ih h.cancel

theorem Sound.isFlagged_cancelAll (h : pool.Sound) (tokens : List Nat) :
    (pool.cancelAll tokens).isFlagged family = true ↔
      pool.isFlagged family = true ∨ ∃ t ∈ tokens, pool.families[t]? = some family := by
  induction tokens generalizing pool with
  | nil => simp [TokenPool.cancelAll]
  | cons first rest ih =>
    show ((pool.cancel first).cancelAll rest).isFlagged family = true ↔ _
    rw [ih h.cancel, h.isFlagged_cancel, families_cancel]
    simp only [List.mem_cons, exists_eq_or_imp, or_assoc]

/-- Cancelling tokens cancels those that are one family with some of them. -/
theorem Sound.isCancelled_cancelAll (h : pool.Sound) (tokens : List Nat) :
    (pool.cancelAll tokens).isCancelled token = true ↔
      pool.isCancelled token = true ∨ ∃ t ∈ tokens, pool.Related token t := by
  simp only [isCancelled_iff, families_cancelAll, h.isFlagged_cancelAll, Related]
  constructor
  · rintro ⟨family, hfamily, hflagged | ⟨t, ht, hsame⟩⟩
    · exact .inl ⟨family, hfamily, hflagged⟩
    · exact .inr ⟨t, ht, family, hfamily, hsame⟩
  · rintro (⟨family, hfamily, hflagged⟩ | ⟨t, ht, family, hfamily, hsame⟩)
    · exact ⟨family, hfamily, .inl hflagged⟩
    · exact ⟨family, hfamily, .inr ⟨t, ht, hsame⟩⟩

theorem related_cancelAll (tokens : List Nat) :
    (pool.cancelAll tokens).Related = pool.Related := by
  funext t u
  rw [Related, Related, families_cancelAll]

/-! ## §3 Races -/

/-- A race against a cancelled token polls nothing. -/
theorem race_of_cancelled (h : pool.isCancelled token = true) (task : Task α) :
    pool.race token task = (.error .cancelled, []) := by
  cases task <;> simp [race, h]

/-- Cancelling tokens of other families leaves a token as it is. -/
theorem Sound.isCancelled_cancelAll_of_spared (h : pool.Sound)
    (hcancelled : pool.isCancelled token = false) {tokens : List Nat}
    (hspared : ∀ t ∈ tokens, ¬ pool.Related token t) :
    (pool.cancelAll tokens).isCancelled token = false := by
  rw [Bool.eq_false_iff, Ne, h.isCancelled_cancelAll, hcancelled]
  rintro (hnever | ⟨t, ht, hrelated⟩)
  · cases hnever
  · exact hspared t ht hrelated

/-- The race of a task that never ends cancels its token in the end, unless the task has cancelled
the family itself. -/
theorem cancelled_in_stalled_race (hcancelled : pool.isCancelled token = false)
    (cancels : List Nat) :
    (∃ u ∈ (pool.race token (.stalled cancels : Task α)).2, pool.families[u]? = some family) ↔
      ∃ u, (Task.stalled cancels : Task α).Cancels (pool.Related token) token u ∧
        pool.families[u]? = some family := by
  have hrace : (pool.race token (.stalled cancels : Task α)).2 = cancels ++ [token] := by
    simp [race, hcancelled]
  simp only [hrace, List.mem_append, List.mem_singleton, or_and_right, exists_or,
    Task.cancels_stalled_iff]
  by_cases hspares : ∀ v ∈ cancels, ¬ pool.Related token v
  · refine or_congr_right (exists_congr fun u => and_congr_left fun _ => ?_)
    exact (and_iff_right hspares).symm
  · -- The task cancels a token of the family, so the raced token adds no family.
    obtain ⟨v, hv, own, htoken, hfamily⟩ : ∃ v ∈ cancels, pool.Related token v := by
      simpa using hspares
    constructor
    · rintro (hu | ⟨u, rfl, hu⟩)
      · exact .inl hu
      · exact .inl ⟨v, hv, hfamily.trans (htoken.symm.trans hu)⟩
    · rintro (hu | ⟨u, ⟨hnone, -⟩, -⟩)
      · exact .inl hu
      · exact absurd hnone hspares

/-- A race against a token that is not cancelled cancels the families that its task cancels. -/
theorem Sound.cancelled_in_race (h : pool.Sound) (hcancelled : pool.isCancelled token = false)
    (task : Task α) :
    (∃ u ∈ (pool.race token task).2, pool.families[u]? = some family) ↔
      ∃ u, task.Cancels (pool.Related token) token u ∧ pool.families[u]? = some family := by
  -- On the polls of the task; each of them leaves a pool with the same families.
  induction task generalizing pool with
  | ready cancels result => simp [race, hcancelled, Task.cancels_ready_iff]
  | pending cancels rest ih =>
    have hrace : (pool.race token (.pending cancels rest)).2 =
        cancels ++ ((pool.cancelAll cancels).race token rest).2 := by
      simp [race, hcancelled]
    simp only [hrace, List.mem_append, or_and_right, exists_or, Task.cancels_pending_iff]
    refine or_congr_right ?_
    by_cases hspares : ∀ v ∈ cancels, ¬ pool.Related token v
    · -- The first poll has spared the family, so the race goes on with the rest of the task.
      have hrest := ih (h.cancelAll cancels) (h.isCancelled_cancelAll_of_spared hcancelled hspares)
      rw [families_cancelAll, related_cancelAll] at hrest
      rw [hrest]
      exact exists_congr fun u => and_congr_left fun _ => (and_iff_right hspares).symm
    · -- The next poll of the race finds the token cancelled and does not poll the task.
      have hnext : (pool.cancelAll cancels).isCancelled token = true :=
        (h.isCancelled_cancelAll cancels).mpr (.inr (by simpa using hspares))
      rw [race_of_cancelled hnext]
      constructor
      · rintro ⟨u, hu, -⟩
        cases hu
      · rintro ⟨u, ⟨hnone, -⟩, -⟩
        exact absurd hnone hspares
  | stalled cancels => exact cancelled_in_stalled_race hcancelled cancels

/-! ## §4 What one token sees of a race -/

/-- Whether one of the tokens is of the family of the given one. -/
def touches (pool : TokenPool) (token : Nat) (tokens : List Nat) : Bool :=
  tokens.any fun t => pool.families[t]? == pool.families[token]?

/-- What the given token sees of a task: whether a poll cancels its family. -/
def seenBy (pool : TokenPool) (token : Nat) : Task α → Future α
  | .ready cancels result => .ready (pool.touches token cancels) result
  | .pending cancels rest => .pending (pool.touches token cancels) (pool.seenBy token rest)
  | .stalled cancels => .stalled (pool.touches token cancels)

theorem touches_iff (htoken : token < pool.size) {tokens : List Nat} :
    pool.touches token tokens = true ↔ ∃ t ∈ tokens, pool.Related token t := by
  have hfamily : pool.families[token]? = some pool.families[token] :=
    List.getElem?_eq_getElem htoken
  simp [touches, Related, hfamily]

theorem Sound.isCancelled_cancelAll_eq (h : pool.Sound) (htoken : token < pool.size)
    (tokens : List Nat) : (pool.cancelAll tokens).isCancelled token =
      (pool.isCancelled token || pool.touches token tokens) := by
  rw [Bool.eq_iff_iff, Bool.or_eq_true_iff, h.isCancelled_cancelAll, touches_iff htoken]

theorem seenBy_cancelAll (tokens : List Nat) (task : Task α) :
    (pool.cancelAll tokens).seenBy token task = pool.seenBy token task := by
  induction task with
  | ready cancels result => simp [seenBy, touches]
  | pending cancels rest ih => simp [seenBy, touches, ih]
  | stalled cancels => simp [seenBy, touches]

/-- Nothing happens in a race that is lost from the start. -/
theorem race_seenBy_of_cancelled (h : pool.isCancelled token = true) (task : Task α) :
    ((pool.race token task).1,
        (pool.cancelAll (pool.race token task).2).isCancelled token) =
      (pool.seenBy token task).race (pool.isCancelled token) := by
  cases task <;> simp [race, seenBy, Future.race, h, TokenPool.cancelAll]

/-- Of all that a task cancels, only the family of the token matters for the race against it. -/
theorem Sound.race_seenBy (h : pool.Sound) (htoken : token < pool.size) (task : Task α) :
    ((pool.race token task).1,
        (pool.cancelAll (pool.race token task).2).isCancelled token) =
      (pool.seenBy token task).race (pool.isCancelled token) := by
  induction task generalizing pool with
  | ready cancels result =>
    cases hcancelled : pool.isCancelled token with
    | true => rw [← hcancelled, race_seenBy_of_cancelled hcancelled]
    | false => simp [race, seenBy, Future.race, hcancelled, h.isCancelled_cancelAll_eq htoken]
  | pending cancels rest ih =>
    cases hcancelled : pool.isCancelled token with
    | true => rw [← hcancelled, race_seenBy_of_cancelled hcancelled]
    | false =>
      -- The rest of the task races against what its first poll has left of the token.
      have hrest := ih (h.cancelAll cancels) (by rwa [size, families_cancelAll])
      rw [seenBy_cancelAll, h.isCancelled_cancelAll_eq htoken, hcancelled, Bool.false_or] at hrest
      simp [race, seenBy, Future.race, hcancelled, ← hrest, TokenPool.cancelAll]
  | stalled cancels =>
    cases hcancelled : pool.isCancelled token with
    | true => rw [← hcancelled, race_seenBy_of_cancelled hcancelled]
    | false =>
      simp [race, seenBy, Future.race, hcancelled, h.isCancelled_cancelAll_eq htoken, touches]

theorem seenBy_cancelling (future : Future α) :
    pool.seenBy token (future.cancelling token) = future := by
  have htouches (cancels : Bool) :
      pool.touches token (if cancels then [token] else []) = cancels := by
    cases cancels <;> simp [touches]
  induction future with
  | ready cancels result => rw [Future.cancelling, seenBy, htouches]
  | pending cancels rest ih => rw [Future.cancelling, seenBy, htouches, ih]
  | stalled cancels => rw [Future.cancelling, seenBy, htouches]

/-- A future is run against a token of a pool as it is raced against one flag. -/
theorem Sound.perform_run (h : pool.Sound) (htoken : token < pool.size) (future : Future α) :
    ((pool.perform (.run token future)).1,
        (pool.perform (.run token future)).2.isCancelled token) =
      ((future.race (pool.isCancelled token)).1.map .value,
        (future.race (pool.isCancelled token)).2) := by
  have hrace := h.race_seenBy htoken (future.cancelling token)
  rw [seenBy_cancelling] at hrace
  rw [← hrace]
  rfl

end TokenPool

end JdkFinder
