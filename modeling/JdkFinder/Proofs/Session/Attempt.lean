import JdkFinder.Session.Memo

/-!
# Attempts at a list

Which histories a list that is obtained once can have, and how asking for it prolongs them.

- `OnceHistory` lays down the histories: attempts follow one another, and none follows one that was
  won.
- `Supply.Consistent` ties the history to what is kept and to the futures that are being polled.
- `Supply.ask_cases` and `Supply.poll_cases` say all that asking and polling can lead to; that both
  keep a supply consistent follows from them.
-/

namespace JdkFinder

variable {σ α : Type}

/-! ## §1 How a future answers -/

/-- What a future ends with once it has been polled often enough. -/
def Future.answer? : Future α → Option (Except Error α)
  | .ready _ result => some result
  | .pending _ rest => rest.answer?
  | .stalled _ => none

theorem Future.raceOnce_running {future rest : Future α} {cancelled after : Bool}
    (h : future.raceOnce cancelled = (.running rest, after)) :
    cancelled = false ∧ rest.answer? = future.answer? := by
  cases cancelled with
  | true =>
    -- A race that finds the token cancelled is decided at once.
    simp [raceOnce] at h
  | false =>
    cases future with
    | ready cancels result => simp [raceOnce, poll] at h
    | pending cancels next =>
      simp only [raceOnce, poll, Bool.false_eq_true, ↓reduceIte, Prod.mk.injEq,
        Race.running.injEq] at h
      exact ⟨rfl, by rw [← h.1, answer?]⟩
    | stalled cancels =>
      simp only [raceOnce, poll, Bool.false_eq_true, ↓reduceIte, Prod.mk.injEq,
        Race.running.injEq] at h
      exact ⟨rfl, by rw [← h.1]⟩

/-- A race that is decided was lost to the token, or else gives the answer of the future. -/
theorem Future.raceOnce_decided {future : Future α} {cancelled after : Bool}
    {result : Except Error α} (h : future.raceOnce cancelled = (.decided result, after)) :
    (cancelled = true → after = true) ∧
      (result = .error .cancelled ∧ after = true ∨ future.answer? = some result) := by
  cases cancelled with
  | true =>
    -- The token is looked at first, and the future is not polled.
    simp only [raceOnce, ↓reduceIte, Prod.mk.injEq, Race.decided.injEq] at h
    exact ⟨fun _ => h.2.symm, .inl ⟨h.1.symm, h.2.symm⟩⟩
  | false =>
    refine ⟨fun impossible => by simp at impossible, .inr ?_⟩
    cases future with
    | ready cancels answer =>
      simp only [raceOnce, poll, Bool.false_eq_true, ↓reduceIte, Prod.mk.injEq,
        Race.decided.injEq] at h
      rw [answer?, h.1]
    | pending cancels next => simp [raceOnce, poll] at h
    | stalled cancels => simp [raceOnce, poll] at h

/-! ## §2 What an attempt leaves -/

/-- The list that an attempt leaves.  A cancelled one leaves none, and one that has failed in any
other way leaves the empty list. -/
def finishedList? : Except Error (List α) → Option (List α)
  | .ok list => some list
  | .error .cancelled => none
  | .error _ => some []

theorem finishedList?_eq_none_iff {result : Except Error (List α)} :
    finishedList? result = none ↔ result = .error .cancelled := by
  cases result with
  | ok list => simp [finishedList?]
  | error e => cases e <;> simp [finishedList?]

theorem orEmpty_eq (result : Except Error (List α)) :
    orEmpty result = (finishedList? result).elim (.error .cancelled) .ok := by
  cases result with
  | ok list => rfl
  | error e => cases e <;> rfl

theorem orEmpty_eq_error_iff {result : Except Error (List α)} {e : Error} :
    orEmpty result = .error e ↔ result = .error .cancelled ∧ e = .cancelled := by
  rw [orEmpty_eq, ← finishedList?_eq_none_iff]
  cases finishedList? result <;> simp [eq_comm]

theorem toOption_orEmpty (result : Except Error (List α)) :
    (orEmpty result).toOption = finishedList? result := by
  rw [orEmpty_eq]
  cases finishedList? result <;> rfl

/-! ## §3 Histories -/

/-- How far a list that is obtained once has come. -/
inductive MemoStage (α : Type) where
  | open
  | underway (future : Future (List α))
  | obtained (list : List α)

/-- The histories that lead to a stage; `cancelled` tells whether the token is cancelled by now. -/
inductive OnceHistory (cancelled : Bool) : MemoStage α → List (MemoEvent α) → Prop where
  | nil : OnceHistory cancelled .open []
  | begun {history : List (MemoEvent α)} (future : Future (List α)) :
      OnceHistory cancelled .open history →
      OnceHistory cancelled (.underway future) (history ++ [.begun future])
  /-- The attempt is lost: to the token, or because the collaborator answers so. -/
  | lost {history : List (MemoEvent α)} {future : Future (List α)} :
      OnceHistory cancelled (.underway future) history →
      cancelled = true ∨ future.answer? = some (.error .cancelled) →
      OnceHistory cancelled .open (history ++ [.ended (.error .cancelled)])
  | won {history : List (MemoEvent α)} {future : Future (List α)}
      {result : Except Error (List α)} {list : List α} :
      OnceHistory cancelled (.underway future) history →
      future.answer? = some result → finishedList? result = some list →
      OnceHistory cancelled (.obtained list) (history ++ [.ended result])

/-- Where an entry stands in a list that ends in a given one. -/
private theorem concat_eq_append_cons {β : Type} {front before after : List β} {last entry : β}
    (h : front ++ [last] = before ++ entry :: after) :
    (after = [] ∧ front = before ∧ last = entry) ∨
      ∃ rest, after = rest ++ [last] ∧ front = before ++ entry :: rest := by
  rcases List.eq_nil_or_concat after with rfl | ⟨rest, other, rfl⟩
  · obtain ⟨hfront, hlast⟩ := List.append_inj' h rfl
    exact .inl ⟨rfl, hfront, List.head_eq_of_cons_eq hlast⟩
  · rw [List.concat_eq_append, ← List.cons_append, ← List.append_assoc] at h
    obtain ⟨hfront, hlast⟩ := List.append_inj' h rfl
    rw [List.concat_eq_append, List.head_eq_of_cons_eq hlast]
    exact .inr ⟨rest, rfl, hfront⟩

namespace OnceHistory

variable {cancelled : Bool} {stage : MemoStage α} {history : List (MemoEvent α)}

theorem mono {after : Bool} (hc : cancelled = true → after = true)
    (h : OnceHistory cancelled stage history) : OnceHistory after stage history := by
  induction h with
  | nil => exact .nil
  | begun future _ ih => exact .begun future ih
  | lost _ why ih => exact .lost ih (why.imp_left hc)
  | won _ hanswer hlist ih => exact .won ih hanswer hlist

theorem exists_begun {future : Future (List α)}
    (h : OnceHistory cancelled (.underway future) history) :
    ∃ before, history = before ++ [.begun future] := by
  cases h with
  | begun _ h => exact ⟨_, rfl⟩

theorem stage_of_begun {future : Future (List α)}
    (h : OnceHistory cancelled stage (history ++ [.begun future])) :
    stage = .underway future := by
  generalize hall : history ++ [MemoEvent.begun future] = all at h
  cases h with
  | nil => simp at hall
  | begun other _ =>
    have hevent := List.head_eq_of_cons_eq (List.append_inj' hall rfl).2
    rw [MemoEvent.begun.inj hevent]
  | lost _ _ => cases List.head_eq_of_cons_eq (List.append_inj' hall rfl).2
  | won _ _ _ => cases List.head_eq_of_cons_eq (List.append_inj' hall rfl).2

theorem exists_ended {list : List α} (h : OnceHistory cancelled (.obtained list) history) :
    ∃ result, .ended result ∈ history ∧ finishedList? result = some list := by
  cases h with
  | won _ _ hlist => exact ⟨_, by simp, hlist⟩

/-- An attempt that was won is the last event, and its result is the answer of its future. -/
theorem won_is_last (h : OnceHistory cancelled stage history) {before after : List (MemoEvent α)}
    {result : Except Error (List α)} (hhistory : history = before ++ .ended result :: after)
    (hresult : result ≠ .error .cancelled) :
    after = [] ∧ (∃ earlier future, before = earlier ++ [.begun future] ∧
      future.answer? = some result) ∧
      ∃ list, finishedList? result = some list ∧ stage = .obtained list := by
  induction h generalizing after with
  | nil => simp at hhistory
  | begun future _ ih =>
    rcases concat_eq_append_cons hhistory with ⟨-, -, hevent⟩ | ⟨rest, -, hrest⟩
    · cases hevent
    · -- Nothing is begun after an attempt that was won.
      obtain ⟨-, -, list, -, hstage⟩ := ih hrest
      cases hstage
  | lost _ _ ih =>
    rcases concat_eq_append_cons hhistory with ⟨-, -, hevent⟩ | ⟨rest, -, hrest⟩
    · -- The last attempt was lost, and `result` is no cancellation.
      exact absurd (MemoEvent.ended.inj hevent).symm hresult
    · obtain ⟨-, -, list, -, hstage⟩ := ih hrest
      cases hstage
  | won hbefore hanswer hlist ih =>
    rcases concat_eq_append_cons hhistory with ⟨hafter, hfront, hevent⟩ | ⟨rest, -, hrest⟩
    · cases MemoEvent.ended.inj hevent
      subst hfront
      obtain ⟨earlier, hearlier⟩ := hbefore.exists_begun
      exact ⟨hafter, ⟨earlier, _, hearlier, hanswer⟩, _, hlist, rfl⟩
    · obtain ⟨-, -, list, -, hstage⟩ := ih hrest
      cases hstage

end OnceHistory

/-! ## §4 All that asking and polling can do -/

namespace Supply

variable {start : σ → Future (List α) × σ} {p q : Supply σ α} {future : Future (List α)}

theorem poll_cases (future : Future (List α)) (p : Supply σ α) :
    (∃ rest cancels, p.cancelled = false ∧ rest.answer? = future.answer? ∧
      p.poll future = (.running rest, { p with cancelled := cancels })) ∨
    (∃ result after, (p.cancelled = true → after = true) ∧
      (result = .error .cancelled ∧ after = true ∨ future.answer? = some result) ∧
      p.poll future = (.decided (orEmpty result),
        { p with memo := p.memo.conclude result, busy := false, cancelled := after })) := by
  rcases hrace : future.raceOnce p.cancelled with ⟨_ | _, after⟩
  · -- The race goes on, so the token was not cancelled before this poll.
    rename_i rest
    obtain ⟨hcancelled, hrest⟩ := Future.raceOnce_running hrace
    exact .inl ⟨rest, after, hcancelled, hrest, by simp only [poll, hrace]⟩
  · rename_i result
    obtain ⟨hafter, hresult⟩ := Future.raceOnce_decided hrace
    exact .inr ⟨result, after, hafter, hresult, by simp only [poll, hrace]⟩

theorem ask_cases (start : σ → Future (List α) × σ) (p : Supply σ α) :
    (∃ list, p.memo.kept = some list ∧ p.ask start = (some (.decided (.ok list)), p)) ∨
    (p.memo.kept = none ∧ p.busy = true ∧ p.ask start = (none, p)) ∨
    (p.memo.kept = none ∧ p.busy = false ∧ p.cancelled = true ∧
      p.ask start = (some (.decided (.error .cancelled)), p)) ∨
    (p.memo.kept = none ∧ p.busy = false ∧ p.cancelled = false ∧
      p.ask start = ((p.attempt start).2.poll (p.attempt start).1).map some id) := by
  -- In the order in which the memo, the attempt under way and the token are looked at.
  cases hkept : p.memo.kept with
  | some list => exact .inl ⟨list, rfl, by simp only [ask, hkept]⟩
  | none =>
    cases hbusy : p.busy with
    | true => exact .inr (.inl ⟨rfl, rfl, by simp only [ask, hkept, hbusy, ↓reduceIte]⟩)
    | false =>
      cases hcancelled : p.cancelled with
      | true =>
        refine .inr (.inr (.inl ⟨rfl, rfl, rfl, ?_⟩))
        simp only [ask, hkept, hbusy, hcancelled, Bool.false_eq_true, ↓reduceIte]
      | false =>
        refine .inr (.inr (.inr ⟨rfl, rfl, rfl, ?_⟩))
        simp only [ask, hkept, hbusy, hcancelled, Bool.false_eq_true, ↓reduceIte]
        rfl

@[simp] theorem attempt_memo (start : σ → Future (List α) × σ) (p : Supply σ α) :
    (p.attempt start).2.memo = p.memo.attempt (p.attempt start).1 := rfl

end Supply

/-! ## §5 Growth -/

/-- The entries that a list has and an earlier form of it had not. -/
def newEntries {β : Type} (old new : List β) : List β :=
  new.drop old.length

section NewEntries

variable {β : Type} {old between new : List β}

@[simp] theorem newEntries_append (old added : List β) : newEntries old (old ++ added) = added := by
  simp [newEntries]

theorem newEntries_of_later (h : old <+: between) (new : List β) :
    newEntries between new <:+ newEntries old new :=
  List.drop_suffix_drop_left new h.length_le

theorem newEntries_of_earlier (old : List β) (h : between <+: new) :
    newEntries old between <+: newEntries old new := by
  obtain ⟨added, rfl⟩ := h
  rw [newEntries, newEntries, List.drop_append]
  exact List.prefix_append _ _

end NewEntries

/-- Nothing that has happened is forgotten, and what is kept stays. -/
structure Memo.Grows (m n : Memo α) : Prop where
  history : m.history <+: n.history
  kept : ∀ list, m.kept = some list → n.kept = some list

namespace Memo.Grows

variable {m n k : Memo α}

theorem refl (m : Memo α) : m.Grows m :=
  ⟨List.prefix_refl _, fun _ h => h⟩

theorem trans (h : m.Grows n) (h' : n.Grows k) : m.Grows k :=
  ⟨h.history.trans h'.history, fun list hlist => h'.kept list (h.kept list hlist)⟩

theorem attempt (future : Future (List α)) (m : Memo α) : m.Grows (m.attempt future) :=
  ⟨List.prefix_append _ _, fun _ h => h⟩

theorem conclude {m : Memo α} (hkept : m.kept = none) (result : Except Error (List α)) :
    m.Grows (m.conclude result) :=
  ⟨List.prefix_append _ _, fun list h => by rw [hkept] at h; cases h⟩

end Memo.Grows

/-- Since an earlier state an attempt has begun and ended because the collaborator has answered that
it was cancelled. -/
def Memo.AnsweredCancelled (m n : Memo α) : Prop :=
  ∃ future, [.begun future, .ended (.error .cancelled)] <:+: newEntries m.history n.history ∧
    future.answer? = some (.error .cancelled)

namespace Memo.AnsweredCancelled

variable {m n k : Memo α}

theorem of_later (h : m.Grows n) (h' : n.AnsweredCancelled k) : m.AnsweredCancelled k := by
  obtain ⟨future, hattempt, hanswer⟩ := h'
  exact ⟨future, hattempt.trans (newEntries_of_later h.history _).isInfix, hanswer⟩

theorem of_earlier (h : m.AnsweredCancelled n) (h' : n.Grows k) : m.AnsweredCancelled k := by
  obtain ⟨future, hattempt, hanswer⟩ := h
  exact ⟨future, hattempt.trans (newEntries_of_earlier _ h'.history).isInfix, hanswer⟩

end Memo.AnsweredCancelled

namespace Supply

variable {start : σ → Future (List α) × σ} {p q : Supply σ α} {future : Future (List α)}

theorem poll_grows {race : Race (List α)} (h : p.poll future = (race, q))
    (hkept : p.memo.kept = none) :
    (p.cancelled = true → q.cancelled = true) ∧ p.memo.Grows q.memo := by
  rcases poll_cases future p with
    ⟨rest, cancels, hcancelled, -, hpoll⟩ | ⟨result, after, hafter, -, hpoll⟩
  · cases h.symm.trans hpoll
    exact ⟨fun impossible => by simp [hcancelled] at impossible, .refl _⟩
  · cases h.symm.trans hpoll
    exact ⟨hafter, .conclude hkept result⟩

theorem ask_grows {race : Option (Race (List α))} (h : p.ask start = (race, q)) :
    (p.cancelled = true → q.cancelled = true) ∧ p.memo.Grows q.memo := by
  rcases ask_cases start p with ⟨list, -, hask⟩ | ⟨-, -, hask⟩ | ⟨-, -, -, hask⟩ |
    ⟨hkept, -, -, hask⟩
  · cases h.symm.trans hask
    exact ⟨id, .refl _⟩
  · cases h.symm.trans hask
    exact ⟨id, .refl _⟩
  · cases h.symm.trans hask
    exact ⟨id, .refl _⟩
  · rcases hpoll : (p.attempt start).2.poll (p.attempt start).1 with ⟨race, q'⟩
    rw [hpoll] at hask
    cases h.symm.trans hask
    -- The attempt is noted first, and then what its first poll leads to.
    obtain ⟨hcancelled, hmemo⟩ := poll_grows hpoll hkept
    exact ⟨hcancelled, (Memo.Grows.attempt _ _).trans hmemo⟩

theorem kept_of_poll {list : List α} (h : p.poll future = (.decided (.ok list), q)) :
    q.memo.kept = some list := by
  rcases poll_cases future p with ⟨rest, cancels, -, -, hpoll⟩ | ⟨result, after, -, -, hpoll⟩
  · cases h.symm.trans hpoll
  · obtain ⟨hresult, rfl⟩ := Prod.mk.inj (h.symm.trans hpoll)
    rw [Memo.conclude, ← Race.decided.inj hresult]
    rfl

theorem kept_of_ask {list : List α} (h : p.ask start = (some (.decided (.ok list)), q)) :
    q.memo.kept = some list := by
  rcases ask_cases start p with ⟨list', hkept, hask⟩ | ⟨-, -, hask⟩ | ⟨-, -, -, hask⟩ |
    ⟨-, -, -, hask⟩
  · cases h.symm.trans hask
    exact hkept
  · cases h.symm.trans hask
  · cases h.symm.trans hask
  · rcases hpoll : (p.attempt start).2.poll (p.attempt start).1 with ⟨race, q'⟩
    rw [hpoll] at hask
    cases h.symm.trans hask
    exact kept_of_poll hpoll

/-- A poll fails with a cancellation only: of the token, or of the collaborator. -/
theorem poll_failed {e : Error} (h : p.poll future = (.decided (.error e), q)) :
    e = .cancelled ∧ q.memo.history = p.memo.history ++ [.ended (.error .cancelled)] ∧
      (q.cancelled = true ∨ future.answer? = some (.error .cancelled)) := by
  rcases poll_cases future p with ⟨rest, cancels, -, -, hpoll⟩ | ⟨result, after, -, hwhy, hpoll⟩
  · cases h.symm.trans hpoll
  · obtain ⟨hresult, rfl⟩ := Prod.mk.inj (h.symm.trans hpoll)
    obtain ⟨rfl, he⟩ := orEmpty_eq_error_iff.mp (Race.decided.inj hresult).symm
    exact ⟨he, rfl, hwhy.imp_left And.right⟩

/-- Asking fails with a cancellation only: of the token, or of the collaborator. -/
theorem ask_failed {e : Error} (h : p.ask start = (some (.decided (.error e)), q)) :
    e = .cancelled ∧ (q.cancelled = true ∨ p.memo.AnsweredCancelled q.memo) := by
  rcases ask_cases start p with ⟨list, -, hask⟩ | ⟨-, -, hask⟩ | ⟨-, -, hcancelled, hask⟩ |
    ⟨-, -, -, hask⟩
  · -- A list that is kept, and an attempt under way, are no failures.
    cases h.symm.trans hask
  · cases h.symm.trans hask
  · cases h.symm.trans hask
    exact ⟨rfl, .inl hcancelled⟩
  · -- The attempt that was begun here has failed at once.
    rcases hpoll : (p.attempt start).2.poll (p.attempt start).1 with ⟨race, q'⟩
    rw [hpoll] at hask
    cases h.symm.trans hask
    obtain ⟨he, hhistory, hwhy⟩ := poll_failed hpoll
    refine ⟨he, hwhy.imp_right fun hanswer => ⟨(p.attempt start).1, ?_, hanswer⟩⟩
    rw [id_eq, hhistory, attempt_memo, Memo.attempt, List.append_assoc, newEntries_append]
    exact List.infix_rfl

end Supply

/-! ## §6 Consistency -/

/-- The stage of a list while nothing is under way. -/
def MemoStage.ofKept : Option (List α) → MemoStage α
  | none => .open
  | some list => .obtained list

/-- The future that a race goes on with. -/
def Race.running? {α : Type} : Race α → Option (Future α)
  | .running future => some future
  | .decided _ => none

/-- The history fits to what is kept and to the futures that are being polled: at most one. -/
inductive Supply.Consistent (p : Supply σ α) : List (Future (List α)) → Prop where
  | resting :
      p.busy = false → OnceHistory p.cancelled (.ofKept p.memo.kept) p.memo.history →
      Supply.Consistent p []
  | underway {future rest : Future (List α)} :
      p.busy = true → p.memo.kept = none → rest.answer? = future.answer? →
      OnceHistory p.cancelled (.underway future) p.memo.history →
      Supply.Consistent p [rest]

namespace Supply.Consistent

variable {start : σ → Future (List α) × σ} {p q : Supply σ α} {future : Future (List α)}
  {futures : List (Future (List α))}

/-- Whatever else changes, a consistent supply stays so as long as its list is left alone. -/
theorem congr (h : p.Consistent futures) (hmemo : q.memo = p.memo) (hbusy : q.busy = p.busy)
    (hcancelled : p.cancelled = true → q.cancelled = true) : q.Consistent futures := by
  cases h with
  | resting hrest hhistory =>
    refine .resting (hbusy.trans hrest) ?_
    rw [hmemo]
    exact hhistory.mono hcancelled
  | underway hrest hkept hanswer hhistory =>
    refine .underway (hbusy.trans hrest) (by rw [hmemo, hkept]) hanswer ?_
    rw [hmemo]
    exact hhistory.mono hcancelled

theorem kept_eq_none (h : p.Consistent [future]) : p.memo.kept = none := by
  cases h with
  | underway _ hkept _ _ => exact hkept

theorem busy_eq_false (h : p.Consistent []) : p.busy = false := by
  cases h with
  | resting hbusy _ => exact hbusy

/-- No future is polled beside another one. -/
theorem others_eq_nil (h : p.Consistent (future :: futures)) : futures = [] := by
  cases h with
  | underway _ _ _ _ => rfl

theorem perm {futures' : List (Future (List α))} (h : p.Consistent futures)
    (hperm : futures.Perm futures') : p.Consistent futures' := by
  cases h with
  | resting hbusy hhistory =>
    obtain rfl := List.nil_perm.mp hperm
    exact .resting hbusy hhistory
  | underway hbusy hkept hanswer hhistory =>
    obtain rfl := List.singleton_perm.mp hperm
    exact .underway hbusy hkept hanswer hhistory

/-- Concludes an attempt in the history of a list. -/
theorem conclude {result : Except Error (List α)} {after : Bool}
    (hhistory : OnceHistory p.cancelled (.underway future) p.memo.history)
    (hafter : p.cancelled = true → after = true)
    (hresult : result = .error .cancelled ∧ after = true ∨ future.answer? = some result) :
    OnceHistory after (.ofKept (p.memo.conclude result).kept) (p.memo.conclude result).history := by
  have hnow := hhistory.mono hafter
  simp only [Memo.conclude, toOption_orEmpty]
  cases hlist : finishedList? result with
  | none =>
    -- Nothing is kept of a cancellation, whoever it comes from.
    obtain rfl := finishedList?_eq_none_iff.mp hlist
    exact .lost hnow (hresult.imp And.right id)
  | some list =>
    -- A race that was lost to the token leaves no list, so the future has answered.
    refine .won hnow (hresult.resolve_left ?_) hlist
    rintro ⟨rfl, -⟩
    cases hlist

/-- A poll that fails since nothing was being polled has been cancelled since: the future has been
begun in the meantime. -/
theorem poll_failed {p₀ : Supply σ α} {e : Error} (h : p.Consistent [future])
    (h₀ : p₀.Consistent []) (hgrows : p₀.memo.Grows p.memo)
    (hpoll : p.poll future = (.decided (.error e), q)) :
    e = .cancelled ∧ (q.cancelled = true ∨ p₀.memo.AnsweredCancelled q.memo) := by
  obtain ⟨he, hended, hwhy⟩ := Supply.poll_failed hpoll
  refine ⟨he, hwhy.imp_right fun hanswer => ?_⟩
  cases h with
  | @underway begun _ _ _ hsame hhistory =>
    obtain ⟨before, hbefore⟩ := hhistory.exists_begun
    refine ⟨begun, ?_, hsame.symm.trans hanswer⟩
    have hprefix := hgrows.history
    rw [hbefore] at hprefix
    rcases List.prefix_concat_iff.mp hprefix with hall | ⟨added, rfl⟩
    · -- An earlier history that ends in a beginning would have had something under way.
      cases h₀ with
      | resting _ hrest =>
        rw [hall] at hrest
        cases hkept : p₀.memo.kept <;> rw [hkept] at hrest <;> cases hrest.stage_of_begun
    · rw [hended, hbefore]
      simp only [List.append_assoc, newEntries_append]
      exact (List.suffix_append _ _).isInfix

theorem attempt (start : σ → Future (List α) × σ) (h : p.Consistent [])
    (hkept : p.memo.kept = none) : (p.attempt start).2.Consistent [(p.attempt start).1] := by
  cases h with
  | resting _ hhistory =>
    rw [hkept] at hhistory
    exact .underway rfl hkept rfl (.begun _ hhistory)

theorem poll {race : Race (List α)} (h : p.Consistent [future])
    (hpoll : p.poll future = (race, q)) : q.Consistent race.running?.toList := by
  cases h with
  | underway hbusy hkept hanswer hhistory =>
    rcases poll_cases future p with
      ⟨rest, cancels, hcancelled, hrest, hcase⟩ | ⟨result, after, hafter, hresult, hcase⟩
    · cases hpoll.symm.trans hcase
      refine .underway hbusy hkept (hrest.trans hanswer) ?_
      exact hhistory.mono fun impossible => by simp [hcancelled] at impossible
    · cases hpoll.symm.trans hcase
      exact .resting rfl (conclude hhistory hafter (hresult.imp_right hanswer.symm.trans))

theorem ask {race : Option (Race (List α))} (h : p.Consistent futures)
    (hask : p.ask start = (race, q)) :
    q.Consistent ((race.bind Race.running?).toList ++ futures) := by
  rcases ask_cases start p with ⟨list, -, hcase⟩ | ⟨-, -, hcase⟩ | ⟨-, -, -, hcase⟩ |
    ⟨hkept, hbusy, -, hcase⟩
  · cases hask.symm.trans hcase
    exact h
  · cases hask.symm.trans hcase
    exact h
  · cases hask.symm.trans hcase
    exact h
  · rcases hpoll : (p.attempt start).2.poll (p.attempt start).1 with ⟨race, q'⟩
    rw [hpoll] at hcase
    cases hask.symm.trans hcase
    -- Nothing is under way, so no future is being polled yet.
    cases h with
    | resting hrest hhistory =>
      have hattempt := attempt start (.resting hrest hhistory) hkept
      simpa using hattempt.poll hpoll
    | underway hbusy' _ _ _ => rw [hbusy] at hbusy'; cases hbusy'

end Supply.Consistent

end JdkFinder
