import JdkFinder.Cancellation.Race

/-!
# Lists obtained once

Some lists are obtained once at most.  An attempt to obtain one is raced against the token.  What
it gives is kept, and a failure counts as an empty list; only of a cancellation nothing is kept, and
the list can be attempted again.  At most one attempt at a time is under way, and none is begun once
the token is cancelled.
-/

namespace JdkFinder

variable {σ α : Type}

/-! ## §1 Memos -/

/-- A failure that is no cancellation counts as an empty list. -/
def orEmpty : Except Error (List α) → Except Error (List α)
  | .ok list => .ok list
  | .error e => if e.isCancelled then .error .cancelled else .ok []

/-- What happens to a list that is obtained once. -/
inductive MemoEvent (α : Type) where
  /-- An attempt begins; its future is to give the list. -/
  | begun (future : Future (List α))
  | ended (result : Except Error (List α))

/-- Whether an attempt begins. -/
def MemoEvent.isBegun : MemoEvent α → Bool
  | begun _ => true
  | ended _ => false

/-- A list that is obtained once. -/
structure Memo (α : Type) where
  kept : Option (List α)
  /-- What has happened to the list, in the order of time. -/
  history : List (MemoEvent α)

namespace Memo

/-- A list before the first attempt. -/
def empty : Memo α :=
  ⟨none, []⟩

/-- Begins an attempt. -/
def attempt (future : Future (List α)) (m : Memo α) : Memo α :=
  { m with history := m.history ++ [.begun future] }

/-- Ends an attempt; what it has given is kept. -/
def conclude (result : Except Error (List α)) (m : Memo α) : Memo α :=
  ⟨(orEmpty result).toOption, m.history ++ [.ended result]⟩

/-- How often the list was attempted. -/
def attempts (m : Memo α) : Nat :=
  m.history.countP MemoEvent.isBegun

end Memo

/-! ## §2 Asking for a list -/

/-- What asking for a list acts on. -/
structure Supply (σ α : Type) where
  memo : Memo α
  /-- Whether an attempt is under way. -/
  busy : Bool
  /-- Whether the token is cancelled. -/
  cancelled : Bool
  world : σ

namespace Supply

/-- Begins an attempt with the future that a collaborator gives. -/
def attempt (start : σ → Future (List α) × σ) (p : Supply σ α) :
    Future (List α) × Supply σ α :=
  let (future, world) := start p.world
  (future, { p with memo := p.memo.attempt future, busy := true, world })

/-- A poll of the attempt that is under way. -/
def poll (future : Future (List α)) (p : Supply σ α) : Race (List α) × Supply σ α :=
  match future.raceOnce p.cancelled with
  | (.running rest, cancelled) => (.running rest, { p with cancelled })
  | (.decided result, cancelled) =>
    (.decided (orEmpty result),
      { p with memo := p.memo.conclude result, busy := false, cancelled })

/-- Asks for the list, and gives nothing as long as another attempt is under way. -/
def ask (start : σ → Future (List α) × σ) (p : Supply σ α) :
    Option (Race (List α)) × Supply σ α :=
  match p.memo.kept with
  | some list => (some (.decided (.ok list)), p)
  | none =>
    if p.busy then (none, p)
    else if p.cancelled then (some (.decided (.error .cancelled)), p)
    else
      let (future, p) := p.attempt start
      -- The poll that begins a future is also the first poll of that future.
      let (race, p) := p.poll future
      (some race, p)

/-- Asks for the list and waits for it while nobody else asks for anything. -/
def await (start : σ → Future (List α) × σ) (p : Supply σ α) :
    Except Error (List α) × Supply σ α :=
  match p.memo.kept with
  | some list => (.ok list, p)
  | none =>
    if p.cancelled then (.error .cancelled, p)
    else
      let (future, p) := p.attempt start
      let (result, cancelled) := future.race p.cancelled
      (orEmpty result, { p with memo := p.memo.conclude result, busy := false, cancelled })

end Supply

end JdkFinder
