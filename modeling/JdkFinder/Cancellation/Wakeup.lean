/-!
# Waking the waiters

Waiting for a cancellation takes three steps: a waiter enables its notification, reads the flag,
and parks unless the flag is set.  Cancelling takes two: a canceller sets the flag, and then
notifies every waiter that has enabled its notification by then.  The steps of any number of
waiters and cancellers interleave in any order.
-/

namespace JdkFinder

/-! ## §1 The actors -/

/-- How far a waiter has come. -/
inductive WaiterStage where
  | idle
  /-- The notification is enabled, and the flag not yet read. -/
  | enabled
  /-- The flag was read and was not set. -/
  | unflagged
  | parked
  | returned
  deriving DecidableEq, Repr

/-- A waiter, and whether it has been notified. -/
structure Waiter where
  stage : WaiterStage
  woken : Bool
  deriving DecidableEq, Repr

/-- How far a canceller has come. -/
inductive Canceller where
  | idle
  /-- The flag is set, and nobody notified yet. -/
  | flagged
  | finished
  deriving DecidableEq, Repr

/-- The flag, the waiters and the cancellers. -/
structure WaitingRoom where
  flag : Bool
  waiters : List Waiter
  cancellers : List Canceller
  deriving DecidableEq, Repr

/-! ## §2 Steps -/

namespace Waiter

/-- A waiter before its first step. -/
def fresh : Waiter :=
  ⟨.idle, false⟩

/-- Whether the notification is enabled: after the first step until the waiter returns. -/
def isEnabled (w : Waiter) : Bool :=
  w.stage ≠ .idle && w.stage ≠ .returned

/-- Whether the flag has not been read yet. -/
def isBeforeReading (w : Waiter) : Bool :=
  w.stage = .idle || w.stage = .enabled

/-- Notifies a waiter, which counts if the notification is enabled. -/
def notify (w : Waiter) : Waiter :=
  { w with woken := w.woken || w.isEnabled }

/-- The next step of a waiter, where a parked one returns once it has been notified. -/
def step (flag : Bool) (w : Waiter) : Waiter :=
  match w.stage with
  | .idle => { w with stage := .enabled }
  | .enabled => { w with stage := if flag then .returned else .unflagged }
  | .unflagged => { w with stage := .parked }
  | .parked => if w.woken then { w with stage := .returned } else w
  | .returned => w

end Waiter

namespace WaitingRoom

/-- The room before any step. -/
def start (waiters cancellers : Nat) : WaitingRoom :=
  ⟨false, List.replicate waiters .fresh, List.replicate cancellers .idle⟩

/-- Whose turn it is. -/
inductive Turn where
  | waiter (index : Nat)
  | canceller (index : Nat)
  deriving DecidableEq, Repr

/-- The next step of the actor whose turn it is. -/
def step (room : WaitingRoom) : Turn → WaitingRoom
  | .waiter i => { room with waiters := room.waiters.modify i (Waiter.step room.flag) }
  | .canceller i =>
    match room.cancellers[i]? with
    | some .idle =>
      { room with flag := true, cancellers := room.cancellers.set i .flagged }
    | some .flagged =>
      { room with
        waiters := room.waiters.map Waiter.notify
        cancellers := room.cancellers.set i .finished }
    | _ => room

/-- The room after a number of turns. -/
def after (room : WaitingRoom) (turns : List Turn) : WaitingRoom :=
  turns.foldl step room

end WaitingRoom

end JdkFinder
