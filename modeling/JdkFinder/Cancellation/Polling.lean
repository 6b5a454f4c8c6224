import JdkFinder.Cancellation.Race
import JdkFinder.Cancellation.Wakeup

/-!
# Races poll by poll

A race checks the token when it starts, and loses at once if the token is cancelled.  Otherwise
every poll of the race polls a waiter for the cancellation, and then the future unless the waiter
has returned.  Between two polls other tasks may cancel the token any number of times, each time in
one step; and so may the future, while it is polled.
-/

namespace JdkFinder

variable {α : Type}

/-! ## §1 Futures by their polls -/

/-- What a poll of a future does: it may cancel the token, and it may end the future. -/
structure FuturePoll (α : Type) where
  cancels : Bool
  result? : Option (Except Error α)

/-- A future as the sequence of its polls.  A future that has ended is polled no more, so what
follows the end does not matter. -/
abbrev FuturePolls (α : Type) :=
  Nat → FuturePoll α

/-- The polls of a computation. -/
def Future.polls : Future α → FuturePolls α
  | ready cancels result, _ => ⟨cancels, some result⟩
  | pending cancels _, 0 => ⟨cancels, none⟩
  | pending _ rest, n + 1 => rest.polls n
  | stalled cancels, _ => ⟨cancels, none⟩

/-- A poll of a waiter takes it on until it has returned or is parked, four steps at most. -/
def Waiter.poll (flag : Bool) (w : Waiter) : Waiter :=
  Nat.repeat (Waiter.step flag) 4 w

/-! ## §2 The race -/

/-- How far a race has come. -/
inductive RaceStage (α : Type) where
  | unstarted
  | running (waiter : Waiter)
  | decided (result : Except Error α)

/-- The flag of the token, how often the future has been polled, and how far the race has come. -/
structure RaceState (α : Type) where
  flag : Bool
  polls : Nat
  stage : RaceStage α

namespace RaceState

/-- The race before its first poll. -/
def start (flag : Bool) : RaceState α :=
  ⟨flag, 0, .unstarted⟩

/-- Cancels the token, which notifies the waiter of a race that is running. -/
def cancel (s : RaceState α) : RaceState α :=
  { s with
    flag := true
    stage :=
      match s.stage with
      | .running waiter => .running waiter.notify
      | stage => stage }

/-- Loses the race against the cancellation. -/
def lose (s : RaceState α) : RaceState α :=
  { s with stage := .decided (.error .cancelled) }

/-- Polls the future, whose end decides the race. -/
def pollFuture (future : FuturePolls α) (s : RaceState α) : RaceState α :=
  let poll := future s.polls
  let s := { s with polls := s.polls + 1 }
  let s := if poll.cancels then s.cancel else s
  match poll.result? with
  | some result => { s with stage := .decided result }
  | none => s

/-- Polls the waiter, and then the future unless the waiter has returned. -/
def select (future : FuturePolls α) (waiter : Waiter) (s : RaceState α) : RaceState α :=
  let waiter := waiter.poll s.flag
  if waiter.stage = .returned then s.lose
  else pollFuture future { s with stage := .running waiter }

/-- A poll of the race, which does nothing once the race is decided. -/
def poll (future : FuturePolls α) (s : RaceState α) : RaceState α :=
  match s.stage with
  | .unstarted => if s.flag then s.lose else s.select future .fresh
  | .running waiter => s.select future waiter
  | .decided _ => s

/-- Other tasks cancel the token so many times. -/
def meet (cancellations : Nat) (s : RaceState α) : RaceState α :=
  Nat.repeat cancel cancellations s

/-- The race after a number of polls, where `others` tells for each of them how many times other
tasks have cancelled the token since the poll before. -/
def after (others : Nat → Nat) (flag : Bool) (future : FuturePolls α) : Nat → RaceState α
  | 0 => start flag
  | n + 1 => ((after others flag future n).meet (others n)).poll future

/-- The race at the beginning of the poll that has so many polls before it. -/
def beginning (others : Nat → Nat) (flag : Bool) (future : FuturePolls α) (n : Nat) :
    RaceState α :=
  (after others flag future n).meet (others n)

/-- The result of a decided race. -/
def result? (s : RaceState α) : Option (Except Error α) :=
  match s.stage with
  | .decided result => some result
  | _ => none

end RaceState

end JdkFinder
