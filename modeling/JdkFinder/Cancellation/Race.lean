import JdkFinder.Error

/-!
# Racing against a cancellation

A future is a computation that goes on whenever it is polled.  A race polls a future until the
future ends or a token is cancelled, whichever a poll of the race finds first: the token is looked
at before the future is polled.  So a future that ends in the very poll in which it cancels the
token has won.
-/

namespace JdkFinder

variable {α : Type}

/-! ## §1 Futures -/

/-- A computation, as its polls show it.  Every poll may cancel the token. -/
inductive Future (α : Type) where
  /-- The poll ends the computation. -/
  | ready (cancels : Bool) (result : Except Error α)
  /-- The poll ends nothing, and the next one goes on with the rest. -/
  | pending (cancels : Bool) (rest : Future α)
  /-- Neither this poll nor any later one ends the computation. -/
  | stalled (cancels : Bool)

/-- Where a race stands. -/
inductive Race (α : Type) where
  | running (future : Future α)
  | decided (result : Except Error α)

namespace Future

/-- What a poll of a future leads to, and whether it cancels the token. -/
def poll : Future α → Race α × Bool
  | ready cancels result => (.decided result, cancels)
  | pending cancels rest => (.running rest, cancels)
  | stalled cancels => (.running (.stalled cancels), cancels)

/-! ## §2 Races -/

/-- What a poll of the race leads to, and whether the token is cancelled after it. -/
def raceOnce (cancelled : Bool) (future : Future α) : Race α × Bool :=
  if cancelled then (.decided (.error .cancelled), true) else future.poll

/-- How the race ends when nobody else cancels the token while the future can still end, and
whether the token is cancelled then.  A future that never ends loses against the cancellation that
is the only thing left to come. -/
def race (cancelled : Bool) : Future α → Except Error α × Bool
  | ready cancels result => if cancelled then (.error .cancelled, true) else (result, cancels)
  | pending cancels rest => if cancelled then (.error .cancelled, true) else rest.race cancels
  | stalled _ => (.error .cancelled, true)

end Future

end JdkFinder
