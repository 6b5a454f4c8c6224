import JdkFinder.Cancellation.Race

/-!
# Cancellation tokens

Tokens are made anew or as clones of others.  The clones of a token are one family with it, and a
family is cancelled as a whole and for good.
-/

namespace JdkFinder

variable {α : Type}

/-! ## §1 Tasks -/

/-- A future that can get hold of any tokens: each of its polls cancels some of them. -/
inductive Task (α : Type) where
  /-- The poll ends the task. -/
  | ready (cancels : List Nat) (result : Except Error α)
  /-- The poll ends nothing, and the next one goes on with the rest. -/
  | pending (cancels : List Nat) (rest : Task α)
  /-- Neither this poll nor any later one ends the task. -/
  | stalled (cancels : List Nat)

/-- A future as a task that cancels one token only. -/
def Future.cancelling (token : Nat) : Future α → Task α
  | ready cancels result => .ready (if cancels then [token] else []) result
  | pending cancels rest => .pending (if cancels then [token] else []) (rest.cancelling token)
  | stalled cancels => .stalled (if cancels then [token] else [])

/-! ## §2 Tokens and families -/

/-- A number of tokens, counted from zero. -/
structure TokenPool where
  families : List Nat
  /-- For each family, whether it is cancelled. -/
  states : List Bool
  deriving DecidableEq, Repr

namespace TokenPool

def empty : TokenPool :=
  ⟨[], []⟩

/-- How many tokens there are. -/
def size (pool : TokenPool) : Nat :=
  pool.families.length

def isCancelled (pool : TokenPool) (token : Nat) : Bool :=
  pool.families[token]?.any fun family => pool.states[family]?.getD false

/-- Adds a token that is a family of its own. -/
def addNew (pool : TokenPool) : TokenPool :=
  ⟨pool.families ++ [pool.states.length], pool.states ++ [false]⟩

def addClone (pool : TokenPool) (token : Nat) : TokenPool :=
  { pool with families := pool.families ++ pool.families[token]?.toList }

/-- Cancels the family of a token. -/
def cancel (pool : TokenPool) (token : Nat) : TokenPool :=
  match pool.families[token]? with
  | some family => { pool with states := pool.states.set family true }
  | none => pool

/-- Cancels the families of several tokens. -/
def cancelAll (pool : TokenPool) (tokens : List Nat) : TokenPool :=
  tokens.foldl cancel pool

/-- Fails if a token is cancelled. -/
def check (pool : TokenPool) (token : Nat) : Except Error Unit :=
  if pool.isCancelled token then .error .cancelled else .ok ()

/-- How the race of a task against a token ends when nobody else cancels the token while the task
can still end, and which tokens are cancelled meanwhile.  A task that never ends loses against a
cancellation of the token, which is the only thing left to come. -/
def race (pool : TokenPool) (token : Nat) : Task α → Except Error α × List Nat
  | .ready cancels result =>
    if pool.isCancelled token then (.error .cancelled, []) else (result, cancels)
  | .pending cancels rest =>
    if pool.isCancelled token then (.error .cancelled, [])
    else
      let (result, more) := (pool.cancelAll cancels).race token rest
      (result, cancels ++ more)
  | .stalled cancels =>
    (.error .cancelled, if pool.isCancelled token then [] else cancels ++ [token])

/-! ## §3 Operations -/

/-- What is done with tokens. -/
inductive Operation (α : Type) where
  | create
  | clone (token : Nat)
  | cancel (token : Nat)
  | check (token : Nat)
  /-- Races a task against the token. -/
  | race (token : Nat) (task : Task α)
  /-- Waits for the token to be cancelled, which another task sees to. -/
  | wait (token : Nat)

/-- Races a future against the token; the future cancels this token, if any. -/
def Operation.run (token : Nat) (future : Future α) : Operation α :=
  .race token (future.cancelling token)

/-- What an operation gives. -/
inductive Answer (α : Type) where
  /-- A new token. -/
  | token (index : Nat)
  | nothing
  | value (a : α)
  /-- The end of waiting. -/
  | awaited

def perform (pool : TokenPool) : Operation α → Except Error (Answer α) × TokenPool
  | .create => (.ok (.token pool.size), pool.addNew)
  | .clone token => (.ok (.token pool.size), pool.addClone token)
  | .cancel token => (.ok .nothing, pool.cancel token)
  | .check token => ((pool.check token).map fun _ => .nothing, pool)
  | .race token task =>
    let (result, cancelled) := pool.race token task
    (result.map .value, pool.cancelAll cancelled)
  | .wait token => (.ok .awaited, pool.cancel token)

end TokenPool

end JdkFinder
