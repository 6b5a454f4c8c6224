import JdkFinder.Session.Memo
import JdkFinder.Session.Program

/-!
# Sessions

A session answers calls with the help of collaborators: one reads the names of SDKs, one reads the
table of registered JDKs, one scans the machine, and one fetches the catalog.  The table is read
whenever it is asked for.  The machine is scanned and the catalog fetched once at most.  Only a
cancellation is passed on, and every other failure counts as an empty list.
-/

namespace JdkFinder

/-! ## §1 Collaborators -/

/-- What a look at the table of registered JDKs gives. -/
inductive TableReply where
  | served (jdks : List RegisteredJdk)
  | failed (e : Error)
  /-- The look broke down. -/
  | crashed

/-- What a look at the table counts as. -/
def TableReply.list : TableReply → Except Error (List RegisteredJdk)
  | served jdks => .ok jdks
  | failed e => orEmpty (.error e)
  | crashed => .ok []

/-- What a session relies on; the collaborators act on a world of their own. -/
structure Collaborators (σ : Type) where
  /-- Reads the requirement that an SDK states. -/
  parse? : UnknownSdk → Option Requirement := UnknownSdk.requirement?
  /-- Reads the table.  It is told whether the session is cancelled, and tells whether it has
  cancelled the session. -/
  readTable : Bool → σ → (TableReply × Bool) × σ
  /-- Begins a scan of the machine. -/
  scan : σ → Future (List DetectedJdk) × σ
  /-- Begins a fetch of the catalog. -/
  fetch : σ → Future (List DownloadableJdk) × σ

/-! ## §2 The state of a session -/

/-- How often each of the collaborators was called upon. -/
structure Invocations where
  table : Nat
  scans : Nat
  fetches : Nat
  deriving DecidableEq, Repr

/-- A session, with the world of its collaborators. -/
structure Session (σ : Type) where
  /-- Whether the token is cancelled. -/
  cancelled : Bool
  world : σ
  /-- What the looks at the table have given, in the order of time. -/
  replies : List TableReply
  /-- The JDKs on the machine. -/
  detected : Memo DetectedJdk
  /-- The JDKs of the catalog. -/
  catalog : Memo DownloadableJdk

namespace Session

variable {σ : Type}

/-- A session before its first call. -/
def start (cancelled : Bool) (world : σ) : Session σ :=
  { cancelled, world, replies := [], detected := .empty, catalog := .empty }

/-- A session, if resolving is not switched off. -/
def start? (autoSetup cancelled : Bool) (world : σ) : Option (Session σ) :=
  if autoSetup then some (start cancelled world) else none

/-- Cancels the token. -/
def cancel (s : Session σ) : Session σ :=
  { s with cancelled := true }

/-- How often the collaborators were called upon. -/
def invocations (s : Session σ) : Invocations :=
  ⟨s.replies.length, s.detected.attempts, s.catalog.attempts⟩

/-! ## §3 Asking for lists -/

def readTable (c : Collaborators σ) (s : Session σ) :
    Except Error (List RegisteredJdk) × Session σ :=
  let ((reply, cancels), world) := c.readTable s.cancelled s.world
  (reply.list,
    { s with cancelled := s.cancelled || cancels, world, replies := s.replies ++ [reply] })

/-- What asking for the JDKs on the machine acts on. -/
def detectedSupply (s : Session σ) (busy : Bool) : Supply σ DetectedJdk :=
  ⟨s.detected, busy, s.cancelled, s.world⟩

/-- The session after asking for the JDKs on the machine. -/
def withDetected (p : Supply σ DetectedJdk) (s : Session σ) : Session σ :=
  { s with cancelled := p.cancelled, world := p.world, detected := p.memo }

/-- What asking for the JDKs of the catalog acts on. -/
def catalogSupply (s : Session σ) (busy : Bool) : Supply σ DownloadableJdk :=
  ⟨s.catalog, busy, s.cancelled, s.world⟩

/-- The session after asking for the JDKs of the catalog. -/
def withCatalog (p : Supply σ DownloadableJdk) (s : Session σ) : Session σ :=
  { s with cancelled := p.cancelled, world := p.world, catalog := p.memo }

/-- The JDKs on the machine: those of the earlier scan, or of a new one. -/
def detectedJdks (c : Collaborators σ) (s : Session σ) :
    Except Error (List DetectedJdk) × Session σ :=
  let (result, p) := (s.detectedSupply false).await c.scan
  (result, s.withDetected p)

/-- The JDKs of the catalog: those of the earlier fetch, or of a new one. -/
def catalogJdks (c : Collaborators σ) (s : Session σ) :
    Except Error (List DownloadableJdk) × Session σ :=
  let (result, p) := (s.catalogSupply false).await c.fetch
  (result, s.withCatalog p)

end Session

/-! ## §4 Running programs -/

variable {σ α : Type}

/-- Runs a program in a session in which no other one is running. -/
def Program.run (c : Collaborators σ) : Program α → Session σ → Except Error α × Session σ
  | .done result, s => (result, s)
  -- The table has no check of its own: whether it is read when cancelled is for its reader to say.
  | .check next, s => if s.cancelled then (.error .cancelled, s) else next.run c s
  | .registered next, s =>
    match s.readTable c with
    | (.ok list, s) => (next list).run c s
    | (.error e, s) => (.error e, s)
  | .detected next, s =>
    match s.detectedJdks c with
    | (.ok list, s) => (next list).run c s
    | (.error e, s) => (.error e, s)
  | .catalog next, s =>
    match s.catalogJdks c with
    | (.ok list, s) => (next list).run c s
    | (.error e, s) => (.error e, s)

namespace Session

def answer (c : Collaborators σ) (s : Session σ) (call : Call) :
    Except Error Reply × Session σ :=
  (call.programBy c.parse?).run c s

/-- The session after a number of calls, one after the other. -/
def afterCalls (c : Collaborators σ) (s : Session σ) (calls : List Call) : Session σ :=
  calls.foldl (fun s call => (s.answer c call).2) s

end Session

end JdkFinder
