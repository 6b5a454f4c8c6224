import JdkFinder.Session

/-!
# Calls at the same time

Calls of one session may go on at the same time.  Each goes on when it is polled, until it has to
wait: for the table, for the scan or the fetch that it has begun, or for those that another call
has begun.  At most one call at a time scans, and at most one fetches.  A schedule is the list of
the turns in the order in which they are taken: polls of the calls, and cancellations by others.
-/

namespace JdkFinder

variable {σ α : Type}

/-! ## §1 Calls between two polls -/

/-- Where a call stands between two polls. -/
inductive Activity (α : Type) where
  /-- It goes on with a program, or waits for a list that another call has begun to obtain. -/
  | standing (program : Program α)
  /-- It has read the table. -/
  | reading (result : Except Error (List RegisteredJdk)) (next : List RegisteredJdk → Program α)
  | scanning (future : Future (List DetectedJdk)) (next : List DetectedJdk → Program α)
  | fetching (future : Future (List DownloadableJdk)) (next : List DownloadableJdk → Program α)
  | finished (result : Except Error α)

/-- A session, and whether a call is scanning or fetching. -/
structure SharedSession (σ : Type) where
  session : Session σ
  scanning : Bool
  fetching : Bool

namespace SharedSession

/-- A session that no call is using. -/
def ofSession (session : Session σ) : SharedSession σ :=
  ⟨session, false, false⟩

/-- Cancels the token. -/
def cancel (w : SharedSession σ) : SharedSession σ :=
  { w with session := w.session.cancel }

def readTable (c : Collaborators σ) (w : SharedSession σ) :
    Except Error (List RegisteredJdk) × SharedSession σ :=
  let (result, session) := w.session.readTable c
  (result, { w with session })

/-- What asking for the JDKs on the machine acts on. -/
def detectedSupply (w : SharedSession σ) : Supply σ DetectedJdk :=
  w.session.detectedSupply w.scanning

/-- The session after asking for the JDKs on the machine. -/
def withDetected (p : Supply σ DetectedJdk) (w : SharedSession σ) : SharedSession σ :=
  { w with session := w.session.withDetected p, scanning := p.busy }

@[simp] theorem detectedSupply_withDetected (p : Supply σ DetectedJdk) (w : SharedSession σ) :
    (w.withDetected p).detectedSupply = p := rfl

@[simp] theorem withDetected_withDetected (p q : Supply σ DetectedJdk) (w : SharedSession σ) :
    (w.withDetected p).withDetected q = w.withDetected q := rfl

/-- What asking for the JDKs of the catalog acts on. -/
def catalogSupply (w : SharedSession σ) : Supply σ DownloadableJdk :=
  w.session.catalogSupply w.fetching

/-- The session after asking for the JDKs of the catalog. -/
def withCatalog (p : Supply σ DownloadableJdk) (w : SharedSession σ) : SharedSession σ :=
  { w with session := w.session.withCatalog p, fetching := p.busy }

@[simp] theorem catalogSupply_withCatalog (p : Supply σ DownloadableJdk) (w : SharedSession σ) :
    (w.withCatalog p).catalogSupply = p := rfl

@[simp] theorem withCatalog_withCatalog (p q : Supply σ DownloadableJdk) (w : SharedSession σ) :
    (w.withCatalog p).withCatalog q = w.withCatalog q := rfl

/-- Asks for the JDKs on the machine. -/
def askDetected (c : Collaborators σ) (w : SharedSession σ) :
    Option (Race (List DetectedJdk)) × SharedSession σ :=
  let (race, p) := w.detectedSupply.ask c.scan
  (race, w.withDetected p)

/-- A poll of the scan that is under way. -/
def pollDetected (future : Future (List DetectedJdk)) (w : SharedSession σ) :
    Race (List DetectedJdk) × SharedSession σ :=
  let (race, p) := w.detectedSupply.poll future
  (race, w.withDetected p)

/-- Asks for the JDKs of the catalog. -/
def askCatalog (c : Collaborators σ) (w : SharedSession σ) :
    Option (Race (List DownloadableJdk)) × SharedSession σ :=
  let (race, p) := w.catalogSupply.ask c.fetch
  (race, w.withCatalog p)

/-- A poll of the fetch that is under way. -/
def pollCatalog (future : Future (List DownloadableJdk)) (w : SharedSession σ) :
    Race (List DownloadableJdk) × SharedSession σ :=
  let (race, p) := w.catalogSupply.poll future
  (race, w.withCatalog p)

end SharedSession

/-! ## §2 Polls -/

/-- Goes on with a program until it has to wait. -/
def Program.advance (c : Collaborators σ) :
    Program α → SharedSession σ → Activity α × SharedSession σ
  | .done result, w => (.finished result, w)
  | .check next, w =>
    if w.session.cancelled then (.finished (.error .cancelled), w) else next.advance c w
  | .registered next, w =>
    let (result, w) := w.readTable c
    (.reading result next, w)
  | .detected next, w =>
    match w.askDetected c with
    -- A call that waits for another looks again at its next poll: that scan may be cancelled.
    | (none, w) => (.standing (.detected next), w)
    | (some (.running future), w) => (.scanning future next, w)
    | (some (.decided (.ok list)), w) => (next list).advance c w
    | (some (.decided (.error e)), w) => (.finished (.error e), w)
  | .catalog next, w =>
    match w.askCatalog c with
    | (none, w) => (.standing (.catalog next), w)
    | (some (.running future), w) => (.fetching future next, w)
    | (some (.decided (.ok list)), w) => (next list).advance c w
    | (some (.decided (.error e)), w) => (.finished (.error e), w)

namespace Activity

/-- A poll of a call. -/
def poll (c : Collaborators σ) : Activity α → SharedSession σ → Activity α × SharedSession σ
  | .standing program, w => program.advance c w
  | .reading (.ok list) next, w => (next list).advance c w
  | .reading (.error e) _, w => (.finished (.error e), w)
  | .scanning future next, w =>
    match w.pollDetected future with
    | (.running rest, w) => (.scanning rest next, w)
    | (.decided (.ok list), w) => (next list).advance c w
    | (.decided (.error e), w) => (.finished (.error e), w)
  | .fetching future next, w =>
    match w.pollCatalog future with
    | (.running rest, w) => (.fetching rest next, w)
    | (.decided (.ok list), w) => (next list).advance c w
    | (.decided (.error e), w) => (.finished (.error e), w)
  | .finished result, w => (.finished result, w)

/-- The result of a finished call. -/
def result? : Activity α → Option (Except Error α)
  | .finished result => some result
  | _ => none

end Activity

/-! ## §3 Schedules -/

/-- What happens next among calls at the same time. -/
inductive Turn where
  /-- One of the calls is polled. -/
  | call (index : Nat)
  /-- Another task cancels the token. -/
  | cancellation
  deriving DecidableEq, Repr

/-- Calls that go on at the same time, and the session that they share. -/
structure Concurrence (σ α : Type) where
  activities : List (Activity α)
  shared : SharedSession σ

namespace Concurrence

/-- Programs before their first poll. -/
def start (programs : List (Program α)) (session : Session σ) : Concurrence σ α :=
  ⟨programs.map .standing, .ofSession session⟩

/-- A poll of one of the calls. -/
def poll (c : Collaborators σ) (w : Concurrence σ α) (index : Nat) : Concurrence σ α :=
  match w.activities[index]? with
  -- A number that belongs to no call polls nothing.
  | none => w
  | some activity =>
    let (activity, shared) := activity.poll c w.shared
    ⟨w.activities.set index activity, shared⟩

/-- The calls after a turn. -/
def step (c : Collaborators σ) (w : Concurrence σ α) : Turn → Concurrence σ α
  | .call index => w.poll c index
  | .cancellation => { w with shared := w.shared.cancel }

/-- The calls after the turns of a schedule. -/
def after (c : Collaborators σ) (w : Concurrence σ α) (schedule : List Turn) : Concurrence σ α :=
  schedule.foldl (step c) w

/-- A poll of each call. -/
def round (c : Collaborators σ) (w : Concurrence σ α) : Concurrence σ α :=
  w.after c ((List.range w.activities.length).map .call)

/-- The results of the calls, if all have finished. -/
def results? (w : Concurrence σ α) : Option (List (Except Error α)) :=
  w.activities.mapM Activity.result?

end Concurrence

end JdkFinder
