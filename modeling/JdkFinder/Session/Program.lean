import JdkFinder.Candidate
import JdkFinder.Error
import JdkFinder.Outcome
import JdkFinder.Requirement.Parser
import JdkFinder.SdkKind

/-!
# The calls of a session

A call asks for lists of JDKs, one after the other, and goes on with what it gets: the registered
JDKs, those found on the machine, and those of the catalog.  It asks for no list that it has no
need of.  This module holds the calls as such programs; what the asking does is the matter of
sessions.
-/

namespace JdkFinder

/-! ## §1 Programs -/

/-- A program that asks for lists of JDKs. -/
inductive Program (α : Type) where
  | done (result : Except Error α)
  /-- Ends the program if the session is cancelled. -/
  | check (next : Program α)
  | registered (next : List RegisteredJdk → Program α)
  | detected (next : List DetectedJdk → Program α)
  | catalog (next : List DownloadableJdk → Program α)

namespace Program

variable {α β : Type}

/-- The program that gives a value. -/
def value (a : α) : Program α :=
  .done (.ok a)

/-- A program followed by another one, which depends on its value. -/
def bind (program : Program α) (next : α → Program β) : Program β :=
  match program with
  | .done (.ok a) => next a
  | .done (.error e) => .done (.error e)
  | .check rest => .check (rest.bind next)
  | .registered rest => .registered fun jdks => (rest jdks).bind next
  | .detected rest => .detected fun jdks => (rest jdks).bind next
  | .catalog rest => .catalog fun jdks => (rest jdks).bind next

/-- A program with its value changed. -/
def map (f : α → β) (program : Program α) : Program β :=
  program.bind fun a => value (f a)

/-! ## §2 Calls

The requirement that an SDK states is read by `parse?`. -/

variable (parse? : UnknownSdk → Option Requirement)

/-- Goes on with the requirement that an SDK states.  SDKs of other kinds and those that state none
are declined. -/
def withRequirement (sdk : UnknownSdk) (declined : α) (next : Requirement → Program α) :
    Program α :=
  .check <|
    if sdk.kind = .java then
      match parse? sdk with
      | some r => next r
      | none => value declined
    else value declined

/-- Proposes a JDK on this machine.  It is looked for where a registered one does not do. -/
def localFix (sdk : UnknownSdk) : Program (Option LocalFix) :=
  withRequirement parse? sdk none fun r =>
    .registered fun registered =>
      match r.bestMatch? registered with
      -- A registered JDK that does ends the search: the machine is not scanned.
      | some jdk => value (some (.ofRegistered jdk))
      | none => .detected fun detected => value ((r.bestMatch? detected).map .ofDetected)

/-- Proposes a JDK to download. -/
def download (sdk : UnknownSdk) : Program (Option DownloadableJdk) :=
  withRequirement parse? sdk none fun r =>
    .catalog fun catalog => value (r.resolveDownload catalog)

/-- Proposes a JDK on this machine, and one to download if there is none. -/
def resolve (sdk : UnknownSdk) : Program (Option Outcome) :=
  (localFix parse? sdk).bind fun
    | some fix => value (some (.localFix fix))
    | none => (download parse? sdk).map (·.map .download)

/-- Lists all candidates that meet the requirement. -/
def candidates (sdk : UnknownSdk) : Program (List Candidate) :=
  withRequirement parse? sdk [] fun r =>
    .registered fun registered => .detected fun detected => .catalog fun catalog =>
      value <|
        (registered.filter r.admits).map .registered
          ++ (detected.filter r.admits).map .detected
          ++ (catalog.filter r.admits).map .downloadable

/-- Lists the registered JDKs. -/
def allRegistered : Program (List RegisteredJdk) :=
  .registered value

/-- Lists the JDKs found on this machine. -/
def allDetected : Program (List DetectedJdk) :=
  .detected value

/-- Lists the downloadable JDKs. -/
def allDownloadable : Program (List DownloadableJdk) :=
  .catalog value

end Program

/-! ## §3 Calls of all kinds -/

/-- A call of a session. -/
inductive Call where
  | localFix (sdk : UnknownSdk)
  | download (sdk : UnknownSdk)
  | resolve (sdk : UnknownSdk)
  | candidates (sdk : UnknownSdk)
  | registered
  | detected
  | catalog
  deriving DecidableEq, Repr

/-- What a call gives. -/
inductive Reply where
  | localFix (fix : Option LocalFix)
  | download (jdk : Option DownloadableJdk)
  | outcome (outcome : Option Outcome)
  | candidates (list : List Candidate)
  | registered (list : List RegisteredJdk)
  | detected (list : List DetectedJdk)
  | catalog (list : List DownloadableJdk)
  deriving DecidableEq, Repr

/-- The program of a call, where `parse?` reads the requirements that SDKs state. -/
def Call.programBy (parse? : UnknownSdk → Option Requirement) : Call → Program Reply
  | localFix sdk => (Program.localFix parse? sdk).map .localFix
  | download sdk => (Program.download parse? sdk).map .download
  | resolve sdk => (Program.resolve parse? sdk).map .outcome
  | candidates sdk => (Program.candidates parse? sdk).map .candidates
  | registered => Program.allRegistered.map .registered
  | detected => Program.allDetected.map .detected
  | catalog => Program.allDownloadable.map .catalog

/-- The program of a call, where names are read in the usual way. -/
def Call.program : Call → Program Reply :=
  programBy UnknownSdk.requirement?

end JdkFinder
