import JdkFinder.CommandLine
import JdkFinder.Report
import JdkFinder.Surroundings

/-!
# Executing commands

A command reads the configuration, does its work on the files and prints its answer.  What has been
printed before a failure stays printed.

A run of the program as a whole ends with an exit code: zero for success, two for a command line
that is not understood, 130 after an interruption, and one after any other failure, which is
reported on the error stream.
-/

namespace JdkFinder

/-! ## §1 Jobs -/

/-- What a command acts on: the files, and the text printed so far. -/
structure Workspace where
  files : FileSystem
  printed : String

/-- A piece of work that can fail; what was done before a failure stays done. -/
abbrev Job := ExceptT Error (StateM Workspace)

namespace Job

variable {α : Type}

def print (text : String) : Job Unit :=
  modify fun w => { w with printed := w.printed ++ text }

def ofExcept (result : Except Error α) : Job α :=
  ExceptT.mk (pure result)

def onFiles (action : Action α) : Job α :=
  ExceptT.mk fun w =>
    let (result, files) := action.run w.files
    (result, { w with files })

end Job

/-! ## §2 Commands -/

namespace Command

/-- The words for a registration that a resolution has led to. -/
def registrationNote : String := "由 jdkauto resolve 注册"

/-- The row for a JDK that was found on the machine. -/
def registrationOf (fix : LocalFix) : Registration :=
  ⟨fix.suggestedName, fix.home, some fix.versionText, registrationNote⟩

/-- The style that is asked for. -/
def styleOf (json : Bool) : ReportStyle :=
  if json then .json else .lines

/-- Registers the JDK of an outcome if it was found on the machine and is not registered yet. -/
def register (config : Configuration) (s : Surroundings) (style : ReportStyle) :
    Option Outcome → Job Unit
  | some (.localFix fix) =>
    match fix.origin with
    | .registered => pure ()
    | .detected => do
      let rows := Registry.register config.registrations (registrationOf fix)
      Job.onFiles ({ config with registrations := rows }.save s.environment)
      match style with
      | .lines => Job.print ("已注册为 " ++ fix.suggestedName ++ "\n")
      | .json => pure ()
  | _ => pure ()

/-- The task for an outcome that is a download. -/
def taskOf (installRoot : String) (s : Surroundings) : Option Outcome → Option InstallTask
  | some (.download jdk) => some (jdk.installTask s.taskId (jdk.installDirectory installRoot))
  | _ => none

/-- Runs a program in a new session. -/
def inSession {α : Type} (c : Collaborators FileSystem) (s : Surroundings)
    (program : Program α) : Job α :=
  Job.onFiles <| ExceptT.mk fun files =>
    let (result, session) := program.run c (.start s.interruption.atStart files)
    (result, session.world)

/-- The source of the catalog that a resolution uses: none if it is to stay offline. -/
def sourceOf (config : Configuration) (s : Surroundings) (offline : Bool) :
    Except Error (Option CatalogSource) :=
  if offline then .ok none else (config.catalogSource s.environment).map some

/-- Finds a JDK for an SDK, or lists the candidates for it. -/
def resolveSdk (config : Configuration) (s : Surroundings) (sdk : UnknownSdk)
    (offline listAll registers : Bool) (style : ReportStyle) : Job Unit := do
  if sdk.kind ≠ .java then
    Job.print (Report.message ("不支持解析 " ++ sdk.kind.presentableName ++ " 类型的 SDK") style)
  else
    let source ← Job.ofExcept (sourceOf config s offline)
    let installRoot ← Job.ofExcept (config.installRoot s.environment)
    let collaborators := Collaborators.onMachine config source s
    if !config.autoSetup then
      Job.print (Report.message "自动解析已关闭（配置 auto_setup = false）" style)
    else if listAll then
      let list ← inSession collaborators s (.candidates collaborators.parse? sdk)
      Job.print (Report.candidates list style)
    else
      let outcome ← inSession collaborators s (.resolve collaborators.parse? sdk)
      -- The outcome is shown first: a registration that fails does not hide it.
      Job.print (Report.resolution sdk outcome (taskOf installRoot s outcome) style)
      if registers then register config s style outcome

/-- Lists the catalog.  A refresh removes it from the cache first. -/
def listCatalog (config : Configuration) (s : Surroundings) (refresh : Bool)
    (style : ReportStyle) : Job Unit := do
  let source ← Job.ofExcept (config.catalogSource s.environment)
  match source.cache with
  | some cache => if refresh then Job.onFiles (cache.clear catalogKey)
  | none => pure ()
  let jdks ← Job.onFiles (source.fetch s.fetchCircumstances)
  Job.print (Report.catalog jdks style)

/-- Does what a command asks for under a configuration. -/
def perform (config : Configuration) (s : Surroundings) : Command → Job Unit
  | resolve name kind offline listAll registers json =>
    resolveSdk config s ⟨name, .ofWord kind⟩ offline listAll registers (styleOf json)
  | scan json => do
    let jdks ← Job.onFiles (Action.ask (s.scan config s.interruption.atStart))
    Job.print (Report.detected jdks (styleOf json))
  | registered json => do
    let jdks ← Job.onFiles (Action.ask (s.readTable config s.interruption.atStart))
    Job.print (Report.registered jdks (styleOf json))
  | listRemote refresh json => listCatalog config s refresh (styleOf json)

/-- Does what a command asks for under the configuration of the user. -/
def execute (command : Command) (s : Surroundings) : Job Unit := do
  command.perform (← Job.onFiles (Configuration.load s.environment)) s

end Command

/-! ## §3 Runs -/

/-- What a run that has failed complains about. -/
inductive Complaint where
  | usage (e : UsageError)
  | failure (report : FailureReport)

/-- How a run of the program ends. -/
structure Finish where
  exitCode : Nat
  printed : String
  complaint : Option Complaint
  files : FileSystem

/-- The end of a run that has failed in an operation. -/
def Finish.ofFailure (operation : String) (e : Error) (w : Workspace) : Finish :=
  { exitCode := if e.isCancelled then 130 else 1
    printed := w.printed
    complaint := some (.failure ⟨operation, e, e.suggestions⟩)
    files := w.files }

namespace CommandLine

/-- The name of the program and its version. -/
def versionLine : String := "jdkauto 0.1.0\n"

/-- A short help. -/
def helpText : String :=
  String.join
    ["为项目中未配置的 JDK 寻找本地或可下载的替代\n\n",
     "Usage: jdkauto [--debug] <COMMAND>\n\n",
     "Commands:\n",
     "  resolve <NAME> [--kind <KIND>] [--offline] [--all] [--register] [--json]\n",
     "  scan [--json]\n",
     "  registered [--json]\n",
     "  ls-remote [--refresh] [--json]\n"]

/-- The end of a run whose command line names no command to run. -/
def refuse (e : UsageError) (files : FileSystem) : Finish :=
  match e with
  -- To ask for help or for the version is no mistake.
  | .helpWanted => ⟨0, helpText, none, files⟩
  | .versionWanted => ⟨0, versionLine, none, files⟩
  | e => ⟨2, "", some (.usage e), files⟩

/-- Runs the program with the words of a command line. -/
def run (words : List String) (s : Surroundings) (files : FileSystem) : Finish :=
  match parse words with
  | .error e => refuse e files
  | .ok invocation =>
    let start : Workspace := ⟨files, ""⟩
    -- A configuration that cannot be loaded fails as an operation of its own.
    match (Job.onFiles (Configuration.load s.environment)).run start with
    | (.error e, w) => .ofFailure "加载配置" e w
    | (.ok config, w) =>
      match (invocation.command.perform config s).run w with
      | (.error e, w) => .ofFailure invocation.command.operation e w
      | (.ok (), w) => ⟨0, w.printed, none, w.files⟩

end CommandLine

/-- What is written to the error stream. -/
def Complaint.text : Complaint → String
  | usage _ => CommandLine.helpText
  | failure report => report.userMessage

end JdkFinder
