import JdkFinder.InstallTask
import JdkFinder.Json.Printer
import JdkFinder.Outcome
import JdkFinder.SdkKind

/-!
# Reports

What the commands print: each answer either as lines for people or as a JSON document.
-/

namespace JdkFinder

/-- How answers are printed. -/
inductive ReportStyle where
  | lines
  | json
  deriving DecidableEq, Repr

/-- A kind of SDK as a record. -/
def SdkKind.encode : SdkKind → Json
  | java => .string "java"
  | other name => .object [("other", .string name)]

/-- A wanted SDK as a record. -/
def UnknownSdk.encode (sdk : UnknownSdk) : Json :=
  .object [("name", .string sdk.name), ("kind", sdk.kind.encode)]

namespace Report

/-! ## §1 Layout -/

/-- A text made at least `width` characters long by spaces after it. -/
def padded (width : Nat) (text : String) : String :=
  text ++ String.ofList (List.replicate (width - text.length) ' ')

/-- A document in the pretty layout, on lines of its own. -/
def document (j : Json) : String :=
  String.ofList (j.pretty ++ ['\n'])

/-- A line for a JDK with a home. -/
def homeLine (name versionText home : String) : String :=
  "  " ++ padded 20 name ++ " " ++ padded 14 versionText ++ " " ++ home

/-! ## §2 Lists -/

/-- The candidates for a requirement. -/
def candidates (list : List Candidate) : ReportStyle → String
  | .json => document (.array (list.map Candidate.encode))
  | .lines =>
    if list.isEmpty then "没有满足要求的候选\n"
    else String.join (list.map fun c => "  [" ++ c.sourceName ++ "] " ++ c.describe ++ "\n")

/-- The JDKs found on this machine. -/
def detected (list : List DetectedJdk) : ReportStyle → String
  | .json => document (.array (list.map DetectedJdk.encode))
  | .lines =>
    if list.isEmpty then "未检测到本地 JDK\n"
    else
      "检测到 " ++ toString list.length ++ " 个本地 JDK:\n"
        ++ String.join (list.map fun jdk =>
          homeLine jdk.suggestedName jdk.versionText jdk.home ++ "\n")

/-- The registered JDKs. -/
def registered (list : List RegisteredJdk) : ReportStyle → String
  | .json => document (.array (list.map RegisteredJdk.encode))
  | .lines =>
    if list.isEmpty then "没有已注册的 JDK\n"
    else
      String.join (list.map fun jdk =>
        homeLine jdk.name jdk.versionText jdk.home
          ++ (if jdk.validHome then "" else " (路径无效)") ++ "\n")

/-- The downloadable JDKs. -/
def catalog (list : List DownloadableJdk) : ReportStyle → String
  | .json => document (.array (list.map DownloadableJdk.encode))
  | .lines =>
    if list.isEmpty then "没有适用于本平台的 JDK\n"
    else
      String.join (list.map fun jdk =>
        "  " ++ padded 20 jdk.suggestedName ++ " " ++ jdk.presentation ++ "\n")

/-! ## §3 Single answers -/

def message (text : String) : ReportStyle → String
  | .lines => text ++ "\n"
  | .json => String.ofList ((Json.object [("message", .string text)]).compact ++ ['\n'])

/-- How an origin is called in the lines for people. -/
def originName : FixOrigin → String
  | .registered => "已注册"
  | .detected => "本地检测"

/-- The lines for an outcome; a task adds where the download comes from and goes to. -/
def outcomeLines (sdk : UnknownSdk) (task : Option InstallTask) : Option Outcome → List String
  | none => ["未找到可用于 " ++ sdk.text ++ " 的 JDK"]
  | some (.localFix fix) =>
    [sdk.text ++ " -> 使用" ++ originName fix.origin ++ "的 JDK " ++ fix.versionText,
     "  名称: " ++ fix.suggestedName,
     "  路径: " ++ fix.home]
  | some (.download jdk) =>
    (sdk.text ++ " -> 下载 " ++ jdk.presentation) ::
      match task with
      | some task => ["  地址: " ++ task.url, "  安装到: " ++ task.target]
      | none => []

/-- The outcome for a wanted SDK. -/
def resolution (sdk : UnknownSdk) (outcome : Option Outcome) (task : Option InstallTask) :
    ReportStyle → String
  | .lines => String.join ((outcomeLines sdk task outcome).map (· ++ "\n"))
  | .json =>
    document <| Json.sorted <| .object
      [("sdk", sdk.encode), ("outcome", (outcome.map Outcome.encode).getD .null),
       ("install_task", (task.map InstallTask.encode).getD .null)]

end Report

end JdkFinder
