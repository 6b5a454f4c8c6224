/-!
# Errors

What can go wrong, as causes; the texts shown to people are made from the causes in one place.
-/

namespace JdkFinder

/-! ## §1 Files -/

/-- Why a file operation failed. -/
inductive IoError where
  | notFound
  | alreadyExists
  | notDirectory
  | isDirectory
  | nameTooLong
  | linkLoop
  | notUtf8
  | nulInPath
  | other (message : String)
  deriving DecidableEq, Repr

/-- The text of a failed file operation. -/
def IoError.message : IoError → String
  | notFound => "No such file or directory (os error 2)"
  | alreadyExists => "File exists (os error 17)"
  | notDirectory => "Not a directory (os error 20)"
  | isDirectory => "Is a directory (os error 21)"
  | nameTooLong => "File name too long (os error 36)"
  | linkLoop => "Too many levels of symbolic links (os error 40)"
  | notUtf8 => "stream did not contain valid UTF-8"
  | nulInPath => "file name contained an unexpected NUL byte"
  | other message => message

/-! ## §2 Configuration and network -/

/-- What is wrong with the configuration. -/
inductive ConfigError where
  /-- The file cannot be read or understood. -/
  | unloadable (path detail : String)
  /-- The values cannot be written to a file. -/
  | unwritable (detail : String)
  | noHomeDirectory
  | other (message : String)
  deriving DecidableEq, Repr

/-- The text of a configuration error. -/
def ConfigError.message : ConfigError → String
  | unloadable path detail => "无法加载配置文件 " ++ path ++ ": " ++ detail
  | unwritable detail => "序列化配置失败: " ++ detail
  | noHomeDirectory => "无法获取用户主目录"
  | other message => message

/-- Why a download failed. -/
inductive NetworkError where
  /-- No answer was received. -/
  | requestFailed (url detail : String)
  /-- The answer was a refusal, with its status line. -/
  | refused (url status : String)
  /-- The body of the answer could not be read to its end. -/
  | brokenBody (url detail : String)
  | other (message : String)
  deriving DecidableEq, Repr

/-- The text of a failed download. -/
def NetworkError.message : NetworkError → String
  | requestFailed url detail => "请求 " ++ url ++ " 失败: " ++ detail
  | refused url status => "请求 " ++ url ++ " 返回 HTTP " ++ status
  | brokenBody url detail => "读取 " ++ url ++ " 响应失败: " ++ detail
  | other message => message

/-! ## §3 Errors -/

/-- Why an operation failed. -/
inductive Error where
  | io (cause : IoError)
  | config (cause : ConfigError)
  | network (cause : NetworkError)
  /-- A text is not the JSON document it should be. -/
  | serialization (detail : String)
  | cancelled
  /-- A field of the configuration has a value that makes no sense. -/
  | validation (field reason : String)
  | internal (message : String)
  deriving DecidableEq, Repr

namespace Error

/-- The text of an error. -/
def message : Error → String
  | io cause => "IO 错误: " ++ cause.message
  | config cause => "配置错误: " ++ cause.message
  | network cause => "网络错误: " ++ cause.message
  | serialization detail => "序列化错误: " ++ detail
  | cancelled => "操作已取消"
  | validation field reason => "验证错误: " ++ field ++ " - " ++ reason
  | internal message => "内部错误: " ++ message

/-- Whether the operation was cancelled. -/
def isCancelled : Error → Bool
  | cancelled => true
  | _ => false

/-- What one may try against an error. -/
def suggestions : Error → List String
  | network _ => ["检查网络连接和 catalog_url 配置", "使用 --offline 只在本地查找"]
  | config _ | validation _ _ => ["检查 ~/.jdkauto/config.toml，或用 JDKAUTO_CONFIG 指定配置文件"]
  | serialization _ => ["使用 ls-remote --refresh 重新下载 JDK 列表"]
  | _ => []

end Error

/-! ## §4 Reports of failed operations -/

/-- A failed operation, with what one may try against the error. -/
structure FailureReport where
  operation : String
  error : Error
  suggestions : List String

namespace FailureReport

/-- The report in two lines. -/
def text (r : FailureReport) : String :=
  "操作失败: " ++ r.operation ++ "\n错误: " ++ r.error.message

/-- The report for the people at the terminal. -/
def userMessage (r : FailureReport) : String :=
  "❌ " ++ r.operation ++ "\n原因: " ++ r.error.message ++ "\n"
    ++ (if r.suggestions.isEmpty then ""
        else "💡 建议:\n" ++ String.join (r.suggestions.map fun s => "  • " ++ s ++ "\n"))

end FailureReport

end JdkFinder
