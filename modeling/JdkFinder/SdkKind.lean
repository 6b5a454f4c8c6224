import JdkFinder.Text.Blank
import JdkFinder.Text.Lowercase

/-!
# Kinds of SDKs

A project names the SDK it wants and says of which kind it is.  Only the Java kind can be resolved.
-/

namespace JdkFinder

/-- The kind of an SDK. -/
inductive SdkKind where
  | java
  | other (name : String)
  deriving DecidableEq, Repr

namespace SdkKind

/-- The kind that a word stands for, whatever its case and the white space around it. -/
def ofWord (word : String) : SdkKind :=
  let word := Text.lowercase (Text.trim word.toList)
  if word = "java".toList ∨ word = "jdk".toList then java else other (String.ofList word)

/-- The kind as it is shown to people. -/
def presentableName : SdkKind → String
  | java => "JDK"
  | other name => name

end SdkKind

/-- An SDK that a project names and that is not set up. -/
structure UnknownSdk where
  name : String
  kind : SdkKind
  deriving DecidableEq, Repr

/-- The SDK as it is shown to people. -/
def UnknownSdk.text (sdk : UnknownSdk) : String :=
  sdk.kind.presentableName ++ " '" ++ sdk.name ++ "'"

end JdkFinder
