import JdkFinder.Text.Blank
import JdkFinder.Text.Lowercase
import JdkFinder.Text.Pieces

/-!
# Vendors

The vendors that a JDK build can be attributed to, the words that stand for them, and the two ways
to recognise one: a word that names a vendor exactly, and a free text that mentions one.
-/

namespace JdkFinder

/-! ## §1 Vendors and their names -/

/-- A vendor of JDK builds. -/
inductive Vendor where
  | temurin
  | corretto
  | zulu
  | liberica
  | graalVm
  | sapMachine
  | microsoft
  | oracle
  | openJdk
  deriving DecidableEq, Repr

namespace Vendor

/-- All vendors, in the order in which they are tried. -/
def all : List Vendor :=
  [temurin, corretto, zulu, liberica, graalVm, sapMachine, microsoft, oracle, openJdk]

/-- The short word used in the names of JDKs. -/
def id : Vendor → String
  | temurin => "temurin"
  | corretto => "corretto"
  | zulu => "zulu"
  | liberica => "liberica"
  | graalVm => "graalvm"
  | sapMachine => "sapmachine"
  | microsoft => "ms"
  | oracle => "oracle"
  | openJdk => "openjdk"

/-- The name under which the vendor publishes its builds. -/
def displayName : Vendor → String
  | temurin => "Eclipse Temurin"
  | corretto => "Amazon Corretto"
  | zulu => "Azul Zulu"
  | liberica => "BellSoft Liberica"
  | graalVm => "GraalVM"
  | sapMachine => "SapMachine"
  | microsoft => "Microsoft"
  | oracle => "Oracle"
  | openJdk => "OpenJDK"

/-- The lower-case words that stand for the vendor. -/
def aliases : Vendor → List String
  | temurin => ["temurin", "adoptium", "adoptopenjdk", "adopt"]
  | corretto => ["corretto", "amazon"]
  | zulu => ["zulu", "azul"]
  | liberica => ["liberica", "bellsoft"]
  | graalVm => ["graalvm", "graal"]
  | sapMachine => ["sapmachine", "sap"]
  | microsoft => ["microsoft", "ms"]
  | oracle => ["oracle"]
  | openJdk => ["openjdk"]

/-! ## §2 Recognising a vendor -/

/-- The vendor that a word stands for, whatever its case and the white space around it. -/
def ofAlias? (word : List Char) : Option Vendor :=
  let word := Text.lowercase (Text.trim word)
  all.find? fun vendor => vendor.aliases.any (·.toList == word)

/-- Whether a lower-case text mentions the vendor by an alias long enough not to occur by chance. -/
def mentionedIn (text : List Char) (vendor : Vendor) : Bool :=
  (vendor.aliases.filter (3 < ·.length)).any (Text.occursIn ·.toList text)

/-- The first vendor that a free text mentions.  `OpenJDK` is the fallback, since the builds of
other vendors carry its name too. -/
def detect? (text : List Char) : Option Vendor :=
  let text := Text.lowercase text
  ((all.filter (· ≠ openJdk)).find? (mentionedIn text)).or
    (if Text.occursIn "openjdk".toList text then some openJdk else none)

end Vendor

end JdkFinder
