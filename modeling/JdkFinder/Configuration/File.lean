import JdkFinder.Configuration
import JdkFinder.Files.Action
import JdkFinder.Toml.Printer
import JdkFinder.Toml.Reader
import JdkFinder.Url

/-!
# The file of the configuration

The configuration is kept as a TOML document.  Keys that mean nothing are skipped when it is read,
and keys that are missing have their standard values.  Written, all settings stand in a fixed order,
those without a value left out.
-/

namespace JdkFinder

open Toml (Value)

/-! ## §1 Reading values -/

def Toml.Value.asText? : Value → Option String
  | .string s => some s
  | _ => none

/-- A truth value. -/
def Toml.Value.asBoolean? : Value → Option Bool
  | .boolean b => some b
  | _ => none

/-- A 64-bit unsigned number. -/
def Toml.Value.asWord64? : Value → Option UInt64
  | .integer n => if 0 ≤ n ∧ n < Int.pow 2 64 then some (UInt64.ofNat n.toNat) else none
  | _ => none

/-- An array. -/
def Toml.Value.asList? {α : Type} (decode : Value → Option α) : Value → Option (List α)
  | .array items => items.mapM decode
  | _ => none

/-- A value, or what stands in for one that is missing. -/
def Toml.Value.orElse? {α : Type} (value : α) (decode : Value → Option α) :
    Option Value → Option α
  | none => some value
  | some v => decode v

namespace Registration

/-- The row made of the values in its places. -/
def ofValues? (name home version description : Option Value) : Option Registration := do
  some
    { name := ← (← name).asText?
      home := ← (← home).asText?
      version := ← Value.orElse? none (fun v => v.asText?.map some) version
      description := ← Value.orElse? "" Value.asText? description }

/-- A row is a table, or an array of its values in their order. -/
def decode? : Value → Option Registration
  | .table fields =>
    ofValues? (fields.lookup "name") (fields.lookup "java_home") (fields.lookup "version")
      (fields.lookup "description")
  | .array items => ofValues? items[0]? items[1]? items[2]? items[3]?
  | _ => none

end Registration

namespace Configuration

/-! ## §2 Reading the file -/

/-- The settings in a document. -/
def ofFields? (fields : List (String × Value)) : Option Configuration := do
  some
    { autoSetup := ← Value.orElse? standard.autoSetup Value.asBoolean? (fields.lookup "auto_setup")
      catalogUrl := ← Value.orElse? standard.catalogUrl Value.asText? (fields.lookup "catalog_url")
      catalogTtl :=
        ← Value.orElse? standard.catalogTtl Value.asWord64? (fields.lookup "catalog_cache_ttl")
      installDirectory :=
        ← Value.orElse? none (fun v => v.asText?.map some) (fields.lookup "install_dir")
      scanRoots := ← Value.orElse? [] (Value.asList? Value.asText?) (fields.lookup "scan_roots")
      registrations :=
        ← Value.orElse? [] (Value.asList? Registration.decode?)
          (fields.lookup "java_environments") }

/-- The settings that a text gives. -/
def parse? (text : String) : Option Configuration :=
  (Toml.read? text).bind ofFields?

/-- Whether the settings make sense: the catalog must be at a URL that can be fetched. -/
def validate (config : Configuration) : Except Error Unit :=
  match Url.parse config.catalogUrl with
  | .error e => .error (.validation "catalog_url" (config.catalogUrl ++ ": " ++ e.message))
  | .ok url =>
    let scheme := String.ofList url.scheme
    if scheme = "http" ∨ scheme = "https" ∨ scheme = "file" then .ok ()
    else .error (.validation "catalog_url" ("不支持的协议: " ++ scheme))

/-- The settings in a file. -/
def loadFrom (path : String) (fs : FileSystem) : Except Error Configuration :=
  match fs.readText path with
  | .error e => .error (.config (.unloadable path e.message))
  | .ok text =>
    match parse? text with
    | none => .error (.config (.unloadable path "not a configuration"))
    | some config => config.validate.map fun _ => config

/-! ## §3 Writing the file -/

/-- The greatest number that a document can hold. -/
def greatestInteger : Nat := Nat.pow 2 63 - 1

def rowLines (row : Registration) : List Char :=
  let text (s : String) := Toml.writeString s.toList
  Toml.arrayTableHeader "java_environments"
    ++ Toml.pairLine "name" (text row.name)
    ++ Toml.pairLine "java_home" (text row.home)
    ++ (match row.version with
      | some version => Toml.pairLine "version" (text version)
      | none => [])
    ++ Toml.pairLine "description" (text row.description)

/-- The lines of the settings. -/
def lines (config : Configuration) : List Char :=
  Toml.pairLine "auto_setup" (Toml.writeBoolean config.autoSetup)
    ++ Toml.pairLine "catalog_url" (Toml.writeString config.catalogUrl.toList)
    ++ Toml.pairLine "catalog_cache_ttl" (Text.decimal config.catalogTtl.toNat)
    ++ (match config.installDirectory with
      | some path => Toml.pairLine "install_dir" (Toml.writeString path.toList)
      | none => [])
    ++ Toml.pairLine "scan_roots" (Toml.writeStrings (config.scanRoots.map String.toList))
    ++ if config.registrations.isEmpty then Toml.pairLine "java_environments" ['[', ']']
      else config.registrations.flatMap rowLines

/-- The text of the settings. -/
def render (config : Configuration) : Except Error String :=
  if greatestInteger < config.catalogTtl.toNat then
    .error (.config (.unwritable "out-of-range value for u64 type"))
  else .ok (String.ofList config.lines)

/-- Writes the settings to a file, in a directory that is made if need be. -/
def saveTo (config : Configuration) (path : String) : Action Unit := do
  match Path.parent? path with
  -- The directory is made even if the settings then turn out not to be writable.
  | some directory => Action.ofFile (FileSystem.makeDirectories directory)
  | none => pure ()
  let text ← Action.ofExcept config.render
  Action.ofFile (FileSystem.writeText path text)

/-- Writes the settings to their file. -/
def save (config : Configuration) (env : Environment) : Action Unit := do
  config.saveTo (← Action.ofExcept (filePath env))

/-- The settings of the user.  If there is no file, one with the standard settings is written. -/
def load (env : Environment) : Action Configuration := do
  let path ← Action.ofExcept (filePath env)
  if (← get).hasPath path then Action.ask (loadFrom path)
  else
    standard.saveTo path
    pure standard

end Configuration

end JdkFinder
