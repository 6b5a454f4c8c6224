import JdkFinder.Configuration
import JdkFinder.Json.Decode

/-!
# Configurations as records

The settings and the rows of the table as JSON records, under the keys that the file of the
configuration has for them.
-/

namespace JdkFinder

/-! ## §1 Rows -/

namespace Registration

def encode (row : Registration) : Json :=
  .object
    [("name", .string row.name), ("java_home", .string row.home),
     ("version", Json.text? row.version), ("description", .string row.description)]

/-- The row that a record describes. -/
def ofRecord? (j : Json) : Option Registration := do
  match ← Json.slots? [["name"], ["java_home"], ["version"], ["description"]] j with
  | [name, home, version, description] =>
    some
      { name := ← name.required? Json.asText?
        home := ← home.required? Json.asText?
        version := ← version.default? none (Json.asOption? Json.asText?)
        description := ← description.default? "" Json.asText? }
  | _ => none

end Registration

/-! ## §2 Settings -/

namespace Configuration

/-- The settings as a record. -/
def encode (config : Configuration) : Json :=
  .object
    [("auto_setup", .bool config.autoSetup), ("catalog_url", .string config.catalogUrl),
     ("catalog_cache_ttl", .nat config.catalogTtl.toNat),
     ("install_dir", Json.text? config.installDirectory),
     ("scan_roots", .array (config.scanRoots.map .string)),
     ("java_environments", .array (config.registrations.map Registration.encode))]

/-- The settings that a record describes. -/
def ofRecord? (j : Json) : Option Configuration := do
  let slots ← Json.slots?
    [["auto_setup"], ["catalog_url"], ["catalog_cache_ttl"], ["install_dir"], ["scan_roots"],
     ["java_environments"]] j
  match slots with
  | [autoSetup, url, ttl, install, roots, rows] =>
    some
      { autoSetup := ← autoSetup.default? standard.autoSetup Json.asBool?
        catalogUrl := ← url.default? standard.catalogUrl Json.asText?
        catalogTtl := ← ttl.default? standard.catalogTtl Json.asWord64?
        installDirectory := ← install.default? none (Json.asOption? Json.asText?)
        scanRoots := ← roots.default? [] (Json.asList? Json.asText?)
        registrations := ← rows.default? [] (Json.asList? Registration.ofRecord?) }
  | _ => none

end Configuration

end JdkFinder
