import JdkFinder.Configuration.File
import JdkFinder.Proofs.Toml.Document

/-!
# Written settings are read back

The text that `Configuration.render` makes of settings is read by `Configuration.parse?` as the same
settings.
-/

namespace JdkFinder

open Toml (Record Statement Value Writes WritesValue)

/-! ## §1 Lines -/

/-- A field that is left out if it has no value. -/
def optionalText (key : String) (text : Option String) : Record :=
  text.toList.map fun s => (key, .string s)

theorem writesValue_text (s : String) : WritesValue (Toml.writeString s.toList) (.string s) := by
  have hwrites := Toml.writesValue_writeString s.toList
  rwa [String.ofList_toList] at hwrites

theorem writes_field (key : String) (hkey : Toml.IsBareKey key) {text : List Char} {v : Value}
    (hvalue : WritesValue text v) :
    Writes (Toml.pairLine key text) (Record.statements [(key, v)]) :=
  .pairLine hkey hvalue

theorem writes_optionalText (key : String) (hkey : Toml.IsBareKey key) (text : Option String) :
    Writes (match text with
      | some s => Toml.pairLine key (Toml.writeString s.toList)
      | none => []) (optionalText key text).statements := by
  cases text with
  | none => exact .nil
  | some s => exact writes_field key hkey (writesValue_text s)

theorem statements_append (first second : Record) :
    (first ++ second).statements = first.statements ++ second.statements :=
  List.map_append

/-! ## §2 Rows -/

namespace Registration

/-- A row as the fields of a table. -/
def record (row : Registration) : Record :=
  [("name", .string row.name)] ++ [("java_home", .string row.home)] ++
    optionalText "version" row.version ++ [("description", .string row.description)]

theorem nodup_record (row : Registration) : (row.record.map Prod.fst).Nodup := by
  cases hversion : row.version <;> simp [record, optionalText, hversion]

theorem decode?_record (row : Registration) : decode? (.table row.record) = some row := by
  obtain ⟨name, home, version, description⟩ := row
  cases version <;> rfl

end Registration

theorem writes_rowLines (row : Registration) :
    Writes (Configuration.rowLines row)
      (Toml.tableStatements "java_environments" row.record) := by
  -- The lines are written in this order, and so are their statements.
  have hheader : Writes (Toml.arrayTableHeader "java_environments")
      [.arrayTable ["java_environments"]] := .arrayTableHeader (by decide)
  have hname := writes_field "name" (by decide) (writesValue_text row.name)
  have hhome := writes_field "java_home" (by decide) (writesValue_text row.home)
  have hversion := writes_optionalText "version" (by decide) row.version
  have hdescription :=
    writes_field "description" (by decide) (writesValue_text row.description)
  have hall := (((hheader.append hname).append hhome).append hversion).append hdescription
  have hstatements : Toml.tableStatements "java_environments" row.record =
      [.arrayTable ["java_environments"]] ++ Record.statements [("name", .string row.name)] ++
        Record.statements [("java_home", .string row.home)] ++
          (optionalText "version" row.version).statements ++
            Record.statements [("description", .string row.description)] := by
    rw [Toml.tableStatements, Registration.record, statements_append, statements_append,
      statements_append]
    simp only [List.append_assoc, List.singleton_append]
    rfl
  rw [hstatements]
  exact hall

/-! ## §3 Settings -/

namespace Configuration

/-- The settings but for the rows, as the fields of a table. -/
def record (config : Configuration) : Record :=
  [("auto_setup", .boolean config.autoSetup)] ++ [("catalog_url", .string config.catalogUrl)] ++
    [("catalog_cache_ttl", .integer config.catalogTtl.toNat)] ++
      optionalText "install_dir" config.installDirectory ++
        [("scan_roots", .array (config.scanRoots.map .string))]

/-- The rows as the value of a field. -/
def rows (config : Configuration) : Value :=
  .array (config.registrations.map fun row => .table row.record)

theorem nodup_record (config : Configuration) : (config.record.map Prod.fst).Nodup := by
  cases hdirectory : config.installDirectory <;> simp [record, optionalText, hdirectory]

theorem rows_notMem_record (config : Configuration) :
    "java_environments" ∉ config.record.map Prod.fst := by
  cases hdirectory : config.installDirectory <;> simp [record, optionalText, hdirectory]

/-- All settings as the fields of a document. -/
def fields (config : Configuration) : Record :=
  config.record ++ [("java_environments", config.rows)]

theorem nodup_fields (config : Configuration) : (config.fields.map Prod.fst).Nodup := by
  rw [fields, List.map_append]
  refine List.nodup_append.mpr ⟨config.nodup_record, by simp, ?_⟩
  rintro key hkey other hother rfl
  obtain rfl : key = "java_environments" := by simpa using hother
  exact config.rows_notMem_record hkey

theorem writesValue_scanRoots (roots : List String) :
    WritesValue (Toml.writeStrings (roots.map String.toList)) (.array (roots.map .string)) := by
  have hwrites := Toml.writesValue_writeStrings (roots.map String.toList)
  simpa [List.map_map, Function.comp_def] using hwrites

/-- The statements of the settings: the array of rows has a line of its own if it is empty. -/
def statements (config : Configuration) : List Statement :=
  config.record.statements ++
    if config.registrations.isEmpty then Record.statements [("java_environments", .array [])]
    else (config.registrations.map Registration.record).flatMap
      (Toml.tableStatements "java_environments")

theorem writes_lines (config : Configuration) (httl : config.catalogTtl.toNat ≤ greatestInteger) :
    Writes config.lines config.statements := by
  -- No greater number is read back than the greatest integer.
  have hpow : greatestInteger < 2 ^ 63 := by decide
  have hauto := writes_field "auto_setup" (by decide)
    (Toml.writesValue_writeBoolean config.autoSetup)
  have hurl := writes_field "catalog_url" (by decide) (writesValue_text config.catalogUrl)
  have hseconds := writes_field "catalog_cache_ttl" (by decide)
    (Toml.writesValue_decimal (Nat.lt_of_le_of_lt httl hpow))
  have hdirectory := writes_optionalText "install_dir" (by decide) config.installDirectory
  have hroots := writes_field "scan_roots" (by decide)
    (writesValue_scanRoots config.scanRoots)
  have hrecord := (((hauto.append hurl).append hseconds).append hdirectory).append hroots
  simp only [← statements_append] at hrecord
  have hrows : Writes
      (if config.registrations.isEmpty then Toml.pairLine "java_environments" ['[', ']']
        else config.registrations.flatMap rowLines)
      (if config.registrations.isEmpty then Record.statements [("java_environments", .array [])]
        else (config.registrations.map Registration.record).flatMap
          (Toml.tableStatements "java_environments")) := by
    -- Without rows there is an empty array, which a pair writes, and no header.
    split
    · exact writes_field "java_environments" (by decide) (Toml.writesValue_writeStrings [])
    · rw [List.flatMap_map]
      exact .flatMap writes_rowLines config.registrations
  exact hrecord.append hrows

theorem ofStatements?_statements (config : Configuration) :
    Toml.ofStatements? config.statements = some config.fields := by
  unfold statements
  split
  · -- The record has no tables, and its keys are told apart.
    rename_i hempty
    have hrows : config.rows = .array [] := by
      simp [rows, List.isEmpty_iff.mp hempty]
    rw [← hrows, ← statements_append]
    exact Toml.ofStatements?_record config.nodup_fields
  · -- The rows are tables behind the record, each with keys of its own.
    rename_i hsome
    have hrecords : config.registrations.map Registration.record ≠ [] := by
      simpa using hsome
    have hkeys : ∀ record ∈ config.registrations.map Registration.record,
        (record.map Prod.fst).Nodup := by
      rintro _ hrecord
      obtain ⟨row, -, rfl⟩ := List.mem_map.mp hrecord
      exact row.nodup_record
    rw [Toml.ofStatements?_tables config.nodup_record config.rows_notMem_record hrecords hkeys,
      List.map_map]
    rfl

theorem mapM_eq_some {α β γ : Type} {f : α → β} {g : β → Option γ} {h : α → γ}
    (hread : ∀ a, g (f a) = some (h a)) (items : List α) :
    (items.map f).mapM g = some (items.map h) := by
  induction items with
  | nil => rfl
  | cons a items ih => simp [hread, ih]

theorem asWord64?_toNat (n : UInt64) : Value.asWord64? (.integer n.toNat) = some n := by
  have hlt : n.toNat < 18446744073709551616 := n.toNat_lt
  have hpow : Int.pow 2 64 = 18446744073709551616 := by decide
  rw [Value.asWord64?, hpow, if_pos ⟨by omega, by omega⟩]
  simp

theorem orElse?_some {α : Type} (a : α) (decode : Value → Option α) (v : Value) :
    Value.orElse? a decode (some v) = decode v := by
  rw [Value.orElse?]

theorem ofFields?_fields (config : Configuration) : ofFields? config.fields = some config := by
  -- Every field is found under its key, since no key stands twice.
  have hauto : config.fields.lookup "auto_setup" = some (.boolean config.autoSetup) :=
    Record.lookup_of_mem config.nodup_fields (by simp [fields, record])
  have hurl : config.fields.lookup "catalog_url" = some (.string config.catalogUrl) :=
    Record.lookup_of_mem config.nodup_fields (by simp [fields, record])
  have httl : config.fields.lookup "catalog_cache_ttl" =
      some (.integer config.catalogTtl.toNat) :=
    Record.lookup_of_mem config.nodup_fields (by simp [fields, record])
  have hroots : config.fields.lookup "scan_roots" = some (.array (config.scanRoots.map .string)) :=
    Record.lookup_of_mem config.nodup_fields (by simp [fields, record])
  have hrows : config.fields.lookup "java_environments" = some config.rows :=
    Record.lookup_of_mem config.nodup_fields (by simp [fields])
  have hdirectory : Value.orElse? none (fun v => v.asText?.map some)
      (config.fields.lookup "install_dir") = some config.installDirectory := by
    cases hpath : config.installDirectory with
    | none =>
      rw [Record.lookup_eq_none (by simp [fields, record, optionalText, hpath])]
      rfl
    | some path =>
      rw [Record.lookup_of_mem config.nodup_fields (v := .string path)
        (by simp [fields, record, optionalText, hpath])]
      rfl
  -- What is found is read back as the value that was written.
  have hreadRoots : Value.asList? Value.asText? (.array (config.scanRoots.map .string)) =
      some config.scanRoots := by
    have htext (s : String) : Value.asText? (.string s) = some (id s) := rfl
    have hread := mapM_eq_some htext config.scanRoots
    rwa [List.map_id] at hread
  have hreadRows : Value.asList? Registration.decode? config.rows = some config.registrations := by
    have hrow (row : Registration) : Registration.decode? (.table row.record) = some (id row) :=
      row.decode?_record
    have hread := mapM_eq_some hrow config.registrations
    rwa [List.map_id] at hread
  have hreadAuto : Value.asBoolean? (.boolean config.autoSetup) = some config.autoSetup := rfl
  have hreadUrl : Value.asText? (.string config.catalogUrl) = some config.catalogUrl := rfl
  rw [ofFields?, hauto, hurl, httl, hroots, hrows, hdirectory, orElse?_some, orElse?_some,
    orElse?_some, orElse?_some, orElse?_some, hreadAuto, hreadUrl, asWord64?_toNat, hreadRoots,
    hreadRows]
  rfl

/-- The text of settings is read as these settings. -/
theorem parse?_render {config : Configuration} {text : String}
    (h : config.render = .ok text) : parse? text = some config := by
  unfold render at h
  split at h
  · cases h
  · rename_i httl
    obtain rfl := Except.ok.inj h
    have hmark : config.lines.head? ≠ some '\uFEFF' := by
      have hfirst : config.lines.head? = some 'a' := rfl
      rw [hfirst]
      decide
    rw [parse?, Toml.read?_of_writes (config.writes_lines (Nat.le_of_not_lt httl)) hmark,
      ofStatements?_statements, Option.bind_some, ofFields?_fields]

end Configuration

end JdkFinder
