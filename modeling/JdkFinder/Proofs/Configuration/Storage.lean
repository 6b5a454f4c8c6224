import JdkFinder.Proofs.Configuration.RoundTrip
import JdkFinder.Proofs.Files.Tree

/-!
# Saved settings are loaded again

After `Configuration.save` the file of the configuration holds the settings, and
`Configuration.load` gives them back if they make sense.
-/

namespace JdkFinder

open FileSystem

namespace Configuration

variable {config : Configuration} {env : Environment} {path : String} {place : Location}
  {fs fs' : FileSystem}

/-! ## §1 Saving -/

/-- Saving that has succeeded has made the directory of the file, if need be, and then has written
it. -/
theorem exists_write_of_saveTo (h : (config.saveTo path).run fs = (.ok (), fs')) :
    ∃ between text, (between = fs ∨ ∃ directory, between = ((makeDirectories directory).run fs).2) ∧
      config.render = .ok text ∧ (writeText path text).run between = (.ok (), fs') := by
  unfold saveTo at h
  -- First the directory is made, if the path has one.
  have hsteps : ∃ between, (between = fs ∨
      ∃ directory, between = ((makeDirectories directory).run fs).2) ∧
      (do
        let text ← Action.ofExcept config.render
        Action.ofFile (writeText path text) : Action Unit).run between = (.ok (), fs') := by
    split at h
    · rename_i directory hdirectory
      obtain ⟨_, between, hmade, hrest⟩ := run_bind_eq_ok h
      have hbetween : between = ((makeDirectories directory).run fs).2 := by
        rw [Action.run_ofFile_eq_ok hmade]
      exact ⟨between, .inr ⟨directory, hbetween⟩, hrest⟩
    · exact ⟨fs, .inl rfl, h⟩
  obtain ⟨between, hbetween, hrest⟩ := hsteps
  obtain ⟨text, between', hread, hwrite⟩ := run_bind_eq_ok hrest
  obtain ⟨hrender, rfl⟩ := Action.run_ofExcept_eq_ok hread
  exact ⟨_, text, hbetween, hrender, Action.run_ofFile_eq_ok hwrite⟩

/-- What saving the settings has done if it has succeeded. -/
theorem saveTo_eq_ok (h : (config.saveTo path).run fs = (.ok (), fs')) :
    ∃ between here executable text, DirectoriesAdded fs between ∧ config.render = .ok text ∧
      between.locateNew path = .ok here ∧ between.nodeAt? here ≠ some .directory ∧
      fs' = between.place here (.file ⟨text.toUTF8, executable, none⟩) := by
  obtain ⟨between, text, hbetween, hrender, hwrite⟩ := exists_write_of_saveTo h
  have hadded : DirectoriesAdded fs between := by
    rcases hbetween with rfl | ⟨directory, rfl⟩
    · exact .refl _
    · exact makeDirectories_adds directory fs
  obtain ⟨here, executable, hlocate, hdirectory, hplaced⟩ := writeBytes_eq_ok hwrite
  exact ⟨_, here, executable, text, hadded, hrender, hlocate, hdirectory, hplaced⟩

/-- If only a file is new or changed, it is the one with the settings. -/
theorem readText_of_saveTo (h : (config.saveTo path).run fs = (.ok (), fs'))
    (hwritten : FileWritten place fs fs') :
    ∃ text, config.render = .ok text ∧ fs'.readText path = .ok text := by
  obtain ⟨between, here, executable, text, hadded, hrender, hlocate, hdirectory, rfl⟩ :=
    saveTo_eq_ok h
  refine ⟨text, hrender, ?_⟩
  have hroot : here ≠ [] := ne_nil_of_not_directory hdirectory
  have hhere : (between.place here (.file ⟨text.toUTF8, executable, none⟩)).nodeAt? here =
      some (.file ⟨text.toUTF8, executable, none⟩) := by
    rw [nodeAt?_place _ hroot, if_pos rfl]
  have hbefore : ∀ node, between.nodeAt? here = some node → ∃ file, node = .file file := by
    intro node hnode
    rcases hadded.node here with hsame | ⟨-, hmade⟩
    · -- What stood there stood there from the first.
      rw [hsame] at hnode
      by_cases hplace : here = place
      · exact hwritten.before node (hplace ▸ hnode)
      · rw [← hwritten.elsewhere here hplace, hhere] at hnode
        exact ⟨_, (Option.some.inj hnode).symm⟩
    · exact absurd hmade hdirectory
  exact readText_place hroot hbefore hlocate

/-- The settings are saved to a plain file, new or old, in a directory that is there. -/
theorem run_saveTo_plain {directory text : String} (hparent : Path.parent? path = some directory)
    (hdirectory : (makeDirectories directory).run fs = (.ok (), fs))
    (hrender : config.render = .ok text) (hlocate : fs.locateNew path = .ok place)
    (hbefore : ∀ node, fs.nodeAt? place = some node →
      ∃ file, node = .file file ∧ file.executable = false) :
    (config.saveTo path).run fs =
      (.ok (), fs.place place (.file ⟨text.toUTF8, false, none⟩)) := by
  -- The directory is there already, so making it changes nothing.
  have hmade : (Action.ofFile (makeDirectories directory)).run fs = (.ok (), fs) := by
    rw [Action.run_ofFile, hdirectory]
    rfl
  -- A file that stands there has no permission to run, so the new one has none to take over.
  have hwrite : (Action.ofFile (writeText path text)).run fs =
      (.ok (), fs.place place (.file ⟨text.toUTF8, false, none⟩)) := by
    rw [Action.run_ofFile, writeText, run_writeBytes_plain _ hlocate hbefore]
    rfl
  unfold saveTo
  rw [hparent]
  dsimp only
  rw [run_bind, hmade]
  dsimp only
  rw [run_bind, hrender]
  exact hwrite

/-- The settings are saved to the file `/config`, new or old. -/
theorem run_saveTo_config {text : String} (hrender : config.render = .ok text)
    (hbefore : ∀ node, fs.nodeAt? ["config"] = some node →
      ∃ file, node = .file file ∧ file.executable = false) :
    (config.saveTo "/config").run fs =
      (.ok (), fs.place ["config"] (.file ⟨text.toUTF8, false, none⟩)) := by
  have hparent : Path.parent? "/config" = some "/" := by decide
  have hname : IsName "config" := by decide
  have hlocate : fs.locateNew "/config" = .ok ["config"] := by
    -- The place is found whether the file is there or is to be made.
    cases hnode : fs.nodeAt? ["config"] with
    | none => exact walk_of_leads (.idle isIdle_empty (.new hname rfl hnode))
    | some node =>
      obtain ⟨file, rfl, -⟩ := hbefore node hnode
      exact walk_of_leads (.idle isIdle_empty (.file hname hnode))
  exact run_saveTo_plain hparent (makeDirectories_root fs) hrender hlocate hbefore

theorem run_save_config {text : String} (hpath : filePath env = .ok "/config")
    (hrender : config.render = .ok text)
    (hbefore : ∀ node, fs.nodeAt? ["config"] = some node →
      ∃ file, node = .file file ∧ file.executable = false) :
    (config.save env).run fs =
      (.ok (), fs.place ["config"] (.file ⟨text.toUTF8, false, none⟩)) := by
  unfold save
  rw [run_bind, hpath]
  exact run_saveTo_config hrender hbefore

/-! ## §2 Loading -/

theorem hasPath_of_readText {text : String} (h : fs.readText path = .ok text) :
    fs.hasPath path = true := by
  rw [hasPath, canonicalize?]
  cases hlocate : fs.locate path with
  | ok here => rfl
  | error e =>
    rw [readText, readBytes, hlocate] at h
    cases h

/-- Settings that are there are loaded, and nothing is written. -/
theorem run_load_of_hasPath (hpath : filePath env = .ok path) (hexists : fs.hasPath path = true) :
    (load env).run fs = (loadFrom path fs, fs) := by
  unfold load
  rw [run_bind, hpath]
  change ((MonadState.get >>= fun fs => if fs.hasPath path then _ else _ : Action _).run fs) = _
  rw [run_get_bind, if_pos hexists]
  rfl

theorem loadFrom_of_saveTo (h : (config.saveTo path).run fs = (.ok (), fs'))
    (hwritten : FileWritten place fs fs') :
    loadFrom path fs' = config.validate.map fun _ => config := by
  obtain ⟨text, hrender, hread⟩ := readText_of_saveTo h hwritten
  rw [loadFrom, hread]
  simp only [parse?_render hrender]

/-- Saved settings are loaded again, unless they make no sense. -/
theorem load_of_save (h : (config.save env).run fs = (.ok (), fs'))
    (hwritten : FileWritten place fs fs') :
    (load env).run fs' = (config.validate.map fun _ => config, fs') := by
  unfold save at h
  obtain ⟨path, between, hread, hsave⟩ := run_bind_eq_ok h
  obtain ⟨hpath, rfl⟩ := Action.run_ofExcept_eq_ok hread
  obtain ⟨text, -, htext⟩ := readText_of_saveTo hsave hwritten
  rw [run_load_of_hasPath hpath (hasPath_of_readText htext), loadFrom_of_saveTo hsave hwritten]

/-- Only a text that can be read gives settings, and only settings that make sense are loaded. -/
theorem readText_of_loadFrom (h : loadFrom path fs = .ok config) :
    (∃ text, fs.readText path = .ok text) ∧ config.validate = .ok () := by
  unfold loadFrom at h
  split at h
  · cases h
  rename_i text hread
  refine ⟨⟨text, hread⟩, ?_⟩
  -- A file that is read but does not decode fails like one that is not valid.
  split at h
  · cases h
  rename_i other _
  cases hvalid : other.validate with
  | error e =>
    rw [hvalid] at h
    cases h
  | ok =>
    rw [hvalid] at h
    cases h
    exact hvalid

/-! ## §3 Settings on a machine -/

/-- The text of saved settings can be read from their file. -/
theorem exists_text_of_saveTo (hs : fs.IsTree) (h : (config.saveTo path).run fs = (.ok (), fs')) :
    ∃ text, config.render = .ok text ∧ fs'.readText path = .ok text := by
  obtain ⟨between, text, hbetween, hrender, hwrite⟩ := exists_write_of_saveTo h
  have htree : between.IsTree := by
    rcases hbetween with rfl | ⟨directory, rfl⟩
    · exact hs
    · exact hs.makeDirectories directory
  exact ⟨text, hrender, htree.readText_of_writeText hwrite⟩

/-- Settings whose catalog is at a URL that can be fetched make sense. -/
theorem validate_eq_ok {url : Url} (hurl : Url.parse config.catalogUrl = .ok url)
    (hscheme : String.ofList url.scheme ∈ ["http", "https", "file"]) :
    config.validate = .ok () := by
  rw [validate, hurl]
  exact if_pos (by simpa using hscheme)

/-- What is loaded after saving is what has been saved, if it makes sense. -/
theorem loadFrom_of_saveTo_tree (hs : fs.IsTree) (hvalid : config.validate = .ok ())
    (h : (config.saveTo path).run fs = (.ok (), fs')) : loadFrom path fs' = .ok config := by
  obtain ⟨text, hrender, hread⟩ := exists_text_of_saveTo hs h
  rw [loadFrom, hread]
  simp only [parse?_render hrender, hvalid]
  rfl

/-- Settings that make sense are loaded in the environment in which they have been saved. -/
theorem load_of_save_tree (hs : fs.IsTree) (hvalid : config.validate = .ok ())
    (h : (config.save env).run fs = (.ok (), fs')) : (load env).run fs' = (.ok config, fs') := by
  unfold save at h
  obtain ⟨path, between, hread, hsave⟩ := run_bind_eq_ok h
  obtain ⟨hpath, rfl⟩ := Action.run_ofExcept_eq_ok hread
  obtain ⟨text, -, htext⟩ := exists_text_of_saveTo hs hsave
  rw [run_load_of_hasPath hpath (hasPath_of_readText htext),
    loadFrom_of_saveTo_tree hs hvalid hsave]

/-- Settings whose catalog is at a URL that can be fetched are loaded from the file that they have
been saved to, all of them as they were. -/
theorem loads_what_was_saved {url : Url} (hs : fs.IsTree)
    (hurl : Url.parse config.catalogUrl = .ok url)
    (hscheme : String.ofList url.scheme ∈ ["http", "https", "file"])
    (hsaved : (config.saveTo path).run fs = (.ok (), fs')) : loadFrom path fs' = .ok config :=
  loadFrom_of_saveTo_tree hs (validate_eq_ok hurl hscheme) hsaved

/-- Settings with texts that have to be quoted with care, and with rows that leave things out. -/
def oddSettings : Configuration :=
  { autoSetup := false
    catalogUrl := "file:///feed.json"
    catalogTtl := 9223372036854775807
    installDirectory := some "'a'\\\"b\"\n"
    scanRoots := ["", "\x00'''\"\"\"", "目录"]
    registrations := [⟨"name", "/jdk", none, ""⟩, ⟨"name", "", some "", "\t#"⟩] }

theorem loads_odd_settings :
    ∃ files, (oddSettings.saveTo "/config").run ⟨[], []⟩ = (.ok (), files) ∧
      loadFrom "/config" files = .ok oddSettings := by
  obtain ⟨url, hparse, hscheme⟩ :
      ∃ url, Url.parse oddSettings.catalogUrl = .ok url ∧ url.scheme = "file".toList := by
    -- The parser of URLs is run once; what it returns is then named.
    have hurl : ((Url.parse oddSettings.catalogUrl).toOption.map (·.scheme)) =
        some "file".toList := by
      decide +kernel
    cases hparse : Url.parse oddSettings.catalogUrl with
    | ok url =>
      rw [hparse] at hurl
      exact ⟨url, rfl, Option.some.inj hurl⟩
    | error e =>
      rw [hparse] at hurl
      cases hurl
  have hrender : oddSettings.render = .ok (String.ofList oddSettings.lines) := by
    rw [render, if_neg (by decide)]
  have hsaved : (oddSettings.saveTo "/config").run ⟨[], []⟩ = (.ok (), _) :=
    run_saveTo_config hrender fun node hnode => by cases hnode
  exact ⟨_, hsaved, loads_what_was_saved isTree_root hparse (by simp [hscheme]) hsaved⟩

end Configuration

end JdkFinder
