import JdkFinder.Files.Action
import JdkFinder.Proofs.Files.Walk
import Mathlib.Order.Defs.Unbundled

/-!
# What operations on files change

Making directories puts directories where nothing stood and changes nothing else
(`makeDirectories_adds`); writing a file changes the place that its path leads to
(`writeBytes_eq_ok`).
-/

namespace JdkFinder

/-! ## §1 Runs of fallible actions -/

section Runs

variable {ε σ α β : Type}

theorem run_bind (x : ExceptT ε (StateM σ) α) (f : α → ExceptT ε (StateM σ) β) (s : σ) :
    (x >>= f).run s = match x.run s with
      | (.ok a, s') => (f a).run s'
      | (.error e, s') => (.error e, s') := by
  change (match x.run s with | (a, s') => (ExceptT.bindCont f a) s') = _
  rcases x.run s with ⟨a | e, s'⟩ <;> rfl

/-- What succeeds as a whole has succeeded step by step. -/
theorem run_bind_eq_ok {x : ExceptT ε (StateM σ) α} {f : α → ExceptT ε (StateM σ) β} {s s' : σ}
    {b : β} (h : (x >>= f).run s = (.ok b, s')) :
    ∃ a between, x.run s = (.ok a, between) ∧ (f a).run between = (.ok b, s') := by
  rw [run_bind] at h
  rcases hx : x.run s with ⟨e | a, between⟩
  · rw [hx] at h
    cases h
  · rw [hx] at h
    exact ⟨a, between, rfl, h⟩

theorem run_tryCatch (x : ExceptT ε (StateM σ) α) (f : ε → ExceptT ε (StateM σ) α) (s : σ) :
    (tryCatch x f).run s = match x.run s with
      | (.ok a, s') => (.ok a, s')
      | (.error e, s') => (f e).run s' := by
  change (match x.run s with
    | (a, s') => (match a with
      | .ok a => pure (.ok a)
      | .error e => f e : StateM σ (Except ε α)) s') = _
  rcases x.run s with ⟨a | e, s'⟩ <;> rfl

theorem run_get_bind (f : σ → ExceptT ε (StateM σ) α) (s : σ) :
    (MonadState.get >>= f).run s = (f s).run s :=
  rfl

theorem run_liftM_bind (result : Except ε α) (f : α → ExceptT ε (StateM σ) β) (s : σ) :
    ((liftM result : ExceptT ε (StateM σ) α) >>= f).run s = match result with
      | .ok a => (f a).run s
      | .error e => (.error e, s) := by
  cases result <;> rfl

/-- An action that cannot fail is done first. -/
theorem run_lift_bind (x : StateM σ α) (f : α → ExceptT ε (StateM σ) β) (s : σ) :
    ((liftM x : ExceptT ε (StateM σ) α) >>= f).run s = (f (x.run s).1).run (x.run s).2 :=
  rfl

theorem run_state_bind (x : StateM σ α) (f : α → StateM σ β) (s : σ) :
    (x >>= f).run s = (f (x.run s).1).run (x.run s).2 :=
  rfl

end Runs

namespace Action

variable {α : Type}

theorem run_ofFile (operation : FileAction α) (fs : FileSystem) :
    (ofFile operation).run fs =
      ((operation.run fs).1.mapError Error.io, (operation.run fs).2) :=
  rfl

theorem run_ask (look : FileSystem → Except Error α) (fs : FileSystem) :
    (ask look).run fs = (look fs, fs) :=
  rfl

theorem run_ofFile_eq_ok {operation : FileAction α} {fs fs' : FileSystem} {a : α}
    (h : (ofFile operation).run fs = (.ok a, fs')) : operation.run fs = (.ok a, fs') := by
  rw [run_ofFile] at h
  rcases hrun : operation.run fs with ⟨e | b, between⟩
  · rw [hrun] at h
    cases h
  · rw [hrun] at h
    cases h
    rfl

theorem run_ofExcept_eq_ok {result : Except Error α} {fs fs' : FileSystem} {a : α}
    (h : (ofExcept result).run fs = (.ok a, fs')) : result = .ok a ∧ fs' = fs := by
  cases h
  exact ⟨rfl, rfl⟩

end Action

namespace FileSystem

/-! ## §2 Places -/

/-- Where no directory stands, there is not the root. -/
theorem ne_nil_of_not_directory {fs : FileSystem} {here : Location}
    (h : fs.nodeAt? here ≠ some .directory) : here ≠ [] := by
  rintro rfl
  exact h rfl

theorem lookup_replaced (entries : List (Location × Node)) (place : Location) (node : Node)
    (here : Location) :
    (entries.map fun e => if e.1 == place then (place, node) else e).lookup here =
      if here = place then (entries.lookup place).map fun _ => node else entries.lookup here := by
  induction entries with
  | nil => simp
  | cons entry entries ih =>
    obtain ⟨other, old⟩ := entry
    simp only [beq_iff_eq] at ih
    -- The entry at the place is replaced; any other entry stays what it was.
    by_cases hother : other = place
    · subst hother
      by_cases hhere : here = other
      · subst hhere
        simp
      · have hne : (here == other) = false := beq_eq_false_iff_ne.mpr hhere
        simp [List.lookup_cons, hne, hhere, ih]
    · have hne : (place == other) = false := beq_eq_false_iff_ne.mpr (Ne.symm hother)
      by_cases hhere : here = place
      · subst hhere
        simp [List.lookup_cons, hother, hne, ih]
      · cases hfound : here == other <;> simp [List.lookup_cons, hother, hfound, hhere, ih]

/-- What is put at a place stands there, and elsewhere stands what has stood there. -/
theorem nodeAt?_place (fs : FileSystem) {place : Location} (hplace : place ≠ []) (node : Node)
    (here : Location) :
    (fs.place place node).nodeAt? here = if here = place then some node else fs.nodeAt? here := by
  have hlookup : (fs.place place node).entries.lookup here =
      if here = place then some node else fs.entries.lookup here := by
    unfold FileSystem.place
    -- An entry at the place is exchanged; otherwise a new one is appended, and is looked up last.
    split
    · rename_i hsome
      obtain ⟨old, hold⟩ := Option.isSome_iff_exists.mp hsome
      rw [lookup_replaced, hold, Option.map_some]
    · rename_i hnone
      rw [Option.not_isSome_iff_eq_none] at hnone
      by_cases hhere : here = place
      · subst hhere
        simp [List.lookup_append, hnone]
      · have hne : (here == place) = false := beq_eq_false_iff_ne.mpr hhere
        simp [List.lookup_append, List.lookup_cons, hne, hhere]
  by_cases hroot : here = []
  · subst hroot
    rw [if_neg (Ne.symm hplace)]
    rfl
  · have hempty : here.isEmpty = false := by simpa using hroot
    simp only [nodeAt?, hempty, Bool.false_eq_true, ↓reduceIte, hlookup]

theorem workingDirectory_place (fs : FileSystem) (place : Location) (node : Node) :
    (fs.place place node).workingDirectory = fs.workingDirectory := by
  rw [FileSystem.place]
  split <;> rfl

theorem nodeAt?_clear (fs : FileSystem) {here : Location} (hhere : here ≠ []) (place : Location) :
    (fs.clear here).nodeAt? place = if place = here then none else fs.nodeAt? place := by
  have hlookup (entries : List (Location × Node)) :
      (entries.filter (·.1 != here)).lookup place =
        if place = here then none else entries.lookup place := by
    -- Taking away by filtering: the entries of the place vanish and the others keep their order.
    induction entries with
    | nil => simp
    | cons entry entries ih =>
      obtain ⟨other, node⟩ := entry
      by_cases hother : other = here
      · subst hother
        rw [List.filter_cons_of_neg (by simp), ih]
        split
        · rfl
        · rename_i hplace
          rw [List.lookup_cons, beq_eq_false_iff_ne.mpr hplace]
      · rw [List.filter_cons_of_pos (by simpa using hother), List.lookup_cons, List.lookup_cons, ih]
        by_cases hplace : place = other
        · subst hplace
          simp [hother]
        · rw [beq_eq_false_iff_ne.mpr hplace]
  by_cases hroot : place = []
  · subst hroot
    rw [if_neg (Ne.symm hhere)]
    rfl
  · have hempty : place.isEmpty = false := by simpa using hroot
    simp only [nodeAt?, hempty, Bool.false_eq_true, ↓reduceIte]
    exact hlookup fs.entries

/-- A file is written where neither a directory nor a link stands. -/
theorem fileWritten_place {fs : FileSystem} {place : Location} (hplace : place ≠ [])
    (hbefore : ∀ node, fs.nodeAt? place = some node → ∃ file, node = .file file)
    (file : RegularFile) : FileWritten place fs (fs.place place (.file file)) where
  workingDirectory := fs.workingDirectory_place place _
  elsewhere here hhere := by rw [nodeAt?_place _ hplace, if_neg hhere]
  before := hbefore
  after := ⟨file, by rw [nodeAt?_place _ hplace, if_pos rfl]⟩

/-! ## §3 Operations and their traces -/

/-- An operation that leads to related files, whether it succeeds or fails. -/
def Respects (R : FileSystem → FileSystem → Prop) {α : Type} (operation : FileAction α) : Prop :=
  ∀ fs, R fs (operation.run fs).2

namespace Respects

variable {R : FileSystem → FileSystem → Prop} [IsPreorder FileSystem R] {α β : Type}

theorem pure (a : α) : Respects R (Pure.pure a : FileAction α) :=
  fun fs => refl fs

theorem ofExcept (result : Except IoError α) : Respects R (liftM result : FileAction α) :=
  fun fs => by cases result <;> exact refl fs

theorem bind {operation : FileAction α} {next : α → FileAction β} (h : Respects R operation)
    (hnext : ∀ a, Respects R (next a)) : Respects R (operation >>= next) := by
  intro fs
  have hfirst := h fs
  rw [run_bind]
  rcases hrun : operation.run fs with ⟨e | a, fs'⟩
  · rw [hrun] at hfirst
    exact hfirst
  · rw [hrun] at hfirst
    exact IsTrans.trans _ _ _ hfirst (hnext a fs')

theorem tryCatch {operation : FileAction α} {handler : IoError → FileAction α}
    (h : Respects R operation) (hhandler : ∀ e, Respects R (handler e)) :
    Respects R (MonadExcept.tryCatch operation handler) := by
  intro fs
  have hfirst := h fs
  rw [run_tryCatch]
  rcases hrun : operation.run fs with ⟨e | a, fs'⟩
  · rw [hrun] at hfirst
    exact IsTrans.trans _ _ _ hfirst (hhandler e fs')
  · rw [hrun] at hfirst
    exact hfirst

end Respects

/-! ## §4 Making directories -/

section MakingDirectories

variable {R : FileSystem → FileSystem → Prop} [IsPreorder FileSystem R] {start : Location}

/-- A relation that new directories respect. -/
def AllowsDirectories (R : FileSystem → FileSystem → Prop) (start : Location) : Prop :=
  ∀ fs above name directory, fs.walk false maxLinks start (above ++ [""]) = .ok directory →
    fs.nodeAt? (directory ++ [name]) = none → R fs (fs.place (directory ++ [name]) .directory)

theorem makeDirectoryIn_respects (h : AllowsDirectories R start) (above : List String)
    (name : String) : Respects R (makeDirectoryIn start above name) := by
  intro fs
  unfold makeDirectoryIn
  -- The walk changes nothing, so the new directory is all that counts.
  rw [run_get_bind, run_liftM_bind]
  split
  · rename_i directory hwalk
    split
    · exact refl fs
    split
    · exact refl fs
    split
    · exact refl fs
    · rename_i hnone
      exact h fs above name directory hwalk hnone
  · exact refl fs

theorem unlessDirectory_respects (start : Location) (names : List String) (e : IoError) :
    Respects R (unlessDirectory start names e) := by
  intro fs
  unfold unlessDirectory
  rw [run_get_bind]
  split
  · exact refl fs
  · exact refl fs

theorem makeDirectoriesIn_respects (h : AllowsDirectories R start) (names : List String) :
    Respects R (makeDirectoriesIn start names) := by
  induction names with
  | nil => exact .pure ()
  | cons name above ih =>
    unfold makeDirectoriesIn
    refine .tryCatch (makeDirectoryIn_respects h _ _) fun e => ?_
    split
    · -- The directories above are made first.
      refine .bind ih fun _ => ?_
      exact .tryCatch (makeDirectoryIn_respects h _ _) (unlessDirectory_respects _ _)
    · exact unlessDirectory_respects _ _ _

/-- Making a directory respects a relation that the new directories respect. -/
theorem makeDirectories_respects {fs : FileSystem} {path : String}
    (h : AllowsDirectories R (fs.startOf path)) : R fs ((makeDirectories path).run fs).2 := by
  unfold makeDirectories
  split
  · exact refl fs
  · exact Respects.bind (.ofExcept _) (fun pieces => makeDirectoriesIn_respects h _) fs

end MakingDirectories

/-- Directories stand where nothing stood, and all else is as it was. -/
structure DirectoriesAdded (fs fs' : FileSystem) : Prop where
  workingDirectory : fs'.workingDirectory = fs.workingDirectory
  node : ∀ here, fs'.nodeAt? here = fs.nodeAt? here ∨
    (fs.nodeAt? here = none ∧ fs'.nodeAt? here = some .directory)

namespace DirectoriesAdded

theorem refl (fs : FileSystem) : DirectoriesAdded fs fs :=
  ⟨rfl, fun _ => .inl rfl⟩

theorem trans {fs fs' fs'' : FileSystem} (h : DirectoriesAdded fs fs')
    (h' : DirectoriesAdded fs' fs'') : DirectoriesAdded fs fs'' where
  workingDirectory := h'.workingDirectory.trans h.workingDirectory
  node here := by
    rcases h'.node here with hsame' | ⟨hnone', hdirectory'⟩
    · rw [hsame']
      exact h.node here
    · rcases h.node here with hsame | ⟨-, hdirectory⟩
      · exact .inr ⟨hsame ▸ hnone', hdirectory'⟩
      · rw [hdirectory] at hnone'
        cases hnone'

instance : IsPreorder FileSystem DirectoriesAdded where
  refl := refl
  trans _ _ _ := trans

end DirectoriesAdded

theorem directoriesAdded_place {fs : FileSystem} {place : Location} (hplace : place ≠ [])
    (hnone : fs.nodeAt? place = none) : DirectoriesAdded fs (fs.place place .directory) where
  workingDirectory := fs.workingDirectory_place place .directory
  node here := by
    rw [fs.nodeAt?_place hplace]
    split
    · rename_i hhere
      subst hhere
      exact .inr ⟨hnone, rfl⟩
    · exact .inl rfl

theorem makeDirectories_adds (path : String) (fs : FileSystem) :
    DirectoriesAdded fs ((makeDirectories path).run fs).2 := by
  apply makeDirectories_respects
  intro fs above name directory _ hnone
  exact directoriesAdded_place (by simp) hnone

/-- The root is there. -/
theorem makeDirectories_root (fs : FileSystem) : (makeDirectories "/").run fs = (.ok (), fs) := by
  have hempty : ("/" : String).isEmpty = false := by decide
  have hpieces : walkable "/" = .ok ["", ""] := rfl
  have hidle : (["", ""].filter fun name => !Path.isIdle name) = [] := by simp [isIdle_empty]
  unfold makeDirectories
  rw [hempty, if_neg Bool.false_ne_true, run_get_bind, hpieces, run_liftM_bind]
  simp only [hidle]
  rfl

/-! ## §5 Writing files -/

/-- A file that has been written stands where its path leads. -/
theorem writeBytes_eq_ok {path : String} {content : ByteArray} {fs fs' : FileSystem}
    (h : (writeBytes path content).run fs = (.ok (), fs')) :
    ∃ here executable, fs.locateNew path = .ok here ∧ fs.nodeAt? here ≠ some .directory ∧
      fs' = fs.place here (.file ⟨content, executable, none⟩) := by
  unfold writeBytes at h
  rw [run_get_bind, run_liftM_bind] at h
  split at h
  · rename_i here hlocate
    split at h
    · cases h
    · rename_i file hfile
      cases h
      exact ⟨here, file.executable, hlocate, by simp [hfile], rfl⟩
    · rename_i hdirectory hfile
      cases h
      exact ⟨here, false, hlocate, hdirectory, rfl⟩
  · cases h

/-- A file that cannot be written leaves everything as it was: its path leads to no place for a
file. -/
theorem writeBytes_eq_error {path : String} {content : ByteArray} {fs fs' : FileSystem}
    {e : IoError} (h : (writeBytes path content).run fs = (.error e, fs')) :
    fs' = fs ∧ ∀ here, fs.locateNew path = .ok here → fs.nodeAt? here = some .directory := by
  unfold writeBytes at h
  rw [run_get_bind, run_liftM_bind] at h
  split at h
  · -- Located: only a directory there refuses the write.
    rename_i here hlocate
    split at h
    · rename_i hdirectory
      cases h
      refine ⟨rfl, fun place hplace => ?_⟩
      rw [hlocate] at hplace
      cases hplace
      exact hdirectory
    · cases h
    · cases h
  · -- Not located: there is no such place, and the second half is empty.
    rename_i e' hlocate
    cases h
    refine ⟨rfl, fun place hplace => ?_⟩
    rw [hlocate] at hplace
    cases hplace

/-- The bytes of a text are read as the text. -/
theorem fromUTF8?_toUTF8 (text : String) : String.fromUTF8? text.toUTF8 = some text :=
  dif_pos text.isValidUTF8

/-- A text that is put where its path leads can be read. -/
theorem readText_place {fs : FileSystem} {here : Location} {path text : String} {executable : Bool}
    (hroot : here ≠ []) (hbefore : ∀ node, fs.nodeAt? here = some node → ∃ file, node = .file file)
    (hlocate : fs.locateNew path = .ok here) :
    (fs.place here (.file ⟨text.toUTF8, executable, none⟩)).readText path = .ok text := by
  have hwritten := fileWritten_place hroot hbefore ⟨text.toUTF8, executable, none⟩
  have hfile : (fs.place here (.file ⟨text.toUTF8, executable, none⟩)).nodeAt? here =
      some (.file ⟨text.toUTF8, executable, none⟩) := by
    rw [nodeAt?_place _ hroot, if_pos rfl]
  exact readText_eq_ok_iff.mpr
    ⟨here, _, hwritten.locate_of_locateNew hlocate, hfile, fromUTF8?_toUTF8 text⟩

/-- What is read after an attempt to write a text is the text. -/
theorem readText_of_writeText {path text other : String} {fs : FileSystem}
    (h : ((writeText path text).run fs).2.readText path = .ok other) : other = text := by
  obtain ⟨there, file, hlocate, hfile, hcontent⟩ := readText_eq_ok_iff.mp h
  rcases hwrite : (writeText path text).run fs with ⟨e | _, fs'⟩
  · -- A file that can be read could have been written.
    rw [hwrite] at hlocate hfile
    obtain ⟨rfl, hnone⟩ := writeBytes_eq_error hwrite
    rw [hnone there (locateNew_of_locate hlocate)] at hfile
    cases hfile
  · rw [hwrite] at hlocate hfile
    obtain ⟨here, executable, hplace, hdirectory, rfl⟩ := writeBytes_eq_ok hwrite
    have hroot : here ≠ [] := ne_nil_of_not_directory hdirectory
    by_cases hsame : there = here
    · rw [nodeAt?_place _ hroot, if_pos hsame] at hfile
      cases hfile
      exact (Option.some.inj ((fromUTF8?_toUTF8 text).symm.trans hcontent)).symm
    · -- The walk to any other file has not met with the new one.
      obtain ⟨pieces, hpieces, hleads⟩ := locate_eq_ok_iff.mp hlocate
      have hbefore : Leads fs false maxLinks (fs.startOf path) pieces there := by
        have hstart : (fs.place here (.file ⟨text.toUTF8, executable, none⟩)).startOf path =
            fs.startOf path := by
          rw [startOf, startOf, workingDirectory_place]
        rw [hstart] at hleads
        refine hleads.transfer (fun place node hnode hother => ?_) fun _ => ⟨file, ?_⟩
        · rw [nodeAt?_place _ hroot] at hnode
          split at hnode
          · cases hnode
            exact absurd rfl (hother _)
          · exact hnode
        · rwa [nodeAt?_place _ hroot, if_neg hsame] at hfile
      have hthere : fs.locateNew path = .ok there :=
        locateNew_of_locate (locate_eq_ok_iff.mpr ⟨pieces, hpieces, hbefore⟩)
      rw [hplace] at hthere
      exact absurd (Except.ok.inj hthere).symm hsame

/-- A file that may not be executed is written so again. -/
theorem run_writeBytes_plain {fs : FileSystem} {path : String} {here : Location}
    (content : ByteArray) (hlocate : fs.locateNew path = .ok here)
    (hbefore : ∀ node, fs.nodeAt? here = some node →
      ∃ file, node = .file file ∧ file.executable = false) :
    (writeBytes path content).run fs = (.ok (), fs.place here (.file ⟨content, false, none⟩)) := by
  unfold writeBytes
  rw [run_get_bind, hlocate, run_liftM_bind]
  dsimp only
  -- A new file, or one that keeps its permission, which is none.
  cases hnode : fs.nodeAt? here with
  | none => rfl
  | some node =>
    obtain ⟨file, rfl, hplain⟩ := hbefore node hnode
    dsimp only
    rw [hplain]
    rfl

/-- A file that is not there is made. -/
theorem run_writeBytes_new {fs : FileSystem} {path : String} {here : Location}
    (content : ByteArray) (hlocate : fs.locateNew path = .ok here)
    (hnone : fs.nodeAt? here = none) :
    (writeBytes path content).run fs = (.ok (), fs.place here (.file ⟨content, false, none⟩)) :=
  run_writeBytes_plain content hlocate fun node hnode => by
    rw [hnone] at hnode
    cases hnode

/-! ## §6 Removing files -/

/-- Removing a file takes away what its path names, which is no directory, or changes nothing. -/
theorem removeFile_run (path : String) (fs : FileSystem) :
    ((removeFile path).run fs).2 = fs ∨
      ∃ here, fs.locateEntry path = .ok (some here) ∧ fs.nodeAt? here ≠ some .directory ∧
        ((removeFile path).run fs).2 = fs.clear here := by
  unfold removeFile
  rw [run_get_bind, run_liftM_bind]
  -- Only an entry that is no directory is removed; every other answer leaves the files alone.
  split
  · rename_i hentry
    split
    · exact .inl rfl
    · rename_i here
      split
      · exact .inl rfl
      · exact .inl rfl
      · rename_i node hdirectory hnode
        exact .inr
          ⟨here, hentry, fun h => hdirectory (Option.some.inj (hnode.symm.trans h)), rfl⟩
  · exact .inl rfl

/-- What is read after an attempt to remove a file could be read before. -/
theorem readText_of_removeFile {removed path text : String} {fs : FileSystem}
    (h : ((removeFile removed).run fs).2.readText path = .ok text) :
    fs.readText path = .ok text := by
  rcases removeFile_run removed fs with hsame | ⟨here, -, hdirectory, hclear⟩
  · rwa [hsame] at h
  · rw [hclear] at h
    have hroot : here ≠ [] := ne_nil_of_not_directory hdirectory
    -- What is read after the removal stood there before it.
    have hkept {place : Location} {node : Node}
        (hnode : (fs.clear here).nodeAt? place = some node) : fs.nodeAt? place = some node := by
      rw [nodeAt?_clear _ hroot] at hnode
      split at hnode
      · cases hnode
      · exact hnode
    obtain ⟨there, file, hlocate, hfile, hcontent⟩ := readText_eq_ok_iff.mp h
    obtain ⟨pieces, hpieces, hleads⟩ := locate_eq_ok_iff.mp hlocate
    have hbefore : Leads fs false maxLinks (fs.startOf path) pieces there :=
      hleads.transfer (fun _ _ hnode _ => hkept hnode) fun _ => ⟨file, hkept hfile⟩
    exact readText_eq_ok_iff.mpr
      ⟨there, file, locate_eq_ok_iff.mpr ⟨pieces, hpieces, hbefore⟩, hkept hfile, hcontent⟩

end FileSystem

end JdkFinder
