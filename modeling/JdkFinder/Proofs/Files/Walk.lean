import JdkFinder.Files.FileSystem

/-!
# Walks along paths

`FileSystem.Leads` tells the steps of a walk that succeeds.  Where a file stands every walk ends, so
a walk goes the same way before and after a file is written, unless it leads to that very file
(`FileWritten.canonicalize?_eq`).
-/

namespace JdkFinder

namespace FileSystem

/-! ## §1 The steps of a walk -/

/-- A piece of a path that names an entry of a directory. -/
structure IsName (name : String) : Prop where
  notIdle : Path.isIdle name = false
  notUp : name ≠ ".."
  short : ¬ maxName < name.utf8ByteSize

instance (name : String) : Decidable (IsName name) :=
  decidable_of_iff (Path.isIdle name = false ∧ name ≠ ".." ∧ ¬ maxName < name.utf8ByteSize)
    ⟨fun ⟨hidle, hup, hshort⟩ => ⟨hidle, hup, hshort⟩, fun h => ⟨h.notIdle, h.notUp, h.short⟩⟩

/-- The piece before the first slash of an absolute path, or after the last one of a path. -/
theorem isIdle_empty : Path.isIdle "" = true := by
  decide

theorem isIdle_up : Path.isIdle ".." = false := by
  decide

/-- Pieces of a path lead from a directory to a place. -/
inductive Leads (fs : FileSystem) (create : Bool) :
    Nat → Location → List String → Location → Prop where
  | done {links : Nat} {start : Location} : Leads fs create links start [] start
  | idle {links : Nat} {start here : Location} {name : String} {rest : List String}
      (hidle : Path.isIdle name = true) (next : Leads fs create links start rest here) :
      Leads fs create links start (name :: rest) here
  | up {links : Nat} {start here : Location} {rest : List String}
      (next : Leads fs create links start.dropLast rest here) :
      Leads fs create links start (".." :: rest) here
  /-- The place of a file that has to be made. -/
  | new {links : Nat} {start : Location} {name : String} (hname : IsName name)
      (hcreate : create = true) (hnone : fs.nodeAt? (start ++ [name]) = none) :
      Leads fs create links start [name] (start ++ [name])
  | file {links : Nat} {start : Location} {name : String} {file : RegularFile}
      (hname : IsName name) (hfile : fs.nodeAt? (start ++ [name]) = some (.file file)) :
      Leads fs create links start [name] (start ++ [name])
  | directory {links : Nat} {start here : Location} {name : String} {rest : List String}
      (hname : IsName name) (hdirectory : fs.nodeAt? (start ++ [name]) = some .directory)
      (next : Leads fs create links (start ++ [name]) rest here) :
      Leads fs create links start (name :: rest) here
  | link {links : Nat} {start here : Location} {name target : String} {rest : List String}
      (hname : IsName name) (hlink : fs.nodeAt? (start ++ [name]) = some (.link target))
      (next : Leads fs create links (if Path.isAbsolute target then [] else start)
        (Path.pieces target ++ rest) here) :
      Leads fs create (links + 1) start (name :: rest) here

section Steps

variable {fs : FileSystem} {create : Bool} {links : Nat} {start here : Location}
  {todo : List String}

theorem leads_of_walk (h : fs.walk create links start todo = .ok here) :
    Leads fs create links start todo here := by
  -- Each branch of the walk that does not fail is a step of `Leads`.
  fun_induction walk fs create links start todo with
  | case1 links start =>
    cases h
    exact .done
  | case2 links start name rest hidle ih => exact .idle hidle (ih h)
  | case3 links start rest hidle ih => exact .up (ih h)
  | case4 => cases h
  | case5 links start name rest hidle hup hshort _ hnone hcreate =>
    obtain ⟨hcreate', hrest⟩ := Bool.and_eq_true_iff.mp hcreate
    cases List.isEmpty_iff.mp hrest
    rw [← Except.ok.inj h]
    exact .new ⟨Bool.not_eq_true _ ▸ hidle, hup, hshort⟩ hcreate' hnone
  | case6 => cases h
  | case7 => cases h
  | case8 links start name rest hidle hup hshort _ file hfile hrest =>
    cases List.isEmpty_iff.mp hrest
    rw [← Except.ok.inj h]
    exact .file ⟨Bool.not_eq_true _ ▸ hidle, hup, hshort⟩ hfile
  | case9 => cases h
  | case10 links start name rest hidle hup hshort _ hdirectory ih =>
    exact .directory ⟨Bool.not_eq_true _ ▸ hidle, hup, hshort⟩ hdirectory (ih h)
  | case11 => cases h
  | case12 start name rest hidle hup hshort _ target hlink links ih =>
    exact .link ⟨Bool.not_eq_true _ ▸ hidle, hup, hshort⟩ hlink (ih h)

theorem walk_of_leads (h : Leads fs create links start todo here) :
    fs.walk create links start todo = .ok here := by
  -- The relation has one constructor for each branch of the walk.
  induction h with
  | done => rw [walk]
  | idle hidle _ ih => rw [walk, if_pos hidle, ih]
  | up _ ih =>
    rw [walk, isIdle_up, if_neg Bool.false_ne_true, if_pos rfl, ih]
  | new hname hcreate hnone =>
    rw [walk, hname.notIdle, if_neg Bool.false_ne_true, if_neg hname.notUp, if_neg hname.short]
    simp [hnone, hcreate]
  | file hname hfile =>
    rw [walk, hname.notIdle, if_neg Bool.false_ne_true, if_neg hname.notUp, if_neg hname.short]
    simp [hfile]
  | directory hname hdirectory _ ih =>
    rw [walk, hname.notIdle, if_neg Bool.false_ne_true, if_neg hname.notUp, if_neg hname.short]
    simp only [hdirectory, ih]
  | link hname hlink _ ih =>
    rw [walk, hname.notIdle, if_neg Bool.false_ne_true, if_neg hname.notUp, if_neg hname.short]
    simp only [hlink, ih]

theorem locate_eq_ok_iff {path : String} :
    fs.locate path = .ok here ↔ ∃ pieces, walkable path = .ok pieces ∧
      Leads fs false maxLinks (fs.startOf path) pieces here := by
  rw [locate]
  cases hpieces : walkable path with
  | error e => simp [bind, Except.bind]
  | ok pieces =>
    simp only [bind, Except.bind, Except.ok.injEq, exists_eq_left']
    exact ⟨leads_of_walk, walk_of_leads⟩

theorem locateNew_eq_ok_iff {path : String} :
    fs.locateNew path = .ok here ↔ ∃ pieces, walkable path = .ok pieces ∧
      Leads fs true maxLinks (fs.startOf path) pieces here := by
  rw [locateNew]
  cases hpieces : walkable path with
  | error e => simp [bind, Except.bind]
  | ok pieces =>
    simp only [bind, Except.bind, Except.ok.injEq, exists_eq_left']
    exact ⟨leads_of_walk, walk_of_leads⟩

theorem canonicalize?_eq_some_iff {path : String} :
    fs.canonicalize? path = some here ↔ ∃ pieces, walkable path = .ok pieces ∧
      Leads fs false maxLinks (fs.startOf path) pieces here := by
  rw [← locate_eq_ok_iff, canonicalize?]
  cases fs.locate path <;> simp [Except.toOption]

theorem locate_of_canonicalize? {path : String} (h : fs.canonicalize? path = some here) :
    fs.locate path = .ok here :=
  locate_eq_ok_iff.mpr (canonicalize?_eq_some_iff.mp h)

theorem canonicalizeLong?_of_canonicalize? {path : String} (h : fs.canonicalize? path = some here) :
    fs.canonicalizeLong? path = some here := by
  rw [canonicalize?, locate, walkable] at h
  rw [canonicalizeLong?]
  split at h
  · cases h
  split at h
  · cases h
  split at h
  · cases h
  · rwa [if_neg (by simp_all)]

theorem Leads.of_idle {name : String} {rest : List String} (hidle : Path.isIdle name = true)
    (h : Leads fs create links start (name :: rest) here) :
    Leads fs create links start rest here := by
  have hnotName (hname : IsName name) : False := by
    rw [hname.notIdle] at hidle
    cases hidle
  cases h with
  | idle _ next => exact next
  | up => exact absurd hidle (by rw [isIdle_up]; exact Bool.false_ne_true)
  | new hname => exact (hnotName hname).elim
  | file hname => exact (hnotName hname).elim
  | directory hname => exact (hnotName hname).elim
  | link hname => exact (hnotName hname).elim

/-- A walk goes the same way wherever the directories and links on it are still there, and a file
is where it ends. -/
theorem Leads.transfer {fs' : FileSystem} {create' : Bool}
    (h : Leads fs create links start todo here)
    (hkept : ∀ place node, fs.nodeAt? place = some node → (∀ file, node ≠ .file file) →
      fs'.nodeAt? place = some node)
    (hend : (∃ file, fs.nodeAt? here = some (.file file)) ∨ create = true →
      ∃ file, fs'.nodeAt? here = some (.file file)) :
    Leads fs' create' links start todo here := by
  induction h with
  | done => exact .done
  | idle hidle _ ih => exact .idle hidle (ih hend)
  | up _ ih => exact .up (ih hend)
  | new hname hcreate _ =>
    obtain ⟨file, hfile⟩ := hend (.inr hcreate)
    exact .file hname hfile
  | file hname hfile =>
    -- A file ends the walk, so it stands at the place that the walk leads to.
    obtain ⟨file, hfile⟩ := hend (.inl ⟨_, hfile⟩)
    exact .file hname hfile
  | directory hname hdirectory _ ih =>
    exact .directory hname (hkept _ _ hdirectory (by simp)) (ih hend)
  | link hname hlink _ ih => exact .link hname (hkept _ _ hlink (by simp)) (ih hend)

/-- What is found is also the place where a file of that name would be made. -/
theorem locateNew_of_locate {path : String} (h : fs.locate path = .ok here) :
    fs.locateNew path = .ok here := by
  obtain ⟨pieces, hpieces, hleads⟩ := locate_eq_ok_iff.mp h
  refine locateNew_eq_ok_iff.mpr ⟨pieces, hpieces, hleads.transfer (fun _ _ hnode _ => hnode) ?_⟩
  rintro (hfile | hcreate)
  · exact hfile
  · cases hcreate

theorem not_leads_of_missing {name : String} {rest : List String} (hname : IsName name)
    (hmissing : fs.nodeAt? (start ++ [name]) = none) :
    ¬ Leads fs false links start (name :: rest) here := by
  intro h
  -- With nothing of that name, only a step that creates could go on, and this walk creates nothing.
  cases h with
  | idle hidle =>
    rw [hname.notIdle] at hidle
    cases hidle
  | up => exact hname.notUp rfl
  | new _ hcreate => cases hcreate
  | file _ hfile =>
    rw [hmissing] at hfile
    cases hfile
  | directory _ hdirectory =>
    rw [hmissing] at hdirectory
    cases hdirectory
  | link _ hlink =>
    rw [hmissing] at hlink
    cases hlink

/-- A path whose first name is missing leads nowhere. -/
theorem canonicalize?_eq_none {path name : String} {rest : List String}
    (hpieces : walkable path = .ok ("" :: name :: rest)) (hstart : fs.startOf path = [])
    (hname : IsName name) (hmissing : fs.nodeAt? [name] = none) :
    fs.canonicalize? path = none := by
  rw [Option.eq_none_iff_forall_ne_some]
  intro here hhere
  obtain ⟨pieces, hread, hleads⟩ := canonicalize?_eq_some_iff.mp hhere
  rw [hpieces] at hread
  cases hread
  rw [hstart] at hleads
  exact not_leads_of_missing hname hmissing (hleads.of_idle isIdle_empty)

theorem readText_eq_ok_iff {path text : String} :
    fs.readText path = .ok text ↔ ∃ here file, fs.locate path = .ok here ∧
      fs.nodeAt? here = some (.file file) ∧ String.fromUTF8? file.content = some text := by
  rw [readText, readBytes]
  cases hlocate : fs.locate path with
  | error e => simp [bind, Except.bind]
  | ok here =>
    simp only [bind, Except.bind, Except.ok.injEq, exists_and_left, exists_eq_left']
    -- Only a file can be read, and only if its bytes are text.
    cases hnode : fs.nodeAt? here with
    | none => simp
    | some node =>
      cases node with
      | file file =>
        cases hcontent : String.fromUTF8? file.content with
        | none => simp [hcontent]
        | some other => simp [hcontent]
      | directory => simp
      | link target => simp

/-- A file can be read exactly if its path leads to it and it holds text. -/
theorem toOption_readText (fs : FileSystem) (path : String) :
    (fs.readText path).toOption =
      (fs.fileOf? path).bind fun file => String.fromUTF8? file.content := by
  rw [readText, readBytes, fileOf?, nodeOf?, canonicalize?]
  cases fs.locate path with
  | error e => rfl
  | ok here =>
    simp only [bind, Except.bind, Except.toOption, Option.bind]
    -- Both sides see the same node, and agree on the three that are no file.
    cases fs.nodeAt? here with
    | none => rfl
    | some node =>
      cases node with
      | file file =>
        cases hcontent : String.fromUTF8? file.content with
        | none => simp only [hcontent]
        | some text => simp only [hcontent]
      | directory => rfl
      | link target => rfl

end Steps

/-! ## §2 A file is written -/

/-- The two file systems differ in one place at most, where a file stands now and where neither a
directory nor a link has stood. -/
structure FileWritten (place : Location) (fs fs' : FileSystem) : Prop where
  workingDirectory : fs'.workingDirectory = fs.workingDirectory
  elsewhere : ∀ here, here ≠ place → fs'.nodeAt? here = fs.nodeAt? here
  before : ∀ node, fs.nodeAt? place = some node → ∃ file, node = .file file
  after : ∃ file, fs'.nodeAt? place = some (.file file)

namespace FileWritten

variable {fs fs' : FileSystem} {place : Location} (h : FileWritten place fs fs')
include h

/-- A directory or a link that has been there still is. -/
theorem kept_after {here : Location} {node : Node} (hnode : fs.nodeAt? here = some node)
    (hfile : ∀ file, node ≠ .file file) : fs'.nodeAt? here = some node := by
  rw [h.elsewhere here, hnode]
  rintro rfl
  obtain ⟨file, hnode⟩ := h.before node hnode
  exact hfile file hnode

/-- A directory or a link that is there has been there. -/
theorem kept_before {here : Location} {node : Node} (hnode : fs'.nodeAt? here = some node)
    (hfile : ∀ file, node ≠ .file file) : fs.nodeAt? here = some node := by
  rw [← h.elsewhere here, hnode]
  rintro rfl
  obtain ⟨file, hafter⟩ := h.after
  rw [hnode] at hafter
  exact hfile file (Option.some.inj hafter)

/-- What was found before is found afterwards, and so is the new file. -/
theorem leads_after {create : Bool} {links : Nat} {start here : Location} {todo : List String}
    (hleads : Leads fs create links start todo here) (hnew : create = false ∨ here = place) :
    Leads fs' false links start todo here := by
  refine hleads.transfer (fun _ _ => h.kept_after) fun hend => ?_
  -- The file at the end of the walk may be the one that has been written.
  by_cases hplace : here = place
  · exact hplace ▸ h.after
  · rw [h.elsewhere here hplace]
    rcases hend with hfile | hcreate
    · exact hfile
    · rcases hnew with hnew | hnew
      · rw [hcreate] at hnew
        cases hnew
      · exact absurd hnew hplace

/-- What is found afterwards was found before, but for the written file. -/
theorem leads_before {links : Nat} {start here : Location} {todo : List String}
    (hleads : Leads fs' false links start todo here) (hhere : here ≠ place) :
    Leads fs false links start todo here := by
  refine hleads.transfer (fun _ _ => h.kept_before) fun hend => ?_
  rw [← h.elsewhere here hhere]
  rcases hend with hfile | hcreate
  · exact hfile
  · cases hcreate

/-! ## §3 What paths lead to -/

variable {path : String}

theorem startOf_eq (path : String) : fs'.startOf path = fs.startOf path := by
  rw [startOf, startOf, h.workingDirectory]

/-- What is found at a path before is found there afterwards. -/
theorem canonicalize?_of_before {here : Location} (hpath : fs.canonicalize? path = some here) :
    fs'.canonicalize? path = some here := by
  obtain ⟨pieces, hpieces, hleads⟩ := canonicalize?_eq_some_iff.mp hpath
  refine canonicalize?_eq_some_iff.mpr ⟨pieces, hpieces, ?_⟩
  rw [h.startOf_eq]
  exact h.leads_after hleads (.inl rfl)

/-- What is found at a path afterwards was found there before, but for the written file. -/
theorem canonicalize?_of_after {here : Location} (hpath : fs'.canonicalize? path = some here)
    (hhere : here ≠ place) : fs.canonicalize? path = some here := by
  obtain ⟨pieces, hpieces, hleads⟩ := canonicalize?_eq_some_iff.mp hpath
  refine canonicalize?_eq_some_iff.mpr ⟨pieces, hpieces, ?_⟩
  rw [← h.startOf_eq]
  exact h.leads_before hleads hhere

/-- Both file systems have the same place at the end of a path, unless it is the written file. -/
theorem canonicalize?_eq (hpath : fs'.canonicalize? path ≠ some place) :
    fs.canonicalize? path = fs'.canonicalize? path := by
  apply Option.ext
  intro here
  constructor
  · exact h.canonicalize?_of_before
  · intro hafter
    refine h.canonicalize?_of_after hafter ?_
    rintro rfl
    exact hpath hafter

theorem nodeOf?_eq (hpath : fs'.canonicalize? path ≠ some place) :
    fs.nodeOf? path = fs'.nodeOf? path := by
  rw [nodeOf?, nodeOf?, h.canonicalize?_eq hpath]
  cases hhere : fs'.canonicalize? path with
  | none => rfl
  | some here =>
    rw [hhere] at hpath
    have hne : here ≠ place := fun heq => hpath (congrArg some heq)
    rw [Option.bind_some, Option.bind_some, h.elsewhere here hne]

theorem fileOf?_eq (hpath : fs'.canonicalize? path ≠ some place) :
    fs.fileOf? path = fs'.fileOf? path := by
  rw [fileOf?, fileOf?, h.nodeOf?_eq hpath]

/-- The new file stands where its path leads. -/
theorem locate_of_locateNew (hpath : fs.locateNew path = .ok place) :
    fs'.locate path = .ok place := by
  obtain ⟨pieces, hpieces, hleads⟩ := locateNew_eq_ok_iff.mp hpath
  rw [← h.startOf_eq] at hleads
  exact locate_eq_ok_iff.mpr ⟨pieces, hpieces, h.leads_after hleads (.inr rfl)⟩

/-- No directory is made or taken away. -/
theorem isDirectory_eq (path : String) : fs.isDirectory path = fs'.isDirectory path := by
  obtain ⟨file, hfile⟩ := h.after
  have hiff : fs.nodeOf? path = some .directory ↔ fs'.nodeOf? path = some .directory := by
    simp only [nodeOf?, Option.bind_eq_some_iff]
    constructor
    · rintro ⟨here, hhere, hnode⟩
      exact ⟨here, h.canonicalize?_of_before hhere, h.kept_after hnode (by simp)⟩
    · rintro ⟨here, hhere, hnode⟩
      refine ⟨here, h.canonicalize?_of_after hhere ?_, h.kept_before hnode (by simp)⟩
      rintro rfl
      rw [hfile] at hnode
      cases hnode
  rw [isDirectory, isDirectory, Bool.eq_iff_iff, beq_iff_eq, beq_iff_eq, hiff]

end FileWritten

end FileSystem

end JdkFinder
