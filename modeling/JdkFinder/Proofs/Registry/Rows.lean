import JdkFinder.Proofs.Files.Walk
import JdkFinder.Proofs.Text.Pieces
import JdkFinder.Proofs.Text.Words
import JdkFinder.Registry
import Mathlib.Data.List.Forall2

/-!
# Rows are looked at one by one

What a row of the configuration describes depends on the row, the files and the environment alone
(`Registration.Describes`); a row that describes nothing (`Registration.IsRecognised`) is left out,
and one whose home is no JDK is kept and marked.  A look at the table goes from row to row, and
before each of them it stops if the run is cancelled (`Registry.Looks`).

`Registry.snapshot_row_by_row` says that this is what a snapshot is: it has the candidates of the
recognised rows in their order, the snapshot of two tables one after the other is that of the one
and then that of the other, and a cancellation leaves no candidates at all.
-/

namespace JdkFinder

open FileSystem

/-! ## §1 References to variables -/

namespace Environment

variable {env : Environment} {text name value : String}

/-- A text stands for the value of the variable that it names as `${NAME}`, and for itself if there
is no such variable. -/
inductive Expands (env : Environment) : String → String → Prop where
  | reference {name value : String} (h : env.get? name = some value) :
      Expands env ("$\x7b" ++ name ++ "\x7d") value
  | itself {text : String} (h : ∀ name, text = "$\x7b" ++ name ++ "\x7d" → env.get? name = none) :
      Expands env text text

theorem reference?_eq_some_iff :
    reference? text = some name ↔ text = "$\x7b" ++ name ++ "\x7d" := by
  constructor
  · intro h
    unfold reference? at h
    split at h
    · rename_i rest htext
      obtain ⟨inner, hinner, rfl⟩ := Option.map_eq_some_iff.mp h
      rw [Text.stripSuffix?_eq_some_iff.mp hinner] at htext
      rw [← String.toList_inj, htext]
      simp
    · cases h
  · rintro rfl
    have htext : ("$\x7b" ++ name ++ "\x7d").toList =
        '$' :: '\x7b' :: (name.toList ++ ['\x7d']) := by
      simp
    rw [reference?, htext]
    simp only [Text.stripSuffix?_append, Option.map_some, String.ofList_toList]

theorem expand_eq_iff : env.expand text = value ↔ env.Expands text value := by
  constructor
  · rintro rfl
    rw [expand]
    -- No value is found if the text is no reference, and also if it refers to nothing.
    cases hbound : (reference? text).bind env.get? with
    | none =>
      refine .itself fun name htext => ?_
      rwa [reference?_eq_some_iff.mpr htext, Option.bind_some] at hbound
    | some value =>
      obtain ⟨name, hname, hvalue⟩ := Option.bind_eq_some_iff.mp hbound
      rw [reference?_eq_some_iff.mp hname]
      exact .reference hvalue
  · intro h
    cases h with
    | reference hvalue => rw [expand, reference?_eq_some_iff.mpr rfl, Option.bind_some, hvalue]; rfl
    | itself hunset =>
      rw [expand]
      cases hname : reference? text with
      | none => rfl
      | some name =>
        rw [Option.bind_some, hunset name (reference?_eq_some_iff.mp hname)]
        rfl

end Environment

/-! ## §2 What a row describes -/

/-- The version text of a row: the declared one without white space around it, and if that is
missing or blank, the one that is found in the home. -/
inductive Registration.TellsVersion (fs : FileSystem) (home : String) :
    Option String → String → Prop where
  | declared {text : String} (h : ∃ c ∈ text.toList, Text.isBlank c = false) :
      TellsVersion fs home (some text) (String.ofList (Text.trim text.toList))
  | detected {declared : Option String} {text : String}
      (hblank : ∀ declaredText ∈ declared, ∀ c ∈ declaredText.toList, Text.isBlank c = true)
      (h : JdkHome.versionText? fs home = some text) : TellsVersion fs home declared text

namespace Probe

variable {fs : FileSystem} {home text : String} {declared : Option String}

theorem trim_eq_nil_iff {s : List Char} : Text.trim s = [] ↔ ∀ c ∈ s, Text.isBlank c = true :=
  Text.stripWhile_eq_nil_iff

theorem versionText?_of_blank (h : ∀ c ∈ text.toList, Text.isBlank c = true) :
    versionText? fs home (some text) = JdkHome.versionText? fs home := by
  rw [versionText?, Option.map_some, trim_eq_nil_iff.mpr h]
  rfl

theorem versionText?_of_letter (h : ∃ c ∈ text.toList, Text.isBlank c = false) :
    versionText? fs home (some text) = some (String.ofList (Text.trim text.toList)) := by
  have hnonempty : (Text.trim text.toList).isEmpty = false := by
    rw [List.isEmpty_eq_false_iff]
    intro hnil
    obtain ⟨c, hc, hletter⟩ := h
    exact absurd (trim_eq_nil_iff.mp hnil c hc) (by simp [hletter])
  simp only [versionText?, Option.map_some, Option.filter_some, hnonempty, Bool.not_false,
    ↓reduceIte]

theorem versionText?_eq_some_iff :
    versionText? fs home declared = some text ↔
      Registration.TellsVersion fs home declared text := by
  constructor
  · intro h
    cases declared with
    | none => exact .detected (by simp) h
    | some declaredText =>
      -- A declared text that is blank counts as none.
      by_cases hblank : ∀ c ∈ declaredText.toList, Text.isBlank c = true
      · rw [versionText?_of_blank hblank] at h
        exact .detected (by simpa using hblank) h
      · have hletter : ∃ c ∈ declaredText.toList, Text.isBlank c = false := by
          simpa using hblank
        rw [versionText?_of_letter hletter] at h
        cases h
        exact .declared hletter
  · intro h
    cases h with
    | declared hletter => exact versionText?_of_letter hletter
    | detected hblank hfound =>
      cases declared with
      | none => exact hfound
      | some declaredText => rwa [versionText?_of_blank (hblank declaredText rfl)]

end Probe

namespace Registration

variable {fs : FileSystem} {env : Environment} {row : Registration} {jdk : RegisteredJdk}

/-- A row describes a candidate. -/
structure Describes (fs : FileSystem) (env : Environment) (row : Registration)
    (jdk : RegisteredJdk) : Prop where
  name : jdk.name = row.name
  home : env.Expands row.home jdk.home
  homeGiven : jdk.home ≠ ""
  versionText : TellsVersion fs jdk.home row.version jdk.versionText
  version : Version.parse? jdk.versionText.toList = some jdk.version
  vendor : jdk.vendor = Probe.vendor? fs jdk.home jdk.versionText
  suggestedName : suggestName? jdk.versionText.toList jdk.vendor = some jdk.suggestedName.toList
  validHome : jdk.validHome = true ↔ fs.isDirectory jdk.home = true ∧
    fs.isFile (Path.join (Path.join jdk.home "bin") "java") = true

/-- A row describes a JDK if it names a home and the version text writes a version. -/
def IsRecognised (fs : FileSystem) (env : Environment) (row : Registration) : Prop :=
  ∃ home text v, env.Expands row.home home ∧ home ≠ "" ∧ TellsVersion fs home row.version text ∧
    Version.parse? text.toList = some v

theorem toJdk?_eq_some_iff : row.toJdk? fs env = some jdk ↔ row.Describes fs env jdk := by
  constructor
  · intro h
    obtain ⟨probe, hprobe, rfl⟩ := Option.map_eq_some_iff.mp h
    obtain ⟨hhome, hbound⟩ := Option.ite_none_left_eq_some.mp hprobe
    obtain ⟨text, htext, hread⟩ := Option.bind_eq_some_iff.mp hbound
    obtain ⟨v, hv, hname⟩ := Option.bind_eq_some_iff.mp hread
    obtain ⟨name, hsuggested, hall⟩ := Option.bind_eq_some_iff.mp hname
    cases hall
    exact
      { name := rfl
        home := Environment.expand_eq_iff.mp rfl
        homeGiven := fun hempty => hhome (String.isEmpty_iff.mpr hempty)
        versionText := Probe.versionText?_eq_some_iff.mp htext
        version := hv
        -- The fields of the record are put in first: else the readers of vendors and names are
        -- unfolded to compare them.
        vendor := by dsimp only
        suggestedName := by
          dsimp only
          rw [hsuggested, String.toList_ofList]
        validHome := Bool.and_eq_true_iff }
  · intro h
    have hhome := Environment.expand_eq_iff.mpr h.home
    have hgiven : ¬ jdk.home.isEmpty = true := fun hempty =>
      h.homeGiven (String.isEmpty_iff.mp hempty)
    have hvalid : JdkHome.isValid fs jdk.home = jdk.validHome :=
      Bool.eq_iff_iff.mpr (Bool.and_eq_true_iff.trans h.validHome.symm)
    have htext := Probe.versionText?_eq_some_iff.mpr h.versionText
    rw [toJdk?, hhome, Probe.of?, if_neg hgiven, htext, Option.bind_some, Probe.ofVersionText?,
      h.version, ← h.vendor]
    simp only [Option.bind_eq_bind, Option.bind_some, h.suggestedName, Option.map_some,
      String.ofList_toList, hvalid, ← h.name]

/-- Whatever version text can be read, there is a name to suggest. -/
theorem isRecognised_iff : row.IsRecognised fs env ↔ ∃ jdk, row.Describes fs env jdk := by
  constructor
  · -- The record is put together from the parts that the recognition names.
    rintro ⟨home, text, v, hexpands, hgiven, htext, hparse⟩
    have hname : suggestName? text.toList (Probe.vendor? fs home text) =
        some (v.nameFor (effectiveVendor? text.toList (Probe.vendor? fs home text))) := by
      rw [suggestName?, hparse, Option.map_some]
    exact
      ⟨{ name := row.name
         home
         versionText := text
         version := v
         suggestedName := String.ofList _
         vendor := Probe.vendor? fs home text
         validHome := JdkHome.isValid fs home },
       { name := rfl
         home := hexpands
         homeGiven := hgiven
         versionText := htext
         version := hparse
         vendor := rfl
         suggestedName := by rw [hname, String.toList_ofList]
         validHome := Bool.and_eq_true_iff }⟩
  · rintro ⟨jdk, h⟩
    exact ⟨jdk.home, jdk.versionText, jdk.version, h.home, h.homeGiven, h.versionText, h.version⟩

theorem isSome_toJdk?_iff : (row.toJdk? fs env).isSome = true ↔ row.IsRecognised fs env := by
  rw [Option.isSome_iff_exists, isRecognised_iff]
  simp only [toJdk?_eq_some_iff]

instance (fs : FileSystem) (env : Environment) (row : Registration) :
    Decidable (row.IsRecognised fs env) :=
  decidable_of_iff _ isSome_toJdk?_iff

end Registration

/-! ## §3 From row to row -/

namespace Registry

section Looks

variable {fs : FileSystem} {env : Environment} {signal : Nat → Bool} {look : Nat}
  {row : Registration} {rows front back : List Registration} {jdk : RegisteredJdk}
  {result : Except Error (List RegisteredJdk)}

/-- What comes of a look at the rows from some number on.  The signal is looked at before each
row. -/
inductive Looks (fs : FileSystem) (env : Environment) (signal : Nat → Bool) :
    Nat → List Registration → Except Error (List RegisteredJdk) → Prop where
  | done {look : Nat} : Looks fs env signal look [] (.ok [])
  | cancelled {look : Nat} {row : Registration} {rows : List Registration}
      (h : signal look = true) : Looks fs env signal look (row :: rows) (.error .cancelled)
  | kept {look : Nat} {row : Registration} {rows : List Registration} {jdk : RegisteredJdk}
      {result : Except Error (List RegisteredJdk)} (h : signal look = false)
      (hrow : row.Describes fs env jdk) (next : Looks fs env signal (look + 1) rows result) :
      Looks fs env signal look (row :: rows) (result.map (jdk :: ·))
  | dropped {look : Nat} {row : Registration} {rows : List Registration}
      {result : Except Error (List RegisteredJdk)} (h : signal look = false)
      (hrow : ¬ row.IsRecognised fs env) (next : Looks fs env signal (look + 1) rows result) :
      Looks fs env signal look (row :: rows) result

theorem candidates_cons_of_describes (h : row.Describes fs env jdk) :
    candidates (row :: rows) fs env = jdk :: candidates rows fs env :=
  List.filterMap_cons_some (Registration.toJdk?_eq_some_iff.mpr h)

theorem candidates_cons_of_not_isRecognised (h : ¬ row.IsRecognised fs env) :
    candidates (row :: rows) fs env = candidates rows fs env := by
  refine List.filterMap_cons_none ?_
  rw [← Option.not_isSome_iff_eq_none, Registration.isSome_toJdk?_iff]
  exact h

/-- A look at the rows ends early if a signal comes before one of them, and else gives the
candidates of all. -/
theorem looks_iff : Looks fs env signal look rows result ↔
    result = if (List.range' look rows.length).any signal then .error .cancelled
      else .ok (candidates rows fs env) := by
  induction rows generalizing look result with
  | nil =>
    constructor
    · rintro ⟨⟩
      rfl
    · rintro rfl
      exact .done
  | cons row rows ih =>
    -- The signal before this row is the first of those that are looked at.
    rw [List.length_cons, List.range'_succ, List.any_cons]
    constructor
    · intro h
      cases h with
      | cancelled hsignal => rw [hsignal]; rfl
      | kept hsignal hrow next =>
        rw [ih.mp next, hsignal, Bool.false_or, candidates_cons_of_describes hrow]
        split <;> rfl
      | dropped hsignal hrow next =>
        rw [ih.mp next, hsignal, Bool.false_or, candidates_cons_of_not_isRecognised hrow]
    · rintro rfl
      -- However this row turns out, the others are looked at in the same way.
      have hnext := (@ih (look + 1) _).mpr rfl
      cases hsignal : signal look with
      | true => exact .cancelled hsignal
      | false =>
        rw [Bool.false_or]
        by_cases hrow : row.IsRecognised fs env
        · obtain ⟨jdk, hjdk⟩ := Registration.isRecognised_iff.mp hrow
          have hkept := Looks.kept hsignal hjdk hnext
          rw [candidates_cons_of_describes hjdk]
          split at hkept <;> rename_i hany <;> simpa [hany, Except.map] using hkept
        · rw [candidates_cons_of_not_isRecognised hrow]
          exact .dropped hsignal hrow hnext

theorem snapshot_eq_iff :
    snapshot rows fs env signal = result ↔ Looks fs env signal 0 rows result := by
  rw [looks_iff, snapshot, List.range_eq_range', eq_comm]

/-- The candidates are those of the recognised rows, in the order of these. -/
theorem forall₂_candidates (rows : List Registration) (fs : FileSystem) (env : Environment) :
    List.Forall₂ (Registration.Describes fs env) (rows.filter (·.IsRecognised fs env))
      (candidates rows fs env) := by
  induction rows with
  | nil => exact .nil
  | cons row rows ih =>
    by_cases hrow : row.IsRecognised fs env
    · obtain ⟨jdk, hjdk⟩ := Registration.isRecognised_iff.mp hrow
      rw [List.filter_cons_of_pos (by simpa using hrow), candidates_cons_of_describes hjdk]
      exact .cons hjdk ih
    · rw [List.filter_cons_of_neg (by simpa using hrow), candidates_cons_of_not_isRecognised hrow]
      exact ih

/-! ## §4 Snapshots -/

theorem snapshot_of_undisturbed (h : ∀ look < rows.length, signal look = false) :
    snapshot rows fs env signal = .ok (candidates rows fs env) := by
  refine if_neg ?_
  rw [List.any_eq_true]
  rintro ⟨look, hlook, hsignal⟩
  rw [h look (List.mem_range.mp hlook)] at hsignal
  cases hsignal

theorem snapshot_of_cancelled (h : ∃ look < rows.length, signal look = true) :
    snapshot rows fs env signal = .error .cancelled := by
  obtain ⟨look, hlook, hsignal⟩ := h
  exact if_pos (List.any_eq_true.mpr ⟨look, List.mem_range.mpr hlook, hsignal⟩)

/-- The look at a table goes on behind its first rows as if it began there. -/
theorem snapshot_append (front back : List Registration) (fs : FileSystem) (env : Environment)
    (signal : Nat → Bool) :
    snapshot (front ++ back) fs env signal =
      (snapshot front fs env signal).bind fun jdks =>
        (snapshot back fs env fun look => signal (front.length + look)).map (jdks ++ ·) := by
  -- The signal is watched over the rows in front and, counted on from there, over the rows behind.
  have hany : (List.range (front ++ back).length).any signal =
      ((List.range front.length).any signal ||
        (List.range back.length).any fun look => signal (front.length + look)) := by
    rw [List.length_append, List.range_add, List.any_append, List.any_map]
    rfl
  have hcandidates : candidates (front ++ back) fs env =
      candidates front fs env ++ candidates back fs env :=
    List.filterMap_append
  simp only [snapshot, hany, hcandidates]
  -- A signal in front cuts both sides short; otherwise the rows behind decide.
  cases (List.range front.length).any signal with
  | true => rfl
  | false =>
    cases (List.range back.length).any fun look => signal (front.length + look) with
    | true => rfl
    | false => rfl

/-- A snapshot is what the rows describe one by one: a row that is not recognised is left out, no
row makes a difference to another one, and a cancellation before any row leaves nothing. -/
theorem snapshot_row_by_row (fs : FileSystem) (env : Environment) (signal : Nat → Bool) :
    (∀ rows result, snapshot rows fs env signal = result ↔ Looks fs env signal 0 rows result) ∧
      (∀ rows : List Registration, (∀ look < rows.length, signal look = false) →
        ∃ jdks, snapshot rows fs env signal = .ok jdks ∧
          List.Forall₂ (Registration.Describes fs env) (rows.filter (·.IsRecognised fs env)) jdks) ∧
      (∀ rows : List Registration, (∃ look < rows.length, signal look = true) →
        snapshot rows fs env signal = .error .cancelled) ∧
      (∀ front back, snapshot (front ++ back) fs env signal =
        (snapshot front fs env signal).bind fun jdks =>
          (snapshot back fs env fun look => signal (front.length + look)).map (jdks ++ ·)) ∧
      ∀ front row back, (∀ look, signal look = false) → ¬ row.IsRecognised fs env →
        snapshot (front ++ row :: back) fs env signal = snapshot (front ++ back) fs env signal := by
  refine ⟨fun rows result => snapshot_eq_iff, fun rows hundisturbed => ?_,
    fun rows => snapshot_of_cancelled,
    fun front back => snapshot_append front back fs env signal,
    fun front row back hundisturbed hrow => ?_⟩
  · exact ⟨_, snapshot_of_undisturbed hundisturbed, forall₂_candidates rows fs env⟩
  · -- A row that is not recognised adds no candidate, and there is no signal for its look to meet.
    have hsame : candidates (front ++ row :: back) fs env = candidates (front ++ back) fs env := by
      rw [candidates, candidates, List.filterMap_append, List.filterMap_append]
      exact congrArg _ (candidates_cons_of_not_isRecognised hrow)
    rw [snapshot_of_undisturbed fun look _ => hundisturbed look,
      snapshot_of_undisturbed fun look _ => hundisturbed look, hsame]

end Looks

/-! ### A table with all kinds of rows -/

namespace MixedTable

/-- A machine with one JDK. -/
def files : FileSystem :=
  ⟨[(["jdk"], .directory), (["jdk", "bin"], .directory),
    (["jdk", "bin", "java"], .file ⟨.empty, true, none⟩)], []⟩

def environment : Environment :=
  ⟨[("JDK", "/jdk")], none⟩

/-- A row with a JDK, and one whose JDK is gone. -/
def usable : Registration := ⟨"usable", "${JDK}", some " 17.0.2\n", ""⟩

def gone : Registration := ⟨"gone", "/gone", some "11.0.2", ""⟩

/-- Rows that describe nothing. -/
def homeless : Registration := ⟨"homeless", "", some "17", ""⟩

def versionless : Registration := ⟨"versionless", "/jdk", some "none", ""⟩

theorem isValid_home : files.isDirectory "/jdk" = true ∧ files.isFile "/jdk/bin/java" = true := by
  have hjdk : IsName "jdk" := by decide
  have hbin : IsName "bin" := by decide
  have hjava : IsName "java" := by decide
  have hhome : files.canonicalize? "/jdk" = some ["jdk"] :=
    canonicalize?_eq_some_iff.mpr
      ⟨["", "jdk"], rfl, .idle isIdle_empty (.directory hjdk rfl .done)⟩
  have hprogram : files.canonicalize? "/jdk/bin/java" = some ["jdk", "bin", "java"] :=
    canonicalize?_eq_some_iff.mpr ⟨["", "jdk", "bin", "java"], rfl,
      .idle isIdle_empty (.directory hjdk rfl (.directory hbin rfl (.file hjava rfl)))⟩
  rw [isDirectory, isFile, fileOf?, nodeOf?, nodeOf?, hhome, hprogram]
  exact ⟨rfl, rfl⟩

theorem isDirectory_gone : files.isDirectory "/gone" = false := by
  have hname : IsName "gone" := by decide
  have hpieces : walkable "/gone" = .ok ["", "gone"] := rfl
  rw [isDirectory, nodeOf?, canonicalize?_eq_none hpieces rfl hname rfl]
  rfl

def rows : List Registration := [usable, homeless, gone, versionless]

theorem expands_usable : environment.Expands usable.home "/jdk" :=
  Environment.expand_eq_iff.mp (by decide)

theorem expands_gone : environment.Expands gone.home "/gone" :=
  Environment.expand_eq_iff.mp (by decide)

theorem versionText?_usable (home : String) :
    Probe.versionText? files home usable.version = some "17.0.2" :=
  Probe.versionText?_of_letter ⟨'1', by decide, rfl⟩

theorem versionText?_gone (home : String) :
    Probe.versionText? files home gone.version = some "11.0.2" :=
  Probe.versionText?_of_letter ⟨'1', by decide, rfl⟩

theorem filter_rows : rows.filter (·.IsRecognised files environment) = [usable, gone] := by
  -- Two of the rows have a home and a version; one lacks the home and one the version.
  have husable : usable.IsRecognised files environment :=
    ⟨"/jdk", "17.0.2", ⟨17, 0, 2, 0, 0, false⟩, expands_usable, by decide,
      Probe.versionText?_eq_some_iff.mp (versionText?_usable "/jdk"), by decide⟩
  have hgone : gone.IsRecognised files environment :=
    ⟨"/gone", "11.0.2", ⟨11, 0, 2, 0, 0, false⟩, expands_gone, by decide,
      Probe.versionText?_eq_some_iff.mp (versionText?_gone "/gone"), by decide⟩
  have hhomeless : ¬ homeless.IsRecognised files environment := by
    rintro ⟨home, text, v, hexpands, hgiven, -⟩
    exact hgiven (Environment.expand_eq_iff.mpr hexpands).symm
  have hversionless : ¬ versionless.IsRecognised files environment := by
    rintro ⟨home, text, v, -, -, htext, hparse⟩
    have hnone : Version.parse? "none".toList = none := by decide
    have htold : Probe.versionText? files home (some "none") = some "none" :=
      Probe.versionText?_of_letter ⟨'n', by decide, rfl⟩
    cases htold.symm.trans (Probe.versionText?_eq_some_iff.mpr htext)
    rw [hnone] at hparse
    cases hparse
  simp [rows, husable, hgone, hhomeless, hversionless]

end MixedTable

/-- The two rows that can be recognised make candidates, of which only the one whose JDK is there
may be used; if the run is cancelled before the second row there are none. -/
theorem snapshot_mixedTable :
    (∃ jdk jdk', snapshot MixedTable.rows MixedTable.files MixedTable.environment
        (fun _ => false) = .ok [jdk, jdk'] ∧
      jdk.name = "usable" ∧ jdk.home = "/jdk" ∧ jdk.versionText = "17.0.2" ∧
      jdk.validHome = true ∧
      jdk'.name = "gone" ∧ jdk'.home = "/gone" ∧ jdk'.versionText = "11.0.2" ∧
      jdk'.validHome = false) ∧
    snapshot MixedTable.rows MixedTable.files MixedTable.environment (fun look => look == 1) =
      .error .cancelled := by
  obtain ⟨-, hkept, -⟩ :=
    snapshot_row_by_row MixedTable.files MixedTable.environment fun _ => false
  obtain ⟨-, -, hcancelled, -⟩ :=
    snapshot_row_by_row MixedTable.files MixedTable.environment fun look => look == 1
  obtain ⟨jdks, hsnapshot, hdescribed⟩ := hkept MixedTable.rows fun _ _ => rfl
  rw [MixedTable.filter_rows] at hdescribed
  -- The list describes two rows, so it has two members.
  rcases hdescribed with _ | ⟨hjdk, _ | ⟨hjdk', _ | _⟩⟩
  rename_i jdk jdk'
  have hhome := Environment.expand_eq_iff.mpr hjdk.home
  rw [Environment.expand_eq_iff.mpr MixedTable.expands_usable] at hhome
  have hhome' := Environment.expand_eq_iff.mpr hjdk'.home
  rw [Environment.expand_eq_iff.mpr MixedTable.expands_gone] at hhome'
  have htext := Probe.versionText?_eq_some_iff.mpr hjdk.versionText
  rw [MixedTable.versionText?_usable] at htext
  have htext' := Probe.versionText?_eq_some_iff.mpr hjdk'.versionText
  rw [MixedTable.versionText?_gone] at htext'
  have hvalid : jdk.validHome = true := by
    rw [hjdk.validHome, ← hhome]
    exact MixedTable.isValid_home
  have hinvalid : jdk'.validHome = false := by
    rw [← Bool.not_eq_true, hjdk'.validHome, ← hhome', MixedTable.isDirectory_gone]
    simp
  exact ⟨⟨jdk, jdk', hsnapshot, hjdk.name, hhome.symm, (Option.some.inj htext).symm, hvalid,
    hjdk'.name, hhome'.symm, (Option.some.inj htext').symm, hinvalid⟩,
    hcancelled MixedTable.rows ⟨1, by decide, rfl⟩⟩

end Registry

end JdkFinder
