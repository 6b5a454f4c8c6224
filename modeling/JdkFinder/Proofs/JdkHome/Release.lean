import JdkFinder.JdkHome
import JdkFinder.Proofs.Files.Changes
import JdkFinder.Proofs.Text.Pieces
import JdkFinder.Proofs.Text.Words

/-!
# What a release file says

A release file that was written entry by entry is read as the entries that were written, whatever
lines without an equals sign stand between them and however its lines end (`Release.Writes.parse`).
So the last entry of a key decides on its value, and with it on the version and the implementor of a
JDK (`JdkHome.says_what_was_written`).

A key is trimmed and may have no blanks at its ends.  A value may: it stands between quotes, which
are what trimming meets first and are taken off after it.
-/

namespace JdkFinder

open Text

namespace Release

/-! ## §1 Written entries -/

/-- A key that can be told from what stands around it. -/
structure IsKey (key : String) : Prop where
  sign : '=' ∉ key.toList
  lineFeed : '\n' ∉ key.toList
  head : ∀ c ∈ key.toList.head?, isBlank c = false
  last : ∀ c ∈ key.toList.getLast?, isBlank c = false

/-- A value that can stand between quotes on a line. -/
structure IsValue (value : String) : Prop where
  quote : '"' ∉ value.toList
  lineFeed : '\n' ∉ value.toList

/-- A value between quotes. -/
def quoted (value : String) : List Char :=
  '"' :: (value.toList ++ ['"'])

/-- The line of an entry. -/
def entryLine (key value : String) : List Char :=
  key.toList ++ '=' :: quoted value

/-- What a line says: one entry, or none if there is no equals sign on it. -/
inductive Says : Option (String × String) → List Char → Prop where
  | entry {key value : String} (hkey : IsKey key) (hvalue : IsValue value) :
      Says (some (key, value)) (entryLine key value)
  | other {line : List Char} (hsign : '=' ∉ line) (hlineFeed : '\n' ∉ line) : Says none line

/-- What ends a line. -/
inductive IsLineEnd : List Char → Prop where
  | lineFeed : IsLineEnd ['\n']
  | returnAndLineFeed : IsLineEnd ['\r', '\n']

/-- A text whose lines say the entries in their order.  The last line may lack its end. -/
inductive Writes : Release → List Char → Prop where
  | last {entry : Option (String × String)} {line : List Char} (hline : Says entry line) :
      Writes entry.toList line
  | line {entry : Option (String × String)} {entries : Release} {line lineEnd text : List Char}
      (hline : Says entry line) (hend : IsLineEnd lineEnd) (htext : Writes entries text) :
      Writes (entry.toList ++ entries) (line ++ (lineEnd ++ text))

/-! ## §2 Reading lines -/

variable {entries : Release} {entry : Option (String × String)} {key value : String}
  {line lineEnd : List Char}

theorem getLast?_quoted (value : String) : (quoted value).getLast? = some '"' := by
  rw [quoted, ← List.cons_append, List.getLast?_concat]

/-- The blanks of a value are behind the quotes, where trimming does not reach them. -/
theorem trim_quoted (value : String) : trim (quoted value) = quoted value := by
  refine stripWhile_eq_self ?_ ?_
  · intro c hc
    cases hc
    rfl
  · intro c hc
    rw [getLast?_quoted] at hc
    cases hc
    rfl

theorem stripWhile_quoted (h : IsValue value) :
    stripWhile (· == '"') (quoted value) = value.toList := by
  have hquote : ∀ c ∈ ['"'], (c == '"') = true := by simp
  have hother (c : Char) (hc : c ∈ value.toList) : (c == '"') = false :=
    beq_eq_false_iff_ne.mpr fun heq => h.quote (heq ▸ hc)
  rw [quoted, ← List.singleton_append, stripWhile_append hquote hquote]
  exact stripWhile_eq_self (fun c hc => hother c (List.mem_of_mem_head? hc))
    fun c hc => hother c (List.mem_of_mem_getLast? hc)

theorem entry?_entryLine (hkey : IsKey key) (hvalue : IsValue value) :
    entry? (entryLine key value) = some (key, value) := by
  have htrim : trim key.toList = key.toList := stripWhile_eq_self hkey.head hkey.last
  rw [Release.entry?, entryLine, splitOnce?_append hkey.sign, Option.map_some]
  dsimp only
  rw [htrim, trim_quoted, stripWhile_quoted hvalue, String.ofList_toList, String.ofList_toList]

theorem Says.entry?_eq (h : Says entry line) : entry? line = entry := by
  cases h with
  | entry hkey hvalue => exact entry?_entryLine hkey hvalue
  | other hsign _ => rw [Release.entry?, splitOnce?_eq_none hsign, Option.map_none]

theorem Says.lineFeed_notMem (h : Says entry line) : '\n' ∉ line := by
  cases h with
  | entry hkey hvalue =>
    simp [entryLine, quoted, hkey.lineFeed, hvalue.lineFeed]
  | other _ hlineFeed => exact hlineFeed

/-- A carriage return that is taken off a line is no part of an entry. -/
theorem Says.chomp (h : Says entry line) : Says entry (chomp line) := by
  cases h with
  | @entry key value hkey hvalue =>
    have hline : Text.chomp (entryLine key value) = entryLine key value := by
      -- The line ends with a quote.
      refine chomp_eq_self fun c hc => ?_
      rw [entryLine, List.getLast?_append, List.getLast?_cons, getLast?_quoted] at hc
      cases hc
      decide
    rw [hline]
    exact .entry hkey hvalue
  | other hsign hlineFeed =>
    exact .other (fun hmem => hsign (mem_of_mem_chomp hmem))
      fun hmem => hlineFeed (mem_of_mem_chomp hmem)

/-- Of a line and its end, the first line that is read says what the line says. -/
theorem Says.exists_lines (h : Says entry line) (hend : IsLineEnd lineEnd) (rest : List Char) :
    ∃ first, lines (line ++ (lineEnd ++ rest)) = first :: lines rest ∧ Says entry first := by
  have hline := h.lineFeed_notMem
  cases hend with
  | lineFeed => exact ⟨Text.chomp line, lines_append_cons hline rest, h.chomp⟩
  | returnAndLineFeed =>
    have hreturn : '\n' ∉ line ++ ['\r'] := by simp [hline]
    have hlines := lines_append_cons hreturn rest
    rw [chomp_append_return, List.append_assoc] at hlines
    exact ⟨line, hlines, h⟩

theorem Writes.filterMap_lines {text : List Char} (h : Writes entries text) :
    (lines text).filterMap entry? = entries := by
  induction h with
  | @last entry line hline =>
    have hentry : entry? line = entry := hline.entry?_eq
    rw [lines_eq_of_notMem hline.lineFeed_notMem]
    cases line with
    | nil =>
      -- An empty line is no line, and it says nothing either.
      rw [← hentry]
      rfl
    | cons c cs =>
      cases entry <;> simp [hentry]
  | @line entry _ _ _ text hline hend _ ih =>
    obtain ⟨first, hlines, hfirst⟩ := hline.exists_lines hend text
    rw [hlines, List.filterMap_cons, hfirst.entry?_eq, ih]
    cases entry <;> rfl

/-- What was written entry by entry is read as these entries. -/
theorem Writes.parse {text : String} (h : Writes entries text.toList) :
    Release.parse text = entries :=
  h.filterMap_lines

/-! ## §3 The last entry of a key -/

/-- The last entry of the key has the value. -/
def LastValue (release : Release) (key value : String) : Prop :=
  ∃ before after, release = before ++ (key, value) :: after ∧ ∀ entry ∈ after, entry.1 ≠ key

theorem get?_eq_some_iff {release : Release} :
    release.get? key = some value ↔ LastValue release key value := by
  rw [get?, List.lookup_eq_some_iff]
  constructor
  · -- The last entry of the key is the first one of the reversed list.
    rintro ⟨after, before, hreverse, hafter⟩
    refine ⟨before.reverse, after.reverse, ?_, ?_⟩
    · have hrelease := congrArg List.reverse hreverse
      simpa using hrelease
    · intro entry hentry
      have hne := hafter entry (List.mem_reverse.mp hentry)
      exact (bne_iff_ne.mp hne).symm
  · rintro ⟨before, after, rfl, hafter⟩
    refine ⟨after.reverse, before.reverse, by simp, ?_⟩
    intro entry hentry
    exact bne_iff_ne.mpr (hafter entry (List.mem_reverse.mp hentry)).symm

theorem nonempty?_eq_some_iff {release : Release} :
    release.nonempty? key = some value ↔ LastValue release key value ∧ value ≠ "" := by
  rw [nonempty?, Option.filter_eq_some_iff, get?_eq_some_iff]
  simp

end Release

/-! ## §4 Homes -/

namespace JdkHome

variable {fs : FileSystem} {home text : String} {entries : Release}

/-- A release file that was written entry by entry has for each key the last value that was written
for it.  The version and the implementor of a JDK are such values, unless they are empty; without a
version there the program of the JDK is asked. -/
theorem says_what_was_written (hfile : fs.readText (Path.join home "release") = .ok text)
    (hwrites : Release.Writes entries text.toList) :
    (∃ release, release? fs home = some release ∧
      ∀ key value, release.get? key = some value ↔ entries.LastValue key value) ∧
    (∀ version, entries.LastValue "JAVA_VERSION" version → version ≠ "" →
      versionText? fs home = some version) ∧
    ((∀ version, entries.LastValue "JAVA_VERSION" version → version = "") →
      versionText? fs home = reportedVersion? fs home) ∧
    ∀ implementor, implementor? fs home = some implementor ↔
      entries.LastValue "IMPLEMENTOR" implementor ∧ implementor ≠ "" := by
  have hrelease : release? fs home = some entries := by
    rw [release?, hfile, ← hwrites.parse]
    rfl
  refine ⟨⟨entries, hrelease, fun key value => Release.get?_eq_some_iff⟩, ?_, ?_, ?_⟩
  · intro version hversion hne
    rw [versionText?, hrelease, Option.bind_some,
      Release.nonempty?_eq_some_iff.mpr ⟨hversion, hne⟩, Option.some_or]
  · intro hempty
    -- Every value of the key is empty, so none is taken from the file.
    have hnone : entries.nonempty? "JAVA_VERSION" = none := by
      rw [Option.eq_none_iff_forall_ne_some]
      intro version hversion
      obtain ⟨hlast, hne⟩ := Release.nonempty?_eq_some_iff.mp hversion
      exact hne (hempty version hlast)
    rw [versionText?, hrelease, Option.bind_some, hnone, Option.none_or]
  · intro implementor
    rw [implementor?, hrelease, Option.bind_some]
    exact Release.nonempty?_eq_some_iff

/-- A file with both ends of lines, a remark, an empty line, a value with a sign and blanks in it,
and a key that is written twice. -/
theorem says_what_was_written_last :
    let text := "# 17\r\nJAVA_VERSION=\"17\"\nIMPLEMENTOR=\" A = B \"\r\n\nJAVA_VERSION=\"21\"\r\n"
    let entries := [("JAVA_VERSION", "17"), ("IMPLEMENTOR", " A = B "), ("JAVA_VERSION", "21")]
    let fs := (FileSystem.place ⟨[], []⟩ ["jdk"] .directory).place ["jdk", "release"]
      (.file ⟨text.toUTF8, false, none⟩)
    fs.readText (Path.join "/jdk" "release") = .ok text ∧
      Release.Writes entries text.toList ∧
      versionText? fs "/jdk" = some "21" ∧ implementor? fs "/jdk" = some " A = B " := by
  intro text entries fs
  have hfile : fs.readText (Path.join "/jdk" "release") = .ok text := by
    have hpath : Path.join "/jdk" "release" = "/jdk/release" := by decide
    have hdirectory : FileSystem.IsName "jdk" := by decide
    have hname : FileSystem.IsName "release" := by decide
    rw [hpath]
    refine FileSystem.readText_place (by decide) (fun _ hnode => by cases hnode) ?_
    exact FileSystem.walk_of_leads (.idle FileSystem.isIdle_empty
      (.directory hdirectory rfl (.new hname rfl rfl)))
  have hwrites : Release.Writes entries text.toList := by
    -- The text line by line, each with the break that ends it.
    have htext : text.toList = "# 17".toList ++ (['\r', '\n'] ++
        (Release.entryLine "JAVA_VERSION" "17" ++ (['\n'] ++
        (Release.entryLine "IMPLEMENTOR" " A = B " ++ (['\r', '\n'] ++ ([] ++ (['\n'] ++
        (Release.entryLine "JAVA_VERSION" "21" ++ (['\r', '\n'] ++ []))))))))) := by decide
    have hversion : Release.IsKey "JAVA_VERSION" :=
      ⟨by decide, by decide, fun _ hc => by cases hc; decide, fun _ hc => by cases hc; decide⟩
    have himplementor : Release.IsKey "IMPLEMENTOR" :=
      ⟨by decide, by decide, fun _ hc => by cases hc; decide, fun _ hc => by cases hc; decide⟩
    have hfirst : Release.IsValue "17" := ⟨by decide, by decide⟩
    have hname : Release.IsValue " A = B " := ⟨by decide, by decide⟩
    have hlast : Release.IsValue "21" := ⟨by decide, by decide⟩
    have hremark : Release.Says none "# 17".toList := .other (by decide) (by decide)
    have hempty : Release.Says none [] := .other (by decide) (by decide)
    have hwritten := Release.Writes.line hremark .returnAndLineFeed
      (.line (.entry hversion hfirst) .lineFeed
        (.line (.entry himplementor hname) .returnAndLineFeed
          (.line hempty .lineFeed
            (.line (.entry hversion hlast) .returnAndLineFeed (.last hempty)))))
    rw [htext]
    exact hwritten
  obtain ⟨-, hversion, -, himplementor⟩ := says_what_was_written hfile hwrites
  refine ⟨hfile, hwrites, ?_, ?_⟩
  · -- The last entry of the key counts, whatever the first one says.
    refine hversion "21" ⟨[("JAVA_VERSION", "17"), ("IMPLEMENTOR", " A = B ")], [], rfl, ?_⟩ ?_
    · nofun
    · decide
  · exact (himplementor _).mpr ⟨⟨[_], [_], rfl, by simp⟩, by decide⟩

end JdkHome

end JdkFinder
