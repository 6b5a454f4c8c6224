import JdkFinder.Proofs.Configuration.Storage
import JdkFinder.Registry
import Mathlib.Data.List.Induction
import Mathlib.Data.List.Nodup

/-!
# Histories of registrations

A table is an ordered map from names to rows in which the last write wins.  However often names have
been registered, and whether or not the table held some of them twice before, its rows are the old
ones of other names, and behind them the last registration of every registered name in the order of
time (`Registry.last_registration_wins`).

Each law of histories follows from what one registration does to the rows of a name
(`Registry.filter_name_register`).
-/

namespace JdkFinder

/-- The settings with the rows of a table in the stead of theirs. -/
def Configuration.withRows (config : Configuration) (rows : List Registration) : Configuration :=
  { config with registrations := rows }

namespace Registry

variable {rows history later : List Registration} {row : Registration} {name : String}

/-- The rows after registrations, of which the first came first. -/
def after (rows history : List Registration) : List Registration :=
  history.foldl register rows

/-- The registrations that no later one of the same name has replaced, in the order of time. -/
def latest : List Registration → List Registration
  | [] => []
  | row :: later =>
    if row.name ∈ later.map (·.name) then latest later else row :: latest later

/-! ## §1 One registration -/

/-- A registration leaves the rows of other names as they are, and makes its row the only one of its
name. -/
theorem filter_name_register (rows : List Registration) (row : Registration) (name : String) :
    (register rows row).filter (·.name = name) =
      if row.name = name then [row] else rows.filter (·.name = name) := by
  rw [register, List.filter_append, List.filter_filter]
  -- Of this name every old row goes, of another name none.
  by_cases hname : row.name = name
  · have hnone :
        rows.filter (fun r => decide (r.name = name) && decide (r.name ≠ row.name)) = [] := by
      rw [List.filter_eq_nil_iff]
      intro r _ hr
      simp only [Bool.and_eq_true, decide_eq_true_iff] at hr
      exact hr.2 (hr.1.trans hname.symm)
    rw [hnone, if_pos hname]
    simp [hname]
  · have hkept : rows.filter (fun r => decide (r.name = name) && decide (r.name ≠ row.name)) =
        rows.filter (·.name = name) := by
      refine List.filter_congr fun r _ => ?_
      by_cases hr : r.name = name
      · simp [hr, Ne.symm hname]
      · simp [hr]
    rw [hkept, if_neg hname]
    simp [hname]

/-- Names that are there once stay so. -/
theorem nodup_register (h : (rows.map (·.name)).Nodup) (row : Registration) :
    ((register rows row).map (·.name)).Nodup := by
  rw [register, List.map_append, List.nodup_append]
  refine ⟨h.sublist (List.filter_sublist.map _), List.nodup_singleton _, ?_⟩
  intro name hname other hother heq
  obtain ⟨old, hold, rfl⟩ := List.mem_map.mp hname
  have hdifferent : old.name ≠ row.name := by simpa using (List.mem_filter.mp hold).2
  exact hdifferent (heq.trans (List.mem_singleton.mp hother))

/-! ## §2 Many registrations -/

theorem after_concat (rows history : List Registration) (row : Registration) :
    after rows (history ++ [row]) = register (after rows history) row := by
  rw [after, List.foldl_append]
  rfl

theorem nodup_after (h : (rows.map (·.name)).Nodup) (history : List Registration) :
    ((after rows history).map (·.name)).Nodup := by
  induction history generalizing rows with
  | nil => exact h
  | cons row later ih => exact ih (nodup_register h row)

/-- The rows of a name are the last registration of that name, or what they were before if there is
none. -/
theorem filter_name_after (rows history : List Registration) (name : String) :
    (after rows history).filter (·.name = name) =
      (history.reverse.find? (·.name = name)).elim (rows.filter (·.name = name)) ([·]) := by
  -- From the back: a later registration hides whatever came before it, so the last one decides.
  induction history using List.reverseRecOn with
  | nil => rfl
  | append_singleton history row ih =>
    rw [after_concat, filter_name_register, ih, List.reverse_append, List.reverse_singleton,
      List.singleton_append, List.find?_cons]
    by_cases hname : row.name = name
    · simp [hname]
    · simp [hname]

/-- Of a registered name there is just one row. -/
theorem count_name_after (rows : List Registration) (h : row ∈ history) :
    ((after rows history).map (·.name)).count row.name = 1 := by
  have hfound : (history.reverse.find? (·.name = row.name)).isSome = true :=
    List.find?_isSome.mpr ⟨row, List.mem_reverse.mpr h, decide_eq_true rfl⟩
  obtain ⟨last, hlast⟩ := Option.isSome_iff_exists.mp hfound
  have hrows := filter_name_after rows history row.name
  rw [hlast] at hrows
  have hcount : ((after rows history).map (·.name)).count row.name =
      ((after rows history).filter (·.name = row.name)).length := by
    rw [List.count, List.countP_map, List.countP_eq_length_filter]
    rfl
  rw [hcount, hrows]
  rfl

/-- Rows of names that are not registered are neither lost nor changed. -/
theorem filter_name_after_of_notMem (rows : List Registration)
    (h : name ∉ history.map (·.name)) :
    (after rows history).filter (·.name = name) = rows.filter (·.name = name) := by
  have hnone : history.reverse.find? (·.name = name) = none := by
    rw [List.find?_eq_none]
    intro row hrow hname
    exact h (List.mem_map.mpr ⟨row, List.mem_reverse.mp hrow, of_decide_eq_true hname⟩)
  rw [filter_name_after, hnone]
  rfl

/-- The whole table: the old rows of other names, and then the registrations that have lasted. -/
theorem after_eq (rows history : List Registration) :
    after rows history =
      rows.filter (fun row => row.name ∉ history.map (·.name)) ++ latest history := by
  induction history generalizing rows with
  | nil =>
    have hall : rows.filter (fun row => row.name ∉ ([] : List Registration).map (·.name)) = rows :=
      List.filter_eq_self.mpr fun _ _ => by simp
    rw [hall]
    exact (List.append_nil rows).symm
  | cons row later ih =>
    have hstep : after rows (row :: later) = after (register rows row) later := rfl
    -- Of the rows so far those stay that are not registered later, and the new one is among them.
    have hold : (rows.filter (·.name ≠ row.name)).filter
          (fun old => old.name ∉ later.map (·.name)) =
        rows.filter (fun old => old.name ∉ (row :: later).map (·.name)) := by
      rw [List.filter_filter]
      refine List.filter_congr fun old _ => ?_
      simp only [List.map_cons, List.mem_cons, not_or, Bool.decide_and, ne_eq, Bool.and_comm]
    have hnew : [row].filter (fun new => new.name ∉ later.map (·.name)) ++ latest later =
        latest (row :: later) := by
      rw [latest]
      by_cases hlater : row.name ∈ later.map (·.name)
      · rw [if_pos hlater, List.filter_cons_of_neg (by simpa using hlater)]
        rfl
      · rw [if_neg hlater, List.filter_cons_of_pos (by simpa using hlater)]
        rfl
    rw [hstep, ih, register, List.filter_append, List.append_assoc, hold, hnew]

/-- What has lasted is in the order of time. -/
theorem latest_sublist (history : List Registration) : (latest history).Sublist history := by
  induction history with
  | nil => exact .refl _
  | cons row later ih =>
    rw [latest]
    split
    · exact ih.cons row
    · exact ih.cons_cons row

/-- A registration has lasted if none of its name comes behind it. -/
theorem mem_latest_iff :
    row ∈ latest history ↔
      ∃ before later, history = before ++ row :: later ∧ row.name ∉ later.map (·.name) := by
  induction history with
  | nil => simp [latest]
  | cons first rest ih =>
    constructor
    · intro hrow
      by_cases hreplaced : first.name ∈ rest.map (·.name)
      · rw [latest, if_pos hreplaced] at hrow
        obtain ⟨before, later, rfl, hlast⟩ := ih.mp hrow
        exact ⟨first :: before, later, rfl, hlast⟩
      · rw [latest, if_neg hreplaced, List.mem_cons] at hrow
        rcases hrow with rfl | hrow
        · exact ⟨[], rest, rfl, hreplaced⟩
        · obtain ⟨before, later, rfl, hlast⟩ := ih.mp hrow
          exact ⟨first :: before, later, rfl, hlast⟩
    · rintro ⟨before, later, hhistory, hlast⟩
      -- The row is the first registration, or one of the others.
      cases before with
      | nil =>
        obtain ⟨rfl, rfl⟩ := List.cons.inj hhistory
        rw [latest, if_neg hlast]
        exact List.mem_cons_self
      | cons _ before =>
        obtain ⟨rfl, rfl⟩ := List.cons.inj hhistory
        have hrow : row ∈ latest (before ++ row :: later) := ih.mpr ⟨before, later, rfl, hlast⟩
        rw [latest]
        split
        · exact hrow
        · exact List.mem_cons_of_mem _ hrow

/-! ## §3 The table as a map -/

/-- After any registrations a table holds the old rows of other names, and for each registered name
the last registration, in the order of time; and it is the same table after it has been stored. -/
theorem last_registration_wins (rows history : List Registration) :
    after rows history =
        rows.filter (fun row => row.name ∉ history.map (·.name)) ++ latest history ∧
      (∀ row ∈ history, ((after rows history).map (·.name)).count row.name = 1) ∧
      ((rows.map (·.name)).Nodup → ((after rows history).map (·.name)).Nodup) ∧
      (∀ name, name ∉ history.map (·.name) →
        (after rows history).filter (·.name = name) = rows.filter (·.name = name)) ∧
      (∀ config : Configuration,
        (config.withRows (after rows history)).registrations = after rows history) ∧
      ∀ (config : Configuration) (env : Environment) (fs fs' : FileSystem), fs.IsTree →
        config.validate = .ok () →
        ((config.withRows (after rows history)).save env).run fs = (.ok (), fs') →
        (Configuration.load env).run fs' = (.ok (config.withRows (after rows history)), fs') := by
  refine ⟨after_eq rows history, fun row => count_name_after rows,
    fun h => nodup_after h history, fun name => filter_name_after_of_notMem rows, fun config => rfl,
    fun config env fs fs' hs hvalid hsaved => ?_⟩
  exact Configuration.load_of_save_tree hs hvalid hsaved

/-- Three registrations over a table that holds a name twice. -/
theorem last_registration_wins_repeatedNames :
    let rows : List Registration :=
      [⟨"a", "/1", none, ""⟩, ⟨"b", "/2", none, ""⟩, ⟨"a", "/3", none, ""⟩]
    let history : List Registration :=
      [⟨"c", "/4", none, ""⟩, ⟨"a", "/5", some "17", ""⟩, ⟨"c", "/6", none, "new"⟩]
    let env : Environment := ⟨[("JDKAUTO_CONFIG", "/config")], none⟩
    after rows history =
        [⟨"b", "/2", none, ""⟩, ⟨"a", "/5", some "17", ""⟩, ⟨"c", "/6", none, "new"⟩] ∧
      ∃ fs', ((Configuration.standard.withRows (after rows history)).save env).run ⟨[], []⟩ =
          (.ok (), fs') ∧
        (Configuration.load env).run fs' =
          (.ok (Configuration.standard.withRows (after rows history)), fs') := by
  intro rows history env
  -- The settings stand in the root, where nothing was saved before.
  have hpath : Configuration.filePath env = .ok "/config" := by decide
  have hrender : (Configuration.standard.withRows (after rows history)).render =
      .ok (String.ofList (Configuration.standard.withRows (after rows history)).lines) := by
    rw [Configuration.render, if_neg (by decide)]
  have hsaved : ((Configuration.standard.withRows (after rows history)).save env).run ⟨[], []⟩ =
      (.ok (), _) :=
    Configuration.run_save_config hpath hrender fun node hnode => by cases hnode
  obtain ⟨heq, -, -, -, -, hstored⟩ := last_registration_wins rows history
  refine ⟨heq.trans (by decide), _, hsaved, ?_⟩
  exact hstored .standard env _ _ FileSystem.isTree_root (by decide +kernel) hsaved

end Registry

end JdkFinder
