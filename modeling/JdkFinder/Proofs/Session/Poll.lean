import JdkFinder.Proofs.Session.Lists
import Mathlib.Data.List.Perm.Basic

/-!
# Polls of calls

What a poll of a call does to the session, and what a schedule of polls does to it.

- `Concurrence.Consistent`: the lists are consistent with the futures of the calls, so at most one
  call at a time obtains a list.
- `Concurrence.after_consistent`: along every schedule they stay so, and the session grows.
-/

namespace JdkFinder

variable {σ α : Type} {c : Collaborators σ}

/-! ## §1 Growth of a session -/

namespace SharedSession

variable {w w' : SharedSession σ}

theorem cancel_grows (w : SharedSession σ) : w.session.Grows w.cancel.session :=
  ⟨fun _ => rfl, List.prefix_refl _, .refl _, .refl _⟩

theorem readTable_grows {result : Except Error (List RegisteredJdk)}
    (h : w.readTable c = (result, w')) : w.session.Grows w'.session := by
  cases h
  exact ⟨fun hc => by simp [hc], List.prefix_append _ _, .refl _, .refl _⟩

/-! ## §2 Consistency of a session -/

/-- Both lists are consistent with the futures that are being polled. -/
structure Consistent (w : SharedSession σ) (scans : List (Future (List DetectedJdk)))
    (fetches : List (Future (List DownloadableJdk))) : Prop where
  detected : w.detectedSupply.Consistent scans
  catalog : w.catalogSupply.Consistent fetches

namespace Consistent

variable {scans scans' : List (Future (List DetectedJdk))}
  {fetches fetches' : List (Future (List DownloadableJdk))}

theorem cancel (h : w.Consistent scans fetches) : w.cancel.Consistent scans fetches :=
  ⟨h.detected.congr rfl rfl fun _ => rfl, h.catalog.congr rfl rfl fun _ => rfl⟩

theorem readTable {result : Except Error (List RegisteredJdk)} (h : w.Consistent scans fetches)
    (hread : w.readTable c = (result, w')) : w'.Consistent scans fetches := by
  have hcancelled := (readTable_grows hread).cancelled
  cases hread
  exact ⟨h.detected.congr rfl rfl hcancelled, h.catalog.congr rfl rfl hcancelled⟩

theorem withDetected {p : Supply σ DetectedJdk} (h : w.Consistent scans fetches)
    (hp : p.Consistent scans') (hcancelled : w.session.cancelled = true → p.cancelled = true) :
    (w.withDetected p).Consistent scans' fetches :=
  ⟨hp, h.catalog.congr rfl rfl hcancelled⟩

theorem withCatalog {p : Supply σ DownloadableJdk} (h : w.Consistent scans fetches)
    (hp : p.Consistent fetches') (hcancelled : w.session.cancelled = true → p.cancelled = true) :
    (w.withCatalog p).Consistent scans fetches' :=
  ⟨h.detected.congr rfl rfl hcancelled, hp⟩

theorem askDetected {race : Option (Race (List DetectedJdk))} (h : w.Consistent scans fetches)
    (hask : w.askDetected c = (race, w')) :
    w'.Consistent ((race.bind Race.running?).toList ++ scans) fetches := by
  obtain ⟨p, hp, rfl⟩ := SharedList.detected.exists_of_ask hask
  exact h.withDetected (h.detected.ask hp) (Supply.ask_grows hp).1

theorem askCatalog {race : Option (Race (List DownloadableJdk))} (h : w.Consistent scans fetches)
    (hask : w.askCatalog c = (race, w')) :
    w'.Consistent scans ((race.bind Race.running?).toList ++ fetches) := by
  obtain ⟨p, hp, rfl⟩ := SharedList.catalog.exists_of_ask hask
  exact h.withCatalog (h.catalog.ask hp) (Supply.ask_grows hp).1

theorem pollDetected {future : Future (List DetectedJdk)} {race : Race (List DetectedJdk)}
    (h : w.Consistent [future] fetches) (hpoll : w.pollDetected future = (race, w')) :
    w.session.Grows w'.session ∧ w'.Consistent race.running?.toList fetches := by
  have hgrows := SharedList.detected.poll_grows h.detected.kept_eq_none hpoll
  obtain ⟨p, hp, rfl⟩ := SharedList.detected.exists_of_poll hpoll
  exact ⟨hgrows, h.withDetected (h.detected.poll hp) hgrows.cancelled⟩

theorem pollCatalog {future : Future (List DownloadableJdk)} {race : Race (List DownloadableJdk)}
    (h : w.Consistent scans [future]) (hpoll : w.pollCatalog future = (race, w')) :
    w.session.Grows w'.session ∧ w'.Consistent scans race.running?.toList := by
  have hgrows := SharedList.catalog.poll_grows h.catalog.kept_eq_none hpoll
  obtain ⟨p, hp, rfl⟩ := SharedList.catalog.exists_of_poll hpoll
  exact ⟨hgrows, h.withCatalog (h.catalog.poll hp) hgrows.cancelled⟩

end Consistent

end SharedSession

/-! ## §3 One poll -/

/-- The scan that a call polls. -/
def Activity.scan? : Activity α → Option (Future (List DetectedJdk))
  | .scanning future _ => some future
  | _ => none

/-- The fetch that a call polls. -/
def Activity.fetch? : Activity α → Option (Future (List DownloadableJdk))
  | .fetching future _ => some future
  | _ => none

theorem Program.advance_grows (p : Program α) (w : SharedSession σ) :
    w.session.Grows (p.advance c w).2.session := by
  fun_induction Program.advance c p w with
  | case1 => exact .refl _
  | case2 => exact .refl _
  | case3 next w hcancelled ih => exact ih
  | case4 next w result w' hread => exact SharedSession.readTable_grows hread
  | case5 next w w' hask => exact SharedList.detected.ask_grows hask
  | case6 next w future w' hask => exact SharedList.detected.ask_grows hask
  | case7 next w list w' hask ih => exact (SharedList.detected.ask_grows hask).trans ih
  | case8 next w e w' hask => exact SharedList.detected.ask_grows hask
  | case9 next w w' hask => exact SharedList.catalog.ask_grows hask
  | case10 next w future w' hask => exact SharedList.catalog.ask_grows hask
  | case11 next w list w' hask ih => exact (SharedList.catalog.ask_grows hask).trans ih
  | case12 next w e w' hask => exact SharedList.catalog.ask_grows hask

theorem Program.advance_consistent {scans : List (Future (List DetectedJdk))}
    {fetches : List (Future (List DownloadableJdk))} (p : Program α) (w : SharedSession σ)
    (h : w.Consistent scans fetches) :
    (p.advance c w).2.Consistent ((p.advance c w).1.scan?.toList ++ scans)
      ((p.advance c w).1.fetch?.toList ++ fetches) := by
  -- On the steps of the program until it ends or waits; only a look at the table or a list changes
  -- the session.
  fun_induction Program.advance c p w with
  | case1 => exact h
  | case2 => exact h
  | case3 next w hcancelled ih => exact ih h
  | case4 next w result w' hread => exact h.readTable hread
  | case5 next w w' hask => exact h.askDetected hask
  | case6 next w future w' hask => exact h.askDetected hask
  | case7 next w list w' hask ih => exact ih (h.askDetected hask)
  | case8 next w e w' hask => exact h.askDetected hask
  | case9 next w w' hask => exact h.askCatalog hask
  | case10 next w future w' hask => exact h.askCatalog hask
  | case11 next w list w' hask ih => exact ih (h.askCatalog hask)
  | case12 next w e w' hask => exact h.askCatalog hask

namespace Activity

/-- The calls other than `a` poll the futures `scans` and `fetches`. -/
theorem poll_consistent {scans : List (Future (List DetectedJdk))}
    {fetches : List (Future (List DownloadableJdk))} (a : Activity α) (w : SharedSession σ)
    (h : w.Consistent (a.scan?.toList ++ scans) (a.fetch?.toList ++ fetches)) :
    w.session.Grows (a.poll c w).2.session ∧
      (a.poll c w).2.Consistent ((a.poll c w).1.scan?.toList ++ scans)
        ((a.poll c w).1.fetch?.toList ++ fetches) := by
  cases a with
  | standing p => exact ⟨p.advance_grows w, p.advance_consistent w h⟩
  | reading result next =>
    cases result with
    | ok list => exact ⟨(next list).advance_grows w, (next list).advance_consistent w h⟩
    | error e => exact ⟨.refl _, h⟩
  | scanning future next =>
    -- No other call polls a scan, and the session can tell what the poll does to the list.
    obtain rfl := h.detected.others_eq_nil
    rcases hpoll : w.pollDetected future with ⟨rest | (e | list), w'⟩
    all_goals
      obtain ⟨hgrows, hnext⟩ := h.pollDetected hpoll
      simp only [poll, hpoll]
    · exact ⟨hgrows, hnext⟩
    · exact ⟨hgrows, hnext⟩
    · exact ⟨hgrows.trans ((next list).advance_grows (c := c) w'),
        (next list).advance_consistent w' hnext⟩
  | fetching future next =>
    obtain rfl := h.catalog.others_eq_nil
    rcases hpoll : w.pollCatalog future with ⟨rest | (e | list), w'⟩
    all_goals
      obtain ⟨hgrows, hnext⟩ := h.pollCatalog hpoll
      simp only [poll, hpoll]
    · exact ⟨hgrows, hnext⟩
    · exact ⟨hgrows, hnext⟩
    · exact ⟨hgrows.trans ((next list).advance_grows (c := c) w'),
        (next list).advance_consistent w' hnext⟩
  | finished result => exact ⟨.refl _, h⟩

end Activity

/-! ## §4 Schedules -/

namespace Concurrence

/-- The lists are consistent with the futures of the calls. -/
def Consistent (w : Concurrence σ α) : Prop :=
  w.shared.Consistent (w.activities.filterMap Activity.scan?)
    (w.activities.filterMap Activity.fetch?)

/-- A poll of a call that exists, as a poll of its activity. -/
theorem poll_eq {w : Concurrence σ α} {index : Nat} {a : Activity α}
    (h : w.activities[index]? = some a) :
    w.poll c index = ⟨w.activities.set index (a.poll c w.shared).1, (a.poll c w.shared).2⟩ := by
  simp only [poll, h]

theorem poll_eq_self {w : Concurrence σ α} {index : Nat} (h : w.activities[index]? = none) :
    w.poll c index = w := by
  simp only [poll, h]

private theorem filterMap_perm {β : Type} (f : Activity α → Option β) {l : List (Activity α)}
    {index : Nat} (hindex : index < l.length) (a : Activity α) :
    ((l.set index a).filterMap f).Perm ((f a).toList ++ (l.eraseIdx index).filterMap f) := by
  refine ((List.set_perm_cons_eraseIdx hindex a).filterMap f).trans (.of_eq ?_)
  cases hf : f a <;> simp [hf]

/-- The futures of one call stand apart from those of the others. -/
theorem Consistent.front {w : Concurrence σ α} (h : w.Consistent) {index : Nat} {a : Activity α}
    (ha : w.activities[index]? = some a) :
    w.shared.Consistent
      (a.scan?.toList ++ (w.activities.eraseIdx index).filterMap Activity.scan?)
      (a.fetch?.toList ++ (w.activities.eraseIdx index).filterMap Activity.fetch?) := by
  obtain ⟨hindex, hget⟩ := List.getElem?_eq_some_iff.mp ha
  have hset : w.activities.set index a = w.activities := by
    rw [← hget, List.set_getElem_self]
  refine ⟨h.detected.perm ?_, h.catalog.perm ?_⟩
  · simpa only [hset] using filterMap_perm Activity.scan? hindex a
  · simpa only [hset] using filterMap_perm Activity.fetch? hindex a

@[simp] theorem length_step (w : Concurrence σ α) (turn : Turn) :
    (w.step c turn).activities.length = w.activities.length := by
  cases turn with
  | call index =>
    cases h : w.activities[index]? with
    | none => rw [step, poll_eq_self h]
    | some a => rw [step, poll_eq h, List.length_set]
  | cancellation => rfl

@[simp] theorem length_after (w : Concurrence σ α) (schedule : List Turn) :
    (w.after c schedule).activities.length = w.activities.length := by
  induction schedule generalizing w with
  | nil => rfl
  | cons turn rest ih => exact (ih (w.step c turn)).trans (length_step w turn)

theorem after_append (w : Concurrence σ α) (schedule later : List Turn) :
    w.after c (schedule ++ later) = (w.after c schedule).after c later :=
  List.foldl_append

theorem poll_consistent {w : Concurrence σ α} (h : w.Consistent) (index : Nat) :
    w.shared.session.Grows (w.poll c index).shared.session ∧ (w.poll c index).Consistent := by
  cases ha : w.activities[index]? with
  | none =>
    rw [poll_eq_self ha]
    exact ⟨.refl _, h⟩
  | some a =>
    obtain ⟨hindex, -⟩ := List.getElem?_eq_some_iff.mp ha
    -- The futures of the polled call are taken to the front, and put back after the poll.
    obtain ⟨hgrows, hnext⟩ := a.poll_consistent (c := c) w.shared (h.front ha)
    rw [poll_eq ha]
    exact ⟨hgrows, hnext.detected.perm (filterMap_perm _ hindex _).symm,
      hnext.catalog.perm (filterMap_perm _ hindex _).symm⟩

theorem step_consistent {w : Concurrence σ α} (h : w.Consistent) (turn : Turn) :
    w.shared.session.Grows (w.step c turn).shared.session ∧ (w.step c turn).Consistent := by
  cases turn with
  | call index => exact poll_consistent h index
  | cancellation => exact ⟨w.shared.cancel_grows, SharedSession.Consistent.cancel h⟩

theorem after_consistent {w : Concurrence σ α} (h : w.Consistent) (schedule : List Turn) :
    w.shared.session.Grows (w.after c schedule).shared.session ∧
      (w.after c schedule).Consistent := by
  induction schedule generalizing w with
  | nil => exact ⟨.refl _, h⟩
  | cons turn rest ih =>
    obtain ⟨hgrows, hstep⟩ := step_consistent (c := c) h turn
    obtain ⟨hgrows', hrest⟩ := ih hstep
    exact ⟨hgrows.trans hgrows', hrest⟩

end Concurrence

/-- A session whose lists have histories that fit to what is kept, with no call going on. -/
def Session.Sound (s : Session σ) : Prop :=
  (SharedSession.ofSession s).Consistent [] []

theorem Session.start_sound (cancelled : Bool) (world : σ) :
    (Session.start cancelled world).Sound :=
  ⟨.resting rfl .nil, .resting rfl .nil⟩

/-- Before their first poll calls poll no future. -/
theorem Concurrence.start_consistent {s : Session σ} (h : s.Sound) (programs : List (Program α)) :
    (Concurrence.start programs s).Consistent := by
  have hscans : (programs.map Activity.standing).filterMap Activity.scan? = [] := by
    simp [List.filterMap_map, Activity.scan?, Function.comp_def]
  have hfetches : (programs.map Activity.standing).filterMap Activity.fetch? = [] := by
    simp [List.filterMap_map, Activity.fetch?, Function.comp_def]
  rw [Concurrence.Consistent, start, hscans, hfetches]
  exact h

end JdkFinder
