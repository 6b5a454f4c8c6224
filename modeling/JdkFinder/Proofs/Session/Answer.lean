import JdkFinder.Proofs.Session.Poll

/-!
# Where answers come from

What a call answers is determined by the lists that it is given: `Program.AnswersFrom` evaluates a
program for given lists, without a session.  A call that goes on among others answers from the lists
that the session keeps, or else it was cancelled (`Concurrence.answersFrom`).
-/

namespace JdkFinder

variable {σ α β : Type} {c : Collaborators σ}

/-! ## §1 Cancellations -/

/-- The list that a look at the table leaves.  A cancelled one leaves none, and one that has failed
in any other way leaves the empty list. -/
def TableReply.served? : TableReply → Option (List RegisteredJdk)
  | served jdks => some jdks
  | failed .cancelled => none
  | failed _ => some []
  | crashed => some []

theorem TableReply.list_eq_ok_iff {reply : TableReply} {list : List RegisteredJdk} :
    reply.list = .ok list ↔ reply.served? = some list := by
  cases reply with
  | served jdks => simp [TableReply.list, served?]
  | failed e => cases e <;> simp [TableReply.list, orEmpty, Error.isCancelled, served?]
  | crashed => simp [TableReply.list, served?]

theorem TableReply.list_eq_error_iff {reply : TableReply} {e : Error} :
    reply.list = .error e ↔ reply = .failed .cancelled ∧ e = .cancelled := by
  cases reply with
  | served jdks => simp [TableReply.list]
  | failed cause =>
    cases cause <;> simp [TableReply.list, orEmpty, Error.isCancelled, eq_comm]
  | crashed => simp [TableReply.list]

namespace Session

variable {s t u : Session σ}

/-- The answer is a cancellation, and there was one since `s`. -/
def Aborts (s t : Session σ) (r : Except Error α) : Prop :=
  r = .error .cancelled ∧ s.CancelledSince t

theorem Aborts.of_earlier {r : Except Error α} (h : s.Aborts t r) (h' : t.Grows u) :
    s.Aborts u r :=
  ⟨h.1, h.2.of_earlier h'⟩

/-! ## §2 Lists that a session has obtained -/

/-- The lists agree with those that the session has been given since `s` or keeps: `tables` holds of
what the looks at the table have left, and a list that was not obtained may be any list. -/
structure Agrees (s t : Session σ) (tables : List RegisteredJdk → Prop)
    (detected : List DetectedJdk) (catalog : List DownloadableJdk) : Prop where
  tables : ∀ reply ∈ newEntries s.replies t.replies, ∀ list, reply.served? = some list → tables list
  detected : ∀ list, t.detected.kept = some list → detected = list
  catalog : ∀ list, t.catalog.kept = some list → catalog = list

theorem Agrees.of_later {tables : List RegisteredJdk → Prop} {detected : List DetectedJdk}
    {catalog : List DownloadableJdk} (h : s.Agrees u tables detected catalog) (h' : t.Grows u) :
    s.Agrees t tables detected catalog :=
  ⟨fun reply hreply => h.tables reply ((newEntries_of_earlier _ h'.replies).subset hreply),
    fun list hkept => h.detected list (h'.detected.kept list hkept),
    fun list hkept => h.catalog list (h'.catalog.kept list hkept)⟩

end Session

/-! ## §3 Answers for given lists -/

section Answers

variable (tables : List RegisteredJdk → Prop) (detected : List DetectedJdk)
  (catalog : List DownloadableJdk)

/-- What a program can answer when it is given these lists; whenever it reads the table, it is given
one of the lists `tables`. -/
def Program.AnswersFrom : Program α → Except Error α → Prop
  | .done result, r => r = result
  | .check next, r => next.AnswersFrom r
  | .registered next, r => ∃ list, tables list ∧ (next list).AnswersFrom r
  | .detected next, r => (next detected).AnswersFrom r
  | .catalog next, r => (next catalog).AnswersFrom r

/-- What a call can still answer. -/
def Activity.AnswersFrom : Activity α → Except Error α → Prop
  | .standing program, r => program.AnswersFrom tables detected catalog r
  | .reading (.ok list) next, r => (next list).AnswersFrom tables detected catalog r
  | .reading (.error e) _, r => r = .error e
  | .scanning _ next, r => (next detected).AnswersFrom tables detected catalog r
  | .fetching _ next, r => (next catalog).AnswersFrom tables detected catalog r
  | .finished result, r => r = result

end Answers

/-! ## §4 What a poll leaves to answer -/

namespace SharedSession

variable {s : Session σ} {w w' : SharedSession σ}

theorem readTable_ok {list : List RegisteredJdk} (h : w.readTable c = (.ok list, w')) :
    ∃ reply ∈ newEntries w.session.replies w'.session.replies, reply.served? = some list := by
  obtain ⟨hlist, rfl⟩ := Prod.mk.inj h
  refine ⟨(c.readTable w.session.cancelled w.session.world).1.1, ?_,
    TableReply.list_eq_ok_iff.mp hlist⟩
  simp

theorem readTable_failed {e : Error} (h : w.readTable c = (.error e, w')) :
    e = .cancelled ∧ w.session.CancelledSince w'.session := by
  obtain ⟨hlist, rfl⟩ := Prod.mk.inj h
  obtain ⟨hreply, he⟩ := TableReply.list_eq_error_iff.mp hlist
  exact ⟨he, .inr (.inl (by simp [hreply]))⟩

end SharedSession

section Narrowing

variable {tables : List RegisteredJdk → Prop} {detected : List DetectedJdk}
  {catalog : List DownloadableJdk} {s : Session σ} {w : SharedSession σ} {r : Except Error α}

open SharedSession

/-- Going on with a program leaves no answer that the program did not have, cancellations apart. -/
theorem Program.answersFrom_of_advance {p : Program α} (hs : s.Grows w.session)
    (hagrees : s.Agrees (p.advance c w).2.session tables detected catalog)
    (h : (p.advance c w).1.AnswersFrom tables detected catalog r) :
    p.AnswersFrom tables detected catalog r ∨ s.Aborts (p.advance c w).2.session r := by
  -- A list that the program is given on the way is still kept at the end, so it agrees.
  fun_induction Program.advance c p w with
  | case1 => exact .inl h
  | case2 next w hcancelled => exact .inr ⟨h, .inl hcancelled⟩
  | case3 next w hcancelled ih => exact ih hs hagrees h
  | case4 next w result w' hread =>
    -- The call now waits for what the table has given, which is among the new replies.
    cases result with
    | ok list =>
      obtain ⟨reply, hreply, hserved⟩ := readTable_ok hread
      have hnew := (newEntries_of_later hs.replies _).subset hreply
      exact .inl ⟨list, hagrees.tables reply hnew list hserved, h⟩
    | error e =>
      obtain ⟨rfl, hsince⟩ := readTable_failed hread
      exact .inr ⟨h, .of_later hs hsince⟩
  | case5 => exact .inl h
  | case6 => exact .inl h
  | case7 next w list w' hask ih =>
    have hgrows := (next list).advance_grows (c := c) w'
    have hkept := hgrows.detected.kept list (SharedList.detected.kept_of_ask hask)
    obtain rfl := hagrees.detected list hkept
    exact ih (hs.trans (SharedList.detected.ask_grows hask)) hagrees h
  | case8 next w e w' hask =>
    obtain ⟨rfl, hsince⟩ := SharedList.detected.ask_failed hask
    exact .inr ⟨h, .of_later hs hsince⟩
  | case9 => exact .inl h
  | case10 => exact .inl h
  | case11 next w list w' hask ih =>
    have hgrows := (next list).advance_grows (c := c) w'
    have hkept := hgrows.catalog.kept list (SharedList.catalog.kept_of_ask hask)
    obtain rfl := hagrees.catalog list hkept
    exact ih (hs.trans (SharedList.catalog.ask_grows hask)) hagrees h
  | case12 next w e w' hask =>
    obtain ⟨rfl, hsince⟩ := SharedList.catalog.ask_failed hask
    exact .inr ⟨h, .of_later hs hsince⟩

/-- A poll of a call leaves no answer that the call did not have, cancellations apart. -/
theorem Activity.answersFrom_of_poll {a : Activity α} {scans : List (Future (List DetectedJdk))}
    {fetches : List (Future (List DownloadableJdk))} (hsound : s.Sound) (hs : s.Grows w.session)
    (hw : w.Consistent (a.scan?.toList ++ scans) (a.fetch?.toList ++ fetches))
    (hagrees : s.Agrees (a.poll c w).2.session tables detected catalog)
    (h : (a.poll c w).1.AnswersFrom tables detected catalog r) :
    a.AnswersFrom tables detected catalog r ∨ s.Aborts (a.poll c w).2.session r := by
  cases a with
  | standing p => exact p.answersFrom_of_advance hs hagrees h
  | reading result next =>
    cases result with
    | ok list => exact (next list).answersFrom_of_advance hs hagrees h
    | error e => exact .inl h
  | scanning future next =>
    -- The race may go on, fail, or give the list with which the call goes on.
    obtain rfl := hw.detected.others_eq_nil
    rcases hpoll : w.pollDetected future with ⟨rest | (e | list), w'⟩
    all_goals
      have hgrows := hs.trans (hw.pollDetected hpoll).1
      simp only [poll, hpoll] at h hagrees ⊢
    · exact .inl h
    · obtain ⟨rfl, hsince⟩ :=
        SharedList.detected.poll_failed hsound.detected hs.detected hw.detected hpoll
      exact .inr ⟨h, hsince⟩
    · have hadvance := (next list).advance_grows (c := c) w'
      have hkept := hadvance.detected.kept list (SharedList.detected.kept_of_poll hpoll)
      obtain rfl := hagrees.detected list hkept
      exact (next detected).answersFrom_of_advance hgrows hagrees h
  | fetching future next =>
    obtain rfl := hw.catalog.others_eq_nil
    rcases hpoll : w.pollCatalog future with ⟨rest | (e | list), w'⟩
    all_goals
      have hgrows := hs.trans (hw.pollCatalog hpoll).1
      simp only [poll, hpoll] at h hagrees ⊢
    · exact .inl h
    · obtain ⟨rfl, hsince⟩ :=
        SharedList.catalog.poll_failed hsound.catalog hs.catalog hw.catalog hpoll
      exact .inr ⟨h, hsince⟩
    · have hadvance := (next list).advance_grows (c := c) w'
      have hkept := hadvance.catalog.kept list (SharedList.catalog.kept_of_poll hpoll)
      obtain rfl := hagrees.catalog list hkept
      exact (next catalog).answersFrom_of_advance hgrows hagrees h
  | finished result => exact .inl h

/-! ## §5 What a schedule leaves to answer -/

namespace Concurrence

variable {v : Concurrence σ α}

theorem answersFrom_of_step {index : Nat} {a a' : Activity α} (hsound : s.Sound)
    (hs : s.Grows v.shared.session) (hv : v.Consistent) (turn : Turn)
    (ha : v.activities[index]? = some a) (ha' : (v.step c turn).activities[index]? = some a')
    (hagrees : s.Agrees (v.step c turn).shared.session tables detected catalog)
    (h : a'.AnswersFrom tables detected catalog r) :
    a.AnswersFrom tables detected catalog r ∨ s.Aborts (v.step c turn).shared.session r := by
  cases turn with
  | cancellation =>
    cases ha.symm.trans ha'
    exact .inl h
  | call polled =>
    simp only [step] at ha' hagrees ⊢
    cases hpolled : v.activities[polled]? with
    | none =>
      rw [poll_eq_self hpolled] at ha'
      cases ha.symm.trans ha'
      exact .inl h
    | some b =>
      rw [poll_eq hpolled] at ha' hagrees ⊢
      by_cases hindex : polled = index
      · -- What the call could answer after its poll it could answer before, or it was cancelled.
        subst hindex
        cases hpolled.symm.trans ha
        obtain ⟨hlt, -⟩ := List.getElem?_eq_some_iff.mp ha
        cases (List.getElem?_set_self hlt).symm.trans ha'
        exact Activity.answersFrom_of_poll hsound hs (hv.front ha) hagrees h
      · -- The poll of another call leaves this one as it is.
        rw [List.getElem?_set_ne hindex] at ha'
        cases ha.symm.trans ha'
        exact .inl h

theorem answersFrom_of_after {index : Nat} {a a' : Activity α} (hsound : s.Sound)
    (hs : s.Grows v.shared.session) (hv : v.Consistent) (schedule : List Turn)
    (ha : v.activities[index]? = some a)
    (ha' : (v.after c schedule).activities[index]? = some a')
    (hagrees : s.Agrees (v.after c schedule).shared.session tables detected catalog)
    (h : a'.AnswersFrom tables detected catalog r) :
    a.AnswersFrom tables detected catalog r ∨
      s.Aborts (v.after c schedule).shared.session r := by
  -- From the last turn back to the first: every turn narrows what was left to answer before it.
  induction schedule generalizing v a with
  | nil =>
    cases ha.symm.trans ha'
    exact .inl h
  | cons turn rest ih =>
    obtain ⟨hgrows, hstep⟩ := step_consistent (c := c) hv turn
    have hrest := (after_consistent (c := c) hstep rest).1
    obtain ⟨hlt, -⟩ := List.getElem?_eq_some_iff.mp ha
    have hnext := List.getElem?_eq_getElem ((length_step (c := c) v turn).symm ▸ hlt)
    rcases ih (hs.trans hgrows) hstep hnext ha' hagrees with hanswer | habort
    · refine (answersFrom_of_step hsound hs hv turn ha hnext (hagrees.of_later hrest)
        hanswer).imp_right fun habort => ?_
      exact habort.of_earlier hrest
    · exact .inr habort

/-- A call that has finished has answered from lists that agree with those of the session, or was
cancelled. -/
theorem answersFrom {programs : List (Program α)} {schedule : List Turn} {index : Nat}
    {p : Program α} (hsound : s.Sound) (hp : programs[index]? = some p)
    (hr : ((start programs s).after c schedule).activities[index]? = some (.finished r))
    (hagrees : s.Agrees ((start programs s).after c schedule).shared.session
      tables detected catalog) :
    p.AnswersFrom tables detected catalog r ∨
      s.Aborts ((start programs s).after c schedule).shared.session r := by
  have hstart : (start programs s).activities[index]? = some (.standing p) := by
    rw [start, List.getElem?_map, hp, Option.map_some]
  exact answersFrom_of_after hsound (.refl _) (start_consistent hsound programs) schedule hstart hr
    hagrees rfl

end Concurrence

end Narrowing

end JdkFinder
