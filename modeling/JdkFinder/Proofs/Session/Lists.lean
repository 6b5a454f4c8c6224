import JdkFinder.Proofs.Session.Attempt
import JdkFinder.Session.Schedule

/-!
# The lists of a session

A session shares two lists among its calls, the JDKs on the machine and those of the catalog, and
treats both in the same way.  `SharedList` is such a list with its way into and out of the session
and with the calls that ask for it; what asking and polling do is stated once for all lists.

- `Session.Grows`: nothing that has happened in a session is forgotten.
- `Session.CancelledSince`: there was a cancellation since an earlier state.
- `SharedList.ask_failed`, `SharedList.poll_failed`: asking and polling fail for no other reason.
-/

namespace JdkFinder

variable {σ α β : Type} {c : Collaborators σ}

/-! ## §1 Growth of a session -/

/-- Nothing that has happened is forgotten, and what is kept stays. -/
structure Session.Grows (s t : Session σ) : Prop where
  cancelled : s.cancelled = true → t.cancelled = true
  replies : s.replies <+: t.replies
  detected : s.detected.Grows t.detected
  catalog : s.catalog.Grows t.catalog

namespace Session.Grows

variable {s t u : Session σ}

theorem refl (s : Session σ) : s.Grows s :=
  ⟨id, List.prefix_refl _, .refl _, .refl _⟩

theorem trans (h : s.Grows t) (h' : t.Grows u) : s.Grows u :=
  ⟨h'.cancelled ∘ h.cancelled, h.replies.trans h'.replies, h.detected.trans h'.detected,
    h.catalog.trans h'.catalog⟩

end Session.Grows

/-! ## §2 Cancellations -/

namespace Session

variable {s t u : Session σ}

/-- Since `s` one of the collaborators has answered that it was cancelled. -/
def AnsweredCancelled (s t : Session σ) : Prop :=
  .failed .cancelled ∈ newEntries s.replies t.replies ∨
    s.detected.AnsweredCancelled t.detected ∨ s.catalog.AnsweredCancelled t.catalog

/-- The token is cancelled by now, or since `s` a collaborator has answered that it was. -/
def CancelledSince (s t : Session σ) : Prop :=
  t.cancelled = true ∨ s.AnsweredCancelled t

theorem CancelledSince.of_later (h : s.Grows t) (h' : t.CancelledSince u) :
    s.CancelledSince u := by
  refine h'.imp_right fun hanswer => ?_
  rcases hanswer with hreply | hscan | hfetch
  · exact .inl ((newEntries_of_later h.replies _).subset hreply)
  · exact .inr (.inl (.of_later h.detected hscan))
  · exact .inr (.inr (.of_later h.catalog hfetch))

theorem CancelledSince.of_earlier (h : s.CancelledSince t) (h' : t.Grows u) :
    s.CancelledSince u := by
  refine h.imp h'.cancelled fun hanswer => ?_
  rcases hanswer with hreply | hscan | hfetch
  · exact .inl ((newEntries_of_earlier _ h'.replies).subset hreply)
  · exact .inr (.inl (hscan.of_earlier h'.detected))
  · exact .inr (.inr (hfetch.of_earlier h'.catalog))

end Session

/-! ## §3 Lists that calls share -/

/-- Goes on with a program once the list that it has asked for is there. -/
def Activity.resume (c : Collaborators σ) (next : List β → Program α) :
    Except Error (List β) → SharedSession σ → Activity α × SharedSession σ
  | .ok list, w => (next list).advance c w
  | .error e, w => (.finished (.error e), w)

/-- Where a call stands after a poll of the attempt that it waits for. -/
def Activity.follow (c : Collaborators σ) (waiting : Future (List β) → Activity α)
    (next : List β → Program α) : Race (List β) → SharedSession σ → Activity α × SharedSession σ
  | .running rest, w => (waiting rest, w)
  | .decided result, w => resume c next result w

/-- A list that calls share: its way into and out of the session, how an attempt at it begins, and
the calls that ask for it and that poll an attempt. -/
structure SharedList (σ β : Type) where
  supply : SharedSession σ → Supply σ β
  withSupply : Supply σ β → SharedSession σ → SharedSession σ
  start : Collaborators σ → σ → Future (List β) × σ
  asking : ∀ {α : Type}, (List β → Program α) → Program α
  polling : ∀ {α : Type}, Future (List β) → (List β → Program α) → Activity α
  supply_withSupply : ∀ p w, supply (withSupply p w) = p
  withSupply_withSupply : ∀ p q w, withSupply q (withSupply p w) = withSupply q w
  cancel_withSupply : ∀ p w, (withSupply p w).cancel = withSupply { p with cancelled := true } w
  cancelled_withSupply : ∀ p w, (withSupply p w).session.cancelled = p.cancelled
  /-- A session that no call is using is not used either once the attempt is over. -/
  withSupply_ofSession : ∀ {p s}, p.busy = false →
    withSupply p (.ofSession s) = .ofSession (withSupply p (.ofSession s)).session
  /-- Nothing but the list, the token and the world changes on the way in. -/
  grows_withSupply : ∀ {p w}, ((supply w).cancelled = true → p.cancelled = true) ∧
    (supply w).memo.Grows p.memo → w.session.Grows (withSupply p w).session
  answeredCancelled : ∀ {w w'}, (supply w).memo.AnsweredCancelled (supply w').memo →
    w.session.AnsweredCancelled w'.session
  advance_asking : ∀ {α : Type} (c : Collaborators σ) (next : List β → Program α) w,
    (asking next).advance c w =
      match (supply w).ask (start c) with
      | (none, p) => (.standing (asking next), withSupply p w)
      | (some race, p) => Activity.follow c (polling · next) next race (withSupply p w)
  poll_polling : ∀ {α : Type} (c : Collaborators σ) (future : Future (List β))
    (next : List β → Program α) w,
    (polling future next).poll c w =
      Activity.follow c (polling · next) next ((supply w).poll future).1
        (withSupply ((supply w).poll future).2 w)

namespace SharedList

/-- The JDKs on the machine. -/
def detected : SharedList σ DetectedJdk where
  supply := SharedSession.detectedSupply
  withSupply := SharedSession.withDetected
  start := Collaborators.scan
  asking := Program.detected
  polling := Activity.scanning
  supply_withSupply _ _ := rfl
  withSupply_withSupply _ _ _ := rfl
  cancel_withSupply _ _ := rfl
  cancelled_withSupply _ _ := rfl
  withSupply_ofSession h := by
    rw [SharedSession.withDetected, SharedSession.ofSession, h]
    rfl
  grows_withSupply h := ⟨h.1, List.prefix_refl _, h.2, .refl _⟩
  answeredCancelled h := .inr (.inl h)
  advance_asking c next w := by
    rw [Program.advance, SharedSession.askDetected]
    rcases w.detectedSupply.ask c.scan with ⟨_ | rest | e | list, p⟩ <;> rfl
  poll_polling c future next w := by
    rw [Activity.poll, SharedSession.pollDetected]
    rcases w.detectedSupply.poll future with ⟨rest | e | list, p⟩ <;> rfl

/-- The JDKs of the catalog. -/
def catalog : SharedList σ DownloadableJdk where
  supply := SharedSession.catalogSupply
  withSupply := SharedSession.withCatalog
  start := Collaborators.fetch
  asking := Program.catalog
  polling := Activity.fetching
  supply_withSupply _ _ := rfl
  withSupply_withSupply _ _ _ := rfl
  cancel_withSupply _ _ := rfl
  cancelled_withSupply _ _ := rfl
  withSupply_ofSession h := by
    rw [SharedSession.withCatalog, SharedSession.ofSession, h]
    rfl
  grows_withSupply h := ⟨h.1, List.prefix_refl _, .refl _, h.2⟩
  answeredCancelled h := .inr (.inr h)
  advance_asking c next w := by
    rw [Program.advance, SharedSession.askCatalog]
    rcases w.catalogSupply.ask c.fetch with ⟨_ | rest | e | list, p⟩ <;> rfl
  poll_polling c future next w := by
    rw [Activity.poll, SharedSession.pollCatalog]
    rcases w.catalogSupply.poll future with ⟨rest | e | list, p⟩ <;> rfl

variable (l : SharedList σ β) {w w' : SharedSession σ} {future : Future (List β)}

/-- Asks for the list. -/
def ask (c : Collaborators σ) (w : SharedSession σ) :
    Option (Race (List β)) × SharedSession σ :=
  let (race, p) := (l.supply w).ask (l.start c)
  (race, l.withSupply p w)

/-- A poll of the attempt that is under way. -/
def poll (future : Future (List β)) (w : SharedSession σ) : Race (List β) × SharedSession σ :=
  let (race, p) := (l.supply w).poll future
  (race, l.withSupply p w)

/-- The list as a session gives it to a call that runs alone. -/
def await (c : Collaborators σ) (s : Session σ) : Except Error (List β) × Session σ :=
  let (result, p) := (l.supply (.ofSession s)).await (l.start c)
  (result, (l.withSupply p (.ofSession s)).session)

theorem exists_of_ask {race : Option (Race (List β))} (h : l.ask c w = (race, w')) :
    ∃ p, (l.supply w).ask (l.start c) = (race, p) ∧ w' = l.withSupply p w := by
  cases h
  exact ⟨_, rfl, rfl⟩

theorem exists_of_poll {race : Race (List β)} (h : l.poll future w = (race, w')) :
    ∃ p, (l.supply w).poll future = (race, p) ∧ w' = l.withSupply p w := by
  cases h
  exact ⟨_, rfl, rfl⟩

theorem ask_grows {race : Option (Race (List β))} (h : l.ask c w = (race, w')) :
    w.session.Grows w'.session := by
  obtain ⟨p, hask, rfl⟩ := l.exists_of_ask h
  exact l.grows_withSupply (Supply.ask_grows hask)

theorem poll_grows {race : Race (List β)} (hkept : (l.supply w).memo.kept = none)
    (h : l.poll future w = (race, w')) : w.session.Grows w'.session := by
  obtain ⟨p, hpoll, rfl⟩ := l.exists_of_poll h
  exact l.grows_withSupply (Supply.poll_grows hpoll hkept)

theorem kept_of_ask {list : List β} (h : l.ask c w = (some (.decided (.ok list)), w')) :
    (l.supply w').memo.kept = some list := by
  obtain ⟨p, hask, rfl⟩ := l.exists_of_ask h
  rw [l.supply_withSupply]
  exact Supply.kept_of_ask hask

theorem kept_of_poll {list : List β} (h : l.poll future w = (.decided (.ok list), w')) :
    (l.supply w').memo.kept = some list := by
  obtain ⟨p, hpoll, rfl⟩ := l.exists_of_poll h
  rw [l.supply_withSupply]
  exact Supply.kept_of_poll hpoll

/-- What is told of the list is told of the session. -/
theorem cancelledSince_withSupply {w₀ : SharedSession σ} {p : Supply σ β}
    (h : p.cancelled = true ∨ (l.supply w₀).memo.AnsweredCancelled p.memo) :
    w₀.session.CancelledSince (l.withSupply p w).session := by
  refine h.imp (fun hcancelled => ?_) fun hanswer => l.answeredCancelled ?_
  · rw [l.cancelled_withSupply, hcancelled]
  · rw [l.supply_withSupply]
    exact hanswer

/-- Asking fails with a cancellation only. -/
theorem ask_failed {e : Error} (h : l.ask c w = (some (.decided (.error e)), w')) :
    e = .cancelled ∧ w.session.CancelledSince w'.session := by
  obtain ⟨p, hask, rfl⟩ := l.exists_of_ask h
  obtain ⟨he, hwhy⟩ := Supply.ask_failed hask
  exact ⟨he, l.cancelledSince_withSupply hwhy⟩

/-- Polling fails with a cancellation only: there was one since no attempt was under way. -/
theorem poll_failed {w₀ : SharedSession σ} {e : Error} (h₀ : (l.supply w₀).Consistent [])
    (hgrows : (l.supply w₀).memo.Grows (l.supply w).memo) (hw : (l.supply w).Consistent [future])
    (h : l.poll future w = (.decided (.error e), w')) :
    e = .cancelled ∧ w₀.session.CancelledSince w'.session := by
  obtain ⟨p, hpoll, rfl⟩ := l.exists_of_poll h
  obtain ⟨he, hwhy⟩ := hw.poll_failed h₀ hgrows hpoll
  exact ⟨he, l.cancelledSince_withSupply hwhy⟩

/-- The poll that begins an attempt is a poll of the attempt just begun. -/
theorem advance_asking_eq_poll {p : Supply σ β}
    (hask : (l.supply w).ask (l.start c) = (p.poll future).map some id)
    (next : List β → Program α) :
    (l.asking next).advance c w = (l.polling future next).poll c (l.withSupply p w) := by
  rw [l.advance_asking, l.poll_polling, l.supply_withSupply, l.withSupply_withSupply, hask]
  rfl

end SharedList

end JdkFinder
