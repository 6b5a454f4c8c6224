import JdkFinder.Proofs.Cancellation.PoolRaces
import Mathlib.Data.List.Induction
import Mathlib.Logic.Relation

/-!
# Families of tokens

The history of a pool tells which of its tokens are one family: those that descend through clones
from the same token made anew (`TokenPool.SameFamily`).  It also tells which tokens were cancelled
(`TokenPool.Cancelled`): those for which it cancels, and those that the polls of raced tasks cancel.
A token is cancelled exactly if one of its family was, which no later operation undoes, and an
operation that cancels none of the family leaves it as it is
(`TokenPool.cancelled_within_family`).

The families are spoken of without the numbers that a pool keeps for them, and the cancellations
without the flags.  That both come to the same (`TokenPool.sameFamily_iff`,
`TokenPool.isFlagged_after`) is proved by induction on the history.
-/

namespace JdkFinder.TokenPool

variable {α : Type} {pool : TokenPool} {token family : Nat}

/-! ## §1 One operation -/

/-- The tokens that an operation cancels, where `SameFamily` tells the families of the tokens and
`IsCancelled` which of them are cancelled before.  A race that is lost from the start cancels
nothing. -/
def Operation.Cancels (SameFamily : Nat → Nat → Prop) (IsCancelled : Nat → Prop) :
    Operation α → Nat → Prop
  | .create, _ => False
  | .clone _, _ => False
  | .cancel token, u => u = token
  | .check _, _ => False
  | .race token task, u => ¬ IsCancelled token ∧ task.Cancels (SameFamily token) token u
  | .wait token, u => u = token

/-- An operation adds a token of a new family, or one of the family of another token, or it cancels
tokens. -/
theorem perform_cases (pool : TokenPool) (op : Operation α) :
    (op = .create ∧ (pool.perform op).2 = pool.addNew) ∨
    (∃ parent, op = .clone parent ∧ (pool.perform op).2 = pool.addClone parent) ∨
    ((op ≠ .create ∧ ∀ parent, op ≠ .clone parent) ∧
      ∃ tokens, (pool.perform op).2 = pool.cancelAll tokens) := by
  cases op with
  | create => exact .inl ⟨rfl, rfl⟩
  | clone parent => exact .inr (.inl ⟨parent, rfl, rfl⟩)
  | cancel token => exact .inr (.inr ⟨by simp, [token], rfl⟩)
  | check token => exact .inr (.inr ⟨by simp, [], rfl⟩)
  | race token task => exact .inr (.inr ⟨by simp, (pool.race token task).2, rfl⟩)
  | wait token => exact .inr (.inr ⟨by simp, [token], rfl⟩)

/-- Tokens keep their families. -/
theorem families_perform (h : token < pool.size) (op : Operation α) :
    (pool.perform op).2.families[token]? = pool.families[token]? := by
  rcases pool.perform_cases op with ⟨-, hafter⟩ | ⟨parent, -, hafter⟩ | ⟨-, tokens, hafter⟩
  · rw [hafter]
    exact List.getElem?_append_left h
  · rw [hafter]
    exact List.getElem?_append_left h
  · rw [hafter, families_cancelAll]

theorem Sound.perform (h : pool.Sound) (op : Operation α) : (pool.perform op).2.Sound := by
  -- An operation adds a token, perhaps to a family that there is, or cancels some.
  rcases pool.perform_cases op with ⟨-, hafter⟩ | ⟨parent, -, hafter⟩ | ⟨-, tokens, hafter⟩
  · rw [hafter]
    intro family hfamily
    rcases List.mem_append.mp hfamily with hold | hnew
    · have hlt := h family hold
      simp only [addNew, List.length_append, List.length_singleton]
      omega
    · simp [addNew, List.mem_singleton.mp hnew]
  · rw [hafter]
    intro family hfamily
    rcases List.mem_append.mp hfamily with hold | hnew
    · exact h family hold
    · exact h.lt_of_family (Option.mem_toList.mp hnew)
  · rw [hafter]
    exact h.cancelAll _

/-- An operation flags the families of the tokens that it cancels, and no others. -/
theorem Sound.isFlagged_perform (h : pool.Sound) (op : Operation α) :
    (pool.perform op).2.isFlagged family = true ↔
      pool.isFlagged family = true ∨
        ∃ u, op.Cancels pool.Related (fun t => pool.isCancelled t = true) u ∧
          pool.families[u]? = some family := by
  cases op with
  | create =>
    -- The new family is not flagged.
    have hnew : pool.addNew.isFlagged family = pool.isFlagged family := by
      rw [isFlagged, isFlagged, addNew]
      grind
    simp [TokenPool.perform, hnew, Operation.Cancels]
  | clone parent => simp [TokenPool.perform, addClone, isFlagged, Operation.Cancels]
  | cancel token => simp [TokenPool.perform, h.isFlagged_cancel, Operation.Cancels]
  | check token => simp [TokenPool.perform, Operation.Cancels]
  | race token task =>
    have hperform : (pool.perform (.race token task)).2 =
        pool.cancelAll (pool.race token task).2 := rfl
    rw [hperform, h.isFlagged_cancelAll]
    cases hcancelled : pool.isCancelled token with
    | true => simp [race_of_cancelled hcancelled, Operation.Cancels, hcancelled]
    | false =>
      rw [h.cancelled_in_race hcancelled]
      simp [Operation.Cancels, hcancelled]
  | wait token => simp [TokenPool.perform, h.isFlagged_cancel, Operation.Cancels]

/-! ## §2 Histories -/

/-- The pool after a number of operations. -/
def after (history : List (Operation α)) : TokenPool :=
  history.foldl (fun pool op => (pool.perform op).2) empty

/-- Some operation of the history, with what came before it, is such a step. -/
def Occurs (history : List (Operation α)) (step : List (Operation α) → Operation α → Prop) : Prop :=
  ∃ earlier op later, history = earlier ++ op :: later ∧ step earlier op

/-- The token was made anew. -/
def IsNew (history : List (Operation α)) (token : Nat) : Prop :=
  Occurs history fun earlier op => op = .create ∧ token = (after earlier).size

/-- The token was made as a clone of the other one. -/
def ClonedFrom (history : List (Operation α)) (token parent : Nat) : Prop :=
  Occurs history fun earlier op =>
    op = .clone parent ∧ parent < (after earlier).size ∧ token = (after earlier).size

/-- The tokens descend through clones from the same token made anew. -/
def SameFamily (history : List (Operation α)) (t u : Nat) : Prop :=
  ∃ root, IsNew history root ∧ Relation.ReflTransGen (ClonedFrom history) t root ∧
    Relation.ReflTransGen (ClonedFrom history) u root

/-- The token was cancelled, not counting others of its family.  The history is taken apart from its
end, since what a race cancels depends on what was cancelled before it. -/
def Cancelled (history : List (Operation α)) : Nat → Prop :=
  history.reverseRecOn (fun _ => False) fun earlier op cancelled u =>
    cancelled u ∨ u < (after earlier).size ∧
      op.Cancels (SameFamily earlier) (fun t => ∃ v, cancelled v ∧ SameFamily earlier t v) u

/-- What a further operation cancels. -/
def Cancels (history : List (Operation α)) (op : Operation α) : Nat → Prop :=
  op.Cancels (SameFamily history) fun t => ∃ v, Cancelled history v ∧ SameFamily history t v

section Histories

variable {history : List (Operation α)} {op : Operation α}

theorem after_concat (history : List (Operation α)) (op : Operation α) :
    after (history ++ [op]) = ((after history).perform op).2 := by
  rw [after, List.foldl_append]
  rfl

theorem sound_after (history : List (Operation α)) : (after history).Sound := by
  induction history using List.reverseRecOn with
  | nil =>
    intro family hfamily
    cases hfamily
  | append_singleton history op ih =>
    rw [after_concat]
    exact ih.perform op

/-- A step of a longer history is one of the shorter history, or it is the last operation. -/
theorem occurs_concat {step : List (Operation α) → Operation α → Prop} :
    Occurs (history ++ [op]) step ↔ Occurs history step ∨ step history op := by
  constructor
  · rintro ⟨earlier, op', later, hsplit, hstep⟩
    -- The step is the last operation if nothing comes later.
    rcases List.eq_nil_or_concat later with rfl | ⟨later, last, rfl⟩
    · obtain ⟨rfl, hlast⟩ := List.append_inj' hsplit rfl
      cases hlast
      exact .inr hstep
    · rw [List.concat_eq_append, ← List.cons_append, ← List.append_assoc] at hsplit
      exact .inl ⟨earlier, op', later, (List.append_inj' hsplit rfl).1, hstep⟩
  · rintro (⟨earlier, op', later, rfl, hstep⟩ | hstep)
    · exact ⟨earlier, op', later ++ [op], by simp, hstep⟩
    · exact ⟨history, op, [], rfl, hstep⟩

theorem Occurs.concat {step : List (Operation α) → Operation α → Prop} (h : Occurs history step) :
    Occurs (history ++ [op]) step :=
  occurs_concat.mpr (.inl h)

theorem not_cancelled_nil (u : Nat) : ¬ Cancelled ([] : List (Operation α)) u := by
  rw [Cancelled, List.reverseRecOn_nil]
  exact id

theorem cancelled_concat {u : Nat} : Cancelled (history ++ [op]) u ↔
    Cancelled history u ∨ u < (after history).size ∧ Cancels history op u := by
  rw [Cancelled, List.reverseRecOn_concat]
  rfl

theorem size_le_concat (history : List (Operation α)) (op : Operation α) :
    (after history).size ≤ (after (history ++ [op])).size := by
  rw [after_concat]
  rcases (after history).perform_cases op with ⟨-, hafter⟩ | ⟨parent, -, hafter⟩ |
    ⟨-, tokens, hafter⟩
  · rw [hafter]
    simp [size, addNew]
  · rw [hafter]
    simp [size, addClone]
  · simp [hafter, size]

theorem families_concat (h : token < (after history).size) (op : Operation α) :
    (after (history ++ [op])).families[token]? = (after history).families[token]? := by
  rw [after_concat, families_perform h]

theorem families_after_create (history : List (Operation α)) :
    (after (history ++ [.create])).families =
      (after history).families ++ [(after history).states.length] := by
  rw [after_concat]
  rfl

theorem families_after_clone {history : List (Operation α)} {parent : Nat}
    (h : parent < (after history).size) :
    (after (history ++ [.clone parent])).families =
      (after history).families ++ [(after history).families[parent]] := by
  have hfamily : (after history).families[parent]? = some (after history).families[parent] :=
    List.getElem?_eq_getElem h
  rw [after_concat]
  simp only [perform, addClone, hfamily, Option.toList_some]

/-- A token that is there after a step of the history is there in the end. -/
theorem Occurs.lt_size {step : List (Operation α) → Operation α → Prop} (h : Occurs history step)
    (hstep : ∀ earlier op, step earlier op → token < (after (earlier ++ [op])).size) :
    token < (after history).size := by
  induction history using List.reverseRecOn with
  | nil =>
    obtain ⟨earlier, op, later, hsplit, -⟩ := h
    cases earlier <;> cases hsplit
  | append_singleton history op ih =>
    rcases occurs_concat.mp h with hold | hlast
    · exact Nat.lt_of_lt_of_le (ih hold) (size_le_concat history op)
    · exact hstep history op hlast

theorem IsNew.lt_size (h : IsNew history token) : token < (after history).size := by
  apply Occurs.lt_size h
  rintro earlier _ ⟨rfl, rfl⟩
  simp [size, families_after_create]

theorem ClonedFrom.lt_size {parent : Nat} (h : ClonedFrom history token parent) :
    token < (after history).size := by
  apply Occurs.lt_size h
  rintro earlier _ ⟨rfl, hparent, rfl⟩
  simp [size, families_after_clone hparent]

theorem ClonedFrom.parent_lt_size {parent : Nat} (h : ClonedFrom history token parent) :
    parent < (after history).size := by
  apply Occurs.lt_size h
  rintro earlier op ⟨-, hparent, -⟩
  exact Nat.lt_of_lt_of_le hparent (size_le_concat earlier op)

/-- A clone is put into the family of its parent. -/
theorem ClonedFrom.families_eq {parent : Nat} (h : ClonedFrom history token parent) :
    (after history).families[token]? = (after history).families[parent]? := by
  induction history using List.reverseRecOn with
  | nil => exact absurd h.lt_size (Nat.not_lt_zero token)
  | append_singleton history op ih =>
    rcases occurs_concat.mp h with hold | ⟨rfl, hparent, rfl⟩
    · have hold : ClonedFrom history token parent := hold
      rw [families_concat hold.lt_size, families_concat hold.parent_lt_size, ih hold]
    · rw [families_concat hparent, families_after_clone hparent]
      simp [size, List.getElem?_eq_getElem hparent]

theorem families_eq_of_descends {t u : Nat} (h : Relation.ReflTransGen (ClonedFrom history) t u) :
    (after history).families[t]? = (after history).families[u]? := by
  induction h with
  | refl => rfl
  | tail _ hstep ih => exact ih.trans hstep.families_eq

/-- A token made anew is put into another family than all tokens before it. -/
theorem families_create_ne (h : token < (after history).size) :
    (after (history ++ [.create])).families[token]? ≠
      (after (history ++ [.create])).families[(after history).size]? := by
  have hown : (after history).families[token]? = some (after history).families[token] :=
    List.getElem?_eq_getElem h
  have hnew : (after (history ++ [.create])).families[(after history).size]? =
      some (after history).states.length := by
    rw [families_after_create, size, List.getElem?_concat_length]
  have hlt := (sound_after history).lt_of_family hown
  rw [families_concat h, hown, hnew]
  intro heq
  exact absurd (Option.some.inj heq) (Nat.ne_of_lt hlt)

/-- Different tokens made anew are put into different families. -/
theorem IsNew.eq_of_families_eq {root root' : Nat} (h : IsNew history root)
    (h' : IsNew history root')
    (heq : (after history).families[root]? = (after history).families[root']?) : root = root' := by
  -- On the history, last operation first: the two roots are old or the one that is made last.
  induction history using List.reverseRecOn with
  | nil => exact absurd h.lt_size (Nat.not_lt_zero root)
  | append_singleton history op ih =>
    rcases occurs_concat.mp h with hold | ⟨rfl, rfl⟩
    · rcases occurs_concat.mp h' with hold' | ⟨rfl, rfl⟩
      · rw [families_concat (IsNew.lt_size hold), families_concat (IsNew.lt_size hold')] at heq
        exact ih hold hold' heq
      · exact absurd heq (families_create_ne (IsNew.lt_size hold))
    · rcases occurs_concat.mp h' with hold' | ⟨-, rfl⟩
      · exact absurd heq.symm (families_create_ne (IsNew.lt_size hold'))
      · rfl

/-- Every token descends from one that was made anew. -/
theorem exists_isNew (h : token < (after history).size) :
    ∃ root, IsNew history root ∧ Relation.ReflTransGen (ClonedFrom history) token root := by
  induction history using List.reverseRecOn generalizing token with
  | nil => exact absurd h (Nat.not_lt_zero token)
  | append_singleton history op ih =>
    have hearlier {t : Nat} (ht : t < (after history).size) :
        ∃ root, IsNew (history ++ [op]) root ∧
          Relation.ReflTransGen (ClonedFrom (history ++ [op])) t root := by
      obtain ⟨root, hroot, hdescends⟩ := ih ht
      exact ⟨root, hroot.concat, hdescends.lift id fun _ _ hclone => Occurs.concat hclone⟩
    by_cases hold : token < (after history).size
    · exact hearlier hold
    -- The last operation has made the token.
    rcases (after history).perform_cases op with ⟨rfl, -⟩ | ⟨parent, rfl, hafter⟩ |
      ⟨-, tokens, hafter⟩
    · rw [size, families_after_create, List.length_append, List.length_singleton, ← size] at h
      obtain rfl : token = (after history).size := by omega
      exact ⟨(after history).size, occurs_concat.mpr (.inr ⟨rfl, rfl⟩), .refl⟩
    · by_cases hparent : parent < (after history).size
      · rw [size, families_after_clone hparent, List.length_append, List.length_singleton,
          ← size] at h
        obtain rfl : token = (after history).size := by omega
        obtain ⟨root, hroot, hdescends⟩ := hearlier hparent
        exact ⟨root, hroot, .head (occurs_concat.mpr (.inr ⟨rfl, hparent, rfl⟩)) hdescends⟩
      · -- Without the parent there is no clone.
        have hnone : (after history).families[parent]? = none :=
          List.getElem?_eq_none (Nat.le_of_not_lt hparent)
        rw [after_concat, hafter, addClone, hnone, Option.toList_none, List.append_nil] at h
        exact absurd h hold
    · rw [after_concat, hafter, size, families_cancelAll] at h
      exact absurd h hold

/-- The families that the history tells are those for which the pool keeps a number. -/
theorem sameFamily_iff {t u : Nat} : SameFamily history t u ↔
    ∃ family, (after history).families[t]? = some family ∧
      (after history).families[u]? = some family := by
  constructor
  · rintro ⟨root, hroot, ht, hu⟩
    have hfamily := List.getElem?_eq_getElem hroot.lt_size
    exact ⟨_, (families_eq_of_descends ht).trans hfamily,
      (families_eq_of_descends hu).trans hfamily⟩
  · rintro ⟨family, ht, hu⟩
    -- Each token descends from a root, and roots of one family are the same.
    obtain ⟨root, hroot, htroot⟩ := exists_isNew (List.getElem?_eq_some_iff.mp ht).1
    obtain ⟨root', hroot', huroot⟩ := exists_isNew (List.getElem?_eq_some_iff.mp hu).1
    have hsame : root = root' := by
      apply hroot.eq_of_families_eq hroot'
      rw [← families_eq_of_descends htroot, ← families_eq_of_descends huroot, ht, hu]
    rw [← hsame] at huroot
    exact ⟨root, hroot, htroot, huroot⟩

theorem Cancelled.lt_size {u : Nat} (h : Cancelled history u) : u < (after history).size := by
  induction history using List.reverseRecOn with
  | nil => exact absurd h (not_cancelled_nil u)
  | append_singleton history op ih =>
    rcases cancelled_concat.mp h with hold | ⟨hlt, -⟩
    · exact Nat.lt_of_lt_of_le (ih hold) (size_le_concat history op)
    · exact Nat.lt_of_lt_of_le hlt (size_le_concat history op)

/-- The families are those of the pool. -/
theorem sameFamily_eq_related (history : List (Operation α)) :
    SameFamily history = (after history).Related := by
  funext t u
  exact propext sameFamily_iff

instance (t u : Nat) : Decidable (SameFamily history t u) :=
  decidable_of_iff ((after history).Related t u) sameFamily_iff.symm

/-- Where the flags tell the families of the cancelled tokens, they tell what is cancelled. -/
theorem isCancelled_iff_of_isFlagged
    (hflags : ∀ family, (after history).isFlagged family = true ↔
      ∃ u, Cancelled history u ∧ (after history).families[u]? = some family) :
    (after history).isCancelled token = true ↔
      ∃ u, Cancelled history u ∧ SameFamily history token u := by
  simp only [isCancelled_iff, hflags, sameFamily_iff]
  constructor
  · rintro ⟨family, htoken, u, hcancelled, hu⟩
    exact ⟨u, hcancelled, family, htoken, hu⟩
  · rintro ⟨u, hcancelled, family, htoken, hu⟩
    exact ⟨family, htoken, u, hcancelled, hu⟩

/-- The families that are flagged are those of the tokens that were cancelled. -/
theorem isFlagged_after : (after history).isFlagged family = true ↔
    ∃ u, Cancelled history u ∧ (after history).families[u]? = some family := by
  induction history using List.reverseRecOn generalizing family with
  | nil =>
    constructor
    · intro h
      cases h
    · rintro ⟨u, hcancelled, -⟩
      exact absurd hcancelled (not_cancelled_nil u)
  | append_singleton history op ih =>
    -- Before the operation the flags tell what is cancelled, so it cancels what the history says.
    have hcancels : op.Cancels (after history).Related
        (fun t => (after history).isCancelled t = true) = Cancels history op := by
      simp only [isCancelled_iff_of_isFlagged fun family => @ih family, Cancels,
        sameFamily_eq_related]
    rw [after_concat, (sound_after history).isFlagged_perform, ih, hcancels, ← after_concat]
    simp only [cancelled_concat, or_and_right, exists_or]
    refine or_congr (exists_congr fun u => and_congr_right fun hu => ?_)
      (exists_congr fun u => ?_)
    · -- Tokens keep their families, those that were cancelled before...
      rw [families_concat hu.lt_size]
    · -- ... as well as those that are cancelled now.
      constructor
      · rintro ⟨hu, hfamily⟩
        have hlt : u < (after history).size := (List.getElem?_eq_some_iff.mp hfamily).1
        exact ⟨⟨hlt, hu⟩, (families_concat hlt op).trans hfamily⟩
      · rintro ⟨⟨hlt, hu⟩, hfamily⟩
        exact ⟨hu, (families_concat hlt op).symm.trans hfamily⟩

theorem isCancelled_after : (after history).isCancelled token = true ↔
    ∃ u, Cancelled history u ∧ SameFamily history token u :=
  isCancelled_iff_of_isFlagged fun _ => isFlagged_after

theorem check_eq_cancelled_iff :
    pool.check token = .error .cancelled ↔ pool.isCancelled token = true := by
  rw [check]
  split <;> simp_all

/-- Tokens that are there stay in the families that they are in. -/
theorem sameFamily_concat {t u : Nat} (ht : t < (after history).size)
    (hu : u < (after history).size) (op : Operation α) :
    SameFamily (history ++ [op]) t u ↔ SameFamily history t u := by
  rw [sameFamily_iff, sameFamily_iff, families_concat ht, families_concat hu]

theorem SameFamily.lt_size {t u : Nat} (h : SameFamily history t u) : u < (after history).size := by
  obtain ⟨family, -, hfamily⟩ := sameFamily_iff.mp h
  exact (List.getElem?_eq_some_iff.mp hfamily).1

/-- A further operation cancels the families of the tokens that it cancels. -/
theorem isCancelled_concat (h : token < (after history).size) :
    (after (history ++ [op])).isCancelled token = true ↔
      (after history).isCancelled token = true ∨
        ∃ u, Cancels history op u ∧ SameFamily history token u := by
  rw [isCancelled_after, isCancelled_after]
  simp only [cancelled_concat, or_and_right, exists_or]
  refine or_congr (exists_congr fun u => and_congr_right fun hu => ?_) (exists_congr fun u => ?_)
  · exact sameFamily_concat h hu.lt_size op
  · constructor
    · rintro ⟨⟨hlt, hu⟩, hsame⟩
      exact ⟨hu, (sameFamily_concat h hlt op).mp hsame⟩
    · rintro ⟨hu, hsame⟩
      exact ⟨⟨hsame.lt_size, hu⟩, (sameFamily_concat h hsame.lt_size op).mpr hsame⟩

/-- A token is cancelled exactly if some operation has cancelled a token of its family.  It stays
so, and it is left as it is by an operation that cancels no token of its family. -/
theorem cancelled_within_family (history : List (Operation α)) :
    (∀ t, (after history).isCancelled t = true ↔
      ∃ u, Cancelled history u ∧ SameFamily history t u) ∧
    (∀ t, (after history).check t = .error .cancelled ↔
      ∃ u, Cancelled history u ∧ SameFamily history t u) ∧
    ∀ (op : Operation α) (t : Nat), t < (after history).size →
      ((after history).isCancelled t = true → (after (history ++ [op])).isCancelled t = true) ∧
      ((∀ u, Cancels history op u → ¬ SameFamily history t u) →
        (after (history ++ [op])).isCancelled t = (after history).isCancelled t) := by
  refine ⟨fun t => isCancelled_after, fun t => ?_, fun op t ht => ⟨fun hcancelled => ?_, ?_⟩⟩
  · rw [check_eq_cancelled_iff, isCancelled_after]
  · exact (isCancelled_concat ht).mpr (.inl hcancelled)
  · intro hnone
    -- The history up to here says nothing new of the token, so that only the operation could cancel
    -- it.
    rw [Bool.eq_iff_iff, isCancelled_concat ht]
    constructor
    · rintro (hcancelled | ⟨u, hu, hsame⟩)
      · exact hcancelled
      · exact absurd hsame (hnone u hu)
    · exact .inl

/-- Of three tokens made anew the first has a clone, and all but the first are raced.  The task that
is raced against the clone cancels it and stays pending, and so its second poll is not made.  The
next task merely returns, and the last one cancels its token and hangs.  So the first family and the
last are cancelled; the second is not until a task cancels it in the poll in which it returns. -/
theorem cancelled_by_polls_made :
    let start : List (Operation Unit) := [.create, .clone 0, .create, .create]
    let staying := start ++ [.race 1 (.pending [1] (.ready [2] (.ok ())))]
    let returning := staying ++ [.race 2 (.ready [] (.ok ()))]
    let history := returning ++ [.race 3 (.stalled [3])]
    let op : Operation Unit := .race 2 (.pending [] (.ready [2] (.ok ())))
    (∀ u, Cancelled history u ↔ u = 1 ∨ u = 3) ∧ (∀ u, Cancels history op u ↔ u = 2) ∧
      (after history).check 0 = .error .cancelled ∧ (after history).isCancelled 2 = false ∧
      (after history).isCancelled 3 = true ∧ (after (history ++ [op])).isCancelled 2 = true ∧
      0 < (after history).size ∧ (after (history ++ [op])).isCancelled 0 = true ∧
      (∀ u, Cancels history op u → ¬ SameFamily history 0 u) ∧
      (after (history ++ [op])).isCancelled 0 = (after history).isCancelled 0 := by
  intro start staying returning history op
  -- Making tokens cancels none, and no token is cancelled before the races.
  have hstart (u : Nat) : ¬ Cancelled start u := by
    have hsplit : start = [] ++ [.create] ++ [.clone 0] ++ [.create] ++ [.create] := rfl
    simp only [hsplit, cancelled_concat, not_cancelled_nil, Cancels, Operation.Cancels, and_false,
      or_false, not_false_eq_true]
  have hstaying (u : Nat) : Cancelled staying u ↔ u = 1 := by
    -- The first poll cancels the raced token itself, so that the second one is not made.
    have hclone : SameFamily start 1 1 := by decide
    have hcancels : Cancels start (.race 1 (.pending [1] (.ready [2] (.ok ())))) u ↔ u = 1 := by
      simp [Cancels, Operation.Cancels, hstart, Task.cancels_pending_iff, hclone]
    have hsize : (after start).size = 4 := rfl
    simp only [staying, cancelled_concat, hstart, hcancels, hsize, false_or]
    omega
  have hreturning (u : Nat) : Cancelled returning u ↔ u = 1 := by
    -- A task that merely returns cancels nothing.
    simp [returning, cancelled_concat, hstaying, Cancels, Operation.Cancels, Task.cancels_ready_iff]
  have hhistory (u : Nat) : Cancelled history u ↔ u = 1 ∨ u = 3 := by
    -- The task that never ends cancels its token in the one poll that is made of it.
    have hother : ¬ SameFamily returning 3 1 := by decide
    have hself : SameFamily returning 3 3 := by decide
    have hcancels : Cancels returning (.race 3 (.stalled [3])) u ↔ u = 3 := by
      simp [Cancels, Operation.Cancels, hreturning, hother, Task.cancels_stalled_iff, hself]
    have hsize : (after returning).size = 4 := rfl
    simp only [history, cancelled_concat, hreturning, hcancels, hsize]
    omega
  -- The last race is for a token of a family that nothing has cancelled so far.
  have hfirst : SameFamily history 0 1 := by decide
  have hsecond : ¬ SameFamily history 2 1 := by decide
  have hthird : ¬ SameFamily history 2 3 := by decide
  have hcancels (u : Nat) : Cancels history op u ↔ u = 2 := by
    simp [op, Cancels, Operation.Cancels, hhistory, hsecond, hthird, Task.cancels_pending_iff,
      Task.cancels_ready_iff]
  have hspared (u : Nat) (hu : Cancels history op u) : ¬ SameFamily history 0 u := by
    rw [(hcancels u).mp hu]
    decide
  obtain ⟨hiff, hcheck, hstep⟩ := cancelled_within_family history
  obtain ⟨hlater, -, -⟩ := cancelled_within_family (history ++ [op])
  have hcancelled : (after history).isCancelled 0 = true :=
    (hiff 0).mpr ⟨1, (hhistory 1).mpr (.inl rfl), hfirst⟩
  have hsize : 0 < (after history).size := by decide
  obtain ⟨hstays, hframe⟩ := hstep op 0 hsize
  refine ⟨hhistory, hcancels, (hcheck 0).mpr ⟨1, (hhistory 1).mpr (.inl rfl), hfirst⟩, ?_, ?_, ?_,
    hsize, hstays hcancelled, hspared, hframe hspared⟩
  · rw [Bool.eq_false_iff, Ne, hiff 2]
    rintro ⟨u, hu, hsame⟩
    rcases (hhistory u).mp hu with rfl | rfl
    · exact hsecond hsame
    · exact hthird hsame
  · exact (hiff 3).mpr ⟨3, (hhistory 3).mpr (.inr rfl), by decide⟩
  · have hnow : Cancelled (history ++ [op]) 2 :=
      cancelled_concat.mpr (.inr ⟨by decide, (hcancels 2).mpr rfl⟩)
    exact (hlater 2).mpr ⟨2, hnow, by decide⟩

end Histories

end JdkFinder.TokenPool
