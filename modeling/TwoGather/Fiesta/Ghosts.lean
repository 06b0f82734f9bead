import TwoGather.Fiesta.Deletion
import TwoGather.Lib.Rely
import TwoGather.Lib.Runs

/-!
# Deleting a fiesta while entries are accepted

`deleteFiesta` reads the participants once, clears the accepted ones and deletes the fiesta. An
acceptance first changes the entry and then writes `fiesta` of the two users, one by one. When
the two overlap, a user may be written after it was cleared, or without having been in the
list at all, and keeps a fiesta that no longer exists.

`no_ghost_iff`: this does not happen exactly when everybody who has the fiesta is in an accepted
entry as the deletion reads the participants, and every acceptance that writes a user after that
does so while the deletion still has to clear that user.

The proof has two parts. Until the deletion reads, the acceptances rely on each other to keep
accepted entries (`acceptance_under`), so that everybody in the fiesta is in an accepted entry if
this was so at the start (`placed_early`). After that, everybody in the fiesta is somebody that
the deletion will clear (`Deleting`).
-/

namespace TwoGather

open Docs Requests Program

/-! ## Users in a fiesta -/

/-- The user has the fiesta. -/
def Store.Attends (s : Store) (w : UserId) (f : FiestaId) : Prop :=
  ∃ data ∈ s.user w, data.fiesta = .value f

/-- An accepted entry of the fiesta. -/
def Store.Accepts (s : Store) (f : FiestaId) (e : Participant) : Prop :=
  ∃ fiesta ∈ s.fiesta f, e ∈ fiesta.accepted

/-- Everybody who has the fiesta is in an accepted entry of it. -/
def Store.Placed (s : Store) (f : FiestaId) : Prop :=
  ∀ w, s.Attends w f → ∃ e, s.Accepts f e ∧ e.Has w

/-- The fiesta has neither appeared nor gone, and no accepted entry of it is lost. -/
structure Store.Grows (f : FiestaId) (s t : Store) : Prop where
  exist : (t.fiesta f).isSome = (s.fiesta f).isSome
  accepts : ∀ e, s.Accepts f e → t.Accepts f e
  placed : s.Placed f → t.Placed f

/-- A call of `acceptUserInFiesta`, of the app or of the cloud function. -/
inductive Acceptance
  | app (userRef duoRef : UserId)
  | cloud (fiestaRef : UserId) (duoRef : Option UserId)

def Acceptance.program (f : FiestaId) : Acceptance → Firestore Unit
  | app u v => FiestaController.acceptUserInFiesta f u v
  | cloud u o => do
      let _ ← acceptUserInFiesta f u o
      return ()

/-- The request writes the fiesta into the document of the user. -/
def Sets (f : FiestaId) (w : UserId) (act : Store → Store) : Prop :=
  act = (·.updateUser w (·.setFiesta (.value f)))

/-- The request takes the user out of its fiesta. -/
def Clears (w : UserId) (act : Store → Store) : Prop :=
  act = (·.updateUser w (·.setFiesta .null))

section Attends

variable {s t : Store} {f : FiestaId} {u w : UserId} {act : Store → Store}

theorem Store.Grows.refl (s : Store) : s.Grows f s :=
  ⟨rfl, fun _ => id, id⟩

theorem Store.Grows.trans {u : Store} (first : s.Grows f t) (second : t.Grows f u) :
    s.Grows f u :=
  ⟨second.exist.trans first.exist, fun e there => second.accepts e (first.accepts e there),
    fun placed => second.placed (first.placed placed)⟩

/-- Who attends is seen from its own document. -/
theorem Store.Attends.of_user (same : t.user w = s.user w) (attends : t.Attends w f) :
    s.Attends w f := by
  unfold Store.Attends at attends ⊢
  rwa [same] at attends

/-- After the write of its fiesta a user attends just that one. -/
theorem attends_setFiesta {g : Stored FiestaId} :
    (s.updateUser u (·.setFiesta g)).Attends w f ↔
      if w = u then (s.user u).isSome ∧ g = .value f else s.Attends w f := by
  unfold Store.Attends
  rw [Store.user_updateUser]
  split
  case isTrue same =>
    subst same
    cases s.user w with
    | none => simp
    | some data => simp [User.setFiesta]
  case isFalse => rfl

/-- Nobody is in the fiesta through a request that clears. -/
theorem attends_clears (clears : Clears u act) (attends : (act s).Attends w f) :
    w ≠ u ∧ s.Attends w f := by
  rw [clears] at attends
  rw [attends_setFiesta] at attends
  split at attends
  case isTrue => cases attends.2
  case isFalse other => exact ⟨other, attends⟩

end Attends

/-! ## What an acceptance does -/

/-- The requests of an acceptance: users get the fiesta, or the entry is changed. -/
def AcceptAct (f : FiestaId) (act : Store → Store) : Prop :=
  (∃ w, Sets f w act) ∨
    ∀ s, (act s).user = s.user ∧ ((act s).fiesta f).isSome = (s.fiesta f).isSome

/-- The requests that an acceptance makes once its entry is accepted. -/
def SeatAct (f : FiestaId) (e : Participant) (act : Store → Store) : Prop :=
  (∃ w, e.Has w ∧ Sets f w act) ∨ act = id

section Acceptance

variable {s t : Store} {f : FiestaId} {e : Participant} {act : Store → Store}

/-- An update of the fiesta is a request of an acceptance. -/
theorem acceptAct_updateFiesta (g : Fiesta → Fiesta) : AcceptAct f (·.updateFiesta f g) := by
  right
  intro s
  refine ⟨rfl, ?_⟩
  rw [Store.fiesta_updateFiesta, if_pos rfl, Option.isSome_map]

theorem acceptAct_id : AcceptAct f id := .inr fun _ => ⟨rfl, rfl⟩

/-- Seats are given to the persons of an accepted entry. -/
theorem SeatAct.grows (seat : SeatAct f e act) (accepted : s.Accepts f e) :
    s.Grows f (act s) := by
  rcases seat with ⟨w, has, rfl⟩ | rfl
  · refine ⟨rfl, fun _ => id, ?_⟩
    intro placed v attends
    rw [attends_setFiesta] at attends
    split at attends
    case isTrue same =>
      subst same
      exact ⟨e, accepted, has⟩
    case isFalse => exact placed v attends
  · exact .refl s

/-- Once the entry is accepted, an acceptance relies on the others not to take it out. -/
theorem under_of_accepts {α : Type} {p : Firestore α} (makes : p.Makes (SeatAct f e))
    (accepted : s.Accepts f e) :
    p.Under (Store.Grows f) (fun s act => s.Grows f (act s)) s := by
  induction p generalizing s with
  | done outcome => trivial
  | step act next ih =>
      intro t grows
      have still := grows.accepts e accepted
      have after := makes.1.grows still
      exact ⟨after, ih t (makes.2 t) (after.accepts e still)⟩

/-- To remove an entry that is not accepted takes nobody out. -/
theorem grows_remove {e : Participant} (pending : e.status ≠ .accepted) :
    s.Grows f (s.updateFiesta f (·.remove e)) := by
  have accepts : ∀ e', s.Accepts f e' → (s.updateFiesta f (·.remove e)).Accepts f e' := by
    intro e' there
    rcases there with ⟨fiesta, found, listed⟩
    refine ⟨fiesta.remove e, ?_, ?_⟩
    · rw [Store.fiesta_updateFiesta, if_pos rfl, Option.mem_def.mp found]
      rfl
    · rcases List.mem_filter.mp listed with ⟨member, status⟩
      refine List.mem_filter.mpr ⟨?_, status⟩
      refine mem_arrayRemove.mpr ⟨member, ?_⟩
      intro same
      subst same
      exact pending (by simpa using status)
  refine ⟨?_, accepts, ?_⟩
  · rw [Store.fiesta_updateFiesta, if_pos rfl, Option.isSome_map]
  · intro placed w attends
    rcases placed w attends with ⟨e', there, has⟩
    exact ⟨e', accepts e' there, has⟩

/-- To enter somebody takes nobody out. -/
theorem grows_union (e : Participant) : s.Grows f (s.updateFiesta f (·.union e)) := by
  have accepts : ∀ e', s.Accepts f e' → (s.updateFiesta f (·.union e)).Accepts f e' := by
    intro e' there
    rcases there with ⟨fiesta, found, listed⟩
    refine ⟨fiesta.union e, ?_, ?_⟩
    · rw [Store.fiesta_updateFiesta, if_pos rfl, Option.mem_def.mp found]
      rfl
    · rcases List.mem_filter.mp listed with ⟨member, status⟩
      exact List.mem_filter.mpr ⟨mem_arrayUnion.mpr (.inl member), status⟩
  refine ⟨?_, accepts, ?_⟩
  · rw [Store.fiesta_updateFiesta, if_pos rfl, Option.isSome_map]
  · intro placed w attends
    rcases placed w attends with ⟨e', there, has⟩
    exact ⟨e', accepts e' there, has⟩

/-- An accepted entry that is entered is accepted. -/
theorem accepts_union_self (exist : (s.fiesta f).isSome) (accepted : e.status = .accepted) :
    (s.updateFiesta f (·.union e)).Accepts f e := by
  rcases Option.isSome_iff_exists.mp exist with ⟨fiesta, found⟩
  refine ⟨fiesta.union e, ?_, ?_⟩
  · rw [Store.fiesta_updateFiesta, if_pos rfl, found]
    rfl
  · exact List.mem_filter.mpr ⟨mem_arrayUnion.mpr (.inr rfl), by simpa using accepted⟩

/-- An update of the fiesta, and what follows if the fiesta exists. -/
theorem under_updateFiesta {α : Type} {R : Store → Store → Prop}
    {G : Store → (Store → Store) → Prop} {g : Fiesta → Fiesta} {rest : Firestore α}
    (each : ∀ t, R s t → G t (·.updateFiesta f g) ∧
      ((t.fiesta f).isSome → rest.Under R G (t.updateFiesta f g))) :
    (do updateFiesta f g; rest : Firestore α).Under R G s := by
  intro t changed
  refine ⟨(each t changed).1, ?_⟩
  cases exist : (t.fiesta f).isSome with
  | true =>
      simp only [exist, ↓reduceIte]
      exact (each t changed).2 exist
  | false =>
      simp only [exist, Bool.false_eq_true, ↓reduceIte]
      trivial

/-- The two changes of the entry, and what is made of an accepted entry. -/
theorem under_move {α : Type} {pending : Participant} (status : pending.status ≠ .accepted)
    (accepted : e.status = .accepted) {rest : Firestore α} (makes : rest.Makes (SeatAct f e))
    (s : Store) :
    (do
      updateFiesta f (·.remove pending)
      updateFiesta f (·.union e)
      rest).Under (Store.Grows f) (fun s act => s.Grows f (act s)) s := by
  apply under_updateFiesta
  intro t _
  refine ⟨grows_remove status, fun _ => ?_⟩
  apply under_updateFiesta
  intro t _
  refine ⟨grows_union e, fun exist => ?_⟩
  exact under_of_accepts makes (accepts_union_self exist accepted)

/-- To bring a person of the entry into the fiesta is to seat it. -/
theorem seats_updateUser {w : UserId} (has : e.Has w) :
    (updateUser w (·.setFiesta (.value f))).Makes (SeatAct f e) :=
  makes_updateUser (.inl ⟨w, has, rfl⟩)

/-- As long as nothing else takes accepted entries out, an acceptance keeps everybody placed. -/
theorem acceptance_under (c : Acceptance) (s : Store) :
    (c.program f).Under (Store.Grows f) (fun s act => s.Grows f (act s)) s := by
  cases c with
  | app u v =>
      apply under_move (by simp) rfl
      apply Makes.bind (seats_updateUser (.inl rfl))
      intro _
      exact seats_updateUser (.inr rfl)
  | cloud u o =>
      apply Under.bind
      · intro t _
        refine ⟨.refl t, ?_⟩
        apply under_move (by simp) rfl
        apply Makes.bind (.read (.inr rfl) _)
        intro fUser
        cases o with
        | none => exact .throw _
        | some v =>
            apply Makes.bind (.read (.inr rfl) _)
            intro sUser
            apply Makes.bind (seats_updateUser (.inl rfl))
            intro _
            apply Makes.bind (seats_updateUser (.inr rfl))
            intro _
            apply Makes.bind (makes_member fUser)
            intro fData
            apply Makes.bind (makes_pushUnlessNull (.inr rfl) fData.fcmToken)
            intro _
            apply Makes.bind (makes_member sUser)
            intro sData
            apply Makes.bind (makes_pushUnlessNull (.inr rfl) sData.fcmToken)
            intro _
            exact .pure true
      · exact fun _ _ => trivial

/-- Wherever it is made, a request of an acceptance writes the fiesta of a user, or no user. -/
theorem acceptance_makes (c : Acceptance) : (c.program f).Makes (AcceptAct f) := by
  have sets : ∀ w, (updateUser w (·.setFiesta (.value f))).Makes (AcceptAct f) :=
    fun w => makes_updateUser (.inl ⟨w, rfl⟩)
  have change : ∀ g, (updateFiesta f g).Makes (AcceptAct f) :=
    fun g => makes_updateFiesta (acceptAct_updateFiesta g)
  cases c with
  | app u v =>
      apply Makes.bind (change _)
      intro _
      apply Makes.bind (change _)
      intro _
      apply Makes.bind (sets u)
      intro _
      exact sets v
  | cloud u o =>
      apply Makes.bind
      · apply Makes.bind (.read acceptAct_id _)
        intro _
        apply Makes.bind (change _)
        intro _
        apply Makes.bind (change _)
        intro _
        apply Makes.bind (.read acceptAct_id _)
        intro fUser
        apply Makes.bind (makes_docOf o)
        intro v
        apply Makes.bind (.read acceptAct_id _)
        intro sUser
        apply Makes.bind (sets u)
        intro _
        apply Makes.bind (sets v)
        intro _
        apply Makes.bind (makes_member fUser)
        intro fData
        apply Makes.bind (makes_pushUnlessNull acceptAct_id fData.fcmToken)
        intro _
        apply Makes.bind (makes_member sUser)
        intro sData
        apply Makes.bind (makes_pushUnlessNull acceptAct_id sData.fcmToken)
        intro _
        exact .pure true
      · exact fun _ => .pure ()

end Acceptance

/-! ## What the deletion does -/

/-- No user has got the fiesta, and the fiesta exists as before. -/
structure Store.Empties (f : FiestaId) (s t : Store) : Prop where
  exist : (t.fiesta f).isSome = (s.fiesta f).isSome
  attends : ∀ w, t.Attends w f → s.Attends w f

section Deletion

variable {s t : Store} {f : FiestaId} {h : UserId} {fiesta : Fiesta} {e : Participant}

theorem Store.Empties.refl (s : Store) : s.Empties f s := ⟨rfl, fun _ => id⟩

/-- To clear a user brings nobody in. -/
theorem empties_clears (s : Store) (u : UserId) :
    s.Empties f (s.updateUser u (·.setFiesta .null)) :=
  ⟨rfl, fun _ attends => (attends_clears rfl attends).2⟩

/-- The deletion after its read, without the removal of the document. -/
def clearing (h : UserId) (f : FiestaId) (fiesta : Fiesta) : Firestore Unit := do
  Program.forEach fiesta.participants (clearParticipant fiesta)
  deleteFromHistory h f

/-- The clearing of a deletion brings nobody in. -/
theorem clearing_keeps : (clearing h f fiesta).Keeps (Store.Empties f) := by
  apply Keeps.bind
  · apply Keeps.forEach
    intro e _
    exact clearParticipant_keeps Store.Empties.refl (fun s u _ => empties_clears s u)
      fun _ _ _ => ⟨rfl, fun _ => id⟩
  · intro _
    apply Keeps.bind (.read Store.Empties.refl _)
    intro docs
    cases docs with
    | nil => exact .pure ()
    | cons doc docs => exact fun s => ⟨⟨rfl, fun _ => id⟩, .pure ()⟩

/-- This request clears the user. -/
theorem must_clears (u : UserId) : (updateUser u (·.setFiesta .null)).Must (Clears u) :=
  .inl rfl

variable (fiesta) in
/-- The persons of an accepted entry are cleared, unless something fails before. -/
theorem clearParticipant_must {w : UserId} (accepted : e.status = .accepted) (has : e.Has w) :
    (clearParticipant fiesta e).Must (Clears w) := by
  rw [clearParticipant_of_accepted accepted]
  apply Must.bind_right
  intro userData
  rcases has with rfl | duoRef
  · exact (must_clears _).bind_left _
  · apply Must.bind_right
    intro _
    apply Must.bind_right
    intro _
    unfold clearDuo
    rw [duoRef]
    apply Must.bind_right (getUser w)
    intro _
    exact (must_clears w).bind_left _

/-- The persons of an accepted entry are cleared. -/
theorem clearing_must {w : UserId} (listed : e ∈ fiesta.accepted) (has : e.Has w) :
    (clearing h f fiesta).Must (Clears w) := by
  have member : e ∈ fiesta.participants := (List.mem_filter.mp listed).1
  have must := clearParticipant_must fiesta (mem_accepted listed) has
  exact (must.forEach member).bind_left _

/-! ### Users that the deletion leaves alone -/

/-- The user stays in the fiesta. -/
def Store.Stays (w : UserId) (f : FiestaId) (s t : Store) : Prop :=
  s.Attends w f → t.Attends w f

/-- To clear a user leaves another one where it is. -/
theorem stays_clears {u w : UserId} (other : w ≠ u) (s : Store) :
    s.Stays w f (s.updateUser u (·.setFiesta .null)) := by
  intro attends
  rw [attends_setFiesta, if_neg other]
  exact attends

theorem stays_of_user {w : UserId} (same : t.user w = s.user w) : s.Stays w f t := by
  intro attends
  unfold Store.Attends at attends ⊢
  rwa [same]

/-- After it has cleared the user, there is nothing left to do. -/
theorem settled_clears (w : UserId) {R : Store → Store → Prop} :
    (updateUser w (·.setFiesta .null)).Settled (Clears w) R := by
  refine ⟨.inl (must_clears w), fun s => ?_⟩
  dsimp only
  split
  · trivial
  · trivial

/-- The duo of an entry alone is cleared. -/
theorem clearDuo_stays {w : UserId} {duoRef : Option UserId} (other : duoRef ≠ some w)
    (userData : Option User) : (clearDuo fiesta duoRef userData).Keeps (Store.Stays w f) := by
  apply clearDuo_keeps (fun _ => id)
  · intro s u second
    apply stays_clears
    intro same
    subst same
    exact other second
  · exact fun _ _ _ => id

/-- The duo of an entry is cleared. -/
theorem clearDuo_must {w : UserId} (userData : Option User) :
    (clearDuo fiesta (some w) userData).Must (Clears w) := by
  apply Must.bind_right (getUser w)
  intro _
  exact (must_clears w).bind_left _

/-- For each user, its clearing is to come, or it is not touched. -/
theorem clearDuo_settled (w : UserId) (duoRef : Option UserId) (userData : Option User) :
    (clearDuo fiesta duoRef userData).Settled (Clears w) (Store.Stays w f) := by
  by_cases duo : duoRef = some w
  · subst duo
    apply Settled.bind (p := getUser w) (.of_keeps (.read (fun _ => id) _))
    · exact .inl fun _ => (must_clears w).bind_left _
    · intro duoData
      have told := tellDuo_keeps fiesta (R := Store.Stays w f) (fun _ => id) (fun _ _ _ => id) w
        userData duoData
      exact .bind (settled_clears w) (.inr fun _ => told) fun _ => .of_keeps told
  · exact .of_keeps (clearDuo_stays duo userData)

/-- The work on the second person, with the notification of the first. -/
def tellAndClearDuo (fiesta : Fiesta) (e : Participant) (userData : Option User) :
    Firestore Unit := do
  addNotification e.fiestaRef (cancelNotification fiesta)
  clearDuo fiesta e.duoRef userData

variable (f fiesta e) in
/-- The same with the push that comes before. -/
theorem tellAndClearDuo_now (w : UserId) :
    (∀ userData, (tellAndClearDuo fiesta e userData).Must (Clears w)) ∨
      ∀ userData, (tellAndClearDuo fiesta e userData).Keeps (Store.Stays w f) := by
  by_cases duo : e.duoRef = some w
  · left
    intro userData
    unfold tellAndClearDuo
    rw [duo]
    exact .bind_right _ fun _ => clearDuo_must userData
  · right
    intro userData
    exact .bind (keeps_addNotification fun _ => id) fun _ => clearDuo_stays duo userData

/-- For every user it is settled whether the work on an entry clears it. -/
theorem clearParticipant_settled (w : UserId) :
    (clearParticipant fiesta e).Settled (Clears w) (Store.Stays w f) := by
  by_cases accepted : e.status = .accepted
  · have shape : clearParticipant fiesta e = (do
        let userData ← getUser e.fiestaRef
        updateUser e.fiestaRef (·.setFiesta .null)
        tellAndClearDuo fiesta e userData) := clearParticipant_of_accepted accepted
    have read : (getUser e.fiestaRef).Settled (Clears w) (Store.Stays w f) :=
      .of_keeps (.read (fun _ => id) _)
    have told : ∀ userData,
        (tellAndClearDuo fiesta e userData).Settled (Clears w) (Store.Stays w f) :=
      fun userData => .seq (.of_keeps (keeps_addNotification fun _ => id))
        (clearDuo_settled w e.duoRef userData)
    rw [shape]
    by_cases first : e.fiestaRef = w
    · subst first
      refine .bind read (.inl fun _ => (must_clears _).bind_left _) fun userData => ?_
      exact .seq (settled_clears _) (told userData)
    · have update : (updateUser e.fiestaRef (·.setFiesta .null)).Keeps (Store.Stays w f) :=
        keeps_updateUser (stays_clears (Ne.symm first))
      refine .bind read ?_ fun userData => .seq (.of_keeps update) (told userData)
      rcases tellAndClearDuo_now f fiesta e w with must | keeps
      · exact .inl fun userData => .bind_right _ fun _ => must userData
      · exact .inr fun userData => update.bind fun _ => keeps userData
  · rw [clearParticipant_of_not accepted]
    trivial

/-- Who is not in the entry, or not accepted, is not touched. -/
theorem clearParticipant_stays {w : UserId} (other : e.status = .accepted → ¬ e.Has w) :
    (clearParticipant fiesta e).Keeps (Store.Stays w f) := by
  by_cases accepted : e.status = .accepted
  · rcases not_or.mp (other accepted) with ⟨first, duo⟩
    rw [clearParticipant_of_accepted accepted]
    apply Keeps.bind (.read (fun _ => id) _)
    intro userData
    apply Keeps.bind (keeps_updateUser (stays_clears (Ne.symm first)))
    intro _
    apply Keeps.bind (keeps_addNotification fun _ => id)
    exact fun _ => clearDuo_stays duo userData
  · rw [clearParticipant_of_not accepted]
    trivial

/-- The history does not matter for the fiestas of the users. -/
theorem deleteFromHistory_stays (w : UserId) :
    (deleteFromHistory h f).Keeps (Store.Stays w f) := by
  apply Keeps.bind (.read (fun _ => id) _)
  intro docs
  cases docs with
  | nil => exact .pure ()
  | cons doc docs => exact fun s => ⟨id, .pure ()⟩

/-- Who is in no accepted entry that the deletion has read stays in the fiesta. -/
theorem clearing_stays {w : UserId} (other : ∀ e ∈ fiesta.accepted, ¬ e.Has w) :
    (do clearing h f fiesta; deleteFiestaDoc f).Keeps (Store.Stays w f) := by
  apply Keeps.bind
  · apply Keeps.bind
    · apply Keeps.forEach
      intro e listed
      apply clearParticipant_stays
      intro accepted
      apply other e
      exact List.mem_filter.mpr ⟨listed, by simpa using accepted⟩
    · exact fun _ => deleteFromHistory_stays w
  · exact fun _ => fun s => ⟨id, .pure ()⟩

/-- For every user it is settled whether the deletion clears it. -/
theorem clearing_settled (w : UserId) :
    (do clearing h f fiesta; deleteFiestaDoc f).Settled (Clears w) (Store.Stays w f) := by
  apply Settled.seq
  · apply Settled.seq (.forEach fun e _ => clearParticipant_settled w)
    exact .of_keeps (deleteFromHistory_stays w)
  · exact .of_keeps fun s => ⟨id, .pure ()⟩

end Deletion

/-! ## Both together -/

section Both

variable {ι : Type}

/-- A deletion and acceptances of one fiesta, none of which has begun. -/
def deletion (s : Store) (h : UserId) (f : FiestaId) (calls : ι → Acceptance) :
    Pool (Option ι) Store Err Unit where
  store := s
  thread
    | none => deleteFiesta h f
    | some i => (calls i).program f

/-- If the next request is an acceptance that writes a user, the deletion still has to clear that
user. -/
def Timely (f : FiestaId) (pool : Pool (Option ι) Store Err Unit) : Option ι → Prop
  | none => True
  | some i => ∀ w act next, pool.thread (some i) = .step act next → Sets f w act →
      (pool.store.user w).isSome → (pool.thread none).Must (Clears w)

/-- The deletion has read the participants. Everybody in the fiesta will be cleared. -/
structure Deleting (f : FiestaId) (pool : Pool (Option ι) Store Err Unit) : Prop where
  clears : ∀ w, pool.store.Attends w f → (pool.thread none).Must (Clears w)
  left : (∃ a, pool.Finished none (.ok a)) ∨
    ∃ p : Firestore Unit, pool.thread none = (do p; deleteFiestaDoc f) ∧
      p.Keeps (Store.Empties f) ∧ (pool.store.fiesta f).isSome
  makes : ∀ i, (pool.thread (some i)).Makes (AcceptAct f)

variable {pool : Pool (Option ι) Store Err Unit} {f : FiestaId}

/-- When the deletion has ended and the fiesta is gone, everybody has been cleared. -/
theorem Deleting.nobody (deleting : Deleting f pool) {o : Except Err Unit}
    (finished : pool.Finished none o) (gone : pool.store.fiesta f = none) (w : UserId) :
    ¬ pool.store.Attends w f := by
  intro attends
  have must := deleting.clears w attends
  have ended : pool.thread none = .done o := finished
  rcases deleting.left with ⟨a, ok⟩ | ⟨p, program, -, exist⟩
  · rw [ok] at must
    exact must
  · rw [gone] at exist
    cases exist

variable [DecidableEq ι]

/-- A request of an acceptance. -/
theorem Deleting.accept (deleting : Deleting f pool) {i : ι} (timely : Timely f pool (some i)) :
    Deleting f (pool.move (some i)) := by
  cases left : pool.thread (some i) with
  | done outcome => rwa [Pool.move_done left]
  | step act next =>
      have kept : (pool.move (some i)).thread none = pool.thread none :=
        Pool.thread_move_of_ne pool (by simp)
      have store := Pool.store_move left
      have makes := deleting.makes i
      rw [left] at makes
      refine ⟨?_, ?_, ?_⟩
      · intro w attends
        rw [kept]
        rw [store] at attends
        rcases makes.1 with ⟨v, sets⟩ | quiet
        · rw [sets, attends_setFiesta] at attends
          split at attends
          case isTrue same =>
            subst same
            exact timely w act next left sets attends.1
          case isFalse => exact deleting.clears w attends
        · exact deleting.clears w (attends.of_user (congrFun (quiet pool.store).1 w))
      · rcases deleting.left with ⟨a, ended⟩ | ⟨p, program, keeps, exist⟩
        · exact .inl ⟨a, kept.trans ended⟩
        · refine .inr ⟨p, kept.trans program, keeps, ?_⟩
          rw [store]
          rcases makes.1 with ⟨v, rfl⟩ | quiet
          · exact exist
          · rw [(quiet pool.store).2]
            exact exist
      · exact fun j => Pool.makes_move (deleting.makes j) (some i)

/-- After a request of the deletion, those who are still in the fiesta will still be cleared. -/
theorem Deleting.clears_next (deleting : Deleting f pool) {act : Store → Store}
    {next : Store → Firestore Unit} (left : pool.thread none = .step act next)
    (empties : ∀ w, (act pool.store).Attends w f → pool.store.Attends w f) :
    ∀ w, (pool.move none).store.Attends w f → ((pool.move none).thread none).Must (Clears w) := by
  intro w attends
  rw [Pool.thread_move_self left]
  rw [Pool.store_move left] at attends
  have must := deleting.clears w (empties w attends)
  rw [left] at must
  rcases must with clears | later
  · exact absurd rfl (attends_clears clears attends).1
  · exact later pool.store

/-- A request of the deletion. -/
theorem Deleting.delete (deleting : Deleting f pool) : Deleting f (pool.move none) := by
  have others : ∀ i, ((pool.move none).thread (some i)).Makes (AcceptAct f) :=
    fun i => Pool.makes_move (deleting.makes i) none
  rcases deleting.left with ⟨a, ended⟩ | ⟨p, program, keeps, exist⟩
  · rwa [Pool.move_done ended]
  · cases p with
    | done outcome =>
        cases outcome with
        | error e => rwa [Pool.move_done program]
        | ok a =>
            -- only the document is left to be removed
            have left : pool.thread none = .step (·.deleteFiesta f) fun _ => pure () := program
            refine ⟨deleting.clears_next left fun _ => id, ?_, others⟩
            exact .inl ⟨(), Pool.thread_move_self left⟩
    | step act next =>
        have left : pool.thread none = .step act fun s =>
            next s >>= fun _ => deleteFiestaDoc f := program
        rcases keeps pool.store with ⟨empties, later⟩
        refine ⟨deleting.clears_next left empties.attends, ?_, others⟩
        refine .inr ⟨next pool.store, Pool.thread_move_self left, later, ?_⟩
        rw [Pool.store_move left, empties.exist]
        exact exist

/-- What holds while the deletion goes on, after any timely schedule. -/
theorem Deleting.play (deleting : Deleting f pool) {schedule : List (Option ι)}
    (timely : Along Pool.move (Timely f) pool schedule) : Deleting f (pool.play schedule) := by
  induction schedule generalizing pool with
  | nil => exact deleting
  | cons i schedule ih =>
      rcases timely with ⟨first, later⟩
      cases i with
      | none => exact ih deleting.delete later
      | some i => exact ih (deleting.accept first) later

/-- What is left of the deletion when it has read the fiesta. -/
theorem thread_read {h : UserId} {fiesta : Fiesta} (program : pool.thread none = deleteFiesta h f)
    (found : pool.store.fiesta f = some fiesta) :
    (pool.move none).thread none = (do clearing h f fiesta; deleteFiestaDoc f) := by
  have read := Pool.thread_move_self program
  rw [read, clearing, bind_assoc]
  simp only [found]
  rfl

/-- The deletion fails when the fiesta is not there. -/
theorem finished_read {h : UserId} (program : pool.thread none = deleteFiesta h f)
    (absent : pool.store.fiesta f = none) :
    (pool.move none).Finished none (.error .typeError) := by
  unfold Pool.Finished
  rw [Pool.thread_move_self program]
  simp only [absent]
  rfl

/-- The deletion reads the participants of the fiesta. -/
theorem Deleting.start {h : UserId} (program : pool.thread none = deleteFiesta h f)
    (placed : pool.store.Placed f) (exist : (pool.store.fiesta f).isSome)
    (makes : ∀ i, (pool.thread (some i)).Makes (AcceptAct f)) :
    Deleting f (pool.move none) ∧
      ∀ w, ((pool.move none).thread none).Settled (Clears w) (Store.Stays w f) := by
  rcases Option.isSome_iff_exists.mp exist with ⟨fiesta, found⟩
  have store : (pool.move none).store = pool.store := Pool.store_move program
  have rest := thread_read program found
  refine ⟨⟨?_, .inr ⟨_, rest, clearing_keeps, store ▸ exist⟩, ?_⟩, ?_⟩
  · intro w attends
    rw [store] at attends
    rcases placed w attends with ⟨e, ⟨fiesta', found', listed⟩, has⟩
    rw [found, Option.mem_some_iff] at found'
    subst found'
    rw [rest]
    exact (clearing_must listed has).bind_left _
  · exact fun i => Pool.makes_move (makes i) none
  · intro w
    rw [rest]
    exact clearing_settled w

/-- Somebody who is in the fiesta and will not be cleared stays there. -/
theorem attends_play (makes : ∀ i, (pool.thread (some i)).Makes (AcceptAct f)) {w : UserId}
    (attends : pool.store.Attends w f) (keeps : (pool.thread none).Keeps (Store.Stays w f))
    (schedule : List (Option ι)) : (pool.play schedule).store.Attends w f := by
  have all : ∀ i, (pool.thread i).Keeps (Store.Stays w f) := by
    intro i
    cases i with
    | none => exact keeps
    | some i =>
        refine (makes i).keeps fun act accept s => ?_
        rcases accept with ⟨v, rfl⟩ | quiet
        · intro attends
          rw [attends_setFiesta]
          split
          case isTrue same =>
            subst same
            rcases attends with ⟨data, found, -⟩
            exact ⟨Option.isSome_of_mem found, rfl⟩
          case isFalse => exact attends
        · exact stays_of_user (congrFun (quiet s).1 w)
  exact Pool.play_keeps (R := Store.Stays w f) (fun _ => id)
    (fun first second attends => second (first attends)) all schedule attends

/-- If nobody is left in the fiesta, everybody was in an accepted entry as the deletion read. -/
theorem placed_of_nobody {h : UserId} (program : pool.thread none = deleteFiesta h f)
    (makes : ∀ i, (pool.thread (some i)).Makes (AcceptAct f)) {schedule : List (Option ι)}
    (nobody : ∀ w, ¬ ((pool.move none).play schedule).store.Attends w f) :
    pool.store.Placed f := by
  intro w attends
  by_contra unplaced
  have store : (pool.move none).store = pool.store := Pool.store_move program
  have keeps : ((pool.move none).thread none).Keeps (Store.Stays w f) := by
    cases found : pool.store.fiesta f with
    | some fiesta =>
        rw [thread_read program found]
        exact clearing_stays fun e listed has => unplaced ⟨e, ⟨fiesta, found, listed⟩, has⟩
    | none =>
        have ended : (pool.move none).thread none = .done (.error .typeError) :=
          finished_read program found
        rw [ended]
        trivial
  refine nobody w (attends_play (fun i => Pool.makes_move (makes i) none) ?_ keeps schedule)
  rw [store]
  exact attends

/-- If nobody is left in the fiesta, every acceptance was timely. -/
theorem Deleting.timely (deleting : Deleting f pool)
    (settled : ∀ w, (pool.thread none).Settled (Clears w) (Store.Stays w f))
    {schedule : List (Option ι)} (nobody : ∀ w, ¬ (pool.play schedule).store.Attends w f) :
    Along Pool.move (Timely f) pool schedule := by
  induction schedule generalizing pool with
  | nil => trivial
  | cons i schedule ih =>
      rw [Pool.play_cons] at nobody
      have still : ∀ w, ((pool.move i).thread none).Settled (Clears w) (Store.Stays w f) :=
        fun w => Pool.settled_move (settled w) i
      cases i with
      | none => exact ⟨trivial, ih deleting.delete still nobody⟩
      | some i =>
          have first : Timely f pool (some i) := by
            intro w act next left sets exist
            rcases (settled w).now with must | keeps
            · exact must
            · have kept : ((pool.move (some i)).thread none).Keeps (Store.Stays w f) := by
                rwa [Pool.thread_move_of_ne pool (by simp)]
              have attends : (pool.move (some i)).store.Attends w f := by
                rw [Pool.store_move left, sets, attends_setFiesta, if_pos rfl]
                exact ⟨exist, rfl⟩
              have others : ∀ j, ((pool.move (some i)).thread (some j)).Makes (AcceptAct f) :=
                fun j => Pool.makes_move (deleting.makes j) (some i)
              exact absurd (attends_play others attends kept schedule) (nobody w)
          exact ⟨first, ih (deleting.accept first) still nobody⟩

/-- When the deletion has failed, no acceptance is untimely. -/
theorem timely_of_failed {e : Err} (failed : pool.Finished none (.error e))
    (schedule : List (Option ι)) : Along Pool.move (Timely f) pool schedule := by
  induction schedule generalizing pool with
  | nil => trivial
  | cons i schedule ih =>
      refine ⟨?_, ih (failed.move i)⟩
      cases i with
      | none => trivial
      | some i =>
          intro w act next _ _ _
          have ended : pool.thread none = .done (.error e) := failed
          rw [ended]
          trivial

/-- Until the deletion reads, the acceptances lose no accepted entry, and go on so. -/
theorem early_under (s : Store) (h : UserId) (f : FiestaId) (calls : ι → Acceptance)
    {early : List (Option ι)} (unread : none ∉ early) :
    s.Grows f ((deletion s h f calls).play early).store ∧
      ∀ i, i ≠ none → (((deletion s h f calls).play early).thread i).Under (Store.Grows f)
        (fun s act => s.Grows f (act s)) ((deletion s h f calls).play early).store := by
  have acceptances : ∀ i, i ≠ none → ((deletion s h f calls).thread i).Under (Store.Grows f)
      (fun s act => s.Grows f (act s)) s := by
    intro i acceptance
    cases i with
    | none => exact absurd rfl acceptance
    | some i => exact acceptance_under (calls i) s
  exact Pool.under_play (R := Store.Grows f) Store.Grows.trans (fun _ _ => id) Store.Grows.refl
    acceptances fun i listed same => unread (same ▸ listed)

/-- If everybody who has the fiesta is in an accepted entry at the start, this is so as the
deletion reads. -/
theorem placed_early {s : Store} {h : UserId} {f : FiestaId} {calls : ι → Acceptance}
    (placed : s.Placed f) {early : List (Option ι)} (unread : none ∉ early) :
    ((deletion s h f calls).play early).store.Placed f :=
  (early_under s h f calls unread).1.placed placed

/-- **A deletion leaves no user in the fiesta exactly when everybody who has it is in an accepted
entry as the deletion reads the participants, and every acceptance that writes a user after that
does so while the deletion still has to clear that user.** -/
theorem no_ghost_iff (s : Store) (h : UserId) (f : FiestaId) (calls : ι → Acceptance)
    (early late : List (Option ι)) (unread : none ∉ early) {o : Except Err Unit}
    (finished : ((deletion s h f calls).play (early ++ none :: late)).Finished none o)
    (gone : ((deletion s h f calls).play (early ++ none :: late)).store.fiesta f = none) :
    (∀ w, ¬ ((deletion s h f calls).play (early ++ none :: late)).store.Attends w f) ↔
      ((deletion s h f calls).play early).store.Placed f ∧
        Along Pool.move (Timely f) ((deletion s h f calls).play (early ++ [none])) late := by
  have under := (early_under s h f calls unread).2
  have program := Pool.thread_play_of_not_mem (deletion s h f calls) unread
  have makes : ∀ i, (((deletion s h f calls).play early).thread (some i)).Makes (AcceptAct f) :=
    fun i => Pool.makes_play (acceptance_makes (calls i)) early
  rw [Pool.play_append, Pool.play_cons] at finished gone ⊢
  rw [Pool.play_append, Pool.play_cons, Pool.play_nil]
  cases found : ((deletion s h f calls).play early).store.fiesta f with
  | some fiesta =>
      have exist := Option.isSome_of_mem found
      constructor
      · intro nobody
        have placed := placed_of_nobody program makes nobody
        rcases Deleting.start program placed exist makes with ⟨deleting, settled⟩
        exact ⟨placed, deleting.timely settled nobody⟩
      · rintro ⟨placed, timely⟩
        exact ((Deleting.start program placed exist makes).1.play timely).nobody finished gone
  | none =>
      -- the deletion fails, and the acceptances still place everybody
      have failed := finished_read program found
      have store := Pool.store_move program
      have rest : ∀ i, True → ((((deletion s h f calls).play early).move none).thread i).Under
          (Store.Grows f) (fun s act => s.Grows f (act s))
          (((deletion s h f calls).play early).move none).store := by
        intro i _
        cases i with
        | none =>
            have ended : (((deletion s h f calls).play early).move none).thread none =
              .done (.error .typeError) := failed
            rw [ended]
            trivial
        | some i =>
            rw [Pool.thread_move_of_ne _ (by simp), store]
            exact under (some i) (by simp)
      have whole := (Pool.under_play (R := Store.Grows f) Store.Grows.trans (fun _ _ => id)
        Store.Grows.refl rest (fun i (_ : i ∈ late) => trivial)).1
      rw [store] at whole
      constructor
      · exact fun nobody =>
          ⟨placed_of_nobody program makes nobody, timely_of_failed failed late⟩
      · rintro ⟨placed, -⟩ w attends
        rcases whole.placed placed w attends with ⟨e, ⟨fiesta, there, -⟩, -⟩
        rw [gone] at there
        cases there

end Both

/-! ## An acceptance that the deletion overtakes -/

/-- The fiesta of `host`, which `x` and `y` want to join. -/
def pendingFiesta : Store :=
  { Store.ofUsers ⟨[("host", {}), ("x", {}), ("y", {})], by decide⟩ with
    fiestas :=
      ⟨[("f",
        { title := .value "f"
          host := { id := "host" }
          hostRef := "host"
          endAt := .epoch
          isEnd := .value false
          visibleAfter := .undefined
          participants := [⟨"x", some "y", .pending⟩] })], by decide⟩ }

/-- The host deletes the fiesta, and the app accepts `x` and `y`. -/
def pendingDeletion : Pool (Option Unit) Store Err Unit :=
  deletion pendingFiesta "host" "f" fun _ => .app "x" "y"

/-- The deletion reads when the entry has been accepted, and both users are written before they
are cleared. -/
theorem acceptedMeanwhile_nobody :
    (pendingDeletion.play (List.replicate 2 (some ()))).store.Placed "f" ∧
      Along Pool.move (Timely "f") (pendingDeletion.play (List.replicate 2 (some ()) ++ [none]))
        (List.replicate 2 (some ()) ++ List.replicate 8 none) := by
  have nobody : ∀ w, ¬ (pendingDeletion.play (List.replicate 2 (some ()) ++
      none :: (List.replicate 2 (some ()) ++ List.replicate 8 none))).store.Attends w "f" := by
    rintro w ⟨data, found, fiesta⟩
    have cleared : ∀ doc ∈ (pendingDeletion.play (List.replicate 2 (some ()) ++
        none :: (List.replicate 2 (some ()) ++ List.replicate 8 none))).store.users.docs,
        doc.2.fiesta ≠ .value "f" := by decide
    exact cleared (w, data) (Collection.mem_docs.mpr found) fiesta
  have ended : (pendingDeletion.play (List.replicate 2 (some ()) ++
      none :: (List.replicate 2 (some ()) ++ List.replicate 8 none))).Finished none (.ok ()) := rfl
  exact (no_ghost_iff pendingFiesta "host" "f" (fun _ => .app "x" "y") _ _ (by decide) ended
    rfl).mp nobody

/-- The entry is accepted, the deletion runs to its end, and then `x` and `y` get the fiesta. -/
def overtaken : Pool (Option Unit) Store Err Unit :=
  pendingDeletion.play (List.replicate 2 (some ()) ++
    none :: (List.replicate 8 none ++ List.replicate 2 (some ())))

theorem overtaken_stays : overtaken.Finished none (.ok ()) ∧
    overtaken.Finished (some ()) (.ok ()) ∧ overtaken.store.fiesta "f" = none ∧
      overtaken.store.Attends "x" "f" :=
  ⟨rfl, rfl, rfl, { fiesta := .value "f" }, rfl, rfl⟩

end TwoGather
