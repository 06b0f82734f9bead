import TwoGather.Fiesta.Controller
import TwoGather.Lib.Rosters
import TwoGather.Lib.Runs

/-!
# Who takes part in which fiesta

The field `fiesta` of the users and the accepted entries of the fiestas are a roster
kept twice (`Store.roster`). Every function of the controller assigns the field of some
users and relists or drops one fiesta, without a look at what the other fiestas list.

* `FiestaCall.step_agrees_iff`: from a store where both sides agree, a call leads to such
  a store exactly when it finds the users it writes in no other live fiesta.
* `membership_agrees_iff`: the same for all stores of a run.
-/

namespace TwoGather

open Docs Requests Rosters

/-! ## Both sides -/

/-- The fiesta is not ended. -/
def Fiesta.Live (f : Fiesta) : Prop :=
  f.isEnd ≠ .value true

instance (f : Fiesta) : Decidable f.Live :=
  inferInstanceAs (Decidable (_ ≠ _))

/-- The user is one of the two persons of an accepted entry. -/
def Fiesta.Accepts (f : Fiesta) (u : UserId) : Prop :=
  ∃ e ∈ f.participants, e.status = .accepted ∧ e.Has u

instance (f : Fiesta) (u : UserId) : Decidable (f.Accepts u) :=
  inferInstanceAs (Decidable (∃ e ∈ f.participants, _))

/-- The field of a user names exactly the live fiesta that has accepted the user, and
never a fiesta that does not exist. -/
structure Store.FiestasAgree (s : Store) : Prop where
  names : ∀ u user, s.user u = some user → ∀ f fiesta, s.fiesta f = some fiesta →
    fiesta.Live → (user.fiesta = .value f ↔ fiesta.Accepts u)
  exist : ∀ u user, s.user u = some user → ∀ f, user.fiesta = .value f → (s.fiesta f).isSome

/-- Users and fiestas as a roster kept twice. -/
def Store.roster (s : Store) : Roster UserId FiestaId where
  member u := (s.user u).isSome
  group u := (s.user u).bind fun user => user.fiesta.get?
  known f := (s.fiesta f).isSome
  live f := ∃ fiesta, s.fiesta f = some fiesta ∧ fiesta.Live
  lists f u := ∃ fiesta, s.fiesta f = some fiesta ∧ fiesta.Accepts u

instance (s : Store) : Decidable s.FiestasAgree :=
  decidable_of_iff
    ((∀ doc ∈ s.users.docs, ∀ fiesta ∈ s.fiestas.docs, fiesta.2.Live →
        (doc.2.fiesta = .value fiesta.1 ↔ fiesta.2.Accepts doc.1)) ∧
      ∀ doc ∈ s.users.docs, ∀ f ∈ doc.2.fiesta.get?, (s.fiesta f).isSome) <| by
    constructor
    · intro both
      constructor
      · intro u user foundUser f fiesta found live
        exact both.1 (u, user) (Collection.mem_docs.mpr foundUser) (f, fiesta)
          (Collection.mem_docs.mpr found) live
      · intro u user found f named
        exact both.2 (u, user) (Collection.mem_docs.mpr found) f (Stored.get?_eq_some.mpr named)
    · intro agree
      constructor
      · intro doc listed fiesta listedFiesta live
        exact agree.names doc.1 doc.2 (Collection.mem_docs.mp listed) fiesta.1 fiesta.2
          (Collection.mem_docs.mp listedFiesta) live
      · intro doc listed f named
        exact agree.exist doc.1 doc.2 (Collection.mem_docs.mp listed) f
          (Stored.get?_eq_some.mp named)

section Roster

variable {s : Store} {u : UserId} {f : FiestaId} {fiesta : Fiesta}

/-- The group of a user is the fiesta that its document names. -/
theorem group_of_user {user : User} (found : s.user u = some user) {f : FiestaId} :
    s.roster.group u = some f ↔ user.fiesta = .value f := by
  simp only [Store.roster, found, Option.bind_some]
  exact Stored.get?_eq_some

/-- A list has the users whom the fiesta accepts. -/
theorem lists_of_fiesta (found : s.fiesta f = some fiesta) :
    s.roster.lists f u ↔ fiesta.Accepts u := by
  simp [Store.roster, found]

/-- A list is live while the fiesta has not ended. -/
theorem live_of_fiesta (found : s.fiesta f = some fiesta) : s.roster.live f ↔ fiesta.Live := by
  simp [Store.roster, found]

/-- Users and fiestas agree exactly if groups and lists do. -/
theorem roster_agree_iff : s.roster.Agree ↔ s.FiestasAgree := by
  constructor
  · intro agree
    constructor
    · intro u user foundUser f fiesta found live
      have names := agree.names u (by simp [Store.roster, foundUser]) f
        ((live_of_fiesta found).mpr live)
      rwa [group_of_user foundUser, lists_of_fiesta found] at names
    · intro u user found f named
      exact agree.known u (by simp [Store.roster, found]) f ((group_of_user found).mpr named)
  · intro agree
    constructor
    · intro u member f live
      rcases Option.isSome_iff_exists.mp member with ⟨user, foundUser⟩
      rcases live with ⟨fiesta, found, live⟩
      rw [group_of_user foundUser, lists_of_fiesta found]
      exact agree.names u user foundUser f fiesta found live
    · intro u member f named
      rcases Option.isSome_iff_exists.mp member with ⟨user, found⟩
      exact agree.exist u user found f ((group_of_user found).mp named)

/-- Nobody is an accepted participant of two live fiestas. -/
theorem Store.FiestasAgree.unique (agree : s.FiestasAgree) (exist : (s.user u).isSome)
    {g : FiestaId} {other : Fiesta} (found : s.fiesta f = some fiesta)
    (foundOther : s.fiesta g = some other) (live : fiesta.Live) (liveOther : other.Live)
    (accepts : fiesta.Accepts u) (acceptsOther : other.Accepts u) : f = g := by
  apply (roster_agree_iff.mpr agree).unique exist
  · exact (live_of_fiesta found).mpr live
  · exact (live_of_fiesta foundOther).mpr liveOther
  · exact (lists_of_fiesta found).mpr accepts
  · exact (lists_of_fiesta foundOther).mpr acceptsOther

/-! ## What a write does to the roster -/

theorem roster_addNotification (n : Notification) : (s.addNotification u n).roster = s.roster :=
  rfl

/-- The write of its fiesta assigns a user to a group. -/
theorem roster_setFiesta (exist : (s.user u).isSome) (o : Stored FiestaId) :
    (s.updateUser u (·.setFiesta o)).roster = s.roster.assign (· = u) o.get? := by
  unfold Store.roster Roster.assign
  simp only [Store.isSome_updateUser, Store.fiesta_updateUser]
  congr 1
  funext v
  rw [Store.user_updateUser]
  split
  case isTrue same =>
    rcases Option.isSome_iff_exists.mp exist with ⟨user, found⟩
    rw [same, found]
    rfl
  case isFalse => rfl

/-- A change of the participants is a new list. -/
theorem roster_updateFiesta (found : s.fiesta f = some fiesta) {g : Fiesta → Fiesta}
    (isEnd : (g fiesta).isEnd = fiesta.isEnd) :
    (s.updateFiesta f g).roster = s.roster.relist f (g fiesta).Accepts := by
  have live : (g fiesta).Live ↔ fiesta.Live := by
    unfold Fiesta.Live
    rw [isEnd]
  unfold Store.roster Roster.relist
  simp only [Store.user_updateFiesta, Store.fiesta_updateFiesta]
  congr 1
  · funext e
    by_cases same : e = f
    · simp [same, found]
    · simp [same]
  · funext e
    by_cases same : e = f
    · simp [same, found, live]
    · simp [same]
  · funext e v
    by_cases same : e = f
    · simp [same, found]
    · simp [same]

/-- A deletion drops the list. -/
theorem roster_deleteFiesta : (s.deleteFiesta f).roster = s.roster.drop f := by
  unfold Store.roster Roster.drop
  simp only [Store.user_deleteFiesta, Store.fiesta_deleteFiesta]
  congr 1
  · funext e
    by_cases same : e = f
    · simp [same]
    · simp [same]
  · funext e
    by_cases same : e = f
    · simp [same]
    · simp [same]
  · funext e v
    by_cases same : e = f
    · simp [same]
    · simp [same]

end Roster

/-! ## What each function does to the roster -/

section Functions

variable {s t : Store} {f : FiestaId} {fiesta : Fiesta} {e : Participant} {u v : UserId}

/-- An entry that is added may accept its persons. -/
theorem accepts_union : (fiesta.union e).Accepts v ↔
    fiesta.Accepts v ∨ (e.status = .accepted ∧ e.Has v) := by
  unfold Fiesta.Accepts Fiesta.union
  simp only [mem_arrayUnion, or_and_right, exists_or, exists_eq_left]

/-- Who has another accepted entry stays accepted. -/
theorem accepts_remove : (fiesta.remove e).Accepts v ↔
    ∃ e' ∈ fiesta.participants, e' ≠ e ∧ e'.status = .accepted ∧ e'.Has v := by
  unfold Fiesta.Accepts Fiesta.remove
  simp only [mem_arrayRemove, and_assoc]

/-- An entry that is not accepted makes nobody a participant. -/
theorem accepts_remove_of_not (other : e.status ≠ .accepted) :
    (fiesta.remove e).Accepts v ↔ fiesta.Accepts v := by
  rw [accepts_remove]
  apply exists_congr
  intro e'
  apply and_congr_right
  intro _
  apply and_iff_right_of_imp
  intro accepted same
  exact other (same ▸ accepted.1)

/-- The two array writes and the two field writes of an acceptance. -/
theorem roster_accept (found : s.fiesta f = some fiesta) (exist : (s.user u).isSome)
    (existDuo : (s.user v).isSome) :
    (s.acceptPair f u v).roster =
      (s.roster.assign (fun w => w = u ∨ w = v) (some f)).relist f
        fun w => fiesta.Accepts w ∨ w = u ∨ w = v := by
  have removed : (s.updateFiesta f (·.remove ⟨u, some v, .pending⟩)).fiesta f =
      some (fiesta.remove ⟨u, some v, .pending⟩) := by
    simp [found]
  unfold Store.acceptPair
  rw [roster_setFiesta (by rwa [Store.isSome_updateUser]),
    roster_setFiesta (by simpa using exist), Roster.assign_assign,
    roster_updateFiesta removed rfl, roster_updateFiesta found rfl, Roster.relist_relist,
    Roster.assign_relist]
  congr 1
  funext w
  rw [accepts_union, accepts_remove_of_not (by simp)]
  simp only [Participant.Has, Option.some.injEq, true_and, eq_comm]

/-- An acceptance assigns the two to the fiesta, and lists them there. -/
theorem FiestaController.acceptUserInFiesta_roster
    (run : (FiestaController.acceptUserInFiesta f u v).exec s = (.ok (), t)) :
    ∃ fiesta, s.fiesta f = some fiesta ∧ (s.user u).isSome ∧ (s.user v).isSome ∧
      t.roster = (s.roster.assign (fun w => w = u ∨ w = v) (some f)).relist f
        fun w => fiesta.Accepts w ∨ w = u ∨ w = v := by
  rcases FiestaController.acceptUserInFiesta_ok run with ⟨exist, existUser, existDuo, rfl⟩
  rcases Option.isSome_iff_exists.mp exist with ⟨fiesta, found⟩
  exact ⟨fiesta, found, existUser, existDuo, roster_accept found existUser existDuo⟩

/-- The same for the callable. -/
theorem acceptUserInFiesta_roster {o : Option UserId} {b : Bool}
    (run : (acceptUserInFiesta f u o).exec s = (.ok b, t)) :
    ∃ fiesta v, s.fiesta f = some fiesta ∧ o = some v ∧ (s.user u).isSome ∧
      (s.user v).isSome ∧
      t.roster = (s.roster.assign (fun w => w = u ∨ w = v) (some f)).relist f
        fun w => fiesta.Accepts w ∨ w = u ∨ w = v := by
  rcases acceptUserInFiesta_ok run with ⟨v, duoRef, exist, existUser, existDuo, rfl⟩
  rcases Option.isSome_iff_exists.mp exist with ⟨fiesta, found⟩
  exact ⟨fiesta, v, found, duoRef, existUser, existDuo, roster_accept found existUser existDuo⟩

/-- A join changes the list of the fiesta only. -/
theorem joinFiesta_roster {w : UserId} {o : Option UserId} {status : Status}
    (run : (joinFiesta w f u o status).exec s = (.ok (), t)) :
    ∃ fiesta, s.fiesta f = some fiesta ∧
      t.roster = s.roster.relist f (fiesta.union ⟨u, o, status⟩).Accepts := by
  rcases joinFiesta_ok run with ⟨fiesta, n, found, rfl⟩
  refine ⟨fiesta, found, ?_⟩
  rw [roster_addNotification, roster_updateFiesta found rfl]

/-- A refusal leaves the list as it is. -/
theorem FiestaController.refuseUserInFiesta_roster
    (run : (FiestaController.refuseUserInFiesta f u v).exec s = (.ok (), t)) :
    ∃ fiesta, s.fiesta f = some fiesta ∧ t.roster = s.roster.relist f fiesta.Accepts := by
  rcases updateFiesta_ok run with ⟨exist, rfl⟩
  rcases Option.isSome_iff_exists.mp exist with ⟨fiesta, found⟩
  refine ⟨fiesta, found, ?_⟩
  rw [roster_updateFiesta found rfl]
  congr 1
  funext w
  rw [accepts_remove_of_not (by simp)]

/-- A removal assigns the two to no fiesta, and takes their entry off the list. -/
theorem FiestaController.deleteUserInFiesta_roster
    (run : (FiestaController.deleteUserInFiesta f u v).exec s = (.ok (), t)) :
    ∃ fiesta, s.fiesta f = some fiesta ∧ (s.user u).isSome ∧ (s.user v).isSome ∧
      t.roster = (s.roster.assign (fun w => w = u ∨ w = v) none).relist f
        (fiesta.remove ⟨u, some v, .accepted⟩).Accepts := by
  rcases FiestaController.deleteUserInFiesta_ok run with ⟨exist, existUser, existDuo, rfl⟩
  rcases Option.isSome_iff_exists.mp exist with ⟨fiesta, found⟩
  refine ⟨fiesta, found, existUser, existDuo, ?_⟩
  rw [roster_setFiesta (by rwa [Store.isSome_updateUser]),
    roster_setFiesta (by simpa using existUser), Roster.assign_assign,
    roster_updateFiesta found rfl, Roster.assign_relist]
  rfl

/-! ### The cancelled fiesta -/

/-- The body of the loop clears the field of both persons of an accepted entry. -/
theorem clearParticipant_roster (run : (clearParticipant fiesta e).exec s = (.ok (), t)) :
    t.roster = s.roster.assign (fun w => e.status = .accepted ∧ e.Has w) none := by
  unfold clearParticipant at run
  split at run
  case isTrue accepted =>
    rcases Program.exec_bind_ok run with ⟨_, _, user, run⟩
    rcases getUser_ok user with ⟨-, rfl⟩
    rcases Program.exec_bind_ok run with ⟨_, _, update, run⟩
    rcases updateUser_ok update with ⟨existUser, rfl⟩
    rcases Program.exec_bind_ok run with ⟨_, _, note, run⟩
    rcases addNotification_ok note with rfl
    rcases Program.exec_bind_ok run with ⟨v, _, second, run⟩
    rcases docOf_ok second with ⟨duoRef, rfl⟩
    rcases Program.exec_bind_ok run with ⟨_, _, duo, run⟩
    rcases getUser_ok duo with ⟨-, rfl⟩
    rcases Program.exec_bind_ok run with ⟨_, _, update, run⟩
    rcases updateUser_ok update with ⟨existDuo, rfl⟩
    rcases Program.exec_bind_ok run with ⟨_, _, note, run⟩
    rcases addNotification_ok note with rfl
    rcases Program.exec_bind_ok run with ⟨_, _, data, run⟩
    rcases member_ok data with ⟨-, rfl⟩
    rcases Program.exec_bind_ok run with ⟨_, _, push, run⟩
    rcases pushUnlessEmpty_ok push with rfl
    rcases Program.exec_bind_ok run with ⟨_, _, data, run⟩
    rcases member_ok data with ⟨-, rfl⟩
    rcases pushUnlessNull_ok run with rfl
    rw [roster_addNotification, roster_setFiesta existDuo, roster_addNotification,
      roster_setFiesta existUser, Roster.assign_assign]
    congr 1
    funext w
    simp only [Participant.Has, duoRef, accepted, Option.some.injEq, true_and, eq_comm]
  case isFalse other =>
    cases run
    rw [Roster.assign_nobody]
    intro w touched
    exact other touched.1

/-- The history does not matter for the roster. -/
theorem deleteFromHistory_roster {w : UserId}
    (run : (deleteFromHistory w f).exec s = (.ok (), t)) : t.roster = s.roster := by
  rcases Program.exec_bind_ok run with ⟨docs, _, query, run⟩
  cases query
  split at run
  · cases run
    rfl
  · cases run
    rfl

/-- A deletion assigns the accepted users to no fiesta, and drops the list. -/
theorem deleteFiesta_roster {w : UserId} (run : (deleteFiesta w f).exec s = (.ok (), t)) :
    ∃ fiesta, s.fiesta f = some fiesta ∧
      t.roster = (s.roster.assign fiesta.Accepts none).drop f := by
  rcases Program.exec_bind_ok run with ⟨_, _, get, run⟩
  rcases getFiesta_ok get with ⟨rfl, rfl⟩
  rcases Program.exec_bind_ok run with ⟨fiesta, _, data, run⟩
  rcases member_ok data with ⟨found, rfl⟩
  rcases Program.exec_bind_ok run with ⟨_, cleared, loop, run⟩
  rcases Program.exec_bind_ok run with ⟨_, _, history, run⟩
  cases run
  refine ⟨fiesta, found, ?_⟩
  -- after a part of the loop, the persons of its accepted entries have no fiesta
  have clears : cleared.roster = s.roster.assign fiesta.Accepts none := by
    apply Program.exec_forEach_ok (P := fun past t => t.roster =
      s.roster.assign (fun v => ∃ e ∈ past, e.status = .accepted ∧ e.Has v) none) _ _ loop
    · rw [Roster.assign_nobody]
      intro v touched
      rcases touched with ⟨e, listed, -⟩
      cases listed
    · intro past e before after holds run
      rw [clearParticipant_roster run, holds, Roster.assign_assign]
      congr 1
      funext v
      simp only [List.mem_append, List.mem_singleton, or_and_right, exists_or, exists_eq_left]
  rw [roster_deleteFiesta, deleteFromHistory_roster history, clears]

end Functions

/-! ## Runs -/

/-- A call of one of the functions. `accept` is the cloud function, `acceptInApp` that of
the app. -/
inductive FiestaCall
  | join (userId : UserId) (fiestaId : FiestaId) (fiestaRef : UserId) (duoRef : Option UserId)
      (status : Status)
  | accept (fiestaId : FiestaId) (fiestaRef : UserId) (duoRef : Option UserId)
  | acceptInApp (fiestaId : FiestaId) (userRef duoRef : UserId)
  | refuse (fiestaId : FiestaId) (userRef duoRef : UserId)
  | remove (fiestaId : FiestaId) (userRef duoRef : UserId)
  | delete (userId : UserId) (fiestaId : FiestaId)

/-- No other live fiesta has accepted the user. -/
def Store.FreeFor (s : Store) (f : FiestaId) (u : UserId) : Prop :=
  ∀ doc ∈ s.fiestas.docs, doc.2.Live → doc.1 ≠ f → ¬ doc.2.Accepts u

instance (s : Store) (f : FiestaId) (u : UserId) : Decidable (s.FreeFor f u) :=
  inferInstanceAs (Decidable (∀ doc ∈ s.fiestas.docs, _))

namespace FiestaCall

def program : FiestaCall → Firestore Unit
  | .join userId fiestaId fiestaRef duoRef status =>
      joinFiesta userId fiestaId fiestaRef duoRef status
  | .accept fiestaId fiestaRef duoRef => do
      let _ ← acceptUserInFiesta fiestaId fiestaRef duoRef
  | .acceptInApp fiestaId userRef duoRef =>
      FiestaController.acceptUserInFiesta fiestaId userRef duoRef
  | .refuse fiestaId userRef duoRef =>
      FiestaController.refuseUserInFiesta fiestaId userRef duoRef
  | .remove fiestaId userRef duoRef =>
      FiestaController.deleteUserInFiesta fiestaId userRef duoRef
  | .delete userId fiestaId => deleteFiesta userId fiestaId

/-- The store after the call. -/
def step (s : Store) (call : FiestaCall) : Store :=
  (call.program.exec s).2

/-- The call runs to its end. -/
def Completed (s : Store) (call : FiestaCall) : Prop :=
  (call.program.exec s).1 = .ok ()

instance (s : Store) (call : FiestaCall) : Decidable (call.Completed s) :=
  inferInstanceAs (Decidable (_ = _))

/-- The call finds the users it writes where it can write them. -/
def Fits (s : Store) : FiestaCall → Prop
  | .join _ f u o status => ∀ fiesta ∈ s.fiesta f, fiesta.Live → status = .accepted →
      ∀ doc ∈ s.users.docs, (⟨u, o, status⟩ : Participant).Has doc.1 → fiesta.Accepts doc.1
  | .accept f u o => s.FreeFor f u ∧ ∀ v ∈ o, s.FreeFor f v
  | .acceptInApp f u v => s.FreeFor f u ∧ s.FreeFor f v
  | .refuse _ _ _ => True
  | .remove f u v => (s.FreeFor f u ∧ s.FreeFor f v) ∧
      ∀ fiesta ∈ s.fiesta f, fiesta.Live → ∀ e ∈ fiesta.participants,
        e.status = .accepted → e.Has u ∨ e.Has v → e = ⟨u, some v, .accepted⟩
  | .delete _ f => ∀ fiesta ∈ s.fiesta f, ∀ doc ∈ s.users.docs,
      (fiesta.Accepts doc.1 → s.FreeFor f doc.1) ∧
        (doc.2.fiesta = .value f → fiesta.Accepts doc.1)

instance (s : Store) : (call : FiestaCall) → Decidable (call.Fits s)
  | .join _ f u o status => inferInstanceAs (Decidable (∀ fiesta ∈ s.fiesta f,
      fiesta.Live → status = .accepted → ∀ doc ∈ s.users.docs,
        (⟨u, o, status⟩ : Participant).Has doc.1 → fiesta.Accepts doc.1))
  | .accept f u o => inferInstanceAs (Decidable (s.FreeFor f u ∧ ∀ v ∈ o, s.FreeFor f v))
  | .acceptInApp _ _ _ => inferInstanceAs (Decidable (_ ∧ _))
  | .refuse _ _ _ => .isTrue trivial
  | .remove f u v => inferInstanceAs (Decidable ((s.FreeFor f u ∧ s.FreeFor f v) ∧
      ∀ fiesta ∈ s.fiesta f, fiesta.Live → ∀ e ∈ fiesta.participants,
        e.status = .accepted → e.Has u ∨ e.Has v → e = ⟨u, some v, .accepted⟩))
  | .delete _ f => inferInstanceAs (Decidable (∀ fiesta ∈ s.fiesta f, ∀ doc ∈ s.users.docs,
      (fiesta.Accepts doc.1 → s.FreeFor f doc.1) ∧
        (doc.2.fiesta = .value f → fiesta.Accepts doc.1)))

/-- The entry that the call may add to a fiesta. -/
def Adds : FiestaCall → FiestaId → Participant → Prop
  | .join _ g u o status, f, e => f = g ∧ e = ⟨u, o, status⟩
  | .accept g u o, f, e => f = g ∧ e = ⟨u, o, .accepted⟩
  | .acceptInApp g u v, f, e => f = g ∧ e = ⟨u, some v, .accepted⟩
  | _, _, _ => False

/-- Every call adds the entries of its own kind only. -/
theorem acts (call : FiestaCall) : call.program.Makes (FiestaAct call.Adds) := by
  cases call with
  | join w g u o status => exact joinFiesta_acts w u o status ⟨rfl, rfl⟩
  | accept g u o => exact .bind (acceptUserInFiesta_acts u o ⟨rfl, rfl⟩) fun _ => .pure ()
  | acceptInApp g u v => exact FiestaController.acceptUserInFiesta_acts u v ⟨rfl, rfl⟩
  | refuse g u v => exact FiestaController.refuseUserInFiesta_acts u v
  | remove g u v => exact FiestaController.deleteUserInFiesta_acts u v
  | delete w g => exact deleteFiesta_acts w

/-- A completed call ends well with the store of its step. -/
theorem Completed.run {s : Store} {call : FiestaCall} (completed : call.Completed s) :
    call.program.exec s = (.ok (), call.step s) :=
  Prod.ext completed rfl

end FiestaCall

section Step

variable {s : Store} {f : FiestaId} {fiesta : Fiesta} {u v : UserId}

/-- A user is free for a fiesta if no other live list has it. -/
theorem freeFor_iff : s.FreeFor f u ↔ s.roster.Only f u := by
  constructor
  · intro free g live differ lists
    rcases live with ⟨fiesta, found, live⟩
    rw [lists_of_fiesta found] at lists
    exact free (g, fiesta) (Collection.mem_docs.mpr found) live differ lists
  · intro only doc listed live differ accepts
    have found : s.fiesta doc.1 = some doc.2 := Collection.mem_docs.mp listed
    exact only doc.1 ((live_of_fiesta found).mpr live) differ ((lists_of_fiesta found).mpr accepts)

/-- An operation that assigns the field of two existing users and relists `f`. -/
theorem agree_pair_iff (agree : s.FiestasAgree) (found : s.fiesta f = some fiesta)
    (exist : (s.user u).isSome) (existDuo : (s.user v).isSome) {o : Option FiestaId}
    (own : ∀ g, o = some g → g = f) {new : UserId → Prop}
    (others : ∀ w, w ≠ u → w ≠ v → (fiesta.Accepts w ↔ new w)) :
    ((s.roster.assign (fun w => w = u ∨ w = v) o).relist f new).Agree ↔
      (s.FreeFor f u ∧ s.FreeFor f v) ∧
        (fiesta.Live → (o = some f ↔ new u) ∧ (o = some f ↔ new v)) := by
  rw [Roster.agree_assign_relist_iff (roster_agree_iff.mpr agree) (by simp [Store.roster, found])
    own, freeFor_iff, freeFor_iff, live_of_fiesta found]
  constructor
  · intro fits
    rcases fits with ⟨only, list⟩
    refine ⟨⟨only u exist (.inl rfl), only v existDuo (.inr rfl)⟩, fun live => ?_⟩
    exact ⟨(list live u exist).1 (.inl rfl), (list live v existDuo).1 (.inr rfl)⟩
  · intro fits
    rcases fits with ⟨⟨onlyU, onlyV⟩, list⟩
    refine ⟨fun w _ touch => ?_, fun live w _ => ⟨fun touch => ?_, fun untouched => ?_⟩⟩
    · rcases touch with rfl | rfl
      · exact onlyU
      · exact onlyV
    · rcases touch with rfl | rfl
      · exact (list live).1
      · exact (list live).2
    · rw [lists_of_fiesta found]
      rw [not_or] at untouched
      exact others w untouched.1 untouched.2

/-- An acceptance of two existing users. -/
theorem agree_accept_iff (agree : s.FiestasAgree) (found : s.fiesta f = some fiesta)
    (exist : (s.user u).isSome) (existDuo : (s.user v).isSome) :
    ((s.roster.assign (fun w => w = u ∨ w = v) (some f)).relist f
        fun w => fiesta.Accepts w ∨ w = u ∨ w = v).Agree ↔ s.FreeFor f u ∧ s.FreeFor f v := by
  rw [agree_pair_iff agree found exist existDuo]
  · apply and_iff_left
    intro _
    simp
  · intro g given
    exact (Option.some.inj given).symm
  · intro w otherU otherV
    simp [otherU, otherV]

/-- A removal of two existing users. -/
theorem agree_remove_iff (agree : s.FiestasAgree) (found : s.fiesta f = some fiesta)
    (exist : (s.user u).isSome) (existDuo : (s.user v).isSome) :
    ((s.roster.assign (fun w => w = u ∨ w = v) none).relist f
        (fiesta.remove ⟨u, some v, .accepted⟩).Accepts).Agree ↔
      (s.FreeFor f u ∧ s.FreeFor f v) ∧
        (fiesta.Live → ∀ e ∈ fiesta.participants,
          e.status = .accepted → e.Has u ∨ e.Has v → e = ⟨u, some v, .accepted⟩) := by
  rw [agree_pair_iff agree found exist existDuo]
  · apply and_congr_right
    intro _
    apply imp_congr_right
    intro _
    simp only [reduceCtorEq, false_iff, accepts_remove]
    constructor
    · intro out e listed accepted has
      by_contra other
      rcases has with hasU | hasV
      · exact out.1 ⟨e, listed, other, accepted, hasU⟩
      · exact out.2 ⟨e, listed, other, accepted, hasV⟩
    · intro only
      constructor
      · intro left
        rcases left with ⟨e, listed, other, accepted, has⟩
        exact other (only e listed accepted (.inl has))
      · intro left
        rcases left with ⟨e, listed, other, accepted, has⟩
        exact other (only e listed accepted (.inr has))
  · intro g given
    cases given
  · intro w otherU otherV
    rw [accepts_remove]
    apply exists_congr
    intro e
    apply and_congr_right
    intro _
    symm
    apply and_iff_right_of_imp
    intro accepted same
    rw [same] at accepted
    rcases accepted.2 with own | duo
    · exact otherU own.symm
    · exact otherV (Option.some.inj duo).symm

/-- The end of a fiesta whose accepted participants leave it. -/
theorem agree_cancel_iff (agree : s.FiestasAgree) :
    ((s.roster.assign fiesta.Accepts none).drop f).Agree ↔
      ∀ doc ∈ s.users.docs, (fiesta.Accepts doc.1 → s.FreeFor f doc.1) ∧
        (doc.2.fiesta = .value f → fiesta.Accepts doc.1) := by
  rw [Roster.agree_assign_drop_iff (roster_agree_iff.mpr agree)]
  constructor
  · intro fits doc listed
    rcases fits with ⟨only, all⟩
    have found : s.user doc.1 = some doc.2 := Collection.mem_docs.mp listed
    have exist : s.roster.member doc.1 := by simp [Store.roster, found]
    refine ⟨fun accepts => freeFor_iff.mpr (only doc.1 exist accepts), fun named => ?_⟩
    exact all doc.1 exist ((group_of_user found).mpr named)
  · intro fits
    constructor
    · intro v exist accepts
      rcases Option.isSome_iff_exists.mp exist with ⟨user, found⟩
      exact freeFor_iff.mp ((fits (v, user) (Collection.mem_docs.mpr found)).1 accepts)
    · intro v exist named
      rcases Option.isSome_iff_exists.mp exist with ⟨user, found⟩
      rw [group_of_user found] at named
      exact (fits (v, user) (Collection.mem_docs.mpr found)).2 named

/-- A new entry of the fiesta. -/
theorem agree_join_iff (agree : s.FiestasAgree) (found : s.fiesta f = some fiesta)
    (e : Participant) :
    (s.roster.relist f (fiesta.union e).Accepts).Agree ↔
      (fiesta.Live → e.status = .accepted →
        ∀ doc ∈ s.users.docs, e.Has doc.1 → fiesta.Accepts doc.1) := by
  rw [Roster.agree_relist_iff (roster_agree_iff.mpr agree) (by simp [Store.roster, found]),
    live_of_fiesta found]
  apply imp_congr_right
  intro live
  constructor
  · intro same accepted doc listed has
    have exist : s.roster.member doc.1 := by
      simp [Store.roster, Store.user, Collection.mem_docs.mp listed]
    rw [← lists_of_fiesta found, same doc.1 exist, accepts_union]
    exact .inr ⟨accepted, has⟩
  · intro fits v exist
    rw [lists_of_fiesta found, accepts_union]
    constructor
    · exact .inl
    · intro either
      rcases either with before | ⟨accepted, has⟩
      · exact before
      · rcases Option.isSome_iff_exists.mp exist with ⟨user, foundUser⟩
        exact fits accepted (v, user) (Collection.mem_docs.mpr foundUser) has

/-- From a store where both sides agree, a completed call leads to such a store exactly when
it fits. -/
theorem FiestaCall.step_agrees_iff {call : FiestaCall} (agree : s.FiestasAgree)
    (completed : call.Completed s) : (call.step s).FiestasAgree ↔ call.Fits s := by
  have run := completed.run
  rw [← roster_agree_iff]
  cases call with
  | join w f u o status =>
      rcases joinFiesta_roster run with ⟨fiesta, found, after⟩
      rw [after, agree_join_iff agree found]
      simp only [Fits, found, Option.mem_def, Option.some.injEq, forall_eq']
  | accept f u o =>
      rcases Program.exec_bind_ok run with ⟨_, _, first, ends⟩
      rcases acceptUserInFiesta_roster first with
        ⟨fiesta, v, found, rfl, exist, existDuo, after⟩
      cases ends
      simp only [Fits, Option.mem_def, Option.some.injEq, forall_eq']
      exact after ▸ agree_accept_iff agree found exist existDuo
  | acceptInApp f u v =>
      rcases FiestaController.acceptUserInFiesta_roster run with
        ⟨fiesta, found, exist, existDuo, after⟩
      rw [after]
      exact agree_accept_iff agree found exist existDuo
  | refuse f u v =>
      rcases FiestaController.refuseUserInFiesta_roster run with ⟨fiesta, found, after⟩
      rw [after, Roster.agree_relist_iff (roster_agree_iff.mpr agree)
        (by simp [Store.roster, found])]
      refine ⟨fun _ => trivial, fun _ _ v _ => lists_of_fiesta found⟩
  | remove f u v =>
      rcases FiestaController.deleteUserInFiesta_roster run with
        ⟨fiesta, found, exist, existDuo, after⟩
      rw [after, agree_remove_iff agree found exist existDuo]
      simp only [Fits, found, Option.mem_def, Option.some.injEq, forall_eq']
  | delete w f =>
      rcases deleteFiesta_roster run with ⟨fiesta, found, after⟩
      rw [after, agree_cancel_iff agree]
      simp only [Fits, found, Option.mem_def, Option.some.injEq, forall_eq']

end Step

/-- **In a run of completed calls from a store where both sides agree, they agree in every
store exactly when every call fits.** -/
theorem membership_agrees_iff {s : Store} {calls : List FiestaCall} (start : s.FiestasAgree)
    (completed : Along FiestaCall.step FiestaCall.Completed s calls) :
    (∀ t, Reached FiestaCall.step s calls t → t.FiestasAgree) ↔
      Along FiestaCall.step FiestaCall.Fits s calls :=
  all_reached_iff_along (P := Store.FiestasAgree) (V := FiestaCall.Completed)
    (fun _ _ agree completed => FiestaCall.step_agrees_iff agree completed) start completed

/-! ## Two fiestas that accept the same users, and one after the other -/

def emptyFiesta : Fiesta where
  title := .undefined
  host := { id := "h" }
  hostRef := "h"
  endAt := .epoch
  isEnd := .value false
  visibleAfter := .undefined
  participants := []

/-- A host with two fiestas, and two users. -/
def twoFiestas : Store :=
  { Store.ofUsers ⟨[("h", {}), ("a", { profilImages := .value [] }), ("b", {})], by decide⟩ with
    fiestas := ⟨[("f", emptyFiesta), ("g", emptyFiesta)], by decide⟩ }

/-- `a` asks to join both fiestas with `b`, and both accept. -/
def acceptBoth : List FiestaCall :=
  [.join "a" "f" "a" (some "b") .pending, .join "a" "g" "a" (some "b") .pending,
    .accept "f" "a" (some "b"), .accept "g" "a" (some "b")]

theorem accepted_in_both :
    twoFiestas.FiestasAgree ∧
      Along FiestaCall.step FiestaCall.Completed twoFiestas acceptBoth ∧
      ¬ (run FiestaCall.step twoFiestas acceptBoth).FiestasAgree := by
  decide

/-- `a` leaves the first fiesta before the second one accepts, and that one is cancelled. -/
def oneThenOther : List FiestaCall :=
  [.join "a" "f" "a" (some "b") .pending, .join "a" "g" "a" (some "b") .pending,
    .accept "f" "a" (some "b"), .remove "f" "a" "b", .refuse "f" "a" "b",
    .acceptInApp "g" "a" "b", .delete "h" "g"]

theorem oneThenOther_agrees :
    ((run FiestaCall.step twoFiestas oneThenOther).fiesta "f").isSome ∧
      ∀ t, Reached FiestaCall.step twoFiestas oneThenOther t → t.FiestasAgree :=
  ⟨by decide, (membership_agrees_iff (by decide) (by decide)).mpr (by decide)⟩

end TwoGather
