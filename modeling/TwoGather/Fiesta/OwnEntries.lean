import TwoGather.Fiesta.Dismissal
import TwoGather.Fiesta.FailedJoins
import TwoGather.Fiesta.PendingOnly

/-!
# Fiestas of one's own in the list

The list of fiestas should leave out those that the user, or somebody whom the user has
blocked, is already in. Its filter asks for the field `userRef` of an entry, while all
writers name the first person `fiestaRef`; so it finds second persons only.

The calls that write entries never take the last entry of a second person away. So the list
hides all it should, in every store of a run, exactly when each call that adds an entry finds
the fiesta hidden from those who should not see it for its first person
(`own_hidden_iff`).
-/

namespace TwoGather

open Docs Requests

/-! ## What the list should hide -/

/-- A fiesta with this person in it is to be hidden from the user. -/
def User.Hides (data : User) (u w : UserId) : Prop :=
  w = u ∨ w ∈ data.bloquedUser.elems

instance (data : User) (u w : UserId) : Decidable (data.Hides u w) :=
  inferInstanceAs (Decidable (_ ∨ _))

/-- No fiesta in the list of a user has an entry of the user or of a user blocked by it. -/
def Store.HidesOwn (s : Store) (distance : GeoPoint → GeoPoint → Rat) : Prop :=
  ∀ u metadata f fiesta, s.returns distance u metadata (f, fiesta) →
    ∀ data ∈ s.user u, ∀ e ∈ fiesta.participants, ∀ w, e.Has w → ¬ data.Hides u w

/-- The same in terms of the documents: what no second person hides has no first person to hide. -/
def Store.FirstPersonsHidden (s : Store) : Prop :=
  ∀ u data, s.user u = some data → ∀ f fiesta, s.fiesta f = some fiesta →
    s.OpenTo u data f fiesta → ¬ fiesta.DuoHides u data →
      ∀ e ∈ fiesta.participants, ¬ data.Hides u e.fiestaRef

/-- The list hides one's own fiestas exactly if every first person is hidden. -/
theorem hidesOwn_iff {s : Store} {distance : GeoPoint → GeoPoint → Rat} :
    s.HidesOwn distance ↔ s.FirstPersonsHidden := by
  constructor
  · intro hides u data user f fiesta found isOpen shown e listed
    have returned : s.returns distance u none (f, fiesta) :=
      returns_iff.mpr ⟨by decide, data, user, found, shows_iff.mpr ⟨isOpen, shown⟩⟩
    exact hides u none f fiesta returned data user e listed e.fiestaRef (.inl rfl)
  · intro first u metadata f fiesta returned data user e listed w has
    obtain ⟨-, again, user', found, shows⟩ := returns_iff.mp returned
    rw [user'] at user
    cases user
    obtain ⟨isOpen, shown⟩ := shows_iff.mp shows
    rcases has with rfl | duo
    · exact first u data user' f fiesta found isOpen shown e listed
    · exact fun hidden => shown ⟨e, listed, w, duo, hidden⟩

/-! ## Calls that write entries -/

/-- The calls through which a user comes into the participants of a fiesta, and is accepted. -/
inductive JoinCall
  | acceptFiesta (userId : UserId) (fiestaId : FiestaId) (duo : Option UserId)
      (isWithSearch : Bool)
  | handleRequest (userId duoId : UserId) (fiestaId : FiestaId) (notifId : Nat)
      (accepted : Bool)
  | join (userId : UserId) (fiestaId : FiestaId) (fiestaRef : UserId) (duoRef : Option UserId)
      (status : Status)
  | acceptUser (fiestaId : FiestaId) (fiestaRef : UserId) (duoRef : Option UserId)
  | acceptUserInApp (fiestaId : FiestaId) (userRef duoRef : UserId)

namespace JoinCall

def program : JoinCall → Firestore Unit
  | .acceptFiesta u f duo isWithSearch => FiestaController.acceptFiesta u f duo isWithSearch
  | .handleRequest u d f k accepted => NotificationController.handleFiestaRequest u d f k accepted
  | .join w f u o status => joinFiesta w f u o status
  | .acceptUser f u o => do
      let _ ← TwoGather.acceptUserInFiesta f u o
  | .acceptUserInApp f u d => FiestaController.acceptUserInFiesta f u d

/-- The store after the call, whether it ends well or not. -/
def step (s : Store) (call : JoinCall) : Store :=
  (call.program.exec s).2

/-- The entry that the call adds, if it gets that far. -/
def adds (s : Store) : JoinCall → Option (FiestaId × Participant)
  | .acceptFiesta u f duo isWithSearch =>
      if isWithSearch = false ∧ (s.user u).isSome ∧ s.HostAnswers f then some (f, newEntry u duo)
      else none
  | .handleRequest u d f _ accepted =>
      if accepted = true ∧ s.HostAnswers f then some (f, ⟨u, some d, .pending⟩) else none
  | .join _ f u o status => if s.HostAnswers f then some (f, ⟨u, o, status⟩) else none
  | .acceptUser f u o => if (s.fiesta f).isSome then some (f, ⟨u, o, .accepted⟩) else none
  | .acceptUserInApp f u d =>
      if (s.fiesta f).isSome then some (f, ⟨u, some d, .accepted⟩) else none

end JoinCall

/-! ## What a call leaves -/

/-- The part of a user document that the list of fiestas reads. -/
def User.view (data : User) :
    Stored (List Friend) × Stored (List FiestaId) × Stored (List UserId) :=
  (data.friends, data.fiestaDismissed, data.bloquedUser)

/-- A fiesta without its entries. -/
def Fiesta.card (fiesta : Fiesta) : Fiesta :=
  { fiesta with participants := [] }

/-- The store has one more entry, or none more, and no second person is gone; for the list of
fiestas nothing else has changed. -/
structure Store.Enters (s t : Store) (new : Option (FiestaId × Participant)) : Prop where
  clock : t.clock = s.clock
  users : ∀ u, (t.user u).map User.view = (s.user u).map User.view
  fiestas : ∀ f, (t.fiesta f).map Fiesta.card = (s.fiesta f).map Fiesta.card
  listed : ∀ f, ∀ e ∈ t.entries f, e ∈ s.entries f ∨ new = some (f, e)
  added : ∀ x ∈ new, x.2 ∈ t.entries x.1
  duos : ∀ f, ∀ e ∈ s.entries f, ∀ d ∈ e.duoRef, ∃ e' ∈ t.entries f, e'.duoRef = some d

/-- The two databases have the same users and fiestas, and the same time. -/
structure Store.Quiet (s t : Store) : Prop where
  clock : t.clock = s.clock
  users : t.users = s.users
  fiestas : t.fiestas = s.fiestas

section Enters

variable {s t r : Store} {new : Option (FiestaId × Participant)}

theorem Store.Quiet.refl (s : Store) : s.Quiet s := ⟨rfl, rfl, rfl⟩

theorem Store.Quiet.trans (first : s.Quiet t) (second : t.Quiet r) : s.Quiet r where
  clock := second.clock.trans first.clock
  users := second.users.trans first.users
  fiestas := second.fiestas.trans first.fiestas

theorem Store.Enters.refl (s : Store) : s.Enters s none where
  clock := rfl
  users _ := rfl
  fiestas _ := rfl
  listed _ _ listed := .inl listed
  added _ none := nomatch none
  duos _ e listed _ duo := ⟨e, listed, duo⟩

/-- Requests that write neither users nor fiestas make no difference. -/
theorem Store.Enters.quiet (enters : s.Enters t new) (quiet : t.Quiet r) : s.Enters r new := by
  have user : ∀ u, r.user u = t.user u := fun u => by rw [Store.user, quiet.users]; rfl
  have fiesta : ∀ f, r.fiesta f = t.fiesta f := fun f => by rw [Store.fiesta, quiet.fiestas]; rfl
  have entries : ∀ f, r.entries f = t.entries f := fun f => by
    rw [Store.entries, fiesta]
    rfl
  exact {
    clock := quiet.clock.trans enters.clock
    users := fun u => by rw [user, enters.users]
    fiestas := fun f => by rw [fiesta, enters.fiestas]
    listed := fun f e listed => enters.listed f e (entries f ▸ listed)
    added := fun x isNew => entries x.1 ▸ enters.added x isNew
    duos := fun f e listed d duo => entries f ▸ enters.duos f e listed d duo }

/-- One step that adds nothing, and then the others. -/
theorem Store.Enters.trans (first : s.Enters t none) (second : t.Enters r new) :
    s.Enters r new where
  clock := second.clock.trans first.clock
  users u := (second.users u).trans (first.users u)
  fiestas f := (second.fiestas f).trans (first.fiestas f)
  listed f e listed := by
    rcases second.listed f e listed with before | isNew
    · exact (first.listed f e before).imp_right fun none => nomatch none
    · exact .inr isNew
  added := second.added
  duos f e listed d duo := by
    obtain ⟨e', listed', duo'⟩ := first.duos f e listed d duo
    exact second.duos f e' listed' d duo'

/-- An update that leaves the view of a user enters nobody. -/
theorem enters_updateUser (u : UserId) {g : User → User}
    (view : ∀ data, (g data).view = data.view) :
    s.Enters (s.updateUser u g) none where
  clock := rfl
  users v := by
    rw [Store.user_updateUser]
    split
    · rw [Option.map_map]
      exact congrArg (Option.map · (s.user v)) (funext view)
    · rfl
  fiestas _ := rfl
  listed _ _ listed := .inl listed
  added _ none := nomatch none
  duos _ e listed _ duo := ⟨e, listed, duo⟩

/-- A change in one fiesta. -/
theorem enters_updateFiesta {f : FiestaId} {g : Fiesta → Fiesta}
    (card : ∀ d, (g d).card = d.card)
    (listed : ∀ d, ∀ e ∈ (g d).participants, e ∈ d.participants ∨ new = some (f, e))
    (added : ∀ x ∈ new, x.1 = f ∧ (s.fiesta f).isSome ∧ ∀ d, x.2 ∈ (g d).participants)
    (duos : ∀ d, ∀ e ∈ d.participants, ∀ w ∈ e.duoRef,
      ∃ e' ∈ (g d).participants, e'.duoRef = some w) :
    s.Enters (s.updateFiesta f g) new where
  clock := rfl
  users _ := rfl
  fiestas h := by
    rw [Store.fiesta_updateFiesta]
    split
    · rw [Option.map_map]
      exact congrArg (Option.map · (s.fiesta h)) (funext card)
    · rfl
  listed h e member := by
    unfold Store.entries at member ⊢
    rw [Store.fiesta_updateFiesta] at member
    split at member
    case isTrue same =>
      subst same
      cases found : s.fiesta h with
      | none => simp [found] at member
      | some d =>
          rw [found] at member
          exact listed d e member
    case isFalse => exact .inl member
  added x isNew := by
    obtain ⟨rfl, exist, present⟩ := added x isNew
    obtain ⟨d, found⟩ := Option.isSome_iff_exists.mp exist
    simpa [Store.entries, found] using present d
  duos h e member w duo := by
    unfold Store.entries at member ⊢
    rw [Store.fiesta_updateFiesta]
    split
    case isTrue same =>
      subst same
      cases found : s.fiesta h with
      | none => simp [found] at member
      | some d =>
          rw [found] at member
          exact duos d e member w duo
    case isFalse => exact ⟨e, member, duo⟩

/-- Nor does the removal of a waiting entry. -/
theorem enters_removeWaiting (f : FiestaId) (o : Option UserId) :
    s.Enters (s.updateFiesta f (·.removeWaiting o)) none := by
  apply enters_updateFiesta
  · intro d
    cases o with
    | none => rfl
    | some w => rfl
  · intro d e listed
    cases o with
    | none => exact .inl listed
    | some w => exact .inl (mem_arrayRemove.mp listed).1
  · exact fun _ none => nomatch none
  · intro d e listed w duo
    cases o with
    | none => exact ⟨e, listed, duo⟩
    | some v =>
        -- the entry that goes has no second person
        have other : e ≠ ⟨v, none, .waiting⟩ := by
          intro same
          subst same
          cases duo
        exact ⟨e, mem_arrayRemove.mpr ⟨listed, other⟩, duo⟩

/-- The union enters its entry. -/
theorem enters_union {f : FiestaId} (exist : (s.fiesta f).isSome) (e : Participant) :
    s.Enters (s.updateFiesta f (·.union e)) (some (f, e)) := by
  apply enters_updateFiesta
  · exact fun _ => rfl
  · intro d e' listed
    rcases mem_arrayUnion.mp listed with old | rfl
    · exact .inl old
    · exact .inr rfl
  · intro x isNew
    cases isNew
    exact ⟨rfl, exist, fun d => mem_arrayUnion.mpr (.inr rfl)⟩
  · exact fun d e' listed w duo => ⟨e', mem_arrayUnion.mpr (.inl listed), duo⟩

/-- The accepted entry has the second person of the pending one. -/
theorem enters_acceptEntry {d : DuoEntry} (exist : (s.fiesta d.fiestaId).isSome) :
    s.Enters (s.acceptEntry d) (some (d.fiestaId, d.withStatus .accepted)) := by
  unfold Store.acceptEntry
  rw [Store.updateFiesta_updateFiesta]
  apply enters_updateFiesta
  · exact fun _ => rfl
  · intro fiesta e listed
    rcases mem_arrayUnion.mp listed with old | rfl
    · exact .inl (mem_arrayRemove.mp old).1
    · exact .inr rfl
  · intro x isNew
    cases isNew
    exact ⟨rfl, exist, fun fiesta => mem_arrayUnion.mpr (.inr rfl)⟩
  · intro fiesta e listed w duo
    by_cases same : e = d.withStatus .pending
    · subst same
      exact ⟨d.withStatus .accepted, mem_arrayUnion.mpr (.inr rfl), duo⟩
    · exact ⟨e, mem_arrayUnion.mpr (.inl (mem_arrayRemove.mpr ⟨listed, same⟩)), duo⟩

/-- An update of a user may follow. -/
theorem Store.Enters.updateUser (enters : s.Enters t new) (u : UserId) {g : User → User}
    (view : ∀ data, (g data).view = data.view) : s.Enters (t.updateUser u g) new where
  clock := enters.clock
  users v := ((enters_updateUser u view).users v).trans (enters.users v)
  fiestas := enters.fiestas
  listed := enters.listed
  added := enters.added
  duos := enters.duos

/-- The write of the fiesta of the duo may follow. -/
theorem Store.Enters.bringIn {d : DuoEntry} (enters : s.Enters t new) :
    s.Enters (t.bringIn d) new := by
  unfold Store.bringIn
  cases d.duoRef with
  | none => exact enters
  | some v =>
      dsimp only
      split
      · have first : s.Enters (t.updateUser d.fiestaRef (·.setFiesta (.value d.fiestaId))) new :=
          enters.updateUser _ fun _ => rfl
        exact first.updateUser v (g := (·.setFiesta (.value d.fiestaId))) fun _ => rfl
      · exact enters

end Enters

/-! ## What the calls leave -/

section Calls

variable {s t : Store} {f : FiestaId} {u w : UserId} {o : Option UserId}

/-- What follows the update in `joinFiesta` writes no user and no fiesta. -/
theorem tellHost_quiet (o : Option User) (host : UserId)
    (n : User → Stored (List String) → Timestamp → Notification) :
    (do
      let user ← member o
      let pictures ← defined user.profilImages
      addNotification host (n user pictures) : Firestore Unit).Keeps Store.Quiet := by
  apply Program.Keeps.bind (keeps_member o)
  intro user
  apply Program.Keeps.bind (keeps_defined _)
  intro pictures
  exact keeps_addNotification fun _ => ⟨rfl, rfl, rfl⟩

/-- A join enters its entry if the host can be told, and nobody otherwise. -/
theorem joinFiesta_enters (s : Store) (w : UserId) (f : FiestaId) (u : UserId) (o : Option UserId)
    (status : Status) : s.Enters ((joinFiesta w f u o status).exec s).2
      (if s.HostAnswers f then some (f, ⟨u, o, status⟩) else none) := by
  unfold joinFiesta
  cases found : s.fiesta f with
  | none =>
      have silent : ¬ s.HostAnswers f := by simp [Store.HostAnswers, found]
      simp [found, silent, Store.Enters.refl]
  | some fiesta =>
      have exist : (s.fiesta f).isSome := by simp [found]
      cases host : s.user fiesta.host.id with
      | none =>
          have silent : ¬ s.HostAnswers f := by simp [Store.HostAnswers, found, host]
          simp [found, host, silent, Store.Enters.refl]
      | some data =>
          have answers : s.HostAnswers f ↔ s.PassesUnlessNull data.fcmToken := by
            simp [Store.HostAnswers, found, host]
          by_cases passes : s.PassesUnlessNull data.fcmToken
          · rw [if_pos (answers.mpr passes)]
            have tail := (tellHost_quiet (s.user w) fiesta.host.id (joinNotification f u o)).exec
              .refl .trans (s.updateFiesta f (·.union ⟨u, o, status⟩))
            have quiet := (enters_union exist ⟨u, o, status⟩).quiet tail
            rw [Program.exec_bind, exec_getFiesta]
            dsimp only
            rw [found, Program.exec_bind, exec_member_some]
            dsimp only
            rw [Program.exec_bind, exec_getUser, host]
            dsimp only
            rw [Program.exec_bind, exec_member_some]
            dsimp only
            rw [Program.exec_bind, exec_pushUnlessNull, if_pos passes]
            dsimp only
            rw [Program.exec_bind, exec_getUser]
            dsimp only
            rw [Program.exec_bind, Program.exec_unawaited, exec_updateFiesta, if_pos exist]
            exact quiet
          · have silent : ¬ s.HostAnswers f := fun answer => passes (answers.mp answer)
            simp [found, host, exec_pushUnlessNull, passes, silent, Store.Enters.refl]

theorem keeps_docOf {R : Store → Store → Prop} (o : Option UserId) : (docOf o).Keeps R := by
  cases o with
  | none => exact .throw _
  | some u => exact .pure u

/-- The question to the duo changes no fiesta. -/
theorem requestADuoToGoFiesta_quiet :
    (requestADuoToGoFiesta u f o).Keeps Store.Quiet := by
  apply Program.Keeps.bind (.read .refl _)
  intro fiestaData
  apply Program.Keeps.bind (keeps_docOf o)
  intro duo
  apply Program.Keeps.bind (.read .refl _)
  intro userData
  apply Program.Keeps.bind (keeps_member userData)
  intro userData
  apply Program.Keeps.bind (keeps_member fiestaData)
  intro fiestaData
  apply Program.Keeps.bind (keeps_defined _)
  intro firstname
  apply Program.Keeps.bind (keeps_defined _)
  intro lastname
  apply Program.Keeps.bind (keeps_defined _)
  intro pictures
  exact keeps_addNotification fun _ => ⟨rfl, rfl, rfl⟩

/-- The two updates of the app, and the call. -/
theorem acceptFiesta_enters (isWithSearch : Bool) :
    s.Enters ((FiestaController.acceptFiesta u f o isWithSearch).exec s).2
      ((JoinCall.acceptFiesta u f o isWithSearch).adds s) := by
  unfold FiestaController.acceptFiesta JoinCall.adds
  cases user : s.user u with
  | none => simp [user, Store.updateUser_of_none user, Store.Enters.refl]
  | some data =>
      have asks : s.Enters (s.updateUser u (·.requestFiesta f)) none :=
        enters_updateUser u fun _ => rfl
      rw [Program.exec_bind, exec_updateUser, user]
      cases isWithSearch with
      | true => exact asks.quiet (requestADuoToGoFiesta_quiet.exec .refl .trans _)
      | false =>
          have joins := joinFiesta_enters (s.askedFor u f o) u f u o
            (if o.isNone then .waiting else .pending)
          simp only [hostAnswers_askedFor] at joins
          simp only [Option.isSome_some, if_true, Bool.false_eq_true, if_false, true_and]
          rw [Program.exec_bind, exec_updateFiesta]
          cases found : s.fiesta f with
          | none =>
              have silent : ¬ s.HostAnswers f := by simp [Store.HostAnswers, found]
              have missing : (s.updateUser u (·.requestFiesta f)).fiesta f = none := found
              simp only [silent, and_false, if_false, missing, Store.updateFiesta_of_none missing]
              exact asks
          | some fiesta =>
              have exist : ((s.updateUser u (·.requestFiesta f)).fiesta f).isSome := by simp [found]
              have present : (s.user u).isSome := by simp [user]
              simp only [exist, if_true, present, true_and]
              exact (asks.trans (enters_removeWaiting f o)).trans joins

/-- The answer of the friend, before the check that never passes. -/
theorem joinWithFriend_enters (s : Store) (u d : UserId) (f : FiestaId) :
    s.Enters ((joinWithFriend u d f).exec s).2
      (if s.HostAnswers f then some (f, ⟨u, some d, .pending⟩) else none) := by
  have joins :=
    joinFiesta_enters (s.updateFiesta f (·.removeWaiting (some d))) u f u (some d) .pending
  simp only [hostAnswers_removeWaiting] at joins
  unfold joinWithFriend
  rw [Program.exec_bind, exec_updateFiesta]
  cases found : s.fiesta f with
  | none =>
      have silent : ¬ s.HostAnswers f := by simp [Store.HostAnswers, found]
      rw [if_neg silent, Store.updateFiesta_of_none found]
      exact .refl s
  | some fiesta => exact (enters_removeWaiting f (some d)).trans joins

/-- An acceptance, by the app or the cloud. -/
theorem accept_enters (s : Store) (d : DuoEntry) :
    s.Enters (if (s.fiesta d.fiestaId).isSome then (s.acceptEntry d).bringIn d else s)
      (if (s.fiesta d.fiestaId).isSome then some (d.fiestaId, d.withStatus .accepted)
        else none) := by
  split
  case isTrue exist => exact (enters_acceptEntry exist).bringIn
  case isFalse => exact .refl s

/-- The same with the exception that follows. -/
theorem answerRequest_enters {m : Store} (marks : s.Enters m none)
    (same : m.HostAnswers f ↔ s.HostAnswers f) (u d : UserId) :
    s.Enters
      ((do
        joinWithFriend u d f
        throw .exception : Firestore Unit).exec m).2
      (if s.HostAnswers f then some (f, ⟨u, some d, .pending⟩) else none) := by
  have answers := joinWithFriend_enters m u d f
  simp only [same] at answers
  rw [Program.exec_bind]
  rcases run : (joinWithFriend u d f).exec m with ⟨outcome, t⟩
  rw [run] at answers
  cases outcome with
  | ok _ => exact marks.trans answers
  | error _ => exact marks.trans answers

/-- Each call enters the entry that it adds. -/
theorem JoinCall.step_enters (s : Store) (call : JoinCall) :
    s.Enters (call.step s) (call.adds s) := by
  cases call with
  | acceptFiesta u f duo isWithSearch => exact acceptFiesta_enters isWithSearch
  | handleRequest u d f k accepted =>
      have marks : s.Enters (s.updateNotification d k ({ · with isComplete := true })) none :=
        (Store.Enters.refl s).quiet ⟨rfl, rfl, rfl⟩
      unfold step program NotificationController.handleFiestaRequest adds
      rw [Program.exec_bind, exec_setNotificationAsComplete]
      cases accepted with
      | true =>
          simp only [true_and]
          exact answerRequest_enters marks .rfl u d
      | false => exact marks
  | join w f u o status => exact joinFiesta_enters s w f u o status
  | acceptUser f u o =>
      have left : ((JoinCall.acceptUser f u o).program.exec s).2 = _ :=
        (Program.exec_discard (acceptUserInFiesta f u o) () s).trans acceptUserInFiesta_store
      unfold step
      rw [left]
      exact accept_enters s ⟨f, u, o⟩
  | acceptUserInApp f u d =>
      have left : ((JoinCall.acceptUserInApp f u d).program.exec s).2 = _ :=
        FiestaController.acceptUserInFiesta_store
      unfold step
      rw [left]
      exact accept_enters s ⟨f, u, some d⟩

end Calls

/-! ## One call -/

section Step

variable {s t : Store} {u : UserId} {f : FiestaId} {data data' : User} {fiesta fiesta' : Fiesta}
  {new : Option (FiestaId × Participant)}

theorem exists_of_map_eq {α β : Type} {o o' : Option α} {h : α → β} (same : o'.map h = o.map h)
    {a : α} (found : o = some a) : ∃ b, o' = some b ∧ h b = h a := by
  rw [found, Option.map_some] at same
  exact Option.map_eq_some_iff.mp same

/-- Whom a fiesta is open to depends on its card only. -/
theorem opensTo_card (card : fiesta'.card = fiesta.card) (type : FriendType) :
    fiesta'.opensTo type = fiesta.opensTo type := by
  have plain : ∀ g : Fiesta, g.opensTo type = g.card.opensTo type := by
    intro g
    cases type with
    | connexion => rfl
    | fiestar => rfl
    | firstCircle => rfl
    | other _ => rfl
  rw [plain, card, ← plain]

/-- Whether a fiesta is open to a user does not depend on what a call changes. -/
theorem openTo_of_same (clock : t.clock = s.clock)
    (users : ∀ u, (t.user u).map User.view = (s.user u).map User.view)
    (view : data'.view = data.view) (card : fiesta'.card = fiesta.card)
    (isOpen : s.OpenTo u data f fiesta) :
    t.OpenTo u data' f fiesta' := by
  have dismissed : data'.fiestaDismissed = data.fiestaDismissed :=
    congrArg (fun v => v.2.1) view
  have ends : fiesta'.endAt = fiesta.endAt := by
    have same : fiesta'.card.endAt = fiesta.card.endAt := by rw [card]
    exact same
  have hostOf : fiesta'.host = fiesta.host := by
    have same : fiesta'.card.host = fiesta.card.host := by rw [card]
    exact same
  obtain ⟨active, shown, host, found, e, first, opens⟩ := isOpen
  obtain ⟨host', found', hostView⟩ := exists_of_map_eq (users fiesta.host.id) found
  have friends : host'.friends = host.friends := congrArg Prod.fst hostView
  refine ⟨?_, ?_, host', ?_, e, ?_, ?_⟩
  · rwa [clock, ends]
  · rwa [dismissed]
  · rwa [hostOf]
  · rwa [friends]
  · rwa [opensTo_card card]

/-- Whether a user is hidden depends on the view only. -/
theorem blocked_of_view (view : data'.view = data.view) (w : UserId) :
    data'.Hides u w ↔ data.Hides u w := by
  have blocked : data'.bloquedUser = data.bloquedUser := congrArg (fun v => v.2.2) view
  unfold User.Hides
  rw [blocked]

/-- Second persons stay, and only that of the new entry comes. -/
theorem duoHides_step_iff (enters : s.Enters t new) (view : data'.view = data.view)
    (found : s.fiesta f = some fiesta) (found' : t.fiesta f = some fiesta') :
    fiesta'.DuoHides u data' ↔
      fiesta.DuoHides u data ∨ ∃ e, new = some (f, e) ∧ ∃ d ∈ e.duoRef, data.Hides u d := by
  have entries := entries_of_fiesta found
  have entries' := entries_of_fiesta found'
  constructor
  · intro hides
    obtain ⟨e, listed, d, duo, hidden⟩ := hides
    rw [← entries'] at listed
    have was := (blocked_of_view view d).mp hidden
    rcases enters.listed f e listed with old | isNew
    · rw [entries] at old
      exact .inl ⟨e, old, d, duo, was⟩
    · exact .inr ⟨e, isNew, d, duo, was⟩
  · intro either
    rcases either with ⟨e, listed, d, duo, hidden⟩ | ⟨e, isNew, d, duo, hidden⟩
    · rw [← entries] at listed
      obtain ⟨e', listed', duo'⟩ := enters.duos f e listed d duo
      rw [entries'] at listed'
      exact ⟨e', listed', d, duo', (blocked_of_view view d).mpr hidden⟩
    · have listed := enters.added _ isNew
      rw [entries'] at listed
      exact ⟨e, listed, d, duo, (blocked_of_view view d).mpr hidden⟩

/-- If the list hides what it should, it still does after a call exactly when the entry that the
call adds is to be hidden from nobody who then finds the fiesta in the list. -/
theorem firstPersonsHidden_step_iff (hidden : s.FirstPersonsHidden) (enters : s.Enters t new) :
    t.FirstPersonsHidden ↔
      ∀ x ∈ new, ∀ u data, s.user u = some data → ∀ fiesta ∈ s.fiesta x.1,
        s.OpenTo u data x.1 fiesta → ¬ fiesta.DuoHides u data →
          (∃ d ∈ x.2.duoRef, data.Hides u d) ∨ ¬ data.Hides u x.2.fiestaRef := by
  constructor
  · intro after x isNew u data user fiesta found isOpen shown
    obtain ⟨data', user', view⟩ := exists_of_map_eq (enters.users u) user
    obtain ⟨fiesta', found', card⟩ := exists_of_map_eq (enters.fiestas x.1) found
    have isOpen' := openTo_of_same enters.clock enters.users view card isOpen
    have listed := enters.added x isNew
    rw [entries_of_fiesta found'] at listed
    by_contra neither
    obtain ⟨noDuo, first⟩ := not_or.mp neither
    have shown' : ¬ fiesta'.DuoHides u data' := by
      rw [duoHides_step_iff enters view found found']
      intro either
      rcases either with old | ⟨e, same, duo⟩
      · exact shown old
      · rw [isNew] at same
        have entry : x.2 = e := congrArg Prod.snd (Option.some.inj same)
        rw [← entry] at duo
        exact noDuo duo
    refine after u data' user' x.1 fiesta' found' isOpen' shown' x.2 listed ?_
    exact (blocked_of_view view _).mpr (not_not.mp first)
  · intro fits u data' user' f fiesta' found' isOpen' shown' e listed hides
    obtain ⟨data, user, view⟩ := exists_of_map_eq (enters.users u).symm user'
    obtain ⟨fiesta, found, card⟩ := exists_of_map_eq (enters.fiestas f).symm found'
    have isOpen :=
      openTo_of_same enters.clock.symm (fun u => (enters.users u).symm) view card isOpen'
    rw [duoHides_step_iff enters view.symm found found'] at shown'
    obtain ⟨shown, noDuo⟩ := not_or.mp shown'
    have was := (blocked_of_view view _).mpr hides
    rw [← entries_of_fiesta found'] at listed
    rcases enters.listed f e listed with old | isNew
    · rw [entries_of_fiesta found] at old
      exact hidden u data user f fiesta found isOpen shown e old was
    · rcases fits (f, e) isNew u data user fiesta found isOpen shown with duo | notFirst
      · exact noDuo ⟨e, isNew, duo⟩
      · exact notFirst was

end Step

/-! ## Runs -/

/-- The entry that the call adds is to be hidden from nobody to whom the fiesta is shown, or its
second person hides it. -/
def JoinCall.Fits (s : Store) (call : JoinCall) : Prop :=
  ∀ x ∈ call.adds s, ∀ doc ∈ s.users.docs, ∀ fiesta ∈ s.fiesta x.1,
    s.OpenTo doc.1 doc.2 x.1 fiesta → ¬ fiesta.DuoHides doc.1 doc.2 →
      (∃ d ∈ x.2.duoRef, doc.2.Hides doc.1 d) ∨ ¬ doc.2.Hides doc.1 x.2.fiestaRef

instance (s : Store) (call : JoinCall) : Decidable (call.Fits s) :=
  inferInstanceAs (Decidable (∀ x ∈ call.adds s, _))

section Run

variable {s : Store} {distance : GeoPoint → GeoPoint → Rat}

/-- From a store that hides them, a call leads to one that does exactly if it fits. -/
theorem JoinCall.step_hidesOwn_iff {call : JoinCall} (hidden : s.HidesOwn distance) :
    (call.step s).HidesOwn distance ↔ call.Fits s := by
  rw [hidesOwn_iff] at hidden ⊢
  rw [firstPersonsHidden_step_iff hidden (call.step_enters s)]
  unfold Fits
  apply forall_congr'
  intro x
  apply imp_congr_right
  intro _
  exact Store.forall_user (P := fun u data => ∀ fiesta ∈ s.fiesta x.1,
    s.OpenTo u data x.1 fiesta → ¬ fiesta.DuoHides u data →
      (∃ d ∈ x.2.duoRef, data.Hides u d) ∨ ¬ data.Hides u x.2.fiestaRef)

/-- **In a run from a store whose lists hide the fiestas of the user and of blocked users, they
do so in every store exactly when every call adds an entry whose first person needs no hiding
from those who find the fiesta in their list.** -/
theorem own_hidden_iff {calls : List JoinCall} (start : s.HidesOwn distance) :
    (∀ t, Reached JoinCall.step s calls t → t.HidesOwn distance) ↔
      Along JoinCall.step (fun t call => call.Fits t) s calls :=
  all_reached_iff_along (P := fun t => t.HidesOwn distance) (V := fun _ _ => True)
    (fun _ _ hidden _ => JoinCall.step_hidesOwn_iff hidden) start (.trivial s calls)

/-- Without participants there is nothing to hide. -/
theorem hidesOwn_of_empty (empty : ∀ doc ∈ s.fiestas.docs, doc.2.participants = []) :
    s.HidesOwn distance := by
  rw [hidesOwn_iff]
  intro u data _ f fiesta found _ _ e listed
  rw [empty (f, fiesta) (Collection.mem_docs.mpr found)] at listed
  cases listed

end Run

/-! ## A fiesta that one has asked to join -/

/-- `v` asks to come alone to a fiesta of a friend, and finds it in the list again. -/
theorem asked_stillListed :
    ¬ (run JoinCall.step openFiesta [.acceptFiesta "v" "f" none false]).HidesOwn fun _ _ => 0 := by
  rw [hidesOwn_iff]
  intro hidden
  exact hidden "v" { profilImages := .value [], requestedFiesta := .value ["f"] } (by decide) "f" _
    rfl (by decide) (by decide) ⟨"v", none, .waiting⟩ (by decide) (.inl rfl)

/-- `w`, who is no friend of the host, asks to come with `v`. -/
def askedWithDuo : List JoinCall :=
  [.join "w" "f" "w" (some "v") .pending, .acceptUser "f" "w" (some "v")]

theorem askedWithDuo_hidden :
    (run JoinCall.step openFiesta askedWithDuo).entries "f" = [⟨"w", some "v", .accepted⟩] ∧
      ∀ t, Reached JoinCall.step openFiesta askedWithDuo t → t.HidesOwn fun _ _ => 0 :=
  ⟨by decide, (own_hidden_iff (hidesOwn_of_empty (by decide))).mpr (by decide)⟩

end TwoGather
