import TwoGather.Store

/-!
# Fiestas and their participants

The functions that change who takes part in a fiesta: `fiesta_controller.dart` and the
cloud functions `joinFiesta`, `acceptUserInFiesta` and `deleteFiesta`. Whoever takes part
is an entry with status `accepted` in the `participants` array of the fiesta, and has the
id of the fiesta in the field `fiesta` of its user document.

The functions of the app have the namespace `FiestaController`; those without are the
cloud functions.
-/

namespace TwoGather

open Docs Requests

/-! ## Writes -/

def User.setFiesta (u : User) (fiesta : Stored FiestaId) : User :=
  { u with fiesta }

def Fiesta.union (f : Fiesta) (e : Participant) : Fiesta :=
  { f with participants := arrayUnion f.participants e }

def Fiesta.remove (f : Fiesta) (e : Participant) : Fiesta :=
  { f with participants := arrayRemove f.participants e }

/-- `users.doc(duoRef)`: no document has the path `null`. -/
def docOf : Option UserId → Firestore UserId
  | some u => pure u
  | none => throw .invalidArgument

/-- The created-fiesta documents of the user for this fiesta, in query order. -/
def createdFiestaQuery (userId : UserId) (fiestaId : FiestaId) :
    Firestore (List (Nat × CreatedFiesta)) :=
  .read fun s => (s.createdFiesta userId).docs.filter fun doc => doc.2.fiestaId = fiestaId

def deleteCreatedFiesta (userId : UserId) (key : Nat) : Firestore Unit :=
  .step
    (fun s =>
      { s with
        createdFiesta :=
          Function.update s.createdFiesta userId ((s.createdFiesta userId).delete key) })
    fun _ => pure ()

/-! ## Messages -/

/-- `${text}`. -/
def template : Stored String → String
  | .undefined => "undefined"
  | .null => "null"
  | .value text => text

/-- The sender of the messages of the app itself. -/
def fiestaFamily : NotificationUser where
  id := "B8drnR5SpphFShASN2rGoQJFGL32"
  firstname := .value "FiestaFamily"
  lastname := .value ""
  pictures := .value
    ["https://firebasestorage.googleapis.com/v0/b/fiesta-9f99b.appspot.com/o/users%2FB8drnR5SpphFShASN2rGoQJFGL32%2Fprofil%2Fimage_picker_33926E71-337A-433B-9DFD-22747FD35170-79617-0000115A569364AA.png?alt=media&token=8e68aae1-8c80-4922-8eab-6ea1f9bf9b92"]

/-- A push to a token that is neither `undefined` nor `null`. -/
def pushUnlessNull (token : Stored String) : Firestore Unit :=
  if token ≠ .undefined ∧ token ≠ .null then sendMulticast token else pure ()

/-- The same with a check against the empty string in place of `null`. -/
def pushUnlessEmpty (token : Stored String) : Firestore Unit :=
  if token ≠ .undefined ∧ token ≠ .value "" then sendMulticast token else pure ()

/-! ## `join_fiesta.ts` -/

def joinMessage (user : User) : Option UserId → String
  | some _ => "Souhaite rejoindre ta Fiesta avec son lock Duo."
  | none =>
      "Souhaite rejoindre ta Fiesta en Duo Classique, veuillez choisir un duo pour " ++
        template user.firstname ++ "."

def joinNotification (fiestaId : FiestaId) (fiestaRef : UserId) (duoRef : Option UserId)
    (user : User) (pictures : Stored (List String)) (receivedAt : Timestamp) :
    Notification where
  notificationType := .handleFiestaConfirmation
  isComplete := false
  isRead := false
  message := joinMessage user duoRef
  notificationUser :=
    { id := fiestaRef
      firstname := .value (template user.firstname ++ " " ++ template user.lastname)
      lastname := .value ""
      pictures }
  metadata := { fiestaId := .value fiestaId }
  receivedAt

def joinFiesta (userId : UserId) (fiestaId : FiestaId) (fiestaRef : UserId)
    (duoRef : Option UserId) (status : Status) : Firestore Unit := do
  let fiestaData ← getFiesta fiestaId
  let fiestaData ← member fiestaData
  let hostData ← getUser fiestaData.host.id
  let hostData ← member hostData
  pushUnlessNull hostData.fcmToken
  let user ← getUser userId
  Program.unawaited (updateFiesta fiestaId (·.union { fiestaRef, duoRef, status }))
  let user ← member user
  let pictures ← defined user.profilImages
  addNotification fiestaData.host.id
    (joinNotification fiestaId fiestaRef duoRef user pictures)

/-! ## `accept_user_in_fiesta.ts` -/

def acceptUserInFiesta (fiestaId : FiestaId) (fiestaRef : UserId) (duoRef : Option UserId) :
    Firestore Bool := do
  let _ ← getFiesta fiestaId
  updateFiesta fiestaId (·.remove { fiestaRef, duoRef, status := .pending })
  updateFiesta fiestaId (·.union { fiestaRef, duoRef, status := .accepted })
  let fUserData ← getUser fiestaRef
  let secondUser ← docOf duoRef
  let sUserData ← getUser secondUser
  updateUser fiestaRef (·.setFiesta (.value fiestaId))
  updateUser secondUser (·.setFiesta (.value fiestaId))
  let fUserData ← member fUserData
  pushUnlessNull fUserData.fcmToken
  let sUserData ← member sUserData
  pushUnlessNull sUserData.fcmToken
  return true

/-! ## `delete_fiesta.ts` -/

def cancelNotification (fiestaData : Fiesta) (receivedAt : Timestamp) : Notification where
  notificationType := .message
  isComplete := false
  isRead := false
  message := "La Fiesta \"" ++ template fiestaData.title ++ "\" a été annulée."
  notificationUser := fiestaFamily
  receivedAt

/-- The body of the loop over the participants. -/
def clearParticipant (fiestaData : Fiesta) (user : Participant) : Firestore Unit := do
  if user.status = .accepted then
    let userData ← getUser user.fiestaRef
    updateUser user.fiestaRef (·.setFiesta .null)
    addNotification user.fiestaRef (cancelNotification fiestaData)
    let duoRef ← docOf user.duoRef
    let duoData ← getUser duoRef
    updateUser duoRef (·.setFiesta .null)
    addNotification duoRef (cancelNotification fiestaData)
    let userData ← member userData
    pushUnlessEmpty userData.fcmToken
    let duoData ← member duoData
    pushUnlessNull duoData.fcmToken

/-- The deletion from the history of the host. -/
def deleteFromHistory (userId : UserId) (fiestaId : FiestaId) : Firestore Unit := do
  let docs ← createdFiestaQuery userId fiestaId
  match docs with
  | [] => pure ()
  | doc :: _ => deleteCreatedFiesta userId doc.1

def deleteFiesta (userId : UserId) (fiestaId : FiestaId) : Firestore Unit := do
  let fiestaData ← getFiesta fiestaId
  let fiestaData ← member fiestaData
  Program.forEach fiestaData.participants (clearParticipant fiestaData)
  deleteFromHistory userId fiestaId
  deleteFiestaDoc fiestaId

/-! ## `fiesta_controller.dart` -/

namespace FiestaController

def refuseUserInFiesta (fiestaId : FiestaId) (userRef duoRef : UserId) : Firestore Unit :=
  updateFiesta fiestaId
    (·.remove { fiestaRef := userRef, duoRef := some duoRef, status := .pending })

def deleteUserInFiesta (fiestaId : FiestaId) (userRef duoRef : UserId) : Firestore Unit := do
  updateFiesta fiestaId
    (·.remove { fiestaRef := userRef, duoRef := some duoRef, status := .accepted })
  updateUser userRef (·.setFiesta .null)
  updateUser duoRef (·.setFiesta .null)

def acceptUserInFiesta (fiestaId : FiestaId) (userRef duoRef : UserId) : Firestore Unit := do
  updateFiesta fiestaId
    (·.remove { fiestaRef := userRef, duoRef := some duoRef, status := .pending })
  updateFiesta fiestaId
    (·.union { fiestaRef := userRef, duoRef := some duoRef, status := .accepted })
  updateUser userRef (·.setFiesta (.value fiestaId))
  updateUser duoRef (·.setFiesta (.value fiestaId))

end FiestaController

/-! ## Pushes -/

/-- No push is sent to the token, or the call resolves. -/
def Store.PassesUnlessNull (s : Store) (token : Stored String) : Prop :=
  token ≠ .undefined ∧ token ≠ .null → s.push token = true

instance (s : Store) (token : Stored String) : Decidable (s.PassesUnlessNull token) :=
  inferInstanceAs (Decidable (_ → _))

/-- The same for the other check. -/
def Store.PassesUnlessEmpty (s : Store) (token : Stored String) : Prop :=
  token ≠ .undefined ∧ token ≠ .value "" → s.push token = true

instance (s : Store) (token : Stored String) : Decidable (s.PassesUnlessEmpty token) :=
  inferInstanceAs (Decidable (_ → _))

/-- Where only null is tested, the push may throw for another token. -/
theorem exec_pushUnlessNull (s : Store) (token : Stored String) :
    (pushUnlessNull token).exec s =
      (if s.PassesUnlessNull token then .ok () else .error .messaging, s) := by
  unfold pushUnlessNull Store.PassesUnlessNull
  split
  case isTrue sent => simp [sent]
  case isFalse notSent => simp [notSent]

/-- Where the empty token is tested too, it is not sent either. -/
theorem exec_pushUnlessEmpty (s : Store) (token : Stored String) :
    (pushUnlessEmpty token).exec s =
      (if s.PassesUnlessEmpty token then .ok () else .error .messaging, s) := by
  unfold pushUnlessEmpty Store.PassesUnlessEmpty
  split
  case isTrue sent => simp [sent]
  case isFalse notSent => simp [notSent]

/-! ## Steps that succeed -/

section Ok

variable {s t : Store}

/-- There was an id. -/
theorem docOf_ok {o : Option UserId} {u : UserId} (run : (docOf o).exec s = (.ok u, t)) :
    o = some u ∧ s = t := by
  cases o with
  | none => cases run
  | some v =>
      cases run
      exact ⟨rfl, rfl⟩

/-- There was no push, or it resolved. -/
theorem pushUnlessNull_passes {token : Stored String} {a : Unit}
    (run : (pushUnlessNull token).exec s = (.ok a, t)) : s.PassesUnlessNull token ∧ s = t := by
  rw [exec_pushUnlessNull] at run
  split at run
  case isTrue passes => exact ⟨passes, congrArg Prod.snd run⟩
  case isFalse => cases run

/-- There was no push, or it resolved. -/
theorem pushUnlessEmpty_passes {token : Stored String} {a : Unit}
    (run : (pushUnlessEmpty token).exec s = (.ok a, t)) : s.PassesUnlessEmpty token ∧ s = t := by
  rw [exec_pushUnlessEmpty] at run
  split at run
  case isTrue passes => exact ⟨passes, congrArg Prod.snd run⟩
  case isFalse => cases run

theorem pushUnlessNull_ok {token : Stored String} {a : Unit}
    (run : (pushUnlessNull token).exec s = (.ok a, t)) : s = t :=
  (pushUnlessNull_passes run).2

theorem pushUnlessEmpty_ok {token : Stored String} {a : Unit}
    (run : (pushUnlessEmpty token).exec s = (.ok a, t)) : s = t :=
  (pushUnlessEmpty_passes run).2

/-! ### Whole calls -/

variable {f : FiestaId} {u v w : UserId} {o : Option UserId}

/-- A join that ends well adds its entry and tells the host. -/
theorem joinFiesta_ok {status : Status}
    (run : (joinFiesta w f u o status).exec s = (.ok (), t)) :
    ∃ fiesta n, s.fiesta f = some fiesta ∧
      t = (s.updateFiesta f (·.union ⟨u, o, status⟩)).addNotification fiesta.host.id n := by
  rcases Program.exec_bind_ok run with ⟨_, _, fiesta, run⟩
  rcases getFiesta_ok fiesta with ⟨rfl, rfl⟩
  rcases Program.exec_bind_ok run with ⟨fiesta, _, data, run⟩
  rcases member_ok data with ⟨found, rfl⟩
  rcases Program.exec_bind_ok run with ⟨_, _, host, run⟩
  rcases getUser_ok host with ⟨-, rfl⟩
  rcases Program.exec_bind_ok run with ⟨_, _, data, run⟩
  rcases member_ok data with ⟨-, rfl⟩
  rcases Program.exec_bind_ok run with ⟨_, _, push, run⟩
  rcases pushUnlessNull_ok push with rfl
  rcases Program.exec_bind_ok run with ⟨_, _, user, run⟩
  rcases getUser_ok user with ⟨-, rfl⟩
  rcases Program.exec_bind_ok run with ⟨_, _, union, run⟩
  rw [Program.exec_unawaited, exec_updateFiesta, found] at union
  rcases Prod.mk.inj union with ⟨-, rfl⟩
  rcases Program.exec_bind_ok run with ⟨_, _, data, run⟩
  rcases member_ok data with ⟨-, rfl⟩
  rcases Program.exec_bind_ok run with ⟨_, _, pictures, run⟩
  rcases defined_ok pictures with ⟨-, rfl⟩
  exact ⟨fiesta, _, found, addNotification_ok run⟩

/-- The store after the entry of `u` and `v` is accepted. -/
def Store.acceptPair (s : Store) (f : FiestaId) (u v : UserId) : Store :=
  (((s.updateFiesta f (·.remove ⟨u, some v, .pending⟩)).updateFiesta f
    (·.union ⟨u, some v, .accepted⟩)).updateUser u (·.setFiesta (.value f))).updateUser v
    (·.setFiesta (.value f))

/-- An acceptance that ended well found the fiesta and both users, and made all its writes. -/
theorem FiestaController.acceptUserInFiesta_ok
    (run : (FiestaController.acceptUserInFiesta f u v).exec s = (.ok (), t)) :
    (s.fiesta f).isSome ∧ (s.user u).isSome ∧ (s.user v).isSome ∧ t = s.acceptPair f u v := by
  rcases Program.exec_bind_ok run with ⟨_, _, remove, run⟩
  rcases updateFiesta_ok remove with ⟨exist, rfl⟩
  rcases Program.exec_bind_ok run with ⟨_, _, union, run⟩
  rcases updateFiesta_ok union with ⟨_, rfl⟩
  rcases Program.exec_bind_ok run with ⟨_, _, user, run⟩
  rcases updateUser_ok user with ⟨existUser, rfl⟩
  rcases updateUser_ok run with ⟨existDuo, rfl⟩
  rw [Store.isSome_updateUser] at existDuo
  exact ⟨exist, existUser, existDuo, rfl⟩

/-- The same for the callable. -/
theorem acceptUserInFiesta_ok {b : Bool}
    (run : (acceptUserInFiesta f u o).exec s = (.ok b, t)) :
    ∃ v, o = some v ∧ (s.fiesta f).isSome ∧ (s.user u).isSome ∧ (s.user v).isSome ∧
      t = s.acceptPair f u v := by
  rcases Program.exec_bind_ok run with ⟨_, _, fiesta, run⟩
  rcases getFiesta_ok fiesta with ⟨-, rfl⟩
  rcases Program.exec_bind_ok run with ⟨_, _, remove, run⟩
  rcases updateFiesta_ok remove with ⟨exist, rfl⟩
  rcases Program.exec_bind_ok run with ⟨_, _, union, run⟩
  rcases updateFiesta_ok union with ⟨_, rfl⟩
  rcases Program.exec_bind_ok run with ⟨_, _, fUser, run⟩
  rcases getUser_ok fUser with ⟨-, rfl⟩
  rcases Program.exec_bind_ok run with ⟨v, _, second, run⟩
  rcases docOf_ok second with ⟨rfl, rfl⟩
  rcases Program.exec_bind_ok run with ⟨_, _, sUser, run⟩
  rcases getUser_ok sUser with ⟨-, rfl⟩
  rcases Program.exec_bind_ok run with ⟨_, _, user, run⟩
  rcases updateUser_ok user with ⟨existUser, rfl⟩
  rcases Program.exec_bind_ok run with ⟨_, _, duo, run⟩
  rcases updateUser_ok duo with ⟨existDuo, rfl⟩
  -- what follows only sends pushes
  rcases Program.exec_bind_ok run with ⟨_, _, fData, run⟩
  rcases member_ok fData with ⟨-, rfl⟩
  rcases Program.exec_bind_ok run with ⟨_, _, push, run⟩
  rcases pushUnlessNull_ok push with rfl
  rcases Program.exec_bind_ok run with ⟨_, _, sData, run⟩
  rcases member_ok sData with ⟨-, rfl⟩
  rcases Program.exec_bind_ok run with ⟨_, _, push, run⟩
  rcases pushUnlessNull_ok push with rfl
  cases run
  rw [Store.isSome_updateUser] at existDuo
  exact ⟨v, rfl, exist, existUser, existDuo, rfl⟩

/-- A removal that ended well found the fiesta and both users, and made all its writes. -/
theorem FiestaController.deleteUserInFiesta_ok
    (run : (FiestaController.deleteUserInFiesta f u v).exec s = (.ok (), t)) :
    (s.fiesta f).isSome ∧ (s.user u).isSome ∧ (s.user v).isSome ∧
      t = ((s.updateFiesta f (·.remove ⟨u, some v, .accepted⟩)).updateUser u
        (·.setFiesta .null)).updateUser v (·.setFiesta .null) := by
  rcases Program.exec_bind_ok run with ⟨_, _, remove, run⟩
  rcases updateFiesta_ok remove with ⟨exist, rfl⟩
  rcases Program.exec_bind_ok run with ⟨_, _, user, run⟩
  rcases updateUser_ok user with ⟨existUser, rfl⟩
  rcases updateUser_ok run with ⟨existDuo, rfl⟩
  rw [Store.isSome_updateUser] at existDuo
  exact ⟨exist, existUser, existDuo, rfl⟩

end Ok

/-! ## What their requests do -/

section Keeps

variable {R : Store → Store → Prop}

theorem keeps_sendMulticast (refl : ∀ s, R s s) (token : Stored String) :
    (sendMulticast token).Keeps R := by
  intro s
  refine ⟨refl s, ?_⟩
  dsimp only
  split
  · exact .pure ()
  · exact .throw _

theorem keeps_pushUnlessNull (refl : ∀ s, R s s) (token : Stored String) :
    (pushUnlessNull token).Keeps R := by
  unfold pushUnlessNull
  split
  · exact keeps_sendMulticast refl token
  · exact .pure ()

theorem keeps_pushUnlessEmpty (refl : ∀ s, R s s) (token : Stored String) :
    (pushUnlessEmpty token).Keeps R := by
  unfold pushUnlessEmpty
  split
  · exact keeps_sendMulticast refl token
  · exact .pure ()

end Keeps

/-! ## What kind of requests they make -/

section Makes

variable {A : (Store → Store) → Prop}

theorem makes_docOf (o : Option UserId) : (docOf o).Makes A := by
  cases o with
  | none => exact .throw _
  | some u => exact .pure u

theorem makes_pushUnlessNull (reads : A id)
    (token : Stored String) : (pushUnlessNull token).Makes A := by
  unfold pushUnlessNull
  split
  · exact makes_sendMulticast reads token
  · exact .pure ()

theorem makes_pushUnlessEmpty (reads : A id)
    (token : Stored String) : (pushUnlessEmpty token).Makes A := by
  unfold pushUnlessEmpty
  split
  · exact makes_sendMulticast reads token
  · exact .pure ()

end Makes

/-- The requests of the functions of this module; `new` says which entries they may add. -/
inductive FiestaAct (new : FiestaId → Participant → Prop) : (Store → Store) → Prop
  | read : FiestaAct new id
  | updateUser (u : UserId) (g : User → User) : FiestaAct new (·.updateUser u g)
  | addNotification (u : UserId) (n : Timestamp → Notification) :
      FiestaAct new fun s => s.addNotification u (n s.clock)
  | remove (f : FiestaId) (e : Participant) : FiestaAct new (·.updateFiesta f (·.remove e))
  | union (f : FiestaId) (e : Participant) (adds : new f e) :
      FiestaAct new (·.updateFiesta f (·.union e))
  | deleteFiesta (f : FiestaId) : FiestaAct new (·.deleteFiesta f)
  | deleteCreatedFiesta (u : UserId) (key : Nat) :
      FiestaAct new fun s =>
        { s with
          createdFiesta := Function.update s.createdFiesta u ((s.createdFiesta u).delete key) }

section Acts

variable {new : FiestaId → Participant → Prop} {f : FiestaId}

/-- A join adds its entry to the fiesta. -/
theorem joinFiesta_acts (w u : UserId) (o : Option UserId) (status : Status)
    (adds : new f ⟨u, o, status⟩) : (joinFiesta w f u o status).Makes (FiestaAct new) := by
  apply Program.Makes.bind (.read .read _)
  intro _
  apply Program.Makes.bind (makes_member _)
  intro _
  apply Program.Makes.bind (.read .read _)
  intro _
  apply Program.Makes.bind (makes_member _)
  intro _
  apply Program.Makes.bind (makes_pushUnlessNull .read _)
  intro _
  apply Program.Makes.bind (.read .read _)
  intro _
  apply Program.Makes.bind (makes_updateFiesta (.union f _ adds)).unawaited
  intro _
  apply Program.Makes.bind (makes_member _)
  intro _
  apply Program.Makes.bind (makes_defined _)
  intro _
  exact makes_addNotification (.addNotification _ _)

/-- An acceptance adds its accepted entry. -/
theorem acceptUserInFiesta_acts (u : UserId) (o : Option UserId) (adds : new f ⟨u, o, .accepted⟩) :
    (acceptUserInFiesta f u o).Makes (FiestaAct new) := by
  apply Program.Makes.bind (.read .read _)
  intro _
  apply Program.Makes.bind (makes_updateFiesta (.remove f _))
  intro _
  apply Program.Makes.bind (makes_updateFiesta (.union f _ adds))
  intro _
  apply Program.Makes.bind (.read .read _)
  intro _
  apply Program.Makes.bind (makes_docOf _)
  intro _
  apply Program.Makes.bind (.read .read _)
  intro _
  apply Program.Makes.bind (makes_updateUser (.updateUser _ _))
  intro _
  apply Program.Makes.bind (makes_updateUser (.updateUser _ _))
  intro _
  apply Program.Makes.bind (makes_member _)
  intro _
  apply Program.Makes.bind (makes_pushUnlessNull .read _)
  intro _
  apply Program.Makes.bind (makes_member _)
  intro _
  apply Program.Makes.bind (makes_pushUnlessNull .read _)
  intro _
  exact .pure true

/-- The same for the app. -/
theorem FiestaController.acceptUserInFiesta_acts (u v : UserId)
    (adds : new f ⟨u, some v, .accepted⟩) :
    (FiestaController.acceptUserInFiesta f u v).Makes (FiestaAct new) := by
  apply Program.Makes.bind (makes_updateFiesta (.remove f _))
  intro _
  apply Program.Makes.bind (makes_updateFiesta (.union f _ adds))
  intro _
  apply Program.Makes.bind (makes_updateUser (.updateUser _ _))
  intro _
  exact makes_updateUser (.updateUser _ _)

/-- A refusal adds nothing. -/
theorem FiestaController.refuseUserInFiesta_acts (u v : UserId) :
    (FiestaController.refuseUserInFiesta f u v).Makes (FiestaAct new) :=
  makes_updateFiesta (.remove f _)

/-- A removal adds nothing. -/
theorem FiestaController.deleteUserInFiesta_acts (u v : UserId) :
    (FiestaController.deleteUserInFiesta f u v).Makes (FiestaAct new) := by
  apply Program.Makes.bind (makes_updateFiesta (.remove f _))
  intro _
  apply Program.Makes.bind (makes_updateUser (.updateUser _ _))
  intro _
  exact makes_updateUser (.updateUser _ _)

/-- The clearing of a participant adds nothing. -/
theorem clearParticipant_acts (fiestaData : Fiesta) (e : Participant) :
    (clearParticipant fiestaData e).Makes (FiestaAct new) := by
  unfold clearParticipant
  split
  case isTrue =>
    apply Program.Makes.bind (.read .read _)
    intro _
    apply Program.Makes.bind (makes_updateUser (.updateUser _ _))
    intro _
    apply Program.Makes.bind (makes_addNotification (.addNotification _ _))
    intro _
    apply Program.Makes.bind (makes_docOf _)
    intro _
    apply Program.Makes.bind (.read .read _)
    intro _
    apply Program.Makes.bind (makes_updateUser (.updateUser _ _))
    intro _
    apply Program.Makes.bind (makes_addNotification (.addNotification _ _))
    intro _
    apply Program.Makes.bind (makes_member _)
    intro _
    apply Program.Makes.bind (makes_pushUnlessEmpty .read _)
    intro _
    apply Program.Makes.bind (makes_member _)
    intro _
    exact makes_pushUnlessNull .read _
  case isFalse => exact .pure ()

/-- Nor does the deletion of the history. -/
theorem deleteFromHistory_acts (w : UserId) :
    (deleteFromHistory w f).Makes (FiestaAct new) := by
  apply Program.Makes.bind (.read .read _)
  intro docs
  cases docs with
  | nil => exact .pure ()
  | cons doc docs => exact ⟨.deleteCreatedFiesta w doc.1, fun _ => .pure ()⟩

/-- So a deletion adds nothing. -/
theorem deleteFiesta_acts (w : UserId) : (deleteFiesta w f).Makes (FiestaAct new) := by
  apply Program.Makes.bind (.read .read _)
  intro _
  apply Program.Makes.bind (makes_member _)
  intro fiestaData
  apply Program.Makes.bind (.forEach fun e _ => clearParticipant_acts fiestaData e)
  intro _
  apply Program.Makes.bind (deleteFromHistory_acts w)
  intro _
  exact ⟨.deleteFiesta f, fun _ => .pure ()⟩

end Acts

end TwoGather
