import TwoGather.Fiesta.Controller
import TwoGather.Friend.Controller

/-!
# Asking to take part in a fiesta

How a user comes into the participants of a fiesta: alone, with the lock duo, or with a
friend who is asked first and answers through a notification. Each way takes out the one
shape of entry that it expects from an earlier step.
-/

namespace TwoGather

open Docs Requests

/-! ## `request_a_duo_to_go_fiesta.ts` -/

def fiestaConfirmation (fiestaData : Fiesta) (userId : UserId) (fiestaId : FiestaId)
    (userData : User) (firstname lastname : Stored String) (pictures : Stored (List String))
    (receivedAt : Timestamp) : Notification where
  notificationType := .fiestaConfirmation
  isComplete := false
  isRead := false
  message := template userData.firstname ++ " veut aller à la fiesta \"" ++
    template fiestaData.title ++ "\" avec toi, tu veux y aller ?."
  notificationUser := { id := userId, firstname, lastname, pictures }
  metadata := { duoId := .value userId, fiestaId := .value fiestaId }
  receivedAt

def requestADuoToGoFiesta (userId : UserId) (fiestaId : FiestaId) (duoRef : Option UserId) :
    Firestore Unit := do
  let fiestaData ← getFiesta fiestaId
  let duo ← docOf duoRef
  let userData ← getUser userId
  let userData ← member userData
  let fiestaData ← member fiestaData
  let firstname ← defined userData.firstname
  let lastname ← defined userData.lastname
  let pictures ← defined userData.profilImages
  addNotification duo
    (fiestaConfirmation fiestaData userId fiestaId userData firstname lastname pictures)

/-! ## `refuse_user_notify.ts` -/

def refusal (fiestaData : Fiesta) (otherData : User) (receivedAt : Timestamp) :
    Notification where
  notificationType := .message
  isComplete := false
  isRead := false
  message := "Désolé, l'Host à refuser votre Duo Lock avec " ++ template otherData.firstname ++
    " pour aller à la Fiesta \"" ++ template fiestaData.title ++ "\""
  notificationUser := fiestaFamily
  receivedAt

/-- The call of `refuseUserInFiesta`, which does not wait for it. -/
def refuseUserNotify (fiestaId : FiestaId) (userId duoRef : UserId) : Firestore Unit := do
  let fiestaData ← getFiesta fiestaId
  let fiestaData ← member fiestaData
  let userData ← getUser userId
  let userData ← member userData
  let duoData ← getUser duoRef
  let duoData ← member duoData
  addNotification userId (refusal fiestaData duoData)
  addNotification duoRef (refusal fiestaData userData)

/-! ## `fiesta_controller.dart` and `notification_controller.dart` -/

def User.requestFiesta (u : User) (fiestaId : FiestaId) : User :=
  { u with requestedFiesta := u.requestedFiesta.union fiestaId }

/-- Remove the entry of a user who waits for a duo. Without a user the map has `null` in place
of one, which no entry has. -/
def Fiesta.removeWaiting (f : Fiesta) : Option UserId → Fiesta
  | some u => f.remove { fiestaRef := u, duoRef := none, status := .waiting }
  | none => f

def FiestaController.acceptFiesta (userId : UserId) (fiestaId : FiestaId)
    (duo : Option UserId) (isWithSearch : Bool) : Firestore Unit := do
  updateUser userId (·.requestFiesta fiestaId)
  if isWithSearch then
    requestADuoToGoFiesta userId fiestaId duo
  else do
    updateFiesta fiestaId (·.removeWaiting duo)
    joinFiesta userId fiestaId userId duo (if duo.isNone then .waiting else .pending)

/-- What the answer does to the fiesta; the user is the one who asked. -/
def joinWithFriend (userId duoId : UserId) (fiestaId : FiestaId) : Firestore Unit := do
  updateFiesta fiestaId (·.removeWaiting (some duoId))
  joinFiesta userId fiestaId userId (some duoId) .pending

/-- `joinFiesta` returns nothing, so the check of its result never passes. -/
def NotificationController.handleFiestaRequest (userId duoId : UserId) (fiestaId : FiestaId)
    (notifId : Nat) (accepted : Bool) : Firestore Unit := do
  setNotificationAsComplete duoId notifId
  if accepted then
    joinWithFriend userId duoId fiestaId
    throw .exception

/-! ## Calls that end well -/

section Ok

variable {s t : Store} {f : FiestaId} {u d : UserId} {o : Option UserId}

theorem requestADuoToGoFiesta_ok
    (run : (requestADuoToGoFiesta u f o).exec s = (.ok (), t)) :
    ∃ v n, t = s.addNotification v n := by
  rcases Program.exec_bind_ok run with ⟨_, _, fiesta, run⟩
  rcases getFiesta_ok fiesta with ⟨-, rfl⟩
  rcases Program.exec_bind_ok run with ⟨v, _, duo, run⟩
  rcases docOf_ok duo with ⟨-, rfl⟩
  rcases Program.exec_bind_ok run with ⟨_, _, user, run⟩
  rcases getUser_ok user with ⟨-, rfl⟩
  rcases Program.exec_bind_ok run with ⟨_, _, data, run⟩
  rcases member_ok data with ⟨-, rfl⟩
  rcases Program.exec_bind_ok run with ⟨_, _, data, run⟩
  rcases member_ok data with ⟨-, rfl⟩
  rcases Program.exec_bind_ok run with ⟨_, _, firstname, run⟩
  rcases defined_ok firstname with ⟨-, rfl⟩
  rcases Program.exec_bind_ok run with ⟨_, _, lastname, run⟩
  rcases defined_ok lastname with ⟨-, rfl⟩
  rcases Program.exec_bind_ok run with ⟨_, _, pictures, run⟩
  rcases defined_ok pictures with ⟨-, rfl⟩
  exact ⟨v, _, addNotification_ok run⟩

/-- The entry of the one who waits goes, and that of the two comes. -/
theorem joinWithFriend_ok (run : (joinWithFriend u d f).exec s = (.ok (), t)) :
    ∃ v n, (s.fiesta f).isSome ∧
      t = ((s.updateFiesta f (·.removeWaiting (some d))).updateFiesta f
        (·.union ⟨u, some d, .pending⟩)).addNotification v n := by
  rcases Program.exec_bind_ok run with ⟨_, _, remove, run⟩
  rcases updateFiesta_ok remove with ⟨exist, rfl⟩
  rcases joinFiesta_ok run with ⟨fiesta, n, -, rfl⟩
  exact ⟨fiesta.host.id, n, exist, rfl⟩

end Ok

end TwoGather
