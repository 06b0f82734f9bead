import TwoGather.Chat.Salons
import TwoGather.Duo
import TwoGather.Fiesta.Controller
import TwoGather.Friend.Controller

/-!
# Asking for a lock, answering and ending it

`friend_controller.dart` and `notification_controller.dart`, with `request_new_lock_duo.ts`.
A request leaves a notification with the friend and a message in the salon of the two. Either
can be answered. Beside the lock of the two users, which the cloud functions write, the salon
has a field `lock` of its own, which the app writes.
-/

namespace TwoGather

open Docs Requests

/-! ## `request_new_lock_duo.ts` -/

def duoRequestNotification (userId : UserId) (firstname lastname : Stored String)
    (pictures : Stored (List String)) (receivedAt : Timestamp) : Notification where
  notificationType := .duoRequest
  isComplete := false
  isRead := false
  message := "souhaite devenir ton LockDuo."
  notificationUser := { id := userId, firstname, lastname, pictures }
  receivedAt

def requestNewLockDuo (userId friendId : UserId) : Firestore Bool := do
  let userData ← getUser userId
  let friendData ← getUser friendId
  let firstname ← defined (optional User.firstname userData)
  let lastname ← defined (optional User.lastname userData)
  let pictures ← defined (optional User.profilImages userData)
  addNotification friendId (duoRequestNotification userId firstname lastname pictures)
  let friendData ← member friendData
  pushUnlessEmpty friendData.fcmToken
  return true

theorem makes_requestNewLockDuo {A : (Store → Store) → Prop} (reads : A id)
    (note : ∀ u (n : Timestamp → Notification), A fun s => s.addNotification u (n s.clock))
    (userId friendId : UserId) : (requestNewLockDuo userId friendId).Makes A := by
  apply Program.Makes.bind (.read reads _)
  intro userData
  apply Program.Makes.bind (.read reads _)
  intro friendData
  apply Program.Makes.bind (makes_defined _)
  intro _
  apply Program.Makes.bind (makes_defined _)
  intro _
  apply Program.Makes.bind (makes_defined _)
  intro _
  apply Program.Makes.bind (makes_addNotification (note friendId _))
  intro _
  apply Program.Makes.bind (makes_member friendData)
  intro data
  apply Program.Makes.bind (makes_pushUnlessEmpty reads data.fcmToken)
  intro _
  exact .pure true

/-- The notification of a request from a user with these data. -/
def requestNotification (userId : UserId) (data : Option User) : Timestamp → Notification :=
  duoRequestNotification userId (optional User.firstname data) (optional User.lastname data)
    (optional User.profilImages data)

/-- A user without a profile leaves no notification; one whose friend cannot be told leaves
one, but the request fails. -/
theorem exec_requestNewLockDuo (s : Store) (userId friendId : UserId) :
    (requestNewLockDuo userId friendId).exec s =
      if hasProfile (s.user userId) then
        (match s.user friendId with
          | some data => if s.PassesUnlessEmpty data.fcmToken then .ok true else .error .messaging
          | none => .error .typeError,
          s.addNotification friendId (requestNotification userId (s.user userId) s.clock))
      else (.error .invalidArgument, s) := by
  unfold requestNewLockDuo hasProfile requestNotification
  cases first : (optional User.firstname (s.user userId)).isUndefined <;>
    cases last : (optional User.lastname (s.user userId)).isUndefined <;>
      cases pictures : (optional User.profilImages (s.user userId)).isUndefined <;>
        simp [exec_defined, first, last, pictures]
  cases s.user friendId with
  | none => rfl
  | some data =>
      have same (n : Notification) : (s.addNotification friendId n).PassesUnlessEmpty data.fcmToken =
          s.PassesUnlessEmpty data.fcmToken := rfl
      by_cases passes : s.PassesUnlessEmpty data.fcmToken
      · simp [exec_pushUnlessEmpty, same, passes]
      · simp [exec_pushUnlessEmpty, same, passes]

/-! ## The salon -/

def Salon.setLock (salon : Salon) (lock : LockState) : Salon :=
  { salon with lock := .value lock }

/-- A request was sent, with this message. -/
def Salon.demand (salon : Salon) (key : Nat) : Salon :=
  { salon.setLock .sended with lastLockedDemand := .value key }

def lockDemand (userId : UserId) (createdAt : Timestamp) : ChatMessage where
  sender := userId
  type := .lockDemandMessage
  createdAt

/-- The salon that is looked up, or a new one of the two users. -/
def salonFor (uid1 uid2 userId friendId : UserId) : Firestore SalonId := do
  let salonId ← FirestoreQuery.existSalonOneToOneWithGivenUsers uid1 uid2
  match salonId with
  | some salonId => return salonId
  | none =>
      setSalon (userId ++ friendId) { type := .oneToOne, users := [userId, friendId] }
      return userId ++ friendId

/-- The salon that the caller knows, or the one of the two users. -/
def salonOr (salonId : Option SalonId) (userId friendId : UserId) : Firestore SalonId :=
  match salonId with
  | some salonId => pure salonId
  | none => salonFor userId friendId userId friendId

section Salon

variable {A : (Store → Store) → Prop}

theorem makes_salonFor (reads : A id) (uid1 uid2 : UserId) {userId friendId : UserId}
    (create : ∀ new, A (·.setSalon (userId ++ friendId) new)) :
    (salonFor uid1 uid2 userId friendId).Makes A := by
  apply Program.Makes.bind (makes_existSalon reads uid1 uid2)
  intro found
  cases found with
  | some id => exact .pure id
  | none => exact ⟨create _, fun _ => .pure _⟩

theorem makes_salonOr (reads : A id) (salonId : Option SalonId) {userId friendId : UserId}
    (create : ∀ new, A (·.setSalon (userId ++ friendId) new)) :
    (salonOr salonId userId friendId).Makes A := by
  cases salonId with
  | some id => exact .pure id
  | none => exact makes_salonFor reads userId friendId create

/-- The store after the look-up: a salon has been stored if none was found. -/
def Store.withSalon (s : Store) (uid1 uid2 userId friendId : UserId) : Store :=
  if (s.salonOf uid1 uid2).isSome then s
  else s.setSalon (userId ++ friendId) { type := .oneToOne, users := [userId, friendId] }

@[simp] theorem exec_salonFor (s : Store) (uid1 uid2 userId friendId : UserId) :
    (salonFor uid1 uid2 userId friendId).exec s =
      (.ok ((s.salonOf uid1 uid2).getD (userId ++ friendId)),
        s.withSalon uid1 uid2 userId friendId) := by
  unfold salonFor Store.withSalon
  rw [Program.exec_bind, exec_existSalon]
  cases s.salonOf uid1 uid2 with
  | some id => rfl
  | none => rfl

end Salon

/-! ## `friend_controller.dart` and `notification_controller.dart` -/

/-- The result of a cloud function that is not `true` is raised. -/
def checkResult (result : Bool) : Firestore Unit :=
  if result then pure () else throw .exception

theorem makes_checkResult {A : (Store → Store) → Prop} (result : Bool) :
    (checkResult result).Makes A := by
  cases result with
  | true => exact .pure ()
  | false => exact .throw _

namespace FriendController

def requestNewLockDuo (userId friendId : UserId) (salonId : Option SalonId) :
    Firestore Bool := do
  let salonId ← salonOr salonId userId friendId
  tryCatch
    (do
      let result ← TwoGather.requestNewLockDuo userId friendId
      checkResult result
      let ref ← addChatMessage salonId (lockDemand userId)
      updateSalon salonId (·.demand ref)
      return false)
    fun _ => return true

def stopLockDuo (userId friendId : UserId) (salonId : Option SalonId) : Firestore Bool := do
  let salonId ← salonOr salonId userId friendId
  tryCatch
    (do
      let result ← TwoGather.stopLockDuo userId friendId
      checkResult result
      updateSalon salonId (·.setLock .notYet)
      return false)
    fun _ => return true

end FriendController

/-- `handleDuoRequest` with `accepted`, after the notification has been marked. -/
def acceptDuoRequest (userId friendId : UserId) (salonId : SalonId) : Firestore Unit := do
  let result ← confirmDuoRequest userId friendId true
  checkResult result
  let doc ← getSalon salonId
  let doc ← member doc
  updateSalon salonId (·.setLock .locked)
  updateMessage salonId doc.lastLockedDemand ({ · with state := .accepted })

/-- The answer through a notification has its id; the one through the chat has none. -/
def NotificationController.handleDuoRequest (userId friendId : UserId) (notifId : Option Nat)
    (accepted : Bool) : Firestore Unit := do
  let salonId ← salonFor friendId userId userId friendId
  tryCatch
    (do
      match notifId with
      | some notifId => setNotificationAsComplete userId notifId
      | none => pure ()
      if accepted then
        acceptDuoRequest userId friendId salonId)
    fun _ => pure ()

/-! ## What follows the look-up of the salon -/

/-- The rest of a lock request. -/
def requestRest (userId friendId : UserId) (salonId : SalonId) : Firestore Bool :=
  tryCatch
    (do
      let result ← TwoGather.requestNewLockDuo userId friendId
      checkResult result
      let ref ← addChatMessage salonId (lockDemand userId)
      updateSalon salonId (·.demand ref)
      return false)
    fun _ => return true

/-- The rest of the end of a lock. -/
def stopRest (userId friendId : UserId) (salonId : SalonId) : Firestore Bool :=
  tryCatch
    (do
      let result ← TwoGather.stopLockDuo userId friendId
      checkResult result
      updateSalon salonId (·.setLock .notYet)
      return false)
    fun _ => return true

/-- The rest of an answer. -/
def answerRest (userId friendId : UserId) (notifId : Option Nat) (accepted : Bool)
    (salonId : SalonId) : Firestore Unit :=
  tryCatch
    (do
      match notifId with
      | some notifId => setNotificationAsComplete userId notifId
      | none => pure ()
      if accepted then
        acceptDuoRequest userId friendId salonId)
    fun _ => pure ()

theorem requestNewLockDuo_eq (userId friendId : UserId) (salonId : Option SalonId) :
    FriendController.requestNewLockDuo userId friendId salonId =
      salonOr salonId userId friendId >>= requestRest userId friendId := rfl

theorem stopLockDuo_eq (userId friendId : UserId) (salonId : Option SalonId) :
    FriendController.stopLockDuo userId friendId salonId =
      salonOr salonId userId friendId >>= stopRest userId friendId := rfl

theorem handleDuoRequest_eq (userId friendId : UserId) (notifId : Option Nat)
    (accepted : Bool) :
    NotificationController.handleDuoRequest userId friendId notifId accepted =
      salonFor friendId userId userId friendId >>= answerRest userId friendId notifId accepted :=
  rfl

/-- A request leaves nothing, the notification alone, or also the message. -/
theorem requestRest_store (s : Store) (userId friendId : UserId) (salonId : SalonId) :
    ((requestRest userId friendId salonId).exec s).2 = s ∨
      ((requestRest userId friendId salonId).exec s).2 =
        s.addNotification friendId (requestNotification userId (s.user userId) s.clock) ∨
      ((requestRest userId friendId salonId).exec s).2 =
        ((s.addNotification friendId (requestNotification userId (s.user userId) s.clock)).addMessage
          salonId (lockDemand userId s.clock)).updateSalon salonId
            (·.demand (s.messages salonId).next) := by
  unfold requestRest
  rw [Program.exec_caught, Program.exec_bind, exec_requestNewLockDuo]
  by_cases profile : hasProfile (s.user userId)
  · right
    rw [if_pos profile]
    rcases outcome : (match s.user friendId with
      | some data => if s.PassesUnlessEmpty data.fcmToken then .ok true else .error .messaging
      | none => .error .typeError : Except Err Bool) with e | result
    · exact .inl rfl
    · cases result with
      | false => exact .inl rfl
      | true =>
          right
          simp only [checkResult, ↓reduceIte, Program.exec_pure, Program.exec_bind,
            exec_addChatMessage, exec_updateSalon]
          split
          case h_1 run => exact (congrArg Prod.snd run).symm
          case h_2 run => exact (congrArg Prod.snd run).symm
  · left
    rw [if_neg profile]

section Makes

variable {A : (Store → Store) → Prop} {salonId : SalonId}

theorem requestRest_makes (reads : A id)
    (note : ∀ u (n : Timestamp → Notification), A fun s => s.addNotification u (n s.clock))
    (message : ∀ m : Timestamp → ChatMessage, A fun s => s.addMessage salonId (m s.clock))
    (demand : ∀ key, A (·.updateSalon salonId (·.demand key))) (userId friendId : UserId) :
    (requestRest userId friendId salonId).Makes A := by
  apply Program.Makes.tryCatch
  · apply Program.Makes.bind (makes_requestNewLockDuo reads note userId friendId)
    intro result
    apply Program.Makes.bind (makes_checkResult result)
    intro _
    apply Program.Makes.bind (makes_addChatMessage (message _))
    intro ref
    apply Program.Makes.bind (makes_updateSalon (demand ref))
    intro _
    exact .pure false
  · exact fun _ => .pure true

theorem stopRest_makes {userId friendId : UserId}
    (unlock : ∀ u, u = userId ∨ u = friendId → A (·.updateUser u (·.unlock)))
    (notYet : A (·.updateSalon salonId (·.setLock .notYet))) :
    (stopRest userId friendId salonId).Makes A := by
  apply Program.Makes.tryCatch
  · apply Program.Makes.bind (makes_stopLockDuo unlock)
    intro result
    apply Program.Makes.bind (makes_checkResult result)
    intro _
    apply Program.Makes.bind (makes_updateSalon notYet)
    intro _
    exact .pure false
  · exact fun _ => .pure true

theorem acceptDuoRequest_makes (reads : A id) {userId friendId : UserId}
    (lock : ∀ u duo, Pairs userId friendId u duo → A (·.updateUser u (·.lock duo)))
    (locked : A (·.updateSalon salonId (·.setLock .locked)))
    (close : ∀ key, A (·.updateMessage salonId key ({ · with state := .accepted }))) :
    (acceptDuoRequest userId friendId salonId).Makes A := by
  apply Program.Makes.bind (makes_confirmDuoRequest reads lock true)
  intro result
  apply Program.Makes.bind (makes_checkResult result)
  intro _
  apply Program.Makes.bind (.read reads _)
  intro doc
  apply Program.Makes.bind (makes_member doc)
  intro data
  apply Program.Makes.bind (makes_updateSalon locked)
  intro _
  exact makes_updateMessage close

/-- An answer marks the notification, and goes on if it is an acceptance. -/
theorem answerRest_makes {userId friendId : UserId} {accepted : Bool}
    (mark : ∀ key, A (·.updateNotification userId key ({ · with isComplete := true })))
    (accept : accepted → (acceptDuoRequest userId friendId salonId).Makes A)
    (notifId : Option Nat) :
    (answerRest userId friendId notifId accepted salonId).Makes A := by
  have rest : (if accepted then acceptDuoRequest userId friendId salonId else pure () :
      Firestore Unit).Makes A := by
    split
    case isTrue yes => exact accept yes
    case isFalse => exact .pure ()
  apply Program.Makes.tryCatch
  · cases notifId with
    | none => exact rest
    | some notifId =>
        exact .bind (makes_setNotificationAsComplete (mark notifId)) fun _ => rest
  · exact fun _ => .pure ()

end Makes

end TwoGather
