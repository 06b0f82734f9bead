import TwoGather.Store

/-!
# Friend requests and friendships

The functions that create, change and remove friendships: `friend_controller.dart`,
`notification_controller.dart` and the cloud functions they call. A friendship is an
entry for the other user in the `friends` array of each; a pending request is the id
of the other user in the `friendsRequest` array of the one who asks.
-/

namespace TwoGather

open Docs Requests

/-! ## Writes on one user -/

def User.request (u : User) (friend : UserId) : User :=
  { u with friendsRequest := u.friendsRequest.union friend }

def User.unrequest (u : User) (friend : UserId) : User :=
  { u with friendsRequest := u.friendsRequest.remove friend }

def User.addConnexion (u : User) (friend : UserId) : User :=
  { u with friends := u.friends.union { type := .connexion, user := friend } }

/-- Both fields in one update. -/
def User.befriend (u : User) (friend : UserId) : User :=
  (u.unrequest friend).addConnexion friend

/-! ## `friend_controller.dart` -/

/-- `FiestarUserModel.fromJson`. -/
def fromJson (data : User) : Firestore User :=
  if data.wellTyped then pure data else throw .typeError

def checkMatchWithFriendAdded (userId friendId : UserId) : Firestore Bool := do
  let data ← getUser friendId
  let data ← member data
  let data ← fromJson data
  return userId ∈ data.friendsRequest.elems

/-- `addFriendWithSwipe` after its check. -/
def answerSwipe (userId friendId : UserId) (isMatch : Bool) : Firestore Bool := do
  if isMatch then
    updateUser userId (·.unrequest friendId)
    updateUser friendId (·.unrequest userId)
    updateUser userId (·.addConnexion friendId)
    updateUser friendId (·.addConnexion userId)
  else
    updateUser userId (·.request friendId)
  return true

def addFriendWithSwipe (userId friendId : UserId) : Firestore Bool := do
  let isMatch ← checkMatchWithFriendAdded userId friendId
  answerSwipe userId friendId isMatch

/-- The notification that `addFriend` leaves with the friend. Its message is the translation of
`friend.wants-to-become-friend`, here in the language in which the app starts. -/
def friendRequestNotification (userId : UserId) (userData : Option User)
    (receivedAt : Timestamp) : Notification where
  notificationType := .friendRequest
  isComplete := false
  isRead := false
  message := "souhaite devenir ton ami."
  notificationUser :=
    { id := userId
      firstname := (optional User.firstname userData).orNull
      lastname := (optional User.lastname userData).orNull
      pictures := (optional User.profilImages userData).orNull }
  receivedAt

/-- `addFriend` after its two reads. -/
def answerOrNotify (userId friendId : UserId) (userData friendData : Option User) :
    Firestore Unit :=
  if userId ∈ (optional User.friendsRequest friendData).elems then do
    updateUser friendId (·.befriend userId)
    updateUser userId (·.befriend friendId)
  else
    addNotification friendId (friendRequestNotification userId userData)

def addFriend (userId friendId : UserId) : Firestore Unit :=
  tryCatch
    (do
      updateUser userId (·.request friendId)
      let userData ← getUser userId
      let friendData ← getUser friendId
      answerOrNotify userId friendId userData friendData)
    fun _ => updateUser userId (·.unrequest friendId)

/-- `friendsRequest` is the list that the provider holds. -/
def cancelFriendRequest (userId : UserId) (friendsRequest : List UserId) (friendId : UserId) :
    Firestore Unit :=
  tryCatch
    (updateUser userId
      ({ · with friendsRequest := .value (friendsRequest.filter (· ≠ friendId)) }))
    fun _ => pure ()

/-- The loop of `addToFirstCircle` on one entry. -/
def Friend.promote (ids : List UserId) (item : Friend) : Friend :=
  if item.type = .fiestar ∧ item.user ∈ ids then { item with type := .firstCircle } else item

def addToFirstCircle (userId : UserId) (friends : List Friend) (ids : List UserId) :
    Firestore Unit :=
  updateUser userId ({ · with friends := .value (friends.map (·.promote ids)) })

/-- `a == b` on two `DocumentReference` objects. JavaScript compares their identity, and
the references in a snapshot's `data()` are objects of their own, so the reference of
an entry is never the object `collection("users").doc(..)` built by the function. -/
def sameObject (_ _ : UserId) : Bool := false

/-- The loop of `delete_friend.ts` over one `friends` array. -/
def removeEntriesFor (userId friendId : UserId) (userFriends : List Friend) : Firestore Unit :=
  Program.forEach userFriends fun e =>
    if sameObject e.user friendId then
      updateUser userId fun u => { u with friends := u.friends.remove e }
    else pure ()

/-- `delete_friend.ts`. -/
def deleteFriend (userId friendId : UserId) : Firestore Bool := do
  let userData ← getUser userId
  let friendData ← getUser friendId
  removeEntriesFor userId friendId (optional User.friends userData).elems
  removeEntriesFor friendId userId (optional User.friends friendData).elems
  return true

def User.block (u : User) (userId : UserId) : User :=
  { u with bloquedUser := u.bloquedUser.union userId }

def User.unblock (u : User) (userId : UserId) : User :=
  { u with bloquedUser := u.bloquedUser.remove userId }

/-- `bloqueUser`, called by the signed-in user `uid`. -/
def bloqueUser (uid userId : UserId) : Firestore Unit :=
  tryCatch (updateUser uid (·.block userId)) fun _ => pure ()

/-- `unnbloqueUser`, called by the signed-in user `uid`. -/
def unnbloqueUser (uid userId : UserId) : Firestore Unit :=
  tryCatch (updateUser uid (·.unblock userId)) fun _ => pure ()

def User.dismissFriend (u : User) (friendId : UserId) : User :=
  { u with friendsDismissed := u.friendsDismissed.union friendId }

/-- `dismiss_frient_with_swipe.ts`. -/
def dismissFriendWithSwipe (userId friendId : UserId) : Firestore Bool := do
  updateUser userId (·.dismissFriend friendId)
  return true

/-! ## `confirm_friend_request.ts` and `notification_controller.dart` -/

def confirmFriendRequest (userId friendId : UserId) (accepted : Bool) : Firestore Bool := do
  if accepted then
    updateUser friendId (·.befriend userId)
    updateUser userId (·.befriend friendId)
  return true

/-- `setNotificationAsComplete`: an error is caught. -/
def setNotificationAsComplete (userId : UserId) (notifId : Nat) : Firestore Unit :=
  tryCatch (updateNotification userId notifId ({ · with isComplete := true })) fun _ => pure ()

/-- `setAllNotificationAsRead`: the notifications of the query, one update each. -/
def setAllNotificationAsRead (userId : UserId) : Firestore Unit :=
  tryCatch
    (do
      let list ← Program.read fun s : Store => (s.notifications userId).docs
      Program.forEach list fun doc => updateNotification userId doc.1 ({ · with isRead := true }))
    fun _ => pure ()

/-- One side of the transaction of `handleFriendRequest`. -/
def User.accept (u : User) (friend : UserId) : User :=
  if ∃ e ∈ u.friends.elems, e.user = friend then u.unrequest friend else u.befriend friend

/-- The transaction of `handleFriendRequest`: both updates or none. -/
def acceptTransaction (userId friendId : UserId) : Firestore Unit :=
  .step
    (fun s =>
      if (s.user userId).isSome ∧ (s.user friendId).isSome then
        (s.updateUser userId (·.accept friendId)).updateUser friendId (·.accept userId)
      else s)
    fun s =>
      if (s.user userId).isSome ∧ (s.user friendId).isSome then pure () else throw .notFound

def handleFriendRequest (userId friendId : UserId) (notifId : Nat) (accepted : Bool) :
    Firestore Unit := do
  setNotificationAsComplete userId notifId
  if accepted then
    acceptTransaction userId friendId
  else
    updateUser friendId (·.unrequest userId)

/-! ## What a store says about two users -/

/-- The `friends` array of a user. -/
def Store.friendsOf (s : Store) (u : UserId) : List Friend :=
  (optional User.friends (s.user u)).elems

/-- The `friendsRequest` array of a user. -/
def Store.requestsOf (s : Store) (u : UserId) : List UserId :=
  (optional User.friendsRequest (s.user u)).elems

section Reads

variable {s : Store} {u : UserId}

theorem Store.friendsOf_updateUser (exist : (s.user u).isSome) {g : User → User}
    (h : List Friend → List Friend) (effect : ∀ d, (g d).friends.elems = h d.friends.elems) :
    (s.updateUser u g).friendsOf = Function.update s.friendsOf u (h (s.friendsOf u)) := by
  obtain ⟨data, found⟩ := Option.isSome_iff_exists.mp exist
  funext v
  by_cases same : v = u
  · subst same
    simp [friendsOf, found, optional, effect]
  · simp [friendsOf, same]

theorem Store.requestsOf_updateUser (exist : (s.user u).isSome) {g : User → User}
    (h : List UserId → List UserId)
    (effect : ∀ d, (g d).friendsRequest.elems = h d.friendsRequest.elems) :
    (s.updateUser u g).requestsOf = Function.update s.requestsOf u (h (s.requestsOf u)) := by
  obtain ⟨data, found⟩ := Option.isSome_iff_exists.mp exist
  funext v
  by_cases same : v = u
  · subst same
    simp [requestsOf, found, optional, effect]
  · simp [requestsOf, same]

end Reads

/-- Marking a notification raises no error. -/
@[simp] theorem exec_setNotificationAsComplete (s : Store) (u : UserId) (notifId : Nat) :
    (setNotificationAsComplete u notifId).exec s =
      (.ok (), s.updateNotification u notifId ({ · with isComplete := true })) := by
  unfold setNotificationAsComplete
  rw [Program.exec_tryCatch, exec_updateNotification]
  by_cases there : ((s.notifications u).get? notifId).isSome
  · rw [if_pos there]
  · rw [if_neg there]
    rfl

theorem makes_setNotificationAsComplete {A : (Store → Store) → Prop} {u : UserId} {notifId : Nat}
    (act : A (·.updateNotification u notifId ({ · with isComplete := true }))) :
    (setNotificationAsComplete u notifId).Makes A := by
  apply Program.Makes.tryCatch
  · refine ⟨act, fun s => ?_⟩
    dsimp only
    split
    · exact .pure ()
    · exact .throw _
  · exact fun _ => .pure ()

/-! ## Swipes, request by request -/

/-- What is left of a swipe after its read. -/
def swipeAfterRead (userId friendId : UserId) : Option User → Firestore Bool
  | none => throw .typeError
  | some data =>
      if data.wellTyped then
        answerSwipe userId friendId (decide (userId ∈ data.friendsRequest.elems))
      else throw .typeError

/-- A swipe is one read and what follows it. -/
theorem addFriendWithSwipe_eq (u v : UserId) :
    addFriendWithSwipe u v = .step id fun s => swipeAfterRead u v (s.user v) := by
  unfold addFriendWithSwipe checkMatchWithFriendAdded getUser Program.read
  simp only [Program.step_bind, Program.done_bind]
  congr 1
  funext s
  rcases s.user v with _ | data
  · rfl
  · simp only [member, Program.pure_bind, fromJson, swipeAfterRead]
    split
    · rfl
    · rfl

section Swipes

variable {s : Store} {u v : UserId}

/-- A swipe that found a request makes four writes. -/
theorem answerSwipe_match (user : (s.user u).isSome) (friend : (s.user v).isSome) :
    (answerSwipe u v true).exec s =
      (.ok true,
        (((s.updateUser u (·.unrequest v)).updateUser v (·.unrequest u)).updateUser u
          (·.addConnexion v)).updateUser v (·.addConnexion u)) := by
  unfold answerSwipe
  simp only [↓reduceIte, Program.exec_bind, exec_updateUser, Store.isSome_updateUser, user, friend,
    Program.exec_pure]

/-- A swipe that found no request leaves one. -/
theorem answerSwipe_request (user : (s.user u).isSome) :
    (answerSwipe u v false).exec s = (.ok true, s.updateUser u (·.request v)) := by
  unfold answerSwipe
  simp only [Bool.false_eq_true, ↓reduceIte, Program.exec_bind, exec_updateUser, user,
    Program.exec_pure]

end Swipes

end TwoGather
