import TwoGather.Backend.Calls

/-!
# The table of effects

What each call may do, read off its source: `Callable.may`, `Triggered.may` and `AppCall.may`,
with the parameters of the call. `Call.makes_program` proves the table over the programs.
-/

namespace TwoGather

open Docs Requests

/-! ## The table -/

/-- A notification that nobody has read or answered. -/
def Notification.IsNew (n : Notification) : Prop :=
  n.isComplete = false ∧ n.isRead = false

/-- What a notification is about, apart from its texts. -/
structure News where
  notificationType : NotificationType
  sender : UserId
  metadata : Metadata := {}

def Notification.news (n : Notification) : News where
  notificationType := n.notificationType
  sender := n.notificationUser.id
  metadata := n.metadata

/-- The effect is a new notification of the user with this content. -/
def Effect.Tells (u : UserId) (news : News) : Effect → Prop
  | .notify v n => v = u ∧ n.IsNew ∧ n.news = news
  | _ => False

def News.friendRequest (userId : UserId) : News where
  notificationType := .friendRequest
  sender := userId

def News.duoRequest (userId : UserId) : News where
  notificationType := .duoRequest
  sender := userId

def News.fiestaConfirmation (userId : UserId) (fiestaId : FiestaId) : News where
  notificationType := .fiestaConfirmation
  sender := userId
  metadata := { duoId := .value userId, fiestaId := .value fiestaId }

def News.join (fiestaRef : UserId) (fiestaId : FiestaId) : News where
  notificationType := .handleFiestaConfirmation
  sender := fiestaRef
  metadata := { fiestaId := .value fiestaId }

/-- A message without a button. -/
def News.message : News where
  notificationType := .message
  sender := fiestaFamily.id

def News.note (fiestaId : FiestaId) (host : UserId) : News where
  notificationType := .noteFiesta
  sender := fiestaFamily.id
  metadata := { fiestaId := .value fiestaId, fiestaHostId := .value host }

def News.sponsorship (sponsorshipId : Nat) (data : Sponsorship) : News :=
  (sponsorshipNotification sponsorshipId data .epoch).news

/-- The four writes of a match of two swipes, and the request of a first one. -/
def swipeEffects (userId friendId : UserId) : List Effect :=
  [.user userId (.unrequest friendId), .user friendId (.unrequest userId),
    .user userId (.addConnexion friendId), .user friendId (.addConnexion userId),
    .user userId (.request friendId)]

/-- A lock of the two, on either side. -/
def Effect.IsLock (userId friendId : UserId) : Effect → Prop
  | .user u (.lock duo) => Pairs userId friendId u duo
  | _ => False

/-- The effect on the waiting entry of a user who is given. -/
def waitingEffects (fiestaId : FiestaId) (duo : Option UserId) : List Effect :=
  duo.toList.map fun u =>
    .fiesta fiestaId (.remove { fiestaRef := u, duoRef := none, status := .waiting })

/-- The effects of an acceptance on the fiesta and its new guests. -/
def acceptEffects (fiestaId : FiestaId) (fiestaRef : UserId) (duoRef : Option UserId) :
    List Effect :=
  .fiesta fiestaId (.remove { fiestaRef, duoRef, status := .pending }) ::
    .fiesta fiestaId (.union { fiestaRef, duoRef, status := .accepted }) ::
    (fiestaRef :: duoRef.toList).map fun u => .user u (.setFiesta (.value fiestaId))

/-- A salon that the caller knows, or else one under the ids of the two. -/
def IsSalonOf (salonId : Option SalonId) (userId friendId : UserId) (id : SalonId) : Prop :=
  match salonId with
  | some known => id = known
  | none => id = userId ++ friendId ∨ id = friendId ++ userId

/-- A new salon of the two, if the caller knows none. -/
def Effect.Opens (salonId : Option SalonId) (userId friendId : UserId) (e : Effect) : Prop :=
  salonId = none ∧ e = .elsewhere (.storeSalon (userId ++ friendId) (.ofTwo userId friendId))

/-- The message of a lock request, and its note in the salon. -/
def Effect.IsDemand (userId : UserId) (id : SalonId) (e : Effect) : Prop :=
  (∃ createdAt, e = .elsewhere (.message id (lockDemand userId createdAt))) ∨
    ∃ key, e = .elsewhere (.salon id (.demand key))

/-- The two marks of an accepted lock request in the salon. -/
def Effect.IsAgreement (id : SalonId) (e : Effect) : Prop :=
  e = .elsewhere (.salon id (.setLock .locked)) ∨
    ∃ k, e = .elsewhere (.onMessage id (.drawn k) .accept)

/-- The effect on a message that is selected. -/
def selectedEffect (id : SalonId) (u : UserId) (k : MessageId) : DeleteMessagesType → Effect
  | .onlyMe => .elsewhere (.onMessage id k (.hideFrom u))
  | .all => .elsewhere (.deleteMessage id k)

/-- The effects of a message: its document, and what the salon shows of it. -/
def sendEffects (id : SalonId) : Sending → Effect → Prop
  | .text m, e =>
      e = .elsewhere (.message id m) ∨ ∃ k, e = .elsewhere (.salon id (.setLast m (.drawn k)))
  | .file k m, e =>
      e = .elsewhere (.media id k m) ∨ e = .elsewhere (.salon id (.setLast m (.given k)))

def Callable.may : Callable → Effect → Prop
  | .addFriendWithSwipe userId friendId, e => e ∈ swipeEffects userId friendId
  | .deleteFriend _ _, _ => False
  | .dismissFriendWithSwipe userId friendId, e => e = .user userId (.dismissFriend friendId)
  | .confirmFriendRequest userId friendId accepted, e =>
      accepted = true ∧
        e ∈ [.user friendId (.befriend userId), .user userId (.befriend friendId)]
  | .requestNewLockDuo userId friendId, e => e.Tells friendId (.duoRequest userId)
  | .confirmDuoRequest userId friendId accepted, e => accepted = true ∧ e.IsLock userId friendId
  | .stopLockDuo userId friendId, e => e ∈ [.user userId .unlock, .user friendId .unlock]
  | .joinFiesta _ fiestaId fiestaRef duoRef status, e =>
      e = .fiesta fiestaId (.union { fiestaRef, duoRef, status }) ∨
        ∃ host, e.Tells host (.join fiestaRef fiestaId)
  | .deleteFiesta userId fiestaId, e =>
      (∃ u, e = .user u (.setFiesta .null) ∨ e.Tells u .message) ∨ e = .deleteFiesta fiestaId ∨
        ∃ k, e = .elsewhere (.deleteCreated userId k)
  | .acceptUserInFiesta fiestaId fiestaRef duoRef, e =>
      e ∈ acceptEffects fiestaId fiestaRef duoRef
  | .requestADuoToGoFiesta userId fiestaId duoRef, e =>
      ∃ duo ∈ duoRef, e.Tells duo (.fiestaConfirmation userId fiestaId)
  | .refuseUserNotify _ userId duoRef, e => e.Tells userId .message ∨ e.Tells duoRef .message
  | .createFiestaPoint userId, e =>
      e = .user userId .createFiesta ∨ ∃ level, e = .user userId (.setLevel level)
  | .deleteUser uid, e => e = .deleteUser uid

def Triggered.may : Triggered → Effect → Prop
  | .onUserCreated id uniqueId, e =>
      e = .user id (.setTrustCode uniqueId) ∨
        e = .elsewhere (.addCode { code := uniqueId, user := id })
  | .onUserDeleted _, e => ∃ k, e = .elsewhere (.deleteCode k)
  | .onSponsorshipCreated userId sponsorshipId _, e =>
      ∃ data, e.Tells userId (.sponsorship sponsorshipId data)
  | .checkEndFiesta, e => ∃ f, e = .fiesta f .markEnded ∨ ∃ u host, e.Tells u (.note f host)
  | .clearReportAfterDuration, e =>
      (∃ u n, e = .user u (.incrementPoint n)) ∨ ∃ k, e = .elsewhere (.deleteReport k)
  | .clearDismissed, e => ∃ u, e = .user u .clearDismissed

def AppCall.may : AppCall → Effect → Prop
  | .addFriendWithSwipe userId friendId, e => e ∈ swipeEffects userId friendId
  | .addFriend userId friendId, e =>
      e ∈ [.user userId (.request friendId), .user userId (.unrequest friendId),
        .user friendId (.befriend userId), .user userId (.befriend friendId)] ∨
        e.Tells friendId (.friendRequest userId)
  | .cancelFriendRequest userId friendsRequest friendId, e =>
      e = .user userId (.setRequests (friendsRequest.filter (· ≠ friendId)))
  | .addToFirstCircle userId friends ids, e =>
      e = .user userId (.setFriends (friends.map (·.promote ids)))
  | .bloqueUser uid userId, e => e = .user uid (.block userId)
  | .unnbloqueUser uid userId, e => e = .user uid (.unblock userId)
  | .requestNewLockDuo userId friendId salonId, e =>
      e.Tells friendId (.duoRequest userId) ∨ e.Opens salonId userId friendId ∨
        ∃ id, IsSalonOf salonId userId friendId id ∧ e.IsDemand userId id
  | .stopLockDuo userId friendId salonId, e =>
      e ∈ [.user userId .unlock, .user friendId .unlock] ∨ e.Opens salonId userId friendId ∨
        ∃ id, IsSalonOf salonId userId friendId id ∧
          e = .elsewhere (.salon id (.setLock .notYet))
  | .setAllNotificationAsRead userId, e => ∃ k, e = .mark userId k .read
  | .setNotificationAsComplete userId notifId, e => e = .mark userId notifId .complete
  | .handleFriendRequest userId friendId notifId accepted, e =>
      e = .mark userId notifId .complete ∨
        if accepted then e = .accept userId friendId
        else e = .user friendId (.unrequest userId)
  | .handleDuoRequest userId friendId notifId accepted, e =>
      (∃ k ∈ notifId, e = .mark userId k .complete) ∨ e.Opens none userId friendId ∨
        accepted = true ∧ (e.IsLock userId friendId ∨
          ∃ id, IsSalonOf none userId friendId id ∧ e.IsAgreement id)
  | .handleFiestaRequest userId duoId fiestaId notifId accepted, e =>
      e = .mark duoId notifId .complete ∨ accepted = true ∧
        (e ∈ waitingEffects fiestaId (some duoId) ∨
          e = .fiesta fiestaId
            (.union { fiestaRef := userId, duoRef := some duoId, status := .pending }) ∨
          ∃ host, e.Tells host (.join userId fiestaId))
  | .handleSponsorshipRequest userId sponsorshipId notifId accepted, e =>
      e = .mark userId notifId .complete ∨
        ∃ processedAt,
          e = .elsewhere (.sponsorship userId sponsorshipId (.process accepted processedAt))
  | .dismissFiesta userId fiestaId, e => e = .user userId (.dismissFiesta fiestaId)
  | .acceptFiesta userId fiestaId duo isWithSearch, e =>
      e = .user userId (.requestFiesta fiestaId) ∨
        isWithSearch = true ∧
          (∃ u ∈ duo, e.Tells u (.fiestaConfirmation userId fiestaId)) ∨
        isWithSearch = false ∧
          (e ∈ waitingEffects fiestaId duo ∨
            e = .fiesta fiestaId (.union
              { fiestaRef := userId
                duoRef := duo
                status := if duo.isNone then .waiting else .pending }) ∨
            ∃ host, e.Tells host (.join userId fiestaId))
  | .refuseUserInFiesta fiestaId userRef duoRef, e =>
      e = .fiesta fiestaId
        (.remove { fiestaRef := userRef, duoRef := some duoRef, status := .pending })
  | .deleteUserInFiesta fiestaId userRef duoRef, e =>
      e ∈ [.fiesta fiestaId
          (.remove { fiestaRef := userRef, duoRef := some duoRef, status := .accepted }),
        .user userRef (.setFiesta .null), .user duoRef (.setFiesta .null)]
  | .acceptUserInFiesta fiestaId userRef duoRef, e =>
      e ∈ acceptEffects fiestaId userRef (some duoRef)
  | .noteUser userId _, e => ∃ ratings, e = .user userId (.rate ratings)
  | .noteFiesta fiestaId _, e => ∃ ratings, e = .fiesta fiestaId (.rate ratings)
  | .reportUser sender id subId report _ _, e =>
      (∃ u ∈ id :: subId.toList, e = .user u (.incrementPoint (some report.points)) ∨
        ∃ copy, copy.sender = sender ∧ e = .elsewhere (.addUserReport u copy)) ∨
        ∃ stored, stored.sender = sender ∧ stored.toId = id ∧ e = .elsewhere (.addReport stored)
  | .createSponsorshipDirect uid code, e =>
      e = .user uid (.setStatus (.value "error")) ∨
        ∃ owner request, request.user.id = uid ∧ request.code = code ∧
          request.isAccepted = false ∧ e = .elsewhere (.sponsor owner request)
  | .acceptUser uid userId requestId, e =>
      e = .user userId .approve ∨
        ∃ acceptedAt, e = .elsewhere (.sponsorship uid requestId (.accept acceptedAt))
  | .refuseUser uid userId requestId, e =>
      e = .user userId (.setStatus (.value "error")) ∨
        e = .elsewhere (.dismissSponsorship uid requestId)
  | .updateStatus uid status, e => e = .user uid (.setStatus status)
  | .signUp uid, e => e = .createUser uid newUser
  | .openChat _ me other, e => e = .elsewhere (.storeSalon (other ++ me) (.ofTwo me other))
  | .createNewFiesta uid fiestaId form, e =>
      e = .createFiesta fiestaId form.fiesta ∨
        e = .elsewhere (.addCreated uid (form.created fiestaId)) ∨
        Callable.may (.createFiestaPoint uid) e ∨
        e = .elsewhere (.storeSalon fiestaId (.ofFiesta uid))
  | .updateFiesta uid fiestaId form, e =>
      e = .fiesta fiestaId (.save form) ∨ ∃ k, e = .elsewhere (.saveCreated uid k form)
  | .updateProfile uid page, e => e = .user uid (.edit page.edit)
  | .becomeMember meId id, e => e = .elsewhere (.salon id (.join meId))
  | .addUsersToSalon salonId users, e => e = .elsewhere (.salon salonId (.addUsers users))
  | .removeUsersFromSalon salonId users, e => e = .elsewhere (.salon salonId (.removeUsers users))
  | .leaveSalon salonId userId, e => e = .elsewhere (.salon salonId (.removeUsers [userId]))
  | .deleteSalon salonId, e => e = .elsewhere (.deleteSalon salonId)
  | .send salonId sending, e => sendEffects salonId sending e
  | .deleteSelectedMessage idSalon selected type id, e =>
      ∃ k ∈ selected, e = selectedEffect idSalon id k type

def Call.may : Call → Effect → Prop
  | .callable c => c.may
  | .triggered c => c.may
  | .app c => c.may
  | .time _ => fun _ => False

/-- Requests with the effects in `W`, or with none. -/
abbrev Effects (W : Effect → Prop) (act : Store → Store) : Prop :=
  Acts Effect.Does (fun e => e = .nothing ∨ W e) act

/-! ## Single requests -/

section Requests

variable {W V : Effect → Prop}

/-- More effects may be allowed than a call has. -/
theorem Effects.mono (weaker : ∀ e, W e → V e) {α : Type} {p : Firestore α}
    (makes : p.Makes (Effects W)) : p.Makes (Effects V) := by
  apply makes.mono
  intro act acts
  exact Acts.mono (fun e may => may.imp_right (weaker e)) acts

/-- A read has every effect that is allowed. -/
theorem effects_read : Effects W id :=
  .intro (.inl rfl) Store.Idle.refl

/-- A request whose effect is outside of the users, the fiestas and the notifications. -/
theorem effects_elsewhere {act : Store → Store} (x : Elsewhere) (may : W (.elsewhere x))
    (does : ∀ s, x.Does s (act s)) : Effects W act :=
  .intro (.inr may) does

/-- One such request, and what it answers. -/
theorem makes_elsewhere {α : Type} {act : Store → Store} {a : Store → α} (x : Elsewhere)
    (may : W (.elsewhere x)) (does : ∀ s, x.Does s (act s)) :
    (Program.step act fun s => pure (a s) : Firestore α).Makes (Effects W) :=
  .step (effects_elsewhere x may does) fun _ => .pure _

/-- The update of a salon. -/
theorem makes_salon {id : SalonId} (w : SalonWrite) (may : W (.elsewhere (.salon id w))) :
    (updateSalon id w.write).Makes (Effects W) :=
  makes_updateSalon (effects_elsewhere (.salon id w) may fun _ => rfl)

theorem makes_read {α : Type} (f : Store → α) :
    (Program.read f : Firestore α).Makes (Effects W) :=
  .read effects_read f

/-- The update of a user. -/
theorem makes_user {u : UserId} (w : UserWrite) (may : W (.user u w)) :
    (updateUser u w.write).Makes (Effects W) :=
  makes_updateUser (.intro (.inr may) fun _ => rfl)

/-- The update of a fiesta. -/
theorem makes_fiesta {f : FiestaId} (w : FiestaWrite) (may : W (.fiesta f w)) :
    (updateFiesta f w.write).Makes (Effects W) :=
  makes_updateFiesta (.intro (.inr may) fun _ => rfl)

/-- A new notification, whatever the time is. -/
theorem makes_notify {u : UserId} {n : Timestamp → Notification}
    (may : ∀ t, W (.notify u (n t))) : (addNotification u n).Makes (Effects W) :=
  makes_addNotification fun s => ⟨.notify u (n s.clock), .inr (may _), rfl⟩

/-- The update of a notification. -/
theorem makes_mark {u : UserId} {k : Nat} (m : Mark) (may : W (.mark u k m)) :
    (updateNotification u k m.write).Makes (Effects W) := by
  refine ⟨.intro (.inr may) fun _ => rfl, fun s => ?_⟩
  dsimp only
  split
  · exact .pure ()
  · exact .throw _

theorem makes_complete {u : UserId} {k : Nat} (may : W (.mark u k .complete)) :
    (setNotificationAsComplete u k).Makes (Effects W) :=
  .tryCatch (makes_mark .complete may) fun _ => .pure ()

/-- What a call does is the same when its error is ignored. -/
theorem makes_ignoring {α : Type} {p : Firestore α} (makes : p.Makes (Effects W)) :
    (ignoring p).Makes (Effects W) :=
  .bind makes fun _ => .pure ()

end Requests

/-! ## Friends -/

section Friends

variable {W : Effect → Prop} {userId friendId : UserId}

/-- What a swipe writes, whatever it has found. -/
theorem makes_answerSwipe (isMatch : Bool) :
    (answerSwipe userId friendId isMatch).Makes (Effects (· ∈ swipeEffects userId friendId)) := by
  cases isMatch with
  | true =>
      apply Program.Makes.bind (makes_user (.unrequest friendId) (by simp [swipeEffects]))
      intro _
      apply Program.Makes.bind (makes_user (.unrequest userId) (by simp [swipeEffects]))
      intro _
      apply Program.Makes.bind (makes_user (.addConnexion friendId) (by simp [swipeEffects]))
      intro _
      apply Program.Makes.bind (makes_user (.addConnexion userId) (by simp [swipeEffects]))
      intro _
      exact .pure true
  | false =>
      apply Program.Makes.bind (makes_user (.request friendId) (by simp [swipeEffects]))
      intro _
      exact .pure true

/-- A swipe writes to the documents of the two users only. -/
theorem makes_addFriendWithSwipe :
    (addFriendWithSwipe userId friendId).Makes (Effects (· ∈ swipeEffects userId friendId)) := by
  apply Program.Makes.bind
  · apply Program.Makes.bind (makes_read _)
    intro data
    apply Program.Makes.bind (makes_member data)
    intro data
    apply Program.Makes.bind
    · unfold fromJson
      split
      · exact .pure data
      · exact .throw _
    · exact fun _ => .pure _
  · exact makes_answerSwipe

/-- The cloud function writes the same, in another order. -/
theorem Functions.makes_addFriendWithSwipe :
    (Functions.addFriendWithSwipe userId friendId).Makes
      (Effects (· ∈ swipeEffects userId friendId)) := by
  apply Program.Makes.bind (makes_read _)
  intro data
  split
  · apply Program.Makes.bind (makes_user (.unrequest userId) (by simp [swipeEffects]))
    intro _
    apply Program.Makes.bind (makes_user (.unrequest friendId) (by simp [swipeEffects]))
    intro _
    apply Program.Makes.bind (makes_user (.addConnexion userId) (by simp [swipeEffects]))
    intro _
    apply Program.Makes.bind (makes_user (.addConnexion friendId) (by simp [swipeEffects]))
    intro _
    exact .pure true
  · apply Program.Makes.bind (makes_user (.request friendId) (by simp [swipeEffects]))
    intro _
    exact .pure true

/-- The loop of `deleteFriend` removes nothing: it compares references by identity. -/
theorem makes_removeEntriesFor (friends : List Friend) :
    (removeEntriesFor userId friendId friends).Makes (Effects W) := by
  apply Program.Makes.forEach
  intro e _
  exact .pure ()

/-- So `deleteFriend` writes nothing that matters. -/
theorem makes_deleteFriend : (deleteFriend userId friendId).Makes (Effects W) := by
  apply Program.Makes.bind (makes_read _)
  intro userData
  apply Program.Makes.bind (makes_read _)
  intro friendData
  apply Program.Makes.bind (makes_removeEntriesFor _)
  intro _
  apply Program.Makes.bind (makes_removeEntriesFor _)
  intro _
  exact .pure true

/-- An answer to a friend request writes to the documents of these two users only. -/
theorem makes_confirmFriendRequest (accepted : Bool) :
    (confirmFriendRequest userId friendId accepted).Makes
      (Effects (Callable.confirmFriendRequest userId friendId accepted).may) := by
  cases accepted with
  | false => exact .pure true
  | true =>
      apply Program.Makes.bind (makes_user (.befriend userId) ⟨rfl, by simp⟩)
      intro _
      apply Program.Makes.bind (makes_user (.befriend friendId) ⟨rfl, by simp⟩)
      intro _
      exact .pure true

/-- A request of a friend asks, or befriends the two who have asked each other. -/
theorem makes_addFriend :
    (addFriend userId friendId).Makes (Effects (AppCall.addFriend userId friendId).may) := by
  apply Program.Makes.tryCatch
  · apply Program.Makes.bind (makes_user (.request friendId) (.inl (by simp)))
    intro _
    apply Program.Makes.bind (makes_read _)
    intro userData
    apply Program.Makes.bind (makes_read _)
    intro friendData
    unfold answerOrNotify
    split
    · apply Program.Makes.bind (makes_user (.befriend userId) (.inl (by simp)))
      intro _
      exact makes_user (.befriend friendId) (.inl (by simp))
    · exact makes_notify fun _ => .inr ⟨rfl, ⟨rfl, rfl⟩, rfl⟩
  · exact fun _ => makes_user (.unrequest friendId) (.inl (by simp))

/-- The transaction accepts the request between these two. -/
theorem makes_acceptTransaction (may : W (.accept userId friendId)) :
    (acceptTransaction userId friendId).Makes (Effects W) := by
  refine ⟨?_, fun s => ?_⟩
  · intro s
    dsimp only
    split
    · exact ⟨.accept userId friendId, .inr may, rfl⟩
    · exact ⟨.nothing, .inl rfl, .refl s⟩
  · dsimp only
    split
    · exact .pure ()
    · exact .throw _

/-- The answer on the card completes it, and accepts or takes back the request. -/
theorem makes_handleFriendRequest (notifId : Nat) (accepted : Bool) :
    (handleFriendRequest userId friendId notifId accepted).Makes
      (Effects (AppCall.handleFriendRequest userId friendId notifId accepted).may) := by
  apply Program.Makes.bind (makes_complete (.inl rfl))
  intro _
  cases accepted with
  | true => exact makes_acceptTransaction (.inr rfl)
  | false => exact makes_user (.unrequest userId) (.inr rfl)

/-- Notifications of the user are marked as read, and nothing else happens. -/
theorem makes_setAllNotificationAsRead :
    (setAllNotificationAsRead userId).Makes
      (Effects (AppCall.setAllNotificationAsRead userId).may) := by
  apply Program.Makes.tryCatch
  · apply Program.Makes.bind (makes_read _)
    intro list
    apply Program.Makes.forEach
    intro doc _
    exact makes_mark .read ⟨doc.1, rfl⟩
  · exact fun _ => .pure ()

end Friends

/-! ## Locks and salons -/

section Locks

variable {W : Effect → Prop} {userId friendId : UserId}

/-- The callable tells the friend of the lock request. -/
theorem makes_requestNewLockDuo_tells :
    (requestNewLockDuo userId friendId).Makes
      (Effects (Callable.requestNewLockDuo userId friendId).may) := by
  apply Program.Makes.bind (makes_read _)
  intro userData
  apply Program.Makes.bind (makes_read _)
  intro friendData
  apply Program.Makes.bind (makes_defined _)
  intro firstname
  apply Program.Makes.bind (makes_defined _)
  intro lastname
  apply Program.Makes.bind (makes_defined _)
  intro pictures
  apply Program.Makes.bind (makes_notify fun _ => ⟨rfl, ⟨rfl, rfl⟩, rfl⟩)
  intro _
  apply Program.Makes.bind (makes_member friendData)
  intro data
  apply Program.Makes.bind (makes_pushUnlessEmpty effects_read data.fcmToken)
  intro _
  exact .pure true

/-- An accepted lock request locks the two, a refused one does nothing. -/
theorem makes_confirm (accepted : Bool) :
    (confirmDuoRequest userId friendId accepted).Makes
      (Effects (Callable.confirmDuoRequest userId friendId accepted).may) := by
  cases accepted with
  | false =>
      apply Program.Makes.bind (makes_read _)
      intro _
      apply Program.Makes.bind (makes_read _)
      intro _
      exact .pure true
  | true =>
      apply makes_confirmDuoRequest effects_read
      intro u duo pairs
      exact .intro (e := .user u (.lock duo)) (.inr ⟨rfl, pairs⟩) fun _ => rfl

/-- The end of a lock clears the duo of both. -/
theorem makes_stop :
    (stopLockDuo userId friendId).Makes
      (Effects (Callable.stopLockDuo userId friendId).may) := by
  apply makes_stopLockDuo
  intro u either
  refine .intro (e := .user u .unlock) (.inr ?_) fun _ => rfl
  rcases either with rfl | rfl
  · exact List.mem_cons_self
  · exact List.mem_cons_of_mem _ List.mem_cons_self

/-- The look-up gives a salon under the ids of the two. -/
theorem yields_existSalon (u v : UserId) :
    (FirestoreQuery.existSalonOneToOneWithGivenUsers u v).Yields
      fun found => ∀ id ∈ found, id = u ++ v ∨ id = v ++ u := by
  apply Program.Yields.read_bind
  intro doc1
  cases doc1 with
  | some _ =>
      rintro id ⟨⟩
      exact .inl rfl
  | none =>
      apply Program.Yields.read_bind
      intro doc2
      cases doc2 with
      | some _ =>
          rintro id ⟨⟩
          exact .inr rfl
      | none =>
          rintro id ⟨⟩

/-- The id that is found or made is that of the two users, in one of the orders. -/
theorem yields_salonFor (u v : UserId) (swapped : u = friendId ∧ v = userId ∨
    u = userId ∧ v = friendId) :
    (salonFor u v userId friendId).Yields (IsSalonOf none userId friendId) := by
  refine Program.Yields.bind (yields_existSalon u v) fun found listed => ?_
  cases found with
  | some id =>
      rcases swapped with ⟨rfl, rfl⟩ | ⟨rfl, rfl⟩
      · exact (listed id rfl).symm
      · exact listed id rfl
  | none => exact fun _ => .inl rfl

/-- The same where the page may know the salon already. -/
theorem yields_salonOr (salonId : Option SalonId) :
    (salonOr salonId userId friendId).Yields (IsSalonOf salonId userId friendId) := by
  cases salonId with
  | some id => exact rfl
  | none => exact yields_salonFor userId friendId (.inr ⟨rfl, rfl⟩)

/-- Looking for a salon may store one for the two users. -/
theorem makes_salonFor_opens (u v : UserId)
    (may : W (.elsewhere (.storeSalon (userId ++ friendId) (.ofTwo userId friendId)))) :
    (salonFor u v userId friendId).Makes (Effects W) := by
  apply Program.Makes.bind (makes_existSalon effects_read u v)
  intro found
  cases found with
  | some id => exact .pure id
  | none => exact ⟨effects_elsewhere _ may fun _ => rfl, fun _ => .pure _⟩

/-- The same where the page may know the salon already. -/
theorem makes_salonOr_opens {salonId : Option SalonId}
    (may : ∀ e, Effect.Opens salonId userId friendId e → W e) :
    (salonOr salonId userId friendId).Makes (Effects W) := by
  cases salonId with
  | some id => exact .pure id
  | none => exact makes_salonFor_opens userId friendId (may _ ⟨rfl, rfl⟩)

/-- A lock request writes its message, and the state of the salon of the two. -/
theorem FriendController.makes_requestNewLockDuo (salonId : Option SalonId) :
    (FriendController.requestNewLockDuo userId friendId salonId).Makes
      (Effects (AppCall.requestNewLockDuo userId friendId salonId).may) := by
  refine Program.Makes.bind_of_yields (makes_salonOr_opens fun _ opens => .inr (.inl opens))
    (yields_salonOr salonId) fun id isSalon => ?_
  apply Program.Makes.tryCatch
  · apply Program.Makes.bind (Effects.mono (fun _ => .inl) makes_requestNewLockDuo_tells)
    intro result
    apply Program.Makes.bind (makes_checkResult result)
    intro _
    apply Program.Makes.bind
    · refine makes_addChatMessage fun s => ⟨.elsewhere (.message id (lockDemand userId s.clock)),
        .inr (.inr (.inr ⟨id, isSalon, .inl ⟨s.clock, rfl⟩⟩)), rfl⟩
    intro ref
    apply Program.Makes.bind
      (makes_salon (.demand ref) (.inr (.inr ⟨id, isSalon, .inr ⟨ref, rfl⟩⟩)))
    intro _
    exact .pure false
  · exact fun _ => .pure true

/-- The end of a lock writes to the salon of the two, and clears both duos. -/
theorem FriendController.makes_stopLockDuo (salonId : Option SalonId) :
    (FriendController.stopLockDuo userId friendId salonId).Makes
      (Effects (AppCall.stopLockDuo userId friendId salonId).may) := by
  refine Program.Makes.bind_of_yields (makes_salonOr_opens fun _ opens => .inr (.inl opens))
    (yields_salonOr salonId) fun id isSalon => ?_
  apply Program.Makes.tryCatch
  · apply Program.Makes.bind (Effects.mono (fun _ => .inl) makes_stop)
    intro result
    apply Program.Makes.bind (makes_checkResult result)
    intro _
    apply Program.Makes.bind (makes_salon (.setLock .notYet) (.inr (.inr ⟨id, isSalon, rfl⟩)))
    intro _
    exact .pure false
  · exact fun _ => .pure true

/-- An acceptance locks the two, and marks the salon and the message of the demand. -/
theorem makes_acceptDuoRequest (salonId : SalonId) (may : ∀ e, e.IsLock userId friendId → W e)
    (agrees : ∀ e, e.IsAgreement salonId → W e) :
    (acceptDuoRequest userId friendId salonId).Makes (Effects W) := by
  apply Program.Makes.bind (Effects.mono (fun e lock => may e lock.2) (makes_confirm true))
  intro result
  apply Program.Makes.bind (makes_checkResult result)
  intro _
  apply Program.Makes.bind (makes_read _)
  intro doc
  apply Program.Makes.bind (makes_member doc)
  intro data
  apply Program.Makes.bind (makes_salon (.setLock .locked) (agrees _ (.inl rfl)))
  intro _
  exact makes_updateMessage fun k =>
    effects_elsewhere (.onMessage salonId (.drawn k) .accept) (agrees _ (.inr ⟨k, rfl⟩))
      fun _ => rfl

/-- The answer to a lock request completes its notification, and may accept it. -/
theorem NotificationController.makes_handleDuoRequest (notifId : Option Nat) (accepted : Bool) :
    (NotificationController.handleDuoRequest userId friendId notifId accepted).Makes
      (Effects (AppCall.handleDuoRequest userId friendId notifId accepted).may) := by
  refine Program.Makes.bind_of_yields (makes_salonFor_opens _ _ (.inr (.inl ⟨rfl, rfl⟩)))
    (yields_salonFor friendId userId (.inl ⟨rfl, rfl⟩)) fun salonId isSalon => ?_
  have rest : (if accepted then acceptDuoRequest userId friendId salonId else pure () :
      Firestore Unit).Makes
        (Effects (AppCall.handleDuoRequest userId friendId notifId accepted).may) := by
    split
    case isTrue yes =>
      exact makes_acceptDuoRequest salonId (fun e lock => .inr (.inr ⟨yes, .inl lock⟩))
        fun e agrees => .inr (.inr ⟨yes, .inr ⟨salonId, isSalon, agrees⟩⟩)
    case isFalse => exact .pure ()
  apply Program.Makes.tryCatch
  · cases notifId with
    | none => exact rest
    | some notifId => exact .bind (makes_complete (.inl ⟨notifId, rfl, rfl⟩)) fun _ => rest
  · exact fun _ => .pure ()

/-- The summary of a salon is written. -/
theorem makes_lastMessageToSalon {m : ChatMessage} {id : MessageId} {salonId : SalonId}
    (may : W (.elsewhere (.salon salonId (.setLast m id)))) :
    (FirestoreQuery.lastMessageToSalon m id salonId).Makes (Effects W) :=
  .tryCatch (makes_salon (.setLast m id) may) fun _ => .pure ()

/-- A send stores the message, and then gives the summary of it. -/
theorem makes_sending (salonId : SalonId) (sending : Sending) :
    (sending.program salonId).Makes (Effects (sendEffects salonId sending)) := by
  cases sending with
  | text m =>
      apply Program.Makes.bind
      · exact makes_elsewhere (.message salonId m) (.inl rfl) fun _ => rfl
      · exact fun key => makes_lastMessageToSalon (.inr ⟨key, rfl⟩)
  | file id m =>
      apply Program.Makes.bind
      · exact makes_elsewhere (.media salonId id m) (.inl rfl) fun _ => rfl
      · exact fun _ => makes_lastMessageToSalon (.inr rfl)

/-- The selected messages are deleted, or hidden from this user. -/
theorem makes_deleteSelectedMessage (idSalon : SalonId) (selected : List MessageId)
    (type : DeleteMessagesType) (id : UserId) :
    (deleteSelectedMessage idSalon selected type id).Makes
      (Effects (AppCall.deleteSelectedMessage idSalon selected type id).may) := by
  cases type with
  | all =>
      apply Program.Makes.forEach
      intro k listed
      apply Program.Makes.unawaited
      exact makes_elsewhere (.deleteMessage idSalon k) ⟨k, listed, rfl⟩ fun _ => rfl
  | onlyMe =>
      apply Program.Makes.forEach
      intro k listed
      apply Program.Makes.unawaited
      exact makes_updateMessageDoc <|
        effects_elsewhere (.onMessage idSalon k (.hideFrom id)) ⟨k, listed, rfl⟩ fun _ => rfl

/-- The chat button may store a salon of the two users. -/
theorem makes_chatButton (page : ChatPage) (me other : UserId) :
    (page.button me other).Makes (Effects (AppCall.openChat page me other).may) := by
  have button : (chatButton me other).Makes (Effects (AppCall.openChat page me other).may) := by
    apply Program.Makes.bind (makes_existSalon effects_read me other)
    intro found
    cases found with
    | some id => exact .pure id
    | none =>
        apply Program.Makes.bind
        · apply Program.Makes.bind
          · exact makes_elsewhere (.storeSalon _ (.ofTwo me other)) rfl fun _ => rfl
          · exact fun _ => .pure _
        · exact fun _ => .pure _
  cases page with
  | friendProfil => exact button
  | network => exact button

end Locks

/-! ## Fiestas -/

section Fiestas

variable {W : Effect → Prop} {userId : UserId} {fiestaId : FiestaId}

/-- Who joins is entered, and the host is told. -/
theorem makes_joinFiesta {fiestaRef : UserId} {duoRef : Option UserId} {status : Status}
    (entry : W (.fiesta fiestaId (.union { fiestaRef, duoRef, status })))
    (tells : ∀ host e, e.Tells host (.join fiestaRef fiestaId) → W e) :
    (joinFiesta userId fiestaId fiestaRef duoRef status).Makes (Effects W) := by
  apply Program.Makes.bind (makes_read _)
  intro fiestaData
  apply Program.Makes.bind (makes_member fiestaData)
  intro fiestaData
  apply Program.Makes.bind (makes_read _)
  intro hostData
  apply Program.Makes.bind (makes_member hostData)
  intro hostData
  apply Program.Makes.bind (makes_pushUnlessNull effects_read hostData.fcmToken)
  intro _
  apply Program.Makes.bind (makes_read _)
  intro user
  apply Program.Makes.bind (makes_fiesta (.union { fiestaRef, duoRef, status }) entry).unawaited
  intro _
  apply Program.Makes.bind (makes_member user)
  intro user
  apply Program.Makes.bind (makes_defined user.profilImages)
  intro pictures
  exact makes_notify fun _ => tells _ _ ⟨rfl, ⟨rfl, rfl⟩, rfl⟩

/-- What follows the look-up of a second user runs for one that is given. -/
theorem makes_docOf_bind {α : Type} {A : (Store → Store) → Prop} {o : Option UserId}
    {k : UserId → Firestore α} (rest : ∀ u ∈ o, (k u).Makes A) : (docOf o >>= k).Makes A := by
  cases o with
  | none => exact .throw _
  | some u => exact rest u rfl

/-- An acceptance moves the entry of these two, and brings them into the fiesta. -/
theorem makes_acceptUserInFiesta (duoRef : Option UserId) :
    (acceptUserInFiesta fiestaId userId duoRef).Makes
      (Effects (· ∈ acceptEffects fiestaId userId duoRef)) := by
  apply Program.Makes.bind (makes_read _)
  intro _
  apply Program.Makes.bind (makes_fiesta (.remove ⟨userId, duoRef, .pending⟩) (.head _))
  intro _
  apply Program.Makes.bind (makes_fiesta (.union ⟨userId, duoRef, .accepted⟩) (.tail _ (.head _)))
  intro _
  apply Program.Makes.bind (makes_read _)
  intro fUserData
  apply makes_docOf_bind
  intro secondUser given
  apply Program.Makes.bind (makes_read _)
  intro sUserData
  apply Program.Makes.bind
  · exact makes_user (.setFiesta (.value fiestaId)) (by simp [acceptEffects])
  intro _
  apply Program.Makes.bind
  · exact makes_user (.setFiesta (.value fiestaId))
      (by simp [acceptEffects, Option.mem_def.mp given])
  intro _
  apply Program.Makes.bind (makes_member fUserData)
  intro fUserData
  apply Program.Makes.bind (makes_pushUnlessNull effects_read fUserData.fcmToken)
  intro _
  apply Program.Makes.bind (makes_member sUserData)
  intro sUserData
  apply Program.Makes.bind (makes_pushUnlessNull effects_read sUserData.fcmToken)
  intro _
  exact .pure true

/-- The function of the app makes the same writes. -/
theorem FiestaController.makes_acceptUserInFiesta (duoRef : UserId) :
    (FiestaController.acceptUserInFiesta fiestaId userId duoRef).Makes
      (Effects (· ∈ acceptEffects fiestaId userId (some duoRef))) := by
  apply Program.Makes.bind (makes_fiesta (.remove ⟨userId, some duoRef, .pending⟩) (.head _))
  intro _
  apply Program.Makes.bind
  · exact makes_fiesta (.union ⟨userId, some duoRef, .accepted⟩) (.tail _ (.head _))
  intro _
  apply Program.Makes.bind
  · exact makes_user (.setFiesta (.value fiestaId)) (by simp [acceptEffects])
  intro _
  exact makes_user (.setFiesta (.value fiestaId)) (by simp [acceptEffects])

/-- A removal takes out the entry of these two, and takes both out of the fiesta. -/
theorem FiestaController.makes_deleteUserInFiesta (duoRef : UserId) :
    (FiestaController.deleteUserInFiesta fiestaId userId duoRef).Makes
      (Effects (AppCall.deleteUserInFiesta fiestaId userId duoRef).may) := by
  apply Program.Makes.bind (makes_fiesta (.remove ⟨userId, some duoRef, .accepted⟩) (.head _))
  intro _
  apply Program.Makes.bind (makes_user (.setFiesta .null) (.tail _ (.head _)))
  intro _
  exact makes_user (.setFiesta .null) (.tail _ (.tail _ (.head _)))

/-- Who was accepted is taken out of the fiesta and told. -/
theorem makes_clearParticipant (fiestaData : Fiesta) (user : Participant)
    (clears : ∀ u, W (.user u (.setFiesta .null))) (tells : ∀ u e, e.Tells u .message → W e) :
    (clearParticipant fiestaData user).Makes (Effects W) := by
  unfold clearParticipant
  split
  case isFalse => exact .pure ()
  case isTrue =>
    apply Program.Makes.bind (makes_read _)
    intro userData
    apply Program.Makes.bind (makes_user (.setFiesta .null) (clears _))
    intro _
    apply Program.Makes.bind (makes_notify fun _ => tells _ _ ⟨rfl, ⟨rfl, rfl⟩, rfl⟩)
    intro _
    apply makes_docOf_bind
    intro duoRef _
    apply Program.Makes.bind (makes_read _)
    intro duoData
    apply Program.Makes.bind (makes_user (.setFiesta .null) (clears _))
    intro _
    apply Program.Makes.bind (makes_notify fun _ => tells _ _ ⟨rfl, ⟨rfl, rfl⟩, rfl⟩)
    intro _
    apply Program.Makes.bind (makes_member userData)
    intro userData
    apply Program.Makes.bind (makes_pushUnlessEmpty effects_read userData.fcmToken)
    intro _
    apply Program.Makes.bind (makes_member duoData)
    intro duoData
    exact makes_pushUnlessNull effects_read duoData.fcmToken

/-- A deletion clears its participants, the fiesta, and the history of the host. -/
theorem makes_deleteFiesta :
    (deleteFiesta userId fiestaId).Makes
      (Effects (Callable.deleteFiesta userId fiestaId).may) := by
  apply Program.Makes.bind (makes_read _)
  intro fiestaData
  apply Program.Makes.bind (makes_member fiestaData)
  intro fiestaData
  apply Program.Makes.bind
  · apply Program.Makes.forEach
    intro user _
    exact makes_clearParticipant fiestaData user (fun u => .inl ⟨u, .inl rfl⟩)
      fun u _ tells => .inl ⟨u, .inr tells⟩
  intro _
  apply Program.Makes.bind
  · apply Program.Makes.bind (makes_read _)
    intro docs
    cases docs with
    | nil => exact .pure ()
    | cons doc _ =>
        exact makes_elsewhere (.deleteCreated userId doc.1) (.inr (.inr ⟨doc.1, rfl⟩))
          fun _ => rfl
  intro _
  exact ⟨.intro (.inr (.inr (.inl rfl))) fun _ => rfl, fun _ => .pure ()⟩

/-- The duo that was chosen is asked to confirm. -/
theorem makes_requestADuoToGoFiesta (duoRef : Option UserId)
    (tells : ∀ duo ∈ duoRef, ∀ e, e.Tells duo (.fiestaConfirmation userId fiestaId) → W e) :
    (requestADuoToGoFiesta userId fiestaId duoRef).Makes (Effects W) := by
  apply Program.Makes.bind (makes_read _)
  intro fiestaData
  apply makes_docOf_bind
  intro duo given
  apply Program.Makes.bind (makes_read _)
  intro userData
  apply Program.Makes.bind (makes_member userData)
  intro userData
  apply Program.Makes.bind (makes_member fiestaData)
  intro fiestaData
  apply Program.Makes.bind (makes_defined userData.firstname)
  intro firstname
  apply Program.Makes.bind (makes_defined userData.lastname)
  intro lastname
  apply Program.Makes.bind (makes_defined userData.profilImages)
  intro pictures
  exact makes_notify fun _ => tells duo given _ ⟨rfl, ⟨rfl, rfl⟩, rfl⟩

/-- Those who are refused are told. -/
theorem makes_refuseUserNotify (duoRef : UserId) :
    (refuseUserNotify fiestaId userId duoRef).Makes
      (Effects (Callable.refuseUserNotify fiestaId userId duoRef).may) := by
  apply Program.Makes.bind (makes_read _)
  intro fiestaData
  apply Program.Makes.bind (makes_member fiestaData)
  intro fiestaData
  apply Program.Makes.bind (makes_read _)
  intro userData
  apply Program.Makes.bind (makes_member userData)
  intro userData
  apply Program.Makes.bind (makes_read _)
  intro duoData
  apply Program.Makes.bind (makes_member duoData)
  intro duoData
  apply Program.Makes.bind (makes_notify fun _ => .inl ⟨rfl, ⟨rfl, rfl⟩, rfl⟩)
  intro _
  exact makes_notify fun _ => .inr ⟨rfl, ⟨rfl, rfl⟩, rfl⟩

/-- Without a user there is no entry to remove, and the update changes nothing. -/
theorem makes_removeWaiting {duo : Option UserId}
    (may : ∀ e ∈ waitingEffects fiestaId duo, W e) :
    (updateFiesta fiestaId (·.removeWaiting duo)).Makes (Effects W) := by
  cases duo with
  | some u => exact makes_fiesta (.remove ⟨u, none, .waiting⟩) (may _ (.head _))
  | none =>
      apply makes_updateFiesta
      refine .intro (e := .nothing) (.inl rfl) fun s => ?_
      have same : s.updateFiesta fiestaId (·.removeWaiting none) = s :=
        Store.updateFiesta_eq_self.mpr fun _ _ => rfl
      rw [same]
      exact .refl s

/-- Who swipes right joins, alone, with a duo or in search of one. -/
theorem makes_acceptFiesta (duo : Option UserId) (isWithSearch : Bool) :
    (FiestaController.acceptFiesta userId fiestaId duo isWithSearch).Makes
      (Effects (AppCall.acceptFiesta userId fiestaId duo isWithSearch).may) := by
  apply Program.Makes.bind (makes_user (.requestFiesta fiestaId) (.inl rfl))
  intro _
  cases isWithSearch with
  | true =>
      apply makes_requestADuoToGoFiesta
      exact fun u given e tells => .inr (.inl ⟨rfl, u, given, tells⟩)
  | false =>
      apply Program.Makes.bind
      · exact makes_removeWaiting fun e listed => .inr (.inr ⟨rfl, .inl listed⟩)
      intro _
      apply makes_joinFiesta (.inr (.inr ⟨rfl, .inr (.inl rfl)⟩))
      exact fun host e tells => .inr (.inr ⟨rfl, .inr (.inr ⟨host, tells⟩)⟩)

/-- The answer of the chosen duo completes its notification, and may enter the two. -/
theorem makes_handleFiestaRequest (duoId : UserId) (notifId : Nat) (accepted : Bool) :
    (NotificationController.handleFiestaRequest userId duoId fiestaId notifId accepted).Makes
      (Effects (AppCall.handleFiestaRequest userId duoId fiestaId notifId accepted).may) := by
  apply Program.Makes.bind (makes_complete (.inl rfl))
  intro _
  cases accepted with
  | false => exact .pure ()
  | true =>
      apply Program.Makes.bind
      · apply Program.Makes.bind
        · exact makes_removeWaiting fun e listed => .inr ⟨rfl, .inl listed⟩
        intro _
        apply makes_joinFiesta (.inr ⟨rfl, .inr (.inl rfl)⟩)
        exact fun host e tells => .inr ⟨rfl, .inr (.inr ⟨host, tells⟩)⟩
      · exact fun _ => .throw _

end Fiestas

/-! ## Points, ratings, reports and trust codes -/

section Others

variable {W : Effect → Prop} {userId : UserId}

/-- The points of the host are counted, and its level is set. -/
theorem makes_createFiestaPoint :
    (createFiestaPoint userId).Makes (Effects (Callable.createFiestaPoint userId).may) := by
  apply Program.Makes.bind (makes_user .createFiesta (.inl rfl))
  intro _
  apply Program.Makes.bind (makes_read _)
  intro data
  apply Program.Makes.bind (makes_member data)
  intro data
  dsimp only
  split
  · exact makes_user (.setLevel _) (.inr ⟨_, rfl⟩)
  · exact .pure ()

/-- A new fiesta, its entry in the history, its salon, and the points of the host. -/
theorem makes_createNewFiesta (fiestaId : FiestaId) (form : FiestaForm) :
    (HostForms.createNewFiesta userId fiestaId form).Makes
      (Effects (AppCall.createNewFiesta userId fiestaId form).may) := by
  unfold HostForms.createNewFiesta
  split
  case isFalse => exact .pure true
  case isTrue =>
    split
    case isTrue => exact .pure true
    case isFalse =>
      apply Program.Makes.bind (makes_read _)
      intro now
      split
      case isTrue => exact .pure true
      case isFalse =>
        apply Program.Makes.bind
        · exact .step (.intro (.inr (.inl rfl)) fun _ => rfl) fun _ => .pure ()
        intro _
        apply Program.Makes.bind
        · exact makes_elsewhere (.addCreated userId (form.created fiestaId)) (.inr (.inl rfl))
            fun _ => rfl
        intro _
        apply Program.Makes.bind
        · apply Program.Makes.tryCatch
          · exact Effects.mono (fun _ point => .inr (.inr (.inl point))) makes_createFiestaPoint
          · exact fun _ => .pure ()
        intro _
        apply Program.Makes.bind
        · apply Program.Makes.tryCatch
          · exact makes_elsewhere (.storeSalon fiestaId (.ofFiesta userId))
              (.inr (.inr (.inr rfl))) fun _ => rfl
          · exact fun _ => .pure ()
        exact fun _ => .pure false

/-- The form is saved over the fiesta and over its entry in the history. -/
theorem HostForms.makes_updateFiesta {fiestaId : FiestaId} (form : FiestaForm) :
    (HostForms.updateFiesta userId fiestaId form).Makes
      (Effects (AppCall.updateFiesta userId fiestaId form).may) := by
  apply Program.Makes.tryCatch
  · apply Program.Makes.bind
    · exact makes_fiesta (.save form) (.inl rfl)
    intro _
    apply Program.Makes.bind (makes_read _)
    intro docs
    cases docs with
    | nil => exact .throw _
    | cons doc docs =>
        apply Program.Makes.bind
        · refine ⟨effects_elsewhere (.saveCreated userId doc.1 form) (.inr ⟨doc.1, rfl⟩)
            fun _ => rfl, fun s => ?_⟩
          dsimp only
          split
          · exact .pure ()
          · exact .throw _
        · exact fun _ => .pure false
  · intro e
    cases e with
    | typeError => exact .throw _
    | _ => exact .pure true

/-- A rating is read, changed and written. -/
theorem makes_rate {δ : Type} {get : Firestore (Option δ)} {isAppUser : δ → Bool}
    {ratings : δ → Ratings} {update : Ratings → Firestore Unit} {note : Rat}
    (reads : get.Makes (Effects W)) (writes : ∀ r, (update r).Makes (Effects W)) :
    (rate get isAppUser ratings update note).Makes (Effects W) := by
  apply Program.Makes.tryCatch
  · apply Program.Makes.bind reads
    intro data
    apply Program.Makes.bind (makes_member data)
    intro data
    apply Program.Makes.bind
    · unfold appUserOf
      split
      · exact .pure _
      · exact .throw _
    · exact fun docData => writes _
  · exact fun _ => .pure ()

/-- A report gives points to the user, and a copy of it is stored with the user. -/
theorem makes_creditReport {sender : UserId} {report : ReportModel} {message : Option String}
    (may : W (.user userId (.incrementPoint (some report.points))))
    (copies : ∀ copy, copy.sender = sender → W (.elsewhere (.addUserReport userId copy))) :
    (creditReport sender userId report message).Makes (Effects W) := by
  apply Program.Makes.bind (makes_user (.incrementPoint _) may)
  intro _
  exact ⟨fun s => ⟨.elsewhere (.addUserReport userId _), .inr (copies _ rfl), rfl⟩,
    fun _ => .pure ()⟩

/-- The report is stored, and its points are credited to the user and to its duo. -/
theorem makes_reportUser (sender : UserId) (subId : Option UserId) (report : ReportModel)
    (message image : Option String) :
    (reportUser sender userId subId report message image).Makes
      (Effects (AppCall.reportUser sender userId subId report message image).may) := by
  have store : ∀ id, (storeReport sender userId id report message image).Makes
      (Effects (AppCall.reportUser sender userId subId report message image).may) := by
    intro id
    apply Program.Makes.bind (makes_read _)
    intro setAt
    apply Program.Makes.bind
    · cases image with
      | none => exact .pure _
      | some file =>
          apply Program.Makes.bind
          · apply Program.Makes.bind (makes_read _)
            intro url
            cases url with
            | none => exact .throw _
            | some url => exact .pure url
          · exact fun _ => .pure _
    intro image
    exact makes_elsewhere (.addReport (storedReport sender userId id report message setAt image))
      (.inr ⟨_, rfl, rfl, rfl⟩) fun _ => rfl
  have credits : ∀ u ∈ userId :: subId.toList, (creditReport sender u report message).Makes
      (Effects (AppCall.reportUser sender userId subId report message image).may) :=
    fun u listed => makes_creditReport (.inl ⟨u, listed, .inl rfl⟩)
      fun copy same => .inl ⟨u, listed, .inr ⟨copy, same, rfl⟩⟩
  apply Program.Makes.bind (credits userId (.head _))
  intro _
  cases subId with
  | none => exact store none
  | some subId =>
      apply Program.Makes.bind (credits subId (.tail _ (.head _)))
      exact fun _ => store (some subId)

/-- A request to the sponsor, or the status `error` of the user. -/
theorem makes_createSponsorshipDirect (code : String) :
    (createSponsorshipDirect userId code).Makes
      (Effects (AppCall.createSponsorshipDirect userId code).may) := by
  apply Program.Makes.tryCatch
  · apply Program.Makes.bind (makes_read _)
    intro selfData
    cases selfData with
    | none => exact .throw _
    | some selfData =>
        apply Program.Makes.bind (makes_read _)
        intro docs
        cases docs with
        | nil => exact .throw _
        | cons first _ =>
            apply Program.Makes.bind
            · exact ⟨fun s => ⟨.elsewhere (.sponsor first.2.user
                (sponsorshipDoc userId selfData code s.clock)),
                .inr (.inr ⟨_, _, rfl, rfl, rfl, rfl⟩),
                rfl⟩, fun _ => .pure ()⟩
            · exact fun _ => .pure true
  · intro _
    apply Program.Makes.bind
    · exact .tryCatch (makes_user (.setStatus (.value "error")) (.inl rfl)) fun _ => .pure ()
    · exact fun _ => .pure false

/-- An update of a request, with a write that depends on the time only. -/
theorem makes_updateSponsorship {u : UserId} {r : Nat} {w : Timestamp → SponsorshipWrite}
    (may : ∀ t, W (.elsewhere (.sponsorship u r (w t)))) :
    (updateSponsorship u r fun t request => (w t).write request).Makes (Effects W) := by
  refine ⟨fun s => ⟨.elsewhere (.sponsorship u r (w s.clock)), .inr (may _), rfl⟩, fun s => ?_⟩
  dsimp only
  split
  · exact .pure ()
  · exact .throw _

/-- Codes are deleted. -/
theorem makes_onUserDeleted (snap : User) :
    (onUserDeleted snap).Makes (Effects (Triggered.onUserDeleted snap).may) := by
  apply Program.Makes.bind (makes_defined _)
  intro personnalTrustCode
  apply Program.Makes.bind (makes_read _)
  intro docs
  apply Program.Makes.forEach
  intro doc _
  exact makes_elsewhere (.deleteCode doc.1) ⟨doc.1, rfl⟩ fun _ => rfl

/-- The sponsor is told of the request. -/
theorem makes_notifySponsor (sponsorshipId : Nat) (data : Sponsorship) :
    (notifySponsor userId sponsorshipId data).Makes
      (Effects (Effect.Tells userId (.sponsorship sponsorshipId data))) := by
  apply Program.Makes.bind (makes_read _)
  intro parentUserDoc
  cases parentUserDoc with
  | none => exact .pure ()
  | some parentUserData =>
      dsimp only
      split
      · exact .pure ()
      · apply Program.Makes.bind (makes_send effects_read parentUserData.fcmToken)
        intro _
        exact makes_notify fun _ => ⟨rfl, ⟨rfl, rfl⟩, rfl⟩

/-- The trigger writes nothing but the notification of the sponsor. -/
theorem makes_onSponsorshipCreated (sponsorshipId : Nat) (snap : Option Sponsorship) :
    (onSponsorshipCreated userId sponsorshipId snap).Makes
      (Effects (Triggered.onSponsorshipCreated userId sponsorshipId snap).may) := by
  have tells : ∀ data, (notifySponsor userId sponsorshipId data).Makes
      (Effects (Triggered.onSponsorshipCreated userId sponsorshipId snap).may) :=
    fun data => Effects.mono (fun e told => ⟨data, told⟩) (makes_notifySponsor sponsorshipId data)
  cases snap with
  | some data => exact tells data
  | none =>
      apply Program.Makes.bind (makes_read _)
      intro sponsorshipData
      cases sponsorshipData with
      | none => exact .pure ()
      | some data => exact tells data

end Others

/-! ## Jobs -/

section Jobs

variable {W : Effect → Prop}

/-- Each participant gets its note and its copy of the fiesta. -/
theorem makes_noteMember (id : FiestaId) (data : Fiesta) (e : Participant) :
    (noteMember id data e).Makes (Effects W) := by
  rw [noteMember_eq]
  split
  case isFalse => exact .pure ()
  case isTrue =>
    apply Program.Makes.bind (makes_read _)
    intro fUserData
    apply makes_docOf_bind
    intro sUser _
    apply Program.Makes.bind (makes_read _)
    intro _
    apply Program.Makes.bind (makes_member fUserData)
    exact fun _ => .throw _

/-- The job marks fiestas as ended, and leaves its notes. -/
theorem makes_checkEndFiesta :
    checkEndFiesta.Makes (Effects Triggered.checkEndFiesta.may) := by
  apply Program.Makes.bind (makes_read _)
  intro fiestas
  apply Program.Makes.forEach
  intro e _
  apply Program.Makes.bind (makes_read _)
  intro now
  split
  case isFalse => exact .pure ()
  case isTrue =>
    apply Program.Makes.bind (makes_fiesta .markEnded ⟨e.1, .inl rfl⟩)
    intro _
    apply Program.Makes.bind
    · exact makes_notify fun _ => ⟨e.1, .inr ⟨_, _, rfl, ⟨rfl, rfl⟩, rfl⟩⟩
    intro _
    apply Program.Makes.forEach
    exact fun member _ => makes_noteMember e.1 e.2 member

/-- The points of an expired report are taken back. -/
theorem makes_settle (u : UserId) (point : Stored Js.Number)
    (may : ∀ n, W (.user u (.incrementPoint n))) : (settle u point).Makes (Effects W) := by
  apply Program.Makes.bind (makes_read _)
  intro data
  apply Program.Makes.bind (makes_member data)
  intro toData
  apply Program.Makes.bind (makes_read _)
  intro takesNaN
  split
  · exact makes_user (.incrementPoint _) (may _)
  · exact .throw _

/-- The loop takes points back and deletes reports. -/
theorem makes_cleanLoop (may : ∀ u n, W (.user u (.incrementPoint n)))
    (deletes : ∀ k, W (.elsewhere (.deleteReport k)))
    (reports : List (Nat × Report)) (now : Js.Date) :
    (cleanLoop reports now).Makes (Effects W) := by
  induction reports generalizing now with
  | nil => exact .pure ()
  | cons report reports ih =>
      have settled : (settleReport report).Makes (Effects W) := by
        apply Program.Makes.bind (makes_settle _ _ (may _))
        intro _
        have deleted : (deleteReport report.1).Makes (Effects W) :=
          makes_elsewhere (.deleteReport report.1) (deletes _) fun _ => rfl
        cases report.2.subId with
        | undefined => exact deleted
        | null => exact deleted
        | value subId => exact .bind (makes_settle _ _ (may _)) fun _ => deleted
      unfold cleanLoop
      dsimp only
      split
      · exact .bind settled fun _ => ih _
      · exact ih _

/-- The job that expires reports does nothing else. -/
theorem makes_cleanReportAfterDuration :
    cleanReportAfterDuration.Makes (Effects Triggered.clearReportAfterDuration.may) := by
  apply Program.Makes.bind (makes_read _)
  intro reports
  apply Program.Makes.bind (makes_read _)
  intro now
  exact makes_cleanLoop (fun u n => .inl ⟨u, n, rfl⟩) (fun k => .inr ⟨k, rfl⟩) reports now

/-- The job empties the lists of dismissed users. -/
theorem makes_clearDismissed :
    clearDismissed.Makes (Effects Triggered.clearDismissed.may) := by
  apply Program.Makes.tryCatch
  · apply Program.Makes.bind (makes_read _)
    intro users
    apply Program.Makes.forEach
    intro user _
    split
    · exact makes_user .clearDismissed ⟨user.1, rfl⟩
    · exact .pure ()
  · exact fun _ => .pure ()

end Jobs

/-! ## The table holds -/

/-- **Each callable does what its row of the table says, and nothing else.** -/
theorem Callable.makes_program (c : Callable) : c.program.Makes (Effects c.may) := by
  cases c with
  | addFriendWithSwipe _ _ => exact makes_ignoring Functions.makes_addFriendWithSwipe
  | deleteFriend _ _ => exact makes_ignoring makes_deleteFriend
  | dismissFriendWithSwipe _ friendId =>
      apply makes_ignoring
      apply Program.Makes.bind
      · exact makes_user (.dismissFriend friendId) rfl
      · exact fun _ => .pure true
  | confirmFriendRequest _ _ accepted => exact makes_ignoring (makes_confirmFriendRequest accepted)
  | requestNewLockDuo _ _ => exact makes_ignoring makes_requestNewLockDuo_tells
  | confirmDuoRequest _ _ accepted => exact makes_ignoring (makes_confirm accepted)
  | stopLockDuo _ _ => exact makes_ignoring makes_stop
  | joinFiesta _ _ _ _ _ => exact makes_joinFiesta (.inl rfl) fun host _ tells => .inr ⟨host, tells⟩
  | deleteFiesta _ _ => exact makes_deleteFiesta
  | acceptUserInFiesta _ _ duoRef => exact makes_ignoring (makes_acceptUserInFiesta duoRef)
  | requestADuoToGoFiesta _ _ duoRef =>
      exact makes_requestADuoToGoFiesta duoRef fun duo given _ tells => ⟨duo, given, tells⟩
  | refuseUserNotify _ _ duoRef => exact makes_refuseUserNotify duoRef
  | createFiestaPoint _ => exact makes_createFiestaPoint
  | deleteUser _ => exact ⟨.intro (.inr rfl) fun _ => rfl, fun _ => .pure ()⟩

/-- The same for the triggers and the jobs. -/
theorem Triggered.makes_program (c : Triggered) : c.program.Makes (Effects c.may) := by
  cases c with
  | onUserCreated _ uniqueId =>
      apply Program.Makes.bind
      · exact makes_user (.setTrustCode uniqueId) (.inl rfl)
      intro _
      exact makes_elsewhere (.addCode _) (.inr rfl) fun _ => rfl
  | onUserDeleted snap => exact makes_onUserDeleted snap
  | onSponsorshipCreated _ sponsorshipId snap => exact makes_onSponsorshipCreated sponsorshipId snap
  | checkEndFiesta => exact makes_checkEndFiesta
  | clearReportAfterDuration => exact makes_cleanReportAfterDuration
  | clearDismissed => exact makes_clearDismissed

/-- The same for the functions of the app. -/
theorem AppCall.makes_program (c : AppCall) : c.program.Makes (Effects c.may) := by
  cases c with
  | addFriendWithSwipe _ _ => exact makes_ignoring makes_addFriendWithSwipe
  | addFriend _ _ => exact makes_addFriend
  | cancelFriendRequest _ _ _ => exact .tryCatch (makes_user (.setRequests _) rfl) fun _ => .pure ()
  | addToFirstCircle _ _ _ => exact makes_user (.setFriends _) rfl
  | bloqueUser _ userId => exact .tryCatch (makes_user (.block userId) rfl) fun _ => .pure ()
  | unnbloqueUser _ userId => exact .tryCatch (makes_user (.unblock userId) rfl) fun _ => .pure ()
  | requestNewLockDuo _ _ salonId =>
      exact makes_ignoring (FriendController.makes_requestNewLockDuo salonId)
  | stopLockDuo _ _ salonId => exact makes_ignoring (FriendController.makes_stopLockDuo salonId)
  | setAllNotificationAsRead _ => exact makes_setAllNotificationAsRead
  | setNotificationAsComplete _ _ => exact makes_complete rfl
  | handleFriendRequest _ _ notifId accepted => exact makes_handleFriendRequest notifId accepted
  | handleDuoRequest _ _ notifId accepted =>
      exact NotificationController.makes_handleDuoRequest notifId accepted
  | handleFiestaRequest _ duoId _ notifId accepted =>
      exact makes_handleFiestaRequest duoId notifId accepted
  | handleSponsorshipRequest _ _ _ _ =>
      apply Program.Makes.tryCatch
      · apply Program.Makes.bind (makes_complete (.inl rfl))
        exact fun _ => makes_updateSponsorship (w := .process _) fun t => .inr ⟨t, rfl⟩
      · exact fun _ => .pure ()
  | dismissFiesta _ fiestaId => exact makes_user (.dismissFiesta fiestaId) rfl
  | acceptFiesta _ _ duo isWithSearch => exact makes_acceptFiesta duo isWithSearch
  | refuseUserInFiesta _ _ _ => exact makes_fiesta (.remove _) rfl
  | deleteUserInFiesta _ _ duoRef => exact FiestaController.makes_deleteUserInFiesta duoRef
  | acceptUserInFiesta _ _ duoRef => exact FiestaController.makes_acceptUserInFiesta duoRef
  | noteUser _ _ => exact makes_rate (makes_read _) fun r => makes_user (.rate r) ⟨r, rfl⟩
  | noteFiesta _ _ => exact makes_rate (makes_read _) fun r => makes_fiesta (.rate r) ⟨r, rfl⟩
  | reportUser sender _ subId report message image =>
      exact makes_reportUser sender subId report message image
  | createSponsorshipDirect _ code => exact makes_ignoring (makes_createSponsorshipDirect code)
  | acceptUser _ _ _ =>
      apply Program.Makes.bind (makes_updateSponsorship (w := .accept) fun t => .inr ⟨t, rfl⟩)
      exact fun _ => makes_user .approve (.inl rfl)
  | refuseUser uid _ requestId =>
      apply Program.Makes.bind
      · exact makes_elsewhere (.dismissSponsorship uid requestId) (.inr rfl) fun _ => rfl
      · exact fun _ => makes_user (.setStatus (.value "error")) (.inl rfl)
  | updateStatus _ status => exact makes_user (.setStatus status) rfl
  | signUp _ => exact ⟨.intro (.inr rfl) fun _ => rfl, fun _ => .pure ()⟩
  | openChat page me other => exact makes_ignoring (makes_chatButton page me other)
  | createNewFiesta _ fiestaId form => exact makes_ignoring (makes_createNewFiesta fiestaId form)
  | updateFiesta _ _ form => exact makes_ignoring (HostForms.makes_updateFiesta form)
  | updateProfile _ page => exact .tryCatch (makes_user (.edit page.edit) rfl) fun _ => .pure ()
  | becomeMember meId _ => exact makes_salon (.join meId) rfl
  | addUsersToSalon _ users => exact makes_salon (.addUsers users) rfl
  | removeUsersFromSalon _ users => exact makes_salon (.removeUsers users) rfl
  | leaveSalon _ userId => exact makes_salon (.removeUsers [userId]) rfl
  | deleteSalon salonId => exact makes_elsewhere (.deleteSalon salonId) rfl fun _ => rfl
  | send salonId sending => exact makes_sending salonId sending
  | deleteSelectedMessage idSalon selected type id =>
      exact makes_deleteSelectedMessage idSalon selected type id

/-- Time passes, and no document changes. -/
theorem Store.idle_reach (s : Store) (t : Timestamp) : s.Idle (s.reach t) := by
  unfold Store.reach
  split
  case isTrue later => exact ⟨t, later, rfl⟩
  case isFalse => exact .refl s

/-- Whatever a call reads, each of its requests has an effect of the table. -/
theorem Call.makes_program (c : Call) : c.program.Makes (Effects c.may) := by
  cases c with
  | callable c => exact c.makes_program
  | triggered c => exact c.makes_program
  | app c => exact c.makes_program
  | time t => exact ⟨.intro (.inl rfl) fun s => s.idle_reach t, fun _ => .pure ()⟩

/-! ## Any number of calls -/

/-- The calls, each at its start. -/
def Store.serve {ι : Type} (s : Store) (calls : ι → Call) : Pool ι Store Err Unit where
  store := s
  thread i := (calls i).program

/-- Whoever is served does what the row of its call says. -/
theorem makes_serve {ι : Type} (s : Store) (calls : ι → Call) (i : ι) :
    ((s.serve calls).thread i).Makes (Effects (calls i).may) :=
  (calls i).makes_program

section Serve

variable {ι : Type} [DecidableEq ι] {s : Store} {calls : ι → Call} {schedule : List ι}

/-- What all effects in the tables of the calls do, a whole schedule does. -/
theorem serve_effects {R : Store → Store → Prop} (refl : ∀ s, R s s)
    (trans : ∀ {s t u}, R s t → R t u → R s u) (idle : ∀ s t : Store, s.Idle t → R s t)
    (effects : ∀ i ∈ schedule, ∀ e s t, (calls i).may e → e.Does s t → R s t) :
    R s ((s.serve calls).play schedule).store := by
  apply Pool.play_effects refl trans (makes_serve s calls)
  intro i listed e s t may does
  rcases may with rfl | may
  · exact idle s t does
  · exact effects i listed e s t may does

/-- What has come to hold, and does not come to hold as time passes, was brought about by one
call of the schedule. -/
theorem serve_cause {P : Store → Prop} (idle : ∀ s t : Store, s.Idle t → P t → P s)
    (before : ¬ P s) (after : P ((s.serve calls).play schedule).store) :
    ∃ i ∈ schedule, ∃ e s t, (calls i).may e ∧ e.Does s t ∧ ¬ P s ∧ P t := by
  rcases Pool.exists_cause (makes_serve s calls) before after with
    ⟨i, listed, e, s', t', may, does, holdsNot, holds⟩
  rcases may with rfl | may
  · exact absurd (idle s' t' does holds) holdsNot
  · exact ⟨i, listed, e, s', t', may, does, holdsNot, holds⟩

/-- The same for one document: what it has become was brought about by one effect of a call. -/
theorem doc_cause {δ : Type} (get : Store → Option δ)
    (idle : ∀ s t : Store, s.Idle t → get t = get s) {Q : δ → Prop} {d : δ}
    (before : ∀ d, get s = some d → ¬ Q d)
    (found : get ((s.serve calls).play schedule).store = some d) (holds : Q d) :
    ∃ i ∈ schedule, ∃ e s t, (calls i).may e ∧ e.Does s t ∧ (∀ d, get s = some d → ¬ Q d) ∧
      ∃ d, get t = some d ∧ Q d := by
  let P : Store → Prop := fun s => ∃ d, get s = some d ∧ Q d
  have kept : ∀ s t : Store, s.Idle t → P t → P s := by
    rintro s t unchanged ⟨d, found, holds⟩
    exact ⟨d, (idle s t unchanged).symm.trans found, holds⟩
  have notYet : ¬ P s := by
    rintro ⟨d, found, holds⟩
    exact before d found holds
  rcases serve_cause kept notYet ⟨d, found, holds⟩ with ⟨i, listed, e, s', t', may, does, was, now⟩
  exact ⟨i, listed, e, s', t', may, does, fun d found holds => was ⟨d, found, holds⟩, now⟩

end Serve

end TwoGather
