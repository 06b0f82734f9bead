import TwoGather.Store

/-!
# Salons and their messages

`chat/services/firestore/index.dart`. The salon of two users has their two ids, one after
the other, as its id; which one stands first depends on who creates it. Its messages are a
sub-collection, which takes messages whether or not the salon exists, and stays when the salon
is deleted.
-/

namespace TwoGather

open Docs Requests

namespace Store

/-- The document `Salons/{id}`, if it exists. -/
def salon (s : Store) (id : SalonId) : Option Salon :=
  s.salons.get? id

def updateSalon (s : Store) (id : SalonId) (g : Salon → Salon) : Store :=
  { s with salons := s.salons.update id g }

def setSalon (s : Store) (id : SalonId) (salon : Salon) : Store :=
  { s with salons := s.salons.set id salon }

def addMessage (s : Store) (id : SalonId) (m : ChatMessage) : Store :=
  { s with messages := Function.update s.messages id ((s.messages id).add m) }

def updateMessage (s : Store) (id : SalonId) (k : Nat) (g : ChatMessage → ChatMessage) : Store :=
  { s with messages := Function.update s.messages id ((s.messages id).update k g) }

def setMedia (s : Store) (id : SalonId) (k : String) (m : ChatMessage) : Store :=
  { s with media := Function.update s.media id ((s.media id).set k m) }

/-- An update of a message with an id of either kind. -/
def onMessage (s : Store) (id : SalonId) (k : MessageId) (g : ChatMessage → ChatMessage) : Store :=
  { s with
    messages := match k with
      | .drawn k => Function.update s.messages id ((s.messages id).update k g)
      | .given _ => s.messages
    media := match k with
      | .drawn _ => s.media
      | .given k => Function.update s.media id ((s.media id).update k g) }

def deleteMessage (s : Store) (id : SalonId) (k : MessageId) : Store :=
  { s with
    messages := match k with
      | .drawn k => Function.update s.messages id ((s.messages id).delete k)
      | .given _ => s.messages
    media := match k with
      | .drawn _ => s.media
      | .given k => Function.update s.media id ((s.media id).delete k) }

/-- The salon has a message with this id. -/
def hasMessage (s : Store) (id : SalonId) : MessageId → Bool
  | .drawn k => ((s.messages id).get? k).isSome
  | .given k => ((s.media id).get? k).isSome

def deleteSalon (s : Store) (id : SalonId) : Store :=
  { s with salons := s.salons.delete id }

section Reads

variable (s : Store) (id other : SalonId)

@[simp] theorem salon_updateSalon (g : Salon → Salon) :
    (s.updateSalon id g).salon other =
      if other = id then (s.salon other).map g else s.salon other :=
  Collection.get?_update s.salons id other g

@[simp] theorem salon_setSalon (new : Salon) :
    (s.setSalon id new).salon other = if other = id then some new else s.salon other :=
  Collection.get?_set s.salons id other new

@[simp] theorem salon_deleteSalon :
    (s.deleteSalon id).salon other = if other = id then none else s.salon other :=
  Collection.get?_delete s.salons id other

@[simp] theorem salon_addMessage (m : ChatMessage) :
    (s.addMessage id m).salon other = s.salon other := rfl

@[simp] theorem salon_updateMessage (k : Nat) (g : ChatMessage → ChatMessage) :
    (s.updateMessage id k g).salon other = s.salon other := rfl

@[simp] theorem salon_setMedia (k : String) (m : ChatMessage) :
    (s.setMedia id k m).salon other = s.salon other := rfl

@[simp] theorem salon_updateUser (u : UserId) (g : User → User) :
    (s.updateUser u g).salon id = s.salon id := rfl

@[simp] theorem salon_addNotification (u : UserId) (n : Notification) :
    (s.addNotification u n).salon id = s.salon id := rfl

@[simp] theorem salon_updateNotification (u : UserId) (k : Nat)
    (g : Notification → Notification) : (s.updateNotification u k g).salon id = s.salon id := rfl

end Reads

end Store

/-! ## Requests -/

/-- `Salons.doc(id).get()`. -/
def getSalon (id : SalonId) : Firestore (Option Salon) :=
  .read (·.salon id)

/-- `Salons.doc(id).set(..)`. -/
def setSalon (id : SalonId) (salon : Salon) : Firestore Unit :=
  .step (·.setSalon id salon) fun _ => pure ()

/-- `Salons.doc(id).update(..)`: fails if the document does not exist. -/
def updateSalon (id : SalonId) (g : Salon → Salon) : Firestore Unit :=
  .step (·.updateSalon id g) fun s => if (s.salon id).isSome then pure () else throw .notFound

/-- `Salons.doc(id).collection("Messages").add(..)`, with the id that was drawn. -/
def addChatMessage (id : SalonId) (m : Timestamp → ChatMessage) : Firestore Nat :=
  .step (fun s => s.addMessage id (m s.clock)) fun s => pure (s.messages id).next

/-- `Salons.doc(id).collection("Messages").doc(k).set(..)`. -/
def setMediaMessage (id : SalonId) (k : String) (m : ChatMessage) : Firestore Unit :=
  .step (·.setMedia id k m) fun _ => pure ()

/-- `Salons.doc(id).collection("Messages").doc(k).update(..)`. A missing `k` stands for a
document that does not exist. -/
def updateMessage (id : SalonId) (k : Stored Nat) (g : ChatMessage → ChatMessage) :
    Firestore Unit :=
  match k with
  | .value k =>
      .step (·.updateMessage id k g) fun s =>
        if ((s.messages id).get? k).isSome then pure () else throw .notFound
  | _ => throw .notFound

/-- `Salons.doc(id).delete()`: succeeds whether or not the document exists. -/
def deleteSalonDoc (id : SalonId) : Firestore Unit :=
  .step (·.deleteSalon id) fun _ => pure ()

/-- `Salons.doc(id).collection("Messages").doc(k).delete()`. -/
def deleteMessageDoc (id : SalonId) (k : MessageId) : Firestore Unit :=
  .step (·.deleteMessage id k) fun _ => pure ()

/-- `Salons.doc(id).collection("Messages").doc(k).update(..)`, for an id of either kind. -/
def updateMessageDoc (id : SalonId) (k : MessageId) (g : ChatMessage → ChatMessage) :
    Firestore Unit :=
  .step (·.onMessage id k g) fun s => if s.hasMessage id k then pure () else throw .notFound

section Exec

variable (s : Store) (id : SalonId)

@[simp] theorem exec_getSalon : (getSalon id).exec s = (.ok (s.salon id), s) := rfl

@[simp] theorem exec_setSalon (salon : Salon) :
    (setSalon id salon).exec s = (.ok (), s.setSalon id salon) := rfl

/-- The update of a salon fails exactly if there is none. -/
@[simp] theorem exec_updateSalon (g : Salon → Salon) :
    (updateSalon id g).exec s =
      (if (s.salon id).isSome then .ok () else .error .notFound, s.updateSalon id g) := by
  unfold updateSalon
  rw [Program.exec_step, Program.exec_ite]
  split <;> rfl

/-- A new message gets the next key and the time of the request. -/
@[simp] theorem exec_addChatMessage (m : Timestamp → ChatMessage) :
    (addChatMessage id m).exec s = (.ok (s.messages id).next, s.addMessage id (m s.clock)) := rfl

/-- The update of a message fails exactly if there is none. -/
@[simp] theorem exec_updateMessage (k : Nat) (g : ChatMessage → ChatMessage) :
    (updateMessage id (.value k) g).exec s =
      (if ((s.messages id).get? k).isSome then .ok () else .error .notFound,
        s.updateMessage id k g) := by
  unfold updateMessage
  rw [Program.exec_step, Program.exec_ite]
  split <;> rfl

@[simp] theorem exec_setMediaMessage (k : String) (m : ChatMessage) :
    (setMediaMessage id k m).exec s = (.ok (), s.setMedia id k m) := rfl

end Exec

section Makes

variable {A : (Store → Store) → Prop} {id : SalonId}

theorem makes_updateSalon {g : Salon → Salon} (act : A (·.updateSalon id g)) :
    (updateSalon id g).Makes A := by
  refine ⟨act, fun s => ?_⟩
  dsimp only
  split
  · exact .pure ()
  · exact .throw _

theorem makes_addChatMessage {m : Timestamp → ChatMessage}
    (act : A fun s => s.addMessage id (m s.clock)) : (addChatMessage id m).Makes A :=
  ⟨act, fun _ => .pure _⟩

theorem makes_updateMessage {k : Stored Nat} {g : ChatMessage → ChatMessage}
    (act : ∀ k, A (·.updateMessage id k g)) : (updateMessage id k g).Makes A := by
  cases k with
  | undefined => exact .throw _
  | null => exact .throw _
  | value k =>
      refine ⟨act k, fun s => ?_⟩
      dsimp only
      split
      · exact .pure ()
      · exact .throw _

theorem makes_updateMessageDoc {k : MessageId} {g : ChatMessage → ChatMessage}
    (act : A (·.onMessage id k g)) : (updateMessageDoc id k g).Makes A := by
  refine ⟨act, fun s => ?_⟩
  dsimp only
  split
  · exact .pure ()
  · exact .throw _

end Makes

/-! ## `chat/services/firestore/index.dart` -/

/-- `arrayUnion` of a list. -/
def Salon.addUsers (salon : Salon) (users : List UserId) : Salon :=
  { salon with users := users.foldl arrayUnion salon.users }

/-- `arrayRemove` of a list. -/
def Salon.removeUsers (salon : Salon) (users : List UserId) : Salon :=
  { salon with users := users.foldl arrayRemove salon.users }

def Salon.setLast (salon : Salon) (m : ChatMessage) (id : MessageId) : Salon :=
  { salon with
    lastMessageContent := .value m
    lastMessageType := .value m.type
    lastMessageId := .value id }

namespace FirestoreQuery

def existSalonOneToOneWithGivenUsers (uid1 uid2 : UserId) : Firestore (Option SalonId) := do
  let doc1 ← getSalon (uid1 ++ uid2)
  if doc1.isSome then
    return some (uid1 ++ uid2)
  let doc2 ← getSalon (uid2 ++ uid1)
  if doc2.isSome then
    return some (uid2 ++ uid1)
  return none

/-- The write is not awaited. -/
def addSalonOneToOne (salonModel : Salon) (myUid otherUid : UserId) : Firestore SalonId := do
  setSalon (otherUid ++ myUid) salonModel
  return otherUid ++ myUid

/-- Nothing waits for this update, so nothing comes of its failure. -/
def lastMessageToSalon (messageModel : ChatMessage) (id : MessageId) (salonId : SalonId) :
    Firestore Unit :=
  tryCatch (updateSalon salonId (·.setLast messageModel id)) fun _ => pure ()

/-- The message of `sendButton`, which has no id yet. -/
def addMessage (messageModel : ChatMessage) (salonId : SalonId) : Firestore Unit := do
  let key ← addChatMessage salonId fun _ => messageModel
  lastMessageToSalon messageModel (.drawn key) salonId

/-- A message of `sendImage`, `sendVideo` or `sendAudio`, with the id drawn by the client. -/
def setMessage (id : String) (messageModel : ChatMessage) (salonId : SalonId) :
    Firestore Unit := do
  setMediaMessage salonId id messageModel
  lastMessageToSalon messageModel (.given id) salonId

/-- `addSalon`, for a model with this id. -/
def addSalon (id : SalonId) (salonModel : Salon) : Firestore Unit :=
  setSalon id salonModel

def addUsersToSalon (salonId : SalonId) (users : List UserId) : Firestore Unit :=
  updateSalon salonId (·.addUsers users)

def removeUsersFromSalon (salonId : SalonId) (users : List UserId) : Firestore Unit :=
  updateSalon salonId (·.removeUsers users)

def leaveSalon (salonId : SalonId) (userId : UserId) : Firestore Unit :=
  updateSalon salonId (·.removeUsers [userId])

def deleteSalon (salonId : SalonId) : Firestore Unit :=
  deleteSalonDoc salonId

end FirestoreQuery

/-! ## `chat/riverpods/salon_messages_notifier.dart` -/

inductive DeleteMessagesType
  | onlyMe
  | all

def ChatMessage.hideFrom (m : ChatMessage) (u : UserId) : ChatMessage :=
  { m with userDeleteMessage := m.userDeleteMessage.union u }

/-- The messages that are selected in the open salon; none of the requests is awaited. -/
def deleteSelectedMessage (idSalon : SalonId) (selected : List MessageId)
    (type : DeleteMessagesType) (id : UserId) : Firestore Unit :=
  match type with
  | .all => Program.forEach selected fun msgId => .unawaited (deleteMessageDoc idSalon msgId)
  | .onlyMe =>
      Program.forEach selected fun msgId =>
        .unawaited (updateMessageDoc idSalon msgId (·.hideFrom id))

/-! ## Salons of the app -/

/-- A new salon of two users. -/
def Salon.ofTwo (u v : UserId) : Salon where
  type := .oneToOne
  users := [u, v]

/-- A new salon of a fiesta. -/
def Salon.ofFiesta (host : UserId) : Salon where
  type := .group
  users := [host]

/-- The last step of `createNewFiesta`: the salon of the new fiesta, under its id. A failure is
left aside. -/
def addFiestaSalon (uid : UserId) (fiestaId : FiestaId) : Firestore Unit :=
  tryCatch (FirestoreQuery.addSalon fiestaId (.ofFiesta uid)) fun _ => pure ()

def Salon.join (salon : Salon) (u : UserId) : Salon :=
  { salon with users := arrayUnion salon.users u }

/-- The button of `cardAllSalon` for those who are not in the salon. -/
def becomeMember (meId : UserId) (id : SalonId) : Firestore Unit :=
  updateSalon id (·.join meId)

/-- The search for a salon reads only. -/
theorem makes_existSalon {A : (Store → Store) → Prop} (reads : A id) (uid1 uid2 : UserId) :
    (FirestoreQuery.existSalonOneToOneWithGivenUsers uid1 uid2).Makes A := by
  apply Program.Makes.bind (.read reads _)
  intro doc1
  cases doc1 with
  | some _ => exact .pure _
  | none =>
      apply Program.Makes.bind (.read reads _)
      intro doc2
      cases doc2 with
      | some _ => exact .pure _
      | none => exact .pure _

section Exec

variable (s : Store)

/-- The id that is looked up: the salon in the given order, or the one in the other. -/
def Store.salonOf (s : Store) (uid1 uid2 : UserId) : Option SalonId :=
  if (s.salon (uid1 ++ uid2)).isSome then some (uid1 ++ uid2)
  else if (s.salon (uid2 ++ uid1)).isSome then some (uid2 ++ uid1)
  else none

/-- It finds the salon that is there, under the first id if there are two. -/
@[simp] theorem exec_existSalon (uid1 uid2 : UserId) :
    (FirestoreQuery.existSalonOneToOneWithGivenUsers uid1 uid2).exec s =
      (.ok (s.salonOf uid1 uid2), s) := by
  unfold FirestoreQuery.existSalonOneToOneWithGivenUsers Store.salonOf
  by_cases first : (s.salon (uid1 ++ uid2)).isSome
  · simp [first]
  · by_cases second : (s.salon (uid2 ++ uid1)).isSome
    · simp [first, second]
    · simp [first, second]

@[simp] theorem exec_lastMessageToSalon (m : ChatMessage) (k : MessageId) (id : SalonId) :
    (FirestoreQuery.lastMessageToSalon m k id).exec s =
      (.ok (), s.updateSalon id (·.setLast m k)) := by
  unfold FirestoreQuery.lastMessageToSalon
  rw [Program.exec_tryCatch, exec_updateSalon]
  split <;> simp_all

end Exec

end TwoGather
