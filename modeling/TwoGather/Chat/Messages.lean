import Mathlib.Data.List.Sort
import TwoGather.Documents
import TwoGather.Lib.Snapshots

/-!
# The messages that a phone shows

`SalonMessagesNotifier` keeps the messages of the open salon in a map. What comes from the
database goes through one of four functions, by the type of the message: a text or a lock demand
replaces what the map has; a picture or a video is put where the map has none, replaces a message
that was sent from this phone and keeps its path there, and is dropped otherwise.
-/

namespace TwoGather

open Docs

/-- `MessageModel`, which is also what `fromJson` makes of a document. Of the fields that are only
carried along, those that other code of the app reads. -/
structure MessageModel where
  id : Option String := none
  sender : UserId
  type : MessageContentType
  message : Option String := none
  temporaryPath : Option String := none
  urlMediaContent : Option String := none
  state : LockButton := .notYet
  seenBy : Option (List UserId) := none
  userDeleteMessage : Option (List UserId) := none
  createdAt : Timestamp
  timeStamp : Option Timestamp := none
  deriving DecidableEq

namespace MessageModel

def isMedia (messageModel : MessageModel) : Bool :=
  messageModel.type = .imageMessage || messageModel.type = .videoMessage

/-- `MessageModel.fromJson(data).copyWith(id: id)`. -/
def fromDoc (id : String) (data : MessageModel) : MessageModel :=
  { data with id := some id }

/-- `copyWith(temporaryPath: path)`. -/
def withPath (messageModel : MessageModel) (path : String) : MessageModel :=
  { messageModel with temporaryPath := some path }

/-- Someone else's message that `myUid` has not seen. -/
def isUnseen (myUid : UserId) (messageModel : MessageModel) : Bool :=
  messageModel.sender ≠ myUid && !(messageModel.seenBy.getD []).contains myUid

end MessageModel

/-- `_mapMessageToShow`. -/
structure SalonMessagesNotifier where
  mapMessageToShow : Collection String MessageModel := ⟨[], List.nodup_nil⟩
  deriving DecidableEq

namespace SalonMessagesNotifier

/-- What the map has of a message. -/
def shown (n : SalonMessagesNotifier) (id : String) : Option MessageModel :=
  n.mapMessageToShow.get? id

/-- `init`. -/
def init (_ : SalonMessagesNotifier) : SalonMessagesNotifier where
  mapMessageToShow := ⟨[], List.nodup_nil⟩

def deleteMessage (n : SalonMessagesNotifier) (messageModelID : String) :
    SalonMessagesNotifier where
  mapMessageToShow := n.mapMessageToShow.delete messageModelID

/-- A message that replaces what the map has. -/
def replace (n : SalonMessagesNotifier) (messageModel : MessageModel) : SalonMessagesNotifier :=
  match messageModel.id with
  | none => n
  | some id => { mapMessageToShow := n.mapMessageToShow.set id messageModel }

/-- A message that keeps the path of the one that the map has, or is dropped. -/
def merge (n : SalonMessagesNotifier) (messageModel : MessageModel) : SalonMessagesNotifier :=
  match messageModel.id with
  | none => n
  | some id =>
      match n.shown id with
      | none => { mapMessageToShow := n.mapMessageToShow.set id messageModel }
      | some shown =>
          match shown.temporaryPath with
          | none => n
          | some path =>
              { mapMessageToShow := n.mapMessageToShow.set id (messageModel.withPath path) }

def addTextMessage (n : SalonMessagesNotifier) (messageModel : MessageModel) :
    SalonMessagesNotifier :=
  n.replace messageModel

def addLockedMessage (n : SalonMessagesNotifier) (messageModel : MessageModel) :
    SalonMessagesNotifier :=
  n.replace messageModel

def addImageMessage (n : SalonMessagesNotifier) (messageModel : MessageModel) :
    SalonMessagesNotifier :=
  n.merge messageModel

def addVideoMessage (n : SalonMessagesNotifier) (messageModel : MessageModel) :
    SalonMessagesNotifier :=
  n.merge messageModel

/-- What `addMessage` does to the map. -/
def add (n : SalonMessagesNotifier) (messageModel : MessageModel) : SalonMessagesNotifier :=
  match messageModel.type with
  | .textMessage => n.addTextMessage messageModel
  | .videoMessage => n.addVideoMessage messageModel
  | .imageMessage => n.addImageMessage messageModel
  | .lockDemandMessage => n.addLockedMessage messageModel

/-- What the map has of a message after it is added under its id. -/
def merged (messageModel : MessageModel) (shown : Option MessageModel) : Option MessageModel :=
  if messageModel.isMedia then
    match shown with
    | none => some messageModel
    | some shown =>
        match shown.temporaryPath with
        | none => some shown
        | some path => some (messageModel.withPath path)
  else some messageModel

theorem shown_merge (n : SalonMessagesNotifier) (messageModel : MessageModel) {id : String}
    (own : messageModel.id = some id) (media : messageModel.isMedia = true) (k : String) :
    (n.merge messageModel).shown k =
      if k = id then merged messageModel (n.shown id)
      else n.shown k := by
  unfold merge merged
  rw [own, if_pos media]
  dsimp only
  cases here : n.shown id with
  | none => exact Collection.get?_set n.mapMessageToShow ..
  | some shown =>
      dsimp only
      cases shown.temporaryPath with
      | none =>
          by_cases same : k = id
          · rw [if_pos same, same]
            exact here
          · rw [if_neg same]
      | some path => exact Collection.get?_set n.mapMessageToShow ..

/-- A message changes the entry of its own id alone. -/
theorem shown_add (n : SalonMessagesNotifier) (messageModel : MessageModel) {id : String}
    (own : messageModel.id = some id) (k : String) :
    (n.add messageModel).shown k =
      if k = id then merged messageModel (n.shown id)
      else n.shown k := by
  have replaced (other : messageModel.isMedia = false) :
      (n.replace messageModel).shown k =
        if k = id then merged messageModel (n.shown id)
        else n.shown k := by
    unfold replace merged
    rw [own, other]
    exact Collection.get?_set n.mapMessageToShow ..
  unfold add
  split
  case _ type => exact replaced (by simp [MessageModel.isMedia, type])
  case _ type => exact n.shown_merge messageModel own (by simp [MessageModel.isMedia, type]) k
  case _ type => exact n.shown_merge messageModel own (by simp [MessageModel.isMedia, type]) k
  case _ type => exact replaced (by simp [MessageModel.isMedia, type])

end SalonMessagesNotifier

/-! ## The query of the messages -/

/-- The order of `orderBy("timeStamp", descending: true)`. -/
def Later (a b : String × MessageModel) : Prop :=
  (b.2.timeStamp.map (·.micros)).getD 0 < (a.2.timeStamp.map (·.micros)).getD 0 ∨
    (b.2.timeStamp.map (·.micros)).getD 0 = (a.2.timeStamp.map (·.micros)).getD 0 ∧ b.1 ≤ a.1

instance : DecidableRel Later :=
  fun _ _ => inferInstanceAs (Decidable (_ ∨ _ ∧ _))

/-- `orderBy("timeStamp", descending: true).limit(limit)`; the order leaves out documents without
the field. -/
def latest (limit : Nat) (messages : Collection String MessageModel) :
    Collection String MessageModel where
  docs := ((messages.docs.filter (·.2.timeStamp.isSome)).insertionSort Later).take limit
  nodup := by
    have sorted := List.perm_insertionSort Later (messages.docs.filter (·.2.timeStamp.isSome))
    have filtered := messages.nodup.sublist
      ((List.filter_sublist (p := (·.2.timeStamp.isSome))).map Prod.fst)
    exact ((sorted.map Prod.fst).nodup_iff.mpr filtered).sublist ((List.take_sublist ..).map _)

/-- A query finds what the collection has. -/
theorem get?_of_latest {limit : Nat} {messages : Collection String MessageModel} {id : String}
    {data : MessageModel} (found : (latest limit messages).get? id = some data) :
    messages.get? id = some data := by
  have listed := List.mem_of_mem_take (Collection.mem_docs.mpr found)
  rw [(List.perm_insertionSort Later _).mem_iff] at listed
  exact Collection.mem_docs.mp (List.mem_filter.mp listed).1

end TwoGather
