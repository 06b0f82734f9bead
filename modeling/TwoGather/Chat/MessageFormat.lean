import TwoGather.Fiesta.FiestaModel

/-!
# The form of messages and salons

`MessageModel` and `SalonModel` of `chat/freezed`, with all their fields, and what is kept of them
in the database. A message that answers another one has that one inside, which may answer
another one again, to any depth.

What a message becomes in the database, where that takes it, is read back with its answers, up to
the default of the state (`message_readBack`); and the summary that a salon gets shows its message
and leaves the rest of the salon alone (`summary_readBack`).
-/

namespace TwoGather

open Dynamic

/-! ## Names -/

/-- `_$MessageContentTypeEnumMap`. -/
def MessageContentType.name : MessageContentType → String
  | .textMessage => "textMessage"
  | .imageMessage => "imageMessage"
  | .videoMessage => "videoMessage"
  | .lockDemandMessage => "lockDemandMessage"

def MessageContentType.values : List MessageContentType :=
  [.textMessage, .imageMessage, .videoMessage, .lockDemandMessage]

/-- `_$MessageLockButtonStateEnumMap`. -/
def LockButton.name : LockButton → String
  | .notYet => "notYet"
  | .accepted => "accepted"

def LockButton.values : List LockButton := [.notYet, .accepted]

/-- `_$LockStateEnumMap`. -/
def LockState.name : LockState → String
  | .locked => "locked"
  | .sended => "sended"
  | .notYet => "notYet"

def LockState.values : List LockState := [.locked, .sended, .notYet]

/-- `_$SalonTypeEnumMap`. -/
def SalonType.name : SalonType → String
  | .oneToOne => "oneToOne"
  | .group => "group"
  | .all => "all"

def SalonType.values : List SalonType := [.oneToOne, .group, .all]

theorem MessageContentType.name_injective : Function.Injective name := by
  intro a b same
  cases a <;> cases b <;> first | rfl | simp [name] at same

theorem MessageContentType.mem_values (a : MessageContentType) : a ∈ values := by
  cases a <;> decide

theorem LockButton.name_injective : Function.Injective name := by
  intro a b same
  cases a <;> cases b <;> first | rfl | simp [name] at same

theorem LockButton.mem_values (a : LockButton) : a ∈ values := by
  cases a <;> decide

theorem LockState.name_injective : Function.Injective name := by
  intro a b same
  cases a <;> cases b <;> first | rfl | simp [name] at same

theorem LockState.mem_values (a : LockState) : a ∈ values := by
  cases a <;> decide

theorem SalonType.name_injective : Function.Injective name := by
  intro a b same
  cases a <;> cases b <;> first | rfl | simp [name] at same

theorem SalonType.mem_values (a : SalonType) : a ∈ values := by
  cases a <;> decide

/-! ## Casts -/

/-- `value as Timestamp`. -/
def timestamp? : Value → Option Int
  | .timestamp micros => some micros
  | _ => none

/-- `value as Timestamp?`. -/
def asTimestamp : Value → Option (Option Int)
  | .null => some none
  | .timestamp micros => some (some micros)
  | _ => none

/-- A list of texts, some of which may be `null`. -/
def namesValue (xs : List (Option String)) : Value :=
  .list (xs.map (Value.optional .string))

theorem asTimestamp_optional (t : Option Int) : asTimestamp (.optional .timestamp t) = some t := by
  cases t with
  | none => rfl
  | some t => rfl

/-- A list of names is stored as it is. -/
theorem stored_namesValue (now : Int) (xs : List (Option String)) :
    (namesValue xs).stored now = namesValue xs := by
  have each : Value.stored now ∘ Value.optional .string = Value.optional .string :=
    funext fun s => Value.stored_optional (fun _ => rfl) s
  unfold namesValue
  rw [Value.stored, Fields.storedList_eq, List.map_map, each]

/-- A list of names is read as it was written. -/
theorem asListOf_namesValue (xs : Option (List (Option String))) :
    (Value.optional namesValue xs).asListOf Value.asString = some xs := by
  cases xs with
  | none => rfl
  | some xs =>
      have back := Value.asListOf_map (h := id) Value.asString_optional xs
      rwa [List.map_id] at back

namespace Freezed

/-! ## Messages -/

/-- The fields of a message, but for the one that it answers. Instants are in microseconds. -/
structure MessageFields where
  sender : String
  relativePath : Option String := none
  blurHash : Option String := none
  duration : Option String := none
  temporaryPath : Option String := none
  message : Option String := none
  thumbnail : Option String := none
  thumbnailRelativePath : Option String := none
  thumbnailTemporaryPath : Option String := none
  urlMediaContent : Option String := none
  seenBy : Option (List (Option String)) := none
  readedBy : Option (List (Option String)) := none
  sended : Option Bool := none
  userDeleteMessage : Option (List (Option String)) := none
  lastMessageId : Option String := none
  state : Option LockButton := some .notYet
  id : Option String := none
  createdAt : Int
  timeStamp : Option Int := none
  type : MessageContentType
  deriving DecidableEq

/-- A message, or one with a `replyTo`. -/
inductive MessageModel
  | message (fields : MessageFields)
  | reply (fields : MessageFields) (replyTo : MessageModel)
  deriving DecidableEq

namespace MessageFields

/-- `state ?? MessageLockButtonState.notYet`. -/
def settled (f : MessageFields) : MessageFields :=
  { f with state := some (f.state.getD .notYet) }

/-- The casts of `fromJson`. -/
def cast (json : Fields) : Option MessageFields := do
  let sender ← (json.read "sender").string?
  let relativePath ← (json.read "relative_path").asString
  let blurHash ← (json.read "blur_hash").asString
  let duration ← (json.read "duration").asString
  let temporaryPath ← (json.read "temporaryPath").asString
  let message ← (json.read "message").asString
  let thumbnail ← (json.read "thumbnail").asString
  let thumbnailRelativePath ← (json.read "thumbnail_relative_path").asString
  let thumbnailTemporaryPath ← (json.read "thumbnail_temporary_path").asString
  let urlMediaContent ← (json.read "urlMediaContent").asString
  let seenBy ← (json.read "seenBy").asListOf Value.asString
  let readedBy ← (json.read "readedBy").asListOf Value.asString
  let sended ← (json.read "sended").asBool
  let userDeleteMessage ← (json.read "userDeleteMessage").asListOf Value.asString
  let lastMessageId ← (json.read "lastMessageId").asString
  let state ← (json.read "state").asEnum? LockButton.name LockButton.values
  let id ← (json.read "id").asString
  let createdAt ← timestamp? (json.read "createdAt")
  let timeStamp ← asTimestamp (json.read "timeStamp")
  let type ← (json.read "type").asEnum MessageContentType.name MessageContentType.values
  return { sender, relativePath, blurHash, duration, temporaryPath, message, thumbnail,
           thumbnailRelativePath, thumbnailTemporaryPath, urlMediaContent, seenBy, readedBy,
           sended, userDeleteMessage, lastMessageId, state, id, createdAt, timeStamp, type }

def fromJson (json : Fields) : Option MessageFields :=
  (cast json).map settled

/-- The entries of a message with this under `replyTo`, those that are `null` included. -/
def entries (f : MessageFields) (replyTo : Value) : Fields :=
  [("sender", .string f.sender), ("relative_path", .optional .string f.relativePath),
    ("blur_hash", .optional .string f.blurHash), ("duration", .optional .string f.duration),
    ("temporaryPath", .optional .string f.temporaryPath),
    ("message", .optional .string f.message), ("thumbnail", .optional .string f.thumbnail),
    ("thumbnail_relative_path", .optional .string f.thumbnailRelativePath),
    ("thumbnail_temporary_path", .optional .string f.thumbnailTemporaryPath),
    ("urlMediaContent", .optional .string f.urlMediaContent),
    ("seenBy", .optional namesValue f.seenBy), ("readedBy", .optional namesValue f.readedBy),
    ("sended", .optional .bool f.sended),
    ("userDeleteMessage", .optional namesValue f.userDeleteMessage),
    ("lastMessageId", .optional .string f.lastMessageId),
    ("state", .optional (fun state => .string state.name) f.state),
    ("id", .optional .string f.id), ("replyTo", replyTo),
    ("createdAt", .timestamp f.createdAt), ("timeStamp", .optional .timestamp f.timeStamp),
    ("type", .string f.type.name)]

section Entries

variable {f : MessageFields} {now : Int} {v : Value} {json : Fields}

/-- Only the answered message changes when the fields are stored. -/
theorem entries_stored (f : MessageFields) (now : Int) (v : Value) :
    (f.entries v).stored now = f.entries (v.stored now) := by
  have texts : ∀ s : Option String, (Value.optional .string s).stored now = .optional .string s :=
    Value.stored_optional fun _ => rfl
  have lists : ∀ xs, (Value.optional namesValue xs).stored now = .optional namesValue xs :=
    Value.stored_optional (stored_namesValue now)
  have bools : ∀ b, (Value.optional .bool b).stored now = .optional .bool b :=
    Value.stored_optional fun _ => rfl
  have times : ∀ t, (Value.optional .timestamp t).stored now = .optional .timestamp t :=
    Value.stored_optional fun _ => rfl
  have states : ∀ state : Option LockButton,
      (Value.optional (fun state => .string (LockButton.name state)) state).stored now =
        .optional (fun state => .string state.name) state :=
    Value.stored_optional fun _ => rfl
  simp only [entries, Fields.stored, storedFields, texts, lists, bools, times, states]
  rfl

/-- A document that reads as the entries of a message is that message. -/
theorem cast_of_reads (reads : ∀ key, json.read key = (f.entries v).read key) :
    cast json = some f := by
  have texts : ∀ (key : String) {s : Option String},
      (f.entries v).read key = .optional .string s → (json.read key).asString = some s := by
    intro key s entry
    rw [reads, entry, Value.asString_optional]
  have lists : ∀ (key : String) {xs : Option (List (Option String))},
      (f.entries v).read key = .optional namesValue xs →
        (json.read key).asListOf Value.asString = some xs := by
    intro key xs entry
    rw [reads, entry, asListOf_namesValue]
  have sender : (json.read "sender").string? = some f.sender := by
    rw [reads]
    rfl
  have sended : (json.read "sended").asBool = some f.sended := by
    rw [reads]
    exact Value.asBool_optional _
  have state : (json.read "state").asEnum? LockButton.name LockButton.values = some f.state := by
    rw [reads]
    exact Value.asEnum?_optional LockButton.name_injective LockButton.mem_values _
  have createdAt : timestamp? (json.read "createdAt") = some f.createdAt := by
    rw [reads]
    rfl
  have timeStamp : asTimestamp (json.read "timeStamp") = some f.timeStamp := by
    rw [reads]
    exact asTimestamp_optional _
  have type : (json.read "type").asEnum MessageContentType.name MessageContentType.values =
      some f.type := by
    rw [reads]
    exact Value.asEnum_name MessageContentType.name_injective f.type.mem_values
  unfold cast
  rw [sender, texts "relative_path" rfl, texts "blur_hash" rfl,
    texts "duration" rfl, texts "temporaryPath" rfl,
    texts "message" rfl, texts "thumbnail" rfl,
    texts "thumbnail_relative_path" rfl, texts "thumbnail_temporary_path" rfl,
    texts "urlMediaContent" rfl, lists "seenBy" rfl,
    lists "readedBy" rfl, sended, lists "userDeleteMessage" rfl,
    texts "lastMessageId" rfl, state, texts "id" rfl, createdAt, timeStamp, type]
  rfl

end Entries

end MessageFields

/-- What is nested in a map is smaller than the map. -/
theorem sizeOf_read {json entries : Fields} {key : String} (found : json.read key = .map entries) :
    sizeOf entries < sizeOf json := by
  induction json with
  | nil => cases found
  | cons entry json ih =>
      obtain ⟨k, v⟩ := entry
      rw [Fields.read_cons] at found
      split at found
      case isTrue =>
        subst found
        simp
        omega
      case isFalse =>
        have smaller := ih found
        simp
        omega

namespace MessageModel

def fields : MessageModel → MessageFields
  | .message f => f
  | .reply f _ => f

def withFields (f : MessageFields) : MessageModel → MessageModel
  | .message _ => .message f
  | .reply _ replyTo => .reply f replyTo

/-- The state of the message, and of those inside, is the default where it is `null`. -/
def settled : MessageModel → MessageModel
  | .message f => .message f.settled
  | .reply f replyTo => .reply f.settled replyTo.settled

def fromJson (json : Fields) : Option MessageModel :=
  match _ : json.read "replyTo" with
  | .null => (MessageFields.fromJson json).map .message
  | .map entries => do
      let f ← MessageFields.fromJson json
      let replyTo ← fromJson entries
      return .reply f replyTo
  | _ => none
termination_by sizeOf json
decreasing_by exact sizeOf_read ‹_›

def toJson : MessageModel → Fields
  | .message f => .present (f.entries .null)
  | .reply f replyTo => .present (f.entries (.map replyTo.toJson))

/-- Without an answered message, `fromJson` reads the fields only. -/
theorem fromJson_of_null {json : Fields} (alone : json.read "replyTo" = .null) :
    fromJson json = (MessageFields.fromJson json).map .message := by
  rw [fromJson]
  split
  case h_1 => rfl
  case h_2 entries there => cases alone.symm.trans there
  case h_3 other _ => exact absurd alone other

/-- With one, it reads that one too. -/
theorem fromJson_of_map {json entries : Fields} (there : json.read "replyTo" = .map entries) :
    fromJson json = do
      let f ← MessageFields.fromJson json
      let replyTo ← fromJson entries
      return .reply f replyTo := by
  rw [fromJson]
  split
  case h_1 alone => cases alone.symm.trans there
  case h_2 entries' there' =>
    cases there'.symm.trans there
    rfl
  case h_3 _ other => exact absurd there (other entries)

/-- What stands under `replyTo` in the map of a message. -/
def replyValue : MessageModel → Value
  | .message _ => .null
  | .reply _ replyTo => .map replyTo.toJson

def entries (m : MessageModel) : Fields :=
  m.fields.entries m.replyValue

section ReadBack

variable {json : Fields} {now : Int}

theorem toJson_eq (m : MessageModel) : m.toJson = .present m.entries := by
  cases m with
  | message f => rfl
  | reply f replyTo => rfl

/-- `toJson` leaves out null, and reads as all entries do. -/
theorem read_toJson (m : MessageModel) (key : String) : m.toJson.read key = m.entries.read key := by
  rw [toJson_eq]
  exact Fields.read_present _ _ (by simp [entries, MessageFields.entries])

/-- What is read from the stored form. -/
theorem read_stored_toJson (m : MessageModel) (now : Int) (key : String) :
    (m.toJson.stored now).read key =
      (m.fields.entries (m.replyValue.stored now)).read key := by
  rw [Fields.read_stored, read_toJson, ← Fields.read_stored, entries,
    MessageFields.entries_stored]

/-- A document that reads as a stored message, for every key, is that message. The answers
are read one inside the other. -/
theorem fromJson_of_reads (m : MessageModel)
    (reads : ∀ key, json.read key = (m.fields.entries (m.replyValue.stored now)).read key) :
    fromJson json = some m.settled := by
  induction m generalizing json with
  | message f =>
      have alone : json.read "replyTo" = .null := reads "replyTo"
      rw [fromJson_of_null alone, MessageFields.fromJson, MessageFields.cast_of_reads reads]
      rfl
  | reply f replyTo ih =>
      have there : json.read "replyTo" = .map (replyTo.toJson.stored now) := reads "replyTo"
      have back := ih (read_stored_toJson replyTo now)
      rw [fromJson_of_map there, MessageFields.fromJson, MessageFields.cast_of_reads reads, back]
      rfl

/-- What `toJson` gives is read back, up to the defaults. -/
theorem fromJson_stored (m : MessageModel) (now : Int) :
    fromJson (m.toJson.stored now) = some m.settled :=
  fromJson_of_reads m (read_stored_toJson m now)

/-- The codec has a form for every message. -/
theorem toJson_supported (m : MessageModel) : m.toJson.supported = true := by
  have texts : ∀ s : Option String, (Value.optional .string s).supported = true :=
    Value.supported_optional fun _ => rfl
  have lists : ∀ xs, (Value.optional namesValue xs).supported = true :=
    Value.supported_optional fun xs => supported_list_map texts xs
  have bools : ∀ b, (Value.optional .bool b).supported = true :=
    Value.supported_optional fun _ => rfl
  have times : ∀ t, (Value.optional .timestamp t).supported = true :=
    Value.supported_optional fun _ => rfl
  have states : ∀ state : Option LockButton,
      (Value.optional (fun state => .string (LockButton.name state)) state).supported = true :=
    Value.supported_optional fun _ => rfl
  have own : ∀ (f : MessageFields) (v : Value), v.supported = true →
      (Fields.present (f.entries v)).supported = true := by
    intro f v inside
    apply Fields.supported_present
    simp only [MessageFields.entries, Fields.supported, supportedFields, texts, lists, bools, times,
      states, inside]
    rfl
  induction m with
  | message f => exact own f .null rfl
  | reply f replyTo ih => exact own f (.map replyTo.toJson) ih

/-- What is read has its states. -/
theorem settled_of_fromJson {m : MessageModel} (read : fromJson json = some m) :
    m.settled = m := by
  have own : ∀ {json : Fields} {f : MessageFields}, MessageFields.fromJson json = some f →
      f.settled = f := by
    intro json f read
    rcases Option.map_eq_some_iff.mp read with ⟨raw, -, rfl⟩
    rfl
  induction m generalizing json with
  | message f =>
      rw [fromJson] at read
      split at read
      case h_1 =>
        rcases Option.map_eq_some_iff.mp read with ⟨f', found, ⟨⟩⟩
        exact congrArg MessageModel.message (own found)
      case h_2 =>
        rcases Option.bind_eq_some_iff.mp read with ⟨f', -, rest⟩
        rcases Option.bind_eq_some_iff.mp rest with ⟨replyTo', -, ⟨⟩⟩
      case h_3 => cases read
  | reply f replyTo ih =>
      rw [fromJson] at read
      split at read
      case h_1 =>
        rcases Option.map_eq_some_iff.mp read with ⟨f', found, ⟨⟩⟩
      case h_2 =>
        rcases Option.bind_eq_some_iff.mp read with ⟨f', found, rest⟩
        rcases Option.bind_eq_some_iff.mp rest with ⟨replyTo', found', ⟨⟩⟩
        exact congrArg₂ MessageModel.reply (own found) (ih found')
      case h_3 => cases read

end ReadBack

/-! ## Sending a message -/

/-- `copyWith(id: id)`. -/
def withId (id : String) (m : MessageModel) : MessageModel :=
  m.withFields { m.fields with id := some id }

/-- `MessageModel.fromJson(doc.data()).copyWith(id: doc.id)`. -/
def fromDoc (id : String) (json : Fields) : Option MessageModel :=
  (fromJson json).map (withId id)

/-- `{...messageModel.toJson(), "timeStamp": FieldValue.serverTimestamp()}`. -/
def sent (m : MessageModel) : Fields :=
  m.toJson.putAll [("timeStamp", .serverTimestamp)]

/-- The message with the time of the server. -/
def stamped (now : Int) (m : MessageModel) : MessageModel :=
  m.withFields { m.fields with timeStamp := some now }

/-- The same for what is sent, with the time of the server. -/
theorem read_stored_sent (m : MessageModel) (now : Int) (key : String) :
    (m.sent.stored now).read key =
      ((m.stamped now).fields.entries ((m.stamped now).replyValue.stored now)).read key := by
  have inside : (m.stamped now).replyValue = m.replyValue := by
    cases m with
    | message f => rfl
    | reply f replyTo => rfl
  have own : (m.stamped now).fields = { m.fields with timeStamp := some now } := by
    cases m with
    | message f => rfl
    | reply f replyTo => rfl
  rw [inside, own, Fields.read_stored]
  unfold sent
  rw [Fields.putAll_cons, Fields.putAll_nil, Fields.read_put]
  split
  case isTrue same =>
    subst same
    rfl
  case isFalse other =>
    rw [← Fields.read_stored, read_stored_toJson]
    simp only [MessageFields.entries, Fields.read_cons]
    rw [if_neg (Ne.symm other), if_neg (Ne.symm other)]

/-- **A message that is sent can be encoded, and where the database keeps it, everyone reads it as
it was written, with all the messages that it answers; and reading fixes the defaults once and for
all.** -/
theorem message_readBack (m : MessageModel) (now : Int) (id : String) :
    m.sent.supported = true ∧
      fromDoc id (m.sent.stored now) = some ((m.settled.stamped now).withId id) ∧
      ∀ json, fromJson json = some m → m.settled = m := by
  refine ⟨?_, ?_, fun json => settled_of_fromJson⟩
  · exact Fields.supported_put m.toJson_supported rfl "timeStamp"
  · have settles : (m.stamped now).settled = m.settled.stamped now := by
      cases m with
      | message f => rfl
      | reply f replyTo => rfl
    rw [fromDoc, fromJson_of_reads (m.stamped now) (m.read_stored_sent now), settles]
    rfl

end MessageModel

/-! ## Salons -/

structure SalonModel where
  nom : Option String := none
  lastMessageId : Option String := none
  lastMessageContent : Option MessageModel := none
  id : Option String := none
  lastLockedDemand : Option String := none
  salonPicture : Option String := none
  lock : Option LockState := some .notYet
  allowAllUserToUpdateInformation : Option Bool := none
  adminId : Option String := none
  bloquedUser : Option (List String) := none
  type : SalonType
  lastMessageType : Option MessageContentType := none
  users : List (Option String)
  deriving DecidableEq

namespace SalonModel

/-- The casts of `fromJson`. -/
def cast (json : Fields) : Option SalonModel := do
  let nom ← (json.read "nom").asString
  let lastMessageId ← (json.read "lastMessageId").asString
  let lastMessageContent ← (json.read "lastMessageContent").asMapOf MessageModel.fromJson
  let id ← (json.read "id").asString
  let lastLockedDemand ← (json.read "lastLockedDemand").asString
  let salonPicture ← (json.read "salonPicture").asString
  let lock ← (json.read "lock").asEnum? LockState.name LockState.values
  let allowAllUserToUpdateInformation ← (json.read "allowAllUserToUpdateInformation").asBool
  let adminId ← (json.read "adminId").asString
  let bloquedUser ← (json.read "bloquedUser").asListOf Value.string?
  let type ← (json.read "type").asEnum SalonType.name SalonType.values
  let lastMessageType ← (json.read "lastMessageType").asEnum? MessageContentType.name
    MessageContentType.values
  let users ← ((json.read "users").asListOf Value.asString).join
  return { nom, lastMessageId, lastMessageContent, id, lastLockedDemand, salonPicture, lock,
           allowAllUserToUpdateInformation, adminId, bloquedUser, type, lastMessageType, users }

/-- `lock ?? LockState.notYet`, and the defaults of the summary. -/
def settled (salon : SalonModel) : SalonModel :=
  { salon with
    lock := some (salon.lock.getD .notYet)
    lastMessageContent := salon.lastMessageContent.map MessageModel.settled }

def fromJson (json : Fields) : Option SalonModel :=
  (cast json).map fun salon => { salon with lock := some (salon.lock.getD .notYet) }

/-- The entries of a salon, those that are `null` included. -/
def entries (salon : SalonModel) : Fields :=
  [("nom", .optional .string salon.nom),
    ("lastMessageId", .optional .string salon.lastMessageId),
    ("lastMessageContent",
      .optional (fun m => .map (MessageModel.toJson m)) salon.lastMessageContent),
    ("id", .optional .string salon.id),
    ("lastLockedDemand", .optional .string salon.lastLockedDemand),
    ("salonPicture", .optional .string salon.salonPicture),
    ("lock", .optional (fun lock => .string lock.name) salon.lock),
    ("allowAllUserToUpdateInformation",
      .optional .bool salon.allowAllUserToUpdateInformation),
    ("adminId", .optional .string salon.adminId),
    ("bloquedUser", .optional stringsValue salon.bloquedUser),
    ("type", .string salon.type.name),
    ("lastMessageType", .optional (fun type => .string type.name) salon.lastMessageType),
    ("users", namesValue salon.users)]

def toJson (salon : SalonModel) : Fields :=
  .present salon.entries

/-- What is read under each key. -/
structure Reads (json : Fields) (salon : SalonModel) : Prop where
  nom : (json.read "nom").asString = some salon.nom
  lastMessageId : (json.read "lastMessageId").asString = some salon.lastMessageId
  lastMessageContent : (json.read "lastMessageContent").asMapOf MessageModel.fromJson =
    some salon.lastMessageContent
  id : (json.read "id").asString = some salon.id
  lastLockedDemand : (json.read "lastLockedDemand").asString = some salon.lastLockedDemand
  salonPicture : (json.read "salonPicture").asString = some salon.salonPicture
  lock : (json.read "lock").asEnum? LockState.name LockState.values = some salon.lock
  allowAllUserToUpdateInformation :
    (json.read "allowAllUserToUpdateInformation").asBool =
      some salon.allowAllUserToUpdateInformation
  adminId : (json.read "adminId").asString = some salon.adminId
  bloquedUser : (json.read "bloquedUser").asListOf Value.string? = some salon.bloquedUser
  type : (json.read "type").asEnum SalonType.name SalonType.values = some salon.type
  lastMessageType : (json.read "lastMessageType").asEnum? MessageContentType.name
    MessageContentType.values = some salon.lastMessageType
  users : ((json.read "users").asListOf Value.asString).join = some salon.users

section ReadBack

variable {json : Fields} {salon : SalonModel} {now : Int}

/-- The casts succeed exactly on the map of a salon. -/
theorem cast_iff : cast json = some salon ↔ salon.Reads json := by
  constructor
  · intro read
    unfold cast at read
    obtain ⟨nom, readNom, read⟩ := Option.bind_eq_some_iff.mp read
    obtain ⟨lastMessageId, readId, read⟩ := Option.bind_eq_some_iff.mp read
    obtain ⟨lastMessageContent, readContent, read⟩ := Option.bind_eq_some_iff.mp read
    obtain ⟨id, readOwnId, read⟩ := Option.bind_eq_some_iff.mp read
    obtain ⟨lastLockedDemand, readDemand, read⟩ := Option.bind_eq_some_iff.mp read
    obtain ⟨salonPicture, readPicture, read⟩ := Option.bind_eq_some_iff.mp read
    obtain ⟨lock, readLock, read⟩ := Option.bind_eq_some_iff.mp read
    obtain ⟨allowAll, readAllow, read⟩ := Option.bind_eq_some_iff.mp read
    obtain ⟨adminId, readAdmin, read⟩ := Option.bind_eq_some_iff.mp read
    obtain ⟨bloquedUser, readBloqued, read⟩ := Option.bind_eq_some_iff.mp read
    obtain ⟨type, readType, read⟩ := Option.bind_eq_some_iff.mp read
    obtain ⟨lastMessageType, readMessageType, read⟩ := Option.bind_eq_some_iff.mp read
    obtain ⟨users, readUsers, read⟩ := Option.bind_eq_some_iff.mp read
    cases read
    exact ⟨readNom, readId, readContent, readOwnId, readDemand, readPicture, readLock, readAllow,
      readAdmin, readBloqued, readType, readMessageType, readUsers⟩
  · intro reads
    unfold cast
    rw [reads.nom, reads.lastMessageId, reads.lastMessageContent, reads.id,
      reads.lastLockedDemand, reads.salonPicture, reads.lock,
      reads.allowAllUserToUpdateInformation, reads.adminId, reads.bloquedUser, reads.type,
      reads.lastMessageType, reads.users]
    rfl

theorem read_toJson (salon : SalonModel) (key : String) :
    salon.toJson.read key = salon.entries.read key :=
  Fields.read_present _ _ (by simp [entries])

/-- The last message of a salon is read back, up to the defaults. -/
theorem content_stored (m : Option MessageModel) :
    ((Value.optional (fun m => .map (MessageModel.toJson m)) m).stored now).asMapOf
      MessageModel.fromJson = some (m.map MessageModel.settled) := by
  cases m with
  | none => rfl
  | some m => exact congrArg (Option.map some) (m.fromJson_stored now)

/-- So is its type. -/
theorem messageType_stored (type : Option MessageContentType) :
    ((Value.optional (fun type => .string (MessageContentType.name type)) type).stored now).asEnum?
      MessageContentType.name MessageContentType.values = some type := by
  rw [Value.stored_optional fun _ => rfl]
  exact Value.asEnum?_optional MessageContentType.name_injective MessageContentType.mem_values _

/-- So is the salon. -/
theorem reads_stored (salon : SalonModel) (now : Int) :
    Reads (salon.toJson.stored now)
      { salon with
        lastMessageContent := salon.lastMessageContent.map MessageModel.settled } where
  nom := asString_stored (salon.read_toJson "nom")
  lastMessageId := asString_stored (salon.read_toJson "lastMessageId")
  lastMessageContent := by
    rw [Fields.read_stored, read_toJson]
    exact content_stored salon.lastMessageContent
  id := asString_stored (salon.read_toJson "id")
  lastLockedDemand := asString_stored (salon.read_toJson "lastLockedDemand")
  salonPicture := asString_stored (salon.read_toJson "salonPicture")
  lock := by
    have wrote : salon.toJson.read "lock" = .optional (fun lock => .string lock.name) salon.lock :=
      salon.read_toJson _
    rw [Fields.read_stored, wrote, Value.stored_optional fun _ => rfl]
    exact Value.asEnum?_optional LockState.name_injective LockState.mem_values _
  allowAllUserToUpdateInformation :=
    asBool_stored (salon.read_toJson "allowAllUserToUpdateInformation")
  adminId := asString_stored (salon.read_toJson "adminId")
  bloquedUser := asStrings_stored (salon.read_toJson "bloquedUser")
  type := by
    have wrote : salon.toJson.read "type" = .string salon.type.name := salon.read_toJson _
    rw [Fields.read_stored, wrote]
    exact Value.asEnum_name SalonType.name_injective salon.type.mem_values
  lastMessageType := by
    rw [Fields.read_stored, read_toJson]
    exact messageType_stored salon.lastMessageType
  users := by
    have wrote : salon.toJson.read "users" = namesValue salon.users := salon.read_toJson _
    rw [Fields.read_stored, wrote, stored_namesValue]
    exact congrArg Option.join (asListOf_namesValue (some salon.users))

/-- A salon that is stored is read back. -/
theorem fromJson_stored (salon : SalonModel) (now : Int) :
    fromJson (salon.toJson.stored now) = some salon.settled := by
  rw [fromJson, cast_iff.mpr (salon.reads_stored now)]
  rfl

/-- The update of `_lastMessageToSalon`. -/
def summary (m : MessageModel) : Fields :=
  [("lastMessageContent", .map m.toJson), ("lastMessageType", m.toJson.read "type"),
    ("lastMessageId", .optional .string m.fields.id)]

/-- The salon with this message as its last one. -/
def showing (salon : SalonModel) (m : MessageModel) : SalonModel :=
  { salon with
    lastMessageContent := some m.settled
    lastMessageType := some m.fields.type
    lastMessageId := m.fields.id }

/-- **The summary that a send writes is read back with its message, and all the rest of the salon
as it was, whatever else the document holds.** -/
theorem summary_readBack (read : fromJson json = some salon) (m : MessageModel) (now : Int) :
    fromJson (json.putAll (Fields.stored now (summary m))) = some (salon.showing m) := by
  rcases Option.map_eq_some_iff.mp read with ⟨raw, found, rfl⟩
  have reads := cast_iff.mp found
  have changes : (Fields.stored now (summary m)).map Prod.fst =
      ["lastMessageContent", "lastMessageType", "lastMessageId"] := rfl
  have kept : ∀ key, key ∉ ["lastMessageContent", "lastMessageType", "lastMessageId"] →
      (json.putAll (Fields.stored now (summary m))).read key = json.read key := by
    intro key other
    exact Fields.read_putAll_of_not_mem _ _ _ (changes ▸ other)
  have written : ∀ key, key ∈ ["lastMessageContent", "lastMessageType", "lastMessageId"] →
      (json.putAll (Fields.stored now (summary m))).read key =
        ((summary m).read key).stored now := by
    intro key listed
    rw [Fields.read_putAll _ _ _ (by rw [changes]; simp), changes, if_pos listed,
      Fields.read_stored]
  have shown : Reads (json.putAll (Fields.stored now (summary m))) (raw.showing m) :=
    { nom := by
        rw [kept "nom" (by simp)]
        exact reads.nom
      lastMessageId := by
        rw [written "lastMessageId" (by simp)]
        have text : ((summary m).read "lastMessageId").stored now =
            .optional .string m.fields.id := Value.stored_optional (fun _ => rfl) m.fields.id
        rw [text]
        exact Value.asString_optional m.fields.id
      lastMessageContent := by
        rw [written "lastMessageContent" (by simp)]
        exact content_stored (some m)
      id := by
        rw [kept "id" (by simp)]
        exact reads.id
      lastLockedDemand := by
        rw [kept "lastLockedDemand" (by simp)]
        exact reads.lastLockedDemand
      salonPicture := by
        rw [kept "salonPicture" (by simp)]
        exact reads.salonPicture
      lock := by
        rw [kept "lock" (by simp)]
        exact reads.lock
      allowAllUserToUpdateInformation := by
        rw [kept "allowAllUserToUpdateInformation" (by simp)]
        exact reads.allowAllUserToUpdateInformation
      adminId := by
        rw [kept "adminId" (by simp)]
        exact reads.adminId
      bloquedUser := by
        rw [kept "bloquedUser" (by simp)]
        exact reads.bloquedUser
      type := by
        rw [kept "type" (by simp)]
        exact reads.type
      lastMessageType := by
        have type : (summary m).read "lastMessageType" = .string m.fields.type.name :=
          m.read_toJson "type"
        rw [written "lastMessageType" (by simp), type]
        exact messageType_stored (some m.fields.type)
      users := by
        rw [kept "users" (by simp)]
        exact reads.users }
  rw [fromJson, cast_iff.mpr shown]
  rfl

/-- A question, an answer to it, and an answer to that. -/
def answers : MessageModel :=
  .reply
    { sender := "a", message := some "yes", createdAt := 3, type := .textMessage, state := none }
    (.reply { sender := "b", message := some "ok?", createdAt := 2, type := .textMessage }
      (.message { sender := "a", message := some "tonight", createdAt := 1, type := .textMessage }))

def salonOfTwo : SalonModel where
  type := .oneToOne
  users := [some "a", some "b"]

theorem answers_summary :
    fromJson ((salonOfTwo.toJson.stored 0).putAll (Fields.stored 4 (summary answers))) =
      some { salonOfTwo with
        lastMessageContent := some answers.settled
        lastMessageType := some .textMessage } :=
  summary_readBack (salonOfTwo.fromJson_stored 0) answers 4

end ReadBack

end SalonModel

end Freezed

end TwoGather
