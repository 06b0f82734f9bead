import TwoGather.Lib.Js

/-!
# Documents

The documents of the Firestore database, with the fields that the operations read
or write. A field that some document may lack is a `Stored`; references to documents
of `users` and `fiesta` are their ids.
-/

namespace TwoGather

open Docs

abbrev UserId := String

abbrev FiestaId := String

abbrev SalonId := String

/-- A Firestore timestamp, in microseconds since the epoch. The database stores the
years 1 to 9999. -/
structure Timestamp where
  micros : Int
  early : -62135596800000000 ≤ micros
  late : micros < 253402300800000000
  deriving DecidableEq

def Timestamp.epoch : Timestamp where
  micros := 0
  early := by omega
  late := by omega

/-- The time value nearest to a timestamp. -/
def Timestamp.millis (t : Timestamp) : Int :=
  (t.micros + 500) / 1000

/-- `timestamp.toDate()`. -/
def Timestamp.toDate (t : Timestamp) : Js.Date :=
  some t.millis

/-- A Firestore `GeoPoint`. -/
structure GeoPoint where
  latitude : Rat
  longitude : Rat
  deriving DecidableEq

/-- The three fields of the ratings of a user or a fiesta. -/
structure Ratings where
  numberNote : Stored Rat := .undefined
  note : Stored Rat := .undefined
  rating : Stored Rat := .undefined
  deriving DecidableEq

/-! ## Users -/

/-- The `duo` map of a user: the lock partner and a copy of its profile. -/
structure Duo where
  id : UserId
  firstname : Stored String
  lastname : Stored String
  pictures : Stored (List String)
  deriving DecidableEq

/-- A `type` that is none of the three of the app. -/
structure OtherType where
  name : Stored String
  unknown : name ∉ [.value "connexion", .value "fiestar", .value "1_circle"]
  deriving DecidableEq

/-- `type` of a `friends` entry: "connexion", "fiestar", "1_circle" or whatever else is stored. -/
inductive FriendType
  | connexion
  | fiestar
  | firstCircle
  | other (type : OtherType)
  deriving DecidableEq

/-- One `{type, user}` map of a `friends` array. -/
structure Friend where
  type : FriendType
  user : UserId
  deriving DecidableEq

/-- A document of `users`. `wellTyped` and `isAppUser` stand for the fields left out here:
whether `FiestarUserModel.fromJson` and `AppUserModel.fromJson` can cast them all. -/
structure User where
  email : Stored String := .undefined
  firstname : Stored String := .undefined
  lastname : Stored String := .undefined
  birthday : Stored Timestamp := .undefined
  profilImages : Stored (List String) := .undefined
  fcmToken : Stored String := .undefined
  duo : Stored Duo := .undefined
  isLock : Stored Bool := .undefined
  fiesta : Stored FiestaId := .undefined
  requestedFiesta : Stored (List FiestaId) := .undefined
  friends : Stored (List Friend) := .undefined
  friendsRequest : Stored (List UserId) := .undefined
  friendsDismissed : Stored (List UserId) := .undefined
  bloquedUser : Stored (List UserId) := .undefined
  /-- The field `dismissed-fiesta`. -/
  dismissedFiesta : Stored (List FiestaId) := .undefined
  fiestaDismissed : Stored (List FiestaId) := .undefined
  position : Stored GeoPoint := .undefined
  reportPoint : Stored Js.Number := .undefined
  numberCreatedFiesta : Stored Js.Number := .undefined
  level : Stored Js.Number := .undefined
  profilCompleted : Stored Bool := .undefined
  completeProfilStatus : Stored String := .undefined
  personnalTrustCode : Stored String := .undefined
  trustCode : Stored String := .undefined
  ratings : Ratings := {}
  wellTyped : Bool := true
  isAppUser : Bool := true
  deriving DecidableEq

/-! ## Fiestas -/

/-- `status` of a `participants` entry. -/
inductive Status
  | accepted
  | declined
  | pending
  | waiting
  deriving DecidableEq

/-- One map of a `participants` array; `duoRef` is `null` while no duo is chosen. -/
structure Participant where
  fiestaRef : UserId
  duoRef : Option UserId
  status : Status
  deriving DecidableEq

/-- The user is one of the two persons of the entry. -/
def Participant.Has (e : Participant) (u : UserId) : Prop :=
  e.fiestaRef = u ∨ e.duoRef = some u

instance (e : Participant) (u : UserId) : Decidable (e.Has u) :=
  inferInstanceAs (Decidable (_ ∨ _))

/-- The `host` map of a fiesta. -/
structure Host where
  id : UserId
  deriving DecidableEq

/-- The `address` map of a fiesta. -/
structure Address where
  geopoint : Stored GeoPoint := .undefined
  deriving DecidableEq

/-- A document of `fiesta`. `createNewFiesta` writes the host, the end date and the
list of participants of every fiesta. -/
structure Fiesta where
  title : Stored String
  host : Host
  hostRef : UserId
  endAt : Timestamp
  isEnd : Stored Bool
  visibleAfter : Stored Bool
  participants : List Participant
  visibleByConnexion : Stored Bool := .undefined
  visibleByFiestar : Stored Bool := .undefined
  visibleByFirstCircle : Stored Bool := .undefined
  category : Stored String := .undefined
  address : Stored Address := .undefined
  numberOfParticipant : Stored Nat := .undefined
  /-- The names of the tags; the form of a new fiesta writes a list, if only an empty one. -/
  tags : Stored (List String) := .undefined
  ratings : Ratings := {}
  deriving DecidableEq

/-- A document of `users/{id}/created-fiesta`: the host's own note of a fiesta. -/
structure CreatedFiesta where
  fiestaId : FiestaId
  title : Stored String := .undefined
  address : Stored Address := .undefined
  startAt : Stored Timestamp := .undefined
  endAt : Stored Timestamp := .undefined
  visibleAfter : Stored Bool := .undefined
  deriving DecidableEq

/-- A document of `users/{id}/participated-fiesta`: a copy of the fiesta. -/
structure ParticipatedFiesta where
  data : Fiesta
  fiestaRef : FiestaId
  fiestaId : FiestaId
  deriving DecidableEq

/-! ## Notifications -/

inductive NotificationType
  | message
  | friendRequest
  | duoRequest
  | fiestaConfirmation
  | handleFiestaConfirmation
  | noteFiesta
  | sponsorshipRequest
  deriving DecidableEq

/-- The sender shown on a notification. -/
structure NotificationUser where
  id : UserId
  firstname : Stored String
  lastname : Stored String
  pictures : Stored (List String)
  deriving DecidableEq

/-- The `metadata` map of a notification, as far as some operation fills it. -/
structure Metadata where
  fiestaId : Stored FiestaId := .undefined
  fiestaHostId : Stored UserId := .undefined
  duoId : Stored UserId := .undefined
  code : Stored String := .undefined
  sponsorshipId : Stored Nat := .undefined
  userId : Stored UserId := .undefined
  firstname : Stored String := .undefined
  lastname : Stored String := .undefined
  deriving DecidableEq

/-- A document of `users/{id}/notifications`. -/
structure Notification where
  notificationType : NotificationType
  isComplete : Bool
  isRead : Bool
  message : String
  notificationUser : NotificationUser
  metadata : Metadata := {}
  receivedAt : Timestamp
  deriving DecidableEq

/-! ## Reports -/

/-- A document of the top-level `reports` collection; `sender` and `toId` are its
fields `from` and `to`, which are keywords here. -/
structure Report where
  setAt : Timestamp
  sender : UserId
  toId : UserId
  subId : Stored UserId
  message : Stored String
  image : Stored String
  tag : Stored String := .undefined
  desc : Stored String := .undefined
  value : Stored Int := .undefined
  duration : Stored Js.Number := .undefined
  point : Stored Js.Number := .undefined
  deriving DecidableEq

/-- A document of `users/{id}/reports`. -/
structure UserReport where
  setAt : Timestamp
  sender : UserId
  message : Stored String
  tag : Stored String := .undefined
  desc : Stored String := .undefined
  value : Stored Int := .undefined
  duration : Stored Js.Number := .undefined
  deriving DecidableEq

/-! ## Trust codes and sponsorship -/

/-- A document of `code`. -/
structure TrustCode where
  code : String
  user : UserId
  deriving DecidableEq

/-- The `user` map of a sponsorship request: who asks. -/
structure SponsorshipUser where
  id : UserId
  lastname : Stored String
  firstname : Stored String
  birthday : Stored Timestamp
  deriving DecidableEq

/-- A document of `users/{id}/sponsorship`. -/
structure Sponsorship where
  user : SponsorshipUser
  code : String
  isAccepted : Bool
  createdAt : Int
  acceptedAt : Stored Timestamp := .undefined
  processedAt : Stored Timestamp := .undefined
  deriving DecidableEq

/-! ## Salons -/

inductive MessageContentType
  | textMessage
  | imageMessage
  | videoMessage
  | lockDemandMessage
  deriving DecidableEq

/-- `MessageLockButtonState`: whether the demand of a lock demand message was accepted. -/
inductive LockButton
  | notYet
  | accepted
  deriving DecidableEq

/-- A document of `Salons/{id}/Messages`. -/
structure ChatMessage where
  sender : UserId
  type : MessageContentType
  message : Stored String := .undefined
  state : LockButton := .notYet
  /-- Those who do not see it any more. -/
  userDeleteMessage : Stored (List UserId) := .undefined
  createdAt : Timestamp
  deriving DecidableEq

/-- The id of a message: drawn by the database for `add`, or given by the client. -/
inductive MessageId
  | drawn (key : Nat)
  | given (id : String)
  deriving DecidableEq

inductive SalonType
  | oneToOne
  | group
  | all
  deriving DecidableEq

/-- `lock` of a salon. -/
inductive LockState
  | locked
  | sended
  | notYet
  deriving DecidableEq

/-- A document of `Salons`, with the defaults of `SalonModel`. -/
structure Salon where
  type : SalonType
  users : List UserId
  lock : Stored LockState := .value .notYet
  lastLockedDemand : Stored Nat := .undefined
  lastMessageContent : Stored ChatMessage := .undefined
  lastMessageType : Stored MessageContentType := .undefined
  lastMessageId : Stored MessageId := .undefined
  deriving DecidableEq

end TwoGather
