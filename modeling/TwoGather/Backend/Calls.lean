import TwoGather.Backend.Effects
import TwoGather.Chat.Opening
import TwoGather.Friend.CloudFunctions
import TwoGather.Report.Controller
import TwoGather.Sponsorship.TwoAnswers
import TwoGather.TrustCode.Submission

/-!
# The calls of the backend

The cloud functions of `callables/index.ts`, the triggers and jobs of `trigggers/index.ts`, and
the functions of the app that write to the same documents. `Call.may` is the table of the
effects that each of them may have, whatever it reads and wherever it is interrupted
(`Call.makes_program`).
-/

namespace TwoGather

open Docs Requests

/-! ## Calls -/

/-- A function of `callables/index.ts`. Two of them do not use the database: the body of
`deleteUserInFiesta` is empty, and `checkEmailIsAvailable` asks the accounts. -/
inductive Callable
  | addFriendWithSwipe (userId friendId : UserId)
  | deleteFriend (userId friendId : UserId)
  | dismissFriendWithSwipe (userId friendId : UserId)
  | confirmFriendRequest (userId friendId : UserId) (accepted : Bool)
  | requestNewLockDuo (userId friendId : UserId)
  | confirmDuoRequest (userId friendId : UserId) (accepted : Bool)
  | stopLockDuo (userId friendId : UserId)
  | joinFiesta (userId : UserId) (fiestaId : FiestaId) (fiestaRef : UserId)
      (duoRef : Option UserId) (status : Status)
  | deleteFiesta (userId : UserId) (fiestaId : FiestaId)
  | acceptUserInFiesta (fiestaId : FiestaId) (fiestaRef : UserId) (duoRef : Option UserId)
  | requestADuoToGoFiesta (userId : UserId) (fiestaId : FiestaId) (duoRef : Option UserId)
  | refuseUserNotify (fiestaId : FiestaId) (userId duoRef : UserId)
  | createFiestaPoint (userId : UserId)
  | deleteUser (uid : UserId)

/-- A trigger or a job of `trigggers/index.ts`; `onReportCreated` does nothing. -/
inductive Triggered
  | onUserCreated (id : UserId) (uniqueId : String)
  | onUserDeleted (snap : User)
  | onSponsorshipCreated (userId : UserId) (sponsorshipId : Nat) (snap : Option Sponsorship)
  | checkEndFiesta
  | clearReportAfterDuration
  | clearDismissed

/-- A function of the app. -/
inductive AppCall
  | addFriendWithSwipe (userId friendId : UserId)
  | addFriend (userId friendId : UserId)
  | cancelFriendRequest (userId : UserId) (friendsRequest : List UserId) (friendId : UserId)
  | addToFirstCircle (userId : UserId) (friends : List Friend) (ids : List UserId)
  | bloqueUser (uid userId : UserId)
  | unnbloqueUser (uid userId : UserId)
  | requestNewLockDuo (userId friendId : UserId) (salonId : Option SalonId)
  | stopLockDuo (userId friendId : UserId) (salonId : Option SalonId)
  | setAllNotificationAsRead (userId : UserId)
  | setNotificationAsComplete (userId : UserId) (notifId : Nat)
  | handleFriendRequest (userId friendId : UserId) (notifId : Nat) (accepted : Bool)
  | handleDuoRequest (userId friendId : UserId) (notifId : Option Nat) (accepted : Bool)
  | handleFiestaRequest (userId duoId : UserId) (fiestaId : FiestaId) (notifId : Nat)
      (accepted : Bool)
  | handleSponsorshipRequest (userId : UserId) (sponsorshipId notifId : Nat) (accepted : Bool)
  | dismissFiesta (userId : UserId) (fiestaId : FiestaId)
  | acceptFiesta (userId : UserId) (fiestaId : FiestaId) (duo : Option UserId)
      (isWithSearch : Bool)
  | refuseUserInFiesta (fiestaId : FiestaId) (userRef duoRef : UserId)
  | deleteUserInFiesta (fiestaId : FiestaId) (userRef duoRef : UserId)
  | acceptUserInFiesta (fiestaId : FiestaId) (userRef duoRef : UserId)
  | noteUser (userId : UserId) (note : Rat)
  | noteFiesta (fiestaId : FiestaId) (note : Rat)
  | reportUser (sender id : UserId) (subId : Option UserId) (report : ReportModel)
      (message image : Option String)
  | createSponsorshipDirect (uid : UserId) (code : String)
  | acceptUser (uid userId : UserId) (requestId : Nat)
  | refuseUser (uid userId : UserId) (requestId : Nat)
  | updateStatus (uid : UserId) (status : Stored String)
  | signUp (uid : UserId)
  | openChat (page : ChatPage) (me other : UserId)
  /-- `createNewFiesta`, with the id that it draws. -/
  | createNewFiesta (uid : UserId) (fiestaId : FiestaId) (form : FiestaForm)
  | updateFiesta (uid : UserId) (fiestaId : FiestaId) (form : FiestaForm)
  | updateProfile (uid : UserId) (page : ProfilePage)
  | becomeMember (meId : UserId) (id : SalonId)
  | addUsersToSalon (salonId : SalonId) (users : List UserId)
  | removeUsersFromSalon (salonId : SalonId) (users : List UserId)
  | leaveSalon (salonId : SalonId) (userId : UserId)
  | deleteSalon (salonId : SalonId)
  | send (salonId : SalonId) (sending : Sending)
  | deleteSelectedMessage (idSalon : SalonId) (selected : List MessageId)
      (type : DeleteMessagesType) (id : UserId)

inductive Call
  | callable (c : Callable)
  | triggered (c : Triggered)
  | app (c : AppCall)
  /-- It is not before this time. -/
  | time (t : Timestamp)

/-- A call whose result nobody reads. -/
def ignoring {α : Type} (p : Firestore α) : Firestore Unit := do
  let _ ← p

def Callable.program : Callable → Firestore Unit
  | .addFriendWithSwipe userId friendId =>
      ignoring (Functions.addFriendWithSwipe userId friendId)
  | .deleteFriend userId friendId => ignoring (TwoGather.deleteFriend userId friendId)
  | .dismissFriendWithSwipe userId friendId =>
      ignoring (TwoGather.dismissFriendWithSwipe userId friendId)
  | .confirmFriendRequest userId friendId accepted =>
      ignoring (TwoGather.confirmFriendRequest userId friendId accepted)
  | .requestNewLockDuo userId friendId =>
      ignoring (TwoGather.requestNewLockDuo userId friendId)
  | .confirmDuoRequest userId friendId accepted =>
      ignoring (TwoGather.confirmDuoRequest userId friendId accepted)
  | .stopLockDuo userId friendId => ignoring (TwoGather.stopLockDuo userId friendId)
  | .joinFiesta userId fiestaId fiestaRef duoRef status =>
      TwoGather.joinFiesta userId fiestaId fiestaRef duoRef status
  | .deleteFiesta userId fiestaId => TwoGather.deleteFiesta userId fiestaId
  | .acceptUserInFiesta fiestaId fiestaRef duoRef =>
      ignoring (TwoGather.acceptUserInFiesta fiestaId fiestaRef duoRef)
  | .requestADuoToGoFiesta userId fiestaId duoRef =>
      TwoGather.requestADuoToGoFiesta userId fiestaId duoRef
  | .refuseUserNotify fiestaId userId duoRef =>
      TwoGather.refuseUserNotify fiestaId userId duoRef
  | .createFiestaPoint userId => TwoGather.createFiestaPoint userId
  | .deleteUser uid => TwoGather.deleteUser uid

def Triggered.program : Triggered → Firestore Unit
  | .onUserCreated id uniqueId => TwoGather.onUserCreated id uniqueId
  | .onUserDeleted snap => TwoGather.onUserDeleted snap
  | .onSponsorshipCreated userId sponsorshipId snap =>
      TwoGather.onSponsorshipCreated userId sponsorshipId snap
  | .checkEndFiesta => TwoGather.checkEndFiesta
  | .clearReportAfterDuration => cleanReportAfterDuration
  | .clearDismissed => TwoGather.clearDismissed

def AppCall.program : AppCall → Firestore Unit
  | .addFriendWithSwipe userId friendId =>
      ignoring (TwoGather.addFriendWithSwipe userId friendId)
  | .addFriend userId friendId => TwoGather.addFriend userId friendId
  | .cancelFriendRequest userId friendsRequest friendId =>
      TwoGather.cancelFriendRequest userId friendsRequest friendId
  | .addToFirstCircle userId friends ids => TwoGather.addToFirstCircle userId friends ids
  | .bloqueUser uid userId => TwoGather.bloqueUser uid userId
  | .unnbloqueUser uid userId => TwoGather.unnbloqueUser uid userId
  | .requestNewLockDuo userId friendId salonId =>
      ignoring (FriendController.requestNewLockDuo userId friendId salonId)
  | .stopLockDuo userId friendId salonId =>
      ignoring (FriendController.stopLockDuo userId friendId salonId)
  | .setAllNotificationAsRead userId => TwoGather.setAllNotificationAsRead userId
  | .setNotificationAsComplete userId notifId =>
      TwoGather.setNotificationAsComplete userId notifId
  | .handleFriendRequest userId friendId notifId accepted =>
      TwoGather.handleFriendRequest userId friendId notifId accepted
  | .handleDuoRequest userId friendId notifId accepted =>
      NotificationController.handleDuoRequest userId friendId notifId accepted
  | .handleFiestaRequest userId duoId fiestaId notifId accepted =>
      NotificationController.handleFiestaRequest userId duoId fiestaId notifId accepted
  | .handleSponsorshipRequest userId sponsorshipId notifId accepted =>
      TwoGather.handleSponsorshipRequest userId sponsorshipId notifId accepted
  | .dismissFiesta userId fiestaId => FiestaController.dismissFiesta userId fiestaId
  | .acceptFiesta userId fiestaId duo isWithSearch =>
      FiestaController.acceptFiesta userId fiestaId duo isWithSearch
  | .refuseUserInFiesta fiestaId userRef duoRef =>
      FiestaController.refuseUserInFiesta fiestaId userRef duoRef
  | .deleteUserInFiesta fiestaId userRef duoRef =>
      FiestaController.deleteUserInFiesta fiestaId userRef duoRef
  | .acceptUserInFiesta fiestaId userRef duoRef =>
      FiestaController.acceptUserInFiesta fiestaId userRef duoRef
  | .noteUser userId note => TwoGather.noteUser userId note
  | .noteFiesta fiestaId note => TwoGather.noteFiesta fiestaId note
  | .reportUser sender id subId report message image =>
      TwoGather.reportUser sender id subId report message image
  | .createSponsorshipDirect uid code => ignoring (TwoGather.createSponsorshipDirect uid code)
  | .acceptUser uid userId requestId => TwoGather.acceptUser uid userId requestId
  | .refuseUser uid userId requestId => TwoGather.refuseUser uid userId requestId
  | .updateStatus uid status => TwoGather.updateStatus uid status
  | .signUp uid => setUser uid newUser
  | .openChat page me other => ignoring (page.button me other)
  | .createNewFiesta uid fiestaId form =>
      ignoring (HostForms.createNewFiesta uid fiestaId form)
  | .updateFiesta uid fiestaId form =>
      ignoring (HostForms.updateFiesta uid fiestaId form)
  | .updateProfile uid page => TwoGather.updateProfile uid page
  | .becomeMember meId id => TwoGather.becomeMember meId id
  | .addUsersToSalon salonId users => FirestoreQuery.addUsersToSalon salonId users
  | .removeUsersFromSalon salonId users => FirestoreQuery.removeUsersFromSalon salonId users
  | .leaveSalon salonId userId => FirestoreQuery.leaveSalon salonId userId
  | .deleteSalon salonId => FirestoreQuery.deleteSalon salonId
  | .send salonId sending => sending.program salonId
  | .deleteSelectedMessage idSalon selected type id =>
      TwoGather.deleteSelectedMessage idSalon selected type id

/-- The clock does not run back. -/
def Store.reach (s : Store) (t : Timestamp) : Store :=
  if s.clock.micros ≤ t.micros then { s with clock := t } else s

def Call.program : Call → Firestore Unit
  | .callable c => c.program
  | .triggered c => c.program
  | .app c => c.program
  | .time t => .step (·.reach t) fun _ => pure ()

end TwoGather
