import TwoGather.Store

/-!
# Trust codes and sponsorship

`complete_profil_controller.dart` and the triggers on documents of `users`. Every user
gets a trust code when its document is created. A new user gives the code of another
one, which leaves a request in that one's `sponsorship` collection; accepting the
request completes the profile of the new user.
-/

namespace TwoGather

open Docs Requests

/-! ## Requests on codes and sponsorship -/

/-- `code.where("code", "==", code).get()`. -/
def codeQuery (code : String) : Firestore (List (Nat × TrustCode)) :=
  .read fun s => s.codes.docs.filter fun doc => doc.2.code = code

def addCode (code : TrustCode) : Firestore Unit :=
  .step (fun s => { s with codes := s.codes.add code }) fun _ => pure ()

def deleteCode (k : Nat) : Firestore Unit :=
  .step (fun s => { s with codes := s.codes.delete k }) fun _ => pure ()

/-- `users.doc(u).collection("sponsorship").add(..)`, with the time of the client. -/
def addSponsorship (u : UserId) (request : Timestamp → Sponsorship) : Firestore Unit :=
  .step
    (fun s =>
      { s with
        sponsorship :=
          Function.update s.sponsorship u ((s.sponsorship u).add (request s.clock)) })
    fun _ => pure ()

/-- `users.doc(u).collection("sponsorship").doc(r).update(..)`. -/
def updateSponsorship (u : UserId) (r : Nat) (g : Timestamp → Sponsorship → Sponsorship) :
    Firestore Unit :=
  .step
    (fun s =>
      { s with
        sponsorship :=
          Function.update s.sponsorship u ((s.sponsorship u).update r (g s.clock)) })
    fun s => if ((s.sponsorship u).get? r).isSome then pure () else throw .notFound

def deleteSponsorship (u : UserId) (r : Nat) : Firestore Unit :=
  .step
    (fun s =>
      { s with sponsorship := Function.update s.sponsorship u ((s.sponsorship u).delete r) })
    fun _ => pure ()

/-! ## `complete_profil_controller.dart` -/

def verifyTrustCodeDirect (code : String) : Firestore Bool := do
  let docs ← codeQuery code
  return !docs.isEmpty

/-- The request that `createSponsorshipDirect` leaves with the owner of the code. -/
def sponsorshipDoc (uid : UserId) (selfData : User) (code : String) (createdAt : Timestamp) :
    Sponsorship where
  user :=
    { id := uid
      lastname := .value (selfData.lastname.get?.getD "")
      firstname := .value (selfData.firstname.get?.getD "")
      birthday := selfData.birthday.orNull }
  code
  isAccepted := false
  createdAt := createdAt.micros / 1000

/-- The body of `createSponsorshipDirect`. -/
def createSponsorship (uid : UserId) (code : String) : Firestore Bool := do
  match ← getUser uid with
  | none => throw .exception
  | some selfData =>
      match ← codeQuery code with
      | [] => throw .exception
      | first :: _ =>
          addSponsorship first.2.user (sponsorshipDoc uid selfData code)
          return true

/-- `createSponsorshipDirect`, called by the signed-in user `uid`. -/
def createSponsorshipDirect (uid : UserId) (code : String) : Firestore Bool :=
  tryCatch (createSponsorship uid code) fun _ => do
    tryCatch (updateUser uid ({ · with completeProfilStatus := .value "error" })) fun _ =>
      pure ()
    return false

/-- The request goes to the owner of the first document with the code. -/
theorem createSponsorshipDirect_filed {s : Store} {uid : UserId} {data : User} {code : String}
    {first : Nat × TrustCode} {rest : List (Nat × TrustCode)} (self : s.user uid = some data)
    (codes : (s.codes.docs.filter fun doc => doc.2.code = code) = first :: rest) :
    (createSponsorshipDirect uid code).exec s =
      (.ok true,
        { s with
          sponsorship := Function.update s.sponsorship first.2.user
            ((s.sponsorship first.2.user).add (sponsorshipDoc uid data code s.clock)) }) := by
  simp [createSponsorshipDirect, createSponsorship, self, codeQuery, codes, addSponsorship]

/-- What the profile of a user says about its completion. -/
def Store.completion (s : Store) (u : UserId) : Option (Stored Bool × Stored String) :=
  (s.user u).map fun data => (data.profilCompleted, data.completeProfilStatus)

def User.approve (u : User) : User :=
  { u with profilCompleted := .value true, completeProfilStatus := .value "approved" }

/-- `acceptUser`, called by the signed-in user `uid`. -/
def acceptUser (uid userId : UserId) (requestId : Nat) : Firestore Unit := do
  updateSponsorship uid requestId fun acceptedAt request =>
    { request with isAccepted := true, acceptedAt := .value acceptedAt }
  updateUser userId (·.approve)

/-- `refuseUser`, called by the signed-in user `uid`. -/
def refuseUser (uid userId : UserId) (requestId : Nat) : Firestore Unit := do
  deleteSponsorship uid requestId
  updateUser userId ({ · with completeProfilStatus := .value "error" })

/-! ## Users come and go -/

/-- `users.doc(u).set(..)`. -/
def setUser (u : UserId) (data : User) : Firestore Unit :=
  .step (fun s => { s with users := s.users.set u data }) fun _ => pure ()

/-- The document that signing up writes (`principal_data.dart`, `cgvu_page.dart`). -/
def newUser : User where
  profilCompleted := .value false

/-- `delete_user.ts`; the account it then deletes is no document. -/
def deleteUser (uid : UserId) : Firestore Unit :=
  .step (fun s => { s with users := s.users.delete uid }) fun _ => pure ()

/-- `on_user_created.ts`, on a new document of `users`; `uniqueId` is the start of a fresh
uuid. -/
def onUserCreated (id : UserId) (uniqueId : String) : Firestore Unit := do
  updateUser id ({ · with personnalTrustCode := .value uniqueId })
  addCode { code := uniqueId, user := id }

/-- `on_user_deleted.ts`, with the data of its snapshot. -/
def onUserDeleted (snap : User) : Firestore Unit := do
  let personnalTrustCode ← defined snap.personnalTrustCode
  let docs ← Program.read fun s =>
    s.codes.docs.filter fun doc => .value doc.2.code = personnalTrustCode
  Program.forEach docs fun doc => deleteCode doc.1

/-! ## `on_sponsorship_created.ts` -/

/-- `snap.ref.get()`. -/
def getSponsorship (u : UserId) (r : Nat) : Firestore (Option Sponsorship) :=
  .read fun s => (s.sponsorship u).get? r

/-- `!token`. -/
def Stored.isFalsy (token : Stored String) : Bool :=
  token = .undefined || token = .null || token = .value ""

/-- `text || ''`. -/
def Stored.orEmpty (text : Stored String) : Stored String :=
  .value (text.get?.getD "")

def sponsorshipNotification (sponsorshipId : Nat) (data : Sponsorship) (receivedAt : Timestamp) :
    Notification where
  notificationType := .sponsorshipRequest
  isComplete := false
  isRead := false
  message := "sponsorship.notification-body"
  notificationUser :=
    { id := data.user.id
      firstname := Stored.orEmpty data.user.firstname
      lastname := Stored.orEmpty data.user.lastname
      pictures := .undefined }
  metadata :=
    { code := .value data.code
      sponsorshipId := .value sponsorshipId
      userId := .value data.user.id
      firstname := Stored.orEmpty data.user.firstname
      lastname := Stored.orEmpty data.user.lastname }
  receivedAt

/-- What the trigger does when it has the data of the request. -/
def notifySponsor (parentUserId : UserId) (sponsorshipId : Nat) (data : Sponsorship) :
    Firestore Unit := do
  let parentUserDoc ← getUser parentUserId
  match parentUserDoc with
  | none => pure ()
  | some parentUserData =>
      if Stored.isFalsy parentUserData.fcmToken then pure ()
      else do
        send parentUserData.fcmToken
        addNotification parentUserId (sponsorshipNotification sponsorshipId data)

/-- The trigger on a new document of `sponsorship`. A snapshot without data is read again. -/
def onSponsorshipCreated (userId : UserId) (sponsorshipId : Nat) (snap : Option Sponsorship) :
    Firestore Unit := do
  let sponsorshipData ← match snap with
    | some data => pure (some data)
    | none => getSponsorship userId sponsorshipId
  match sponsorshipData with
  | none => pure ()
  | some data => notifySponsor userId sponsorshipId data

end TwoGather
