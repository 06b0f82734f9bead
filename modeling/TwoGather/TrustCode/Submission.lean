import TwoGather.Lib.Zoom
import TwoGather.Sponsorship.Controller
import TwoGather.TrustCode.RateLimiter

/-!
# Submitting a trust code

The `onSubmit` of the two pages of `complete_profil.dart` that ask for the code of a sponsor,
and `_handleUserReconnection`. A page asks the limiter first, then looks up the code. A wrong
code is recorded with the limiter and leaves the status `"error"`; with a good one the page
files the request with the sponsor and leaves `"waiting"`. No write of the status looks at what
it replaces.
-/

namespace TwoGather

open Docs Requests TrustCodeRateLimiter

/-- The database of a phone after a request of an app on it. -/
def Phone.withStore (d : Phone) (s : Store) : Phone :=
  { d with store := s }

/-- The phone after a request that looked up a code. -/
def Phone.looked (d : Phone) (s : Store) : Phone :=
  { d.read with store := s, lookups := d.lookups ++ [d.now] }

/-- A call of the app that only talks to the database. -/
def firestore {α : Type} (p : Firestore α) : App α :=
  p.zoom Phone.store Phone.withStore

/-- `verifyTrustCodeDirect` on a phone, which keeps the time of the lookup. -/
def lookUp (code : String) : App Bool :=
  (verifyTrustCodeDirect code).zoom Phone.store Phone.looked

/-- `users.doc(uid).update({"completeProfilStatus": status})`. -/
def updateStatus (uid : UserId) (status : Stored String) : Firestore Unit :=
  updateUser uid ({ · with completeProfilStatus := status })

/-- What a page does once the code is known to be wrong. -/
def failAttempt (uid : UserId) : App Unit := do
  recordFailedAttempt
  let _ ← canAttemptValidation
  let _ ← getRecentFailedAttemptsCount
  firestore (updateStatus uid (.value "error"))

/-- What a page does once the code is known to be good. -/
def fileRequest (uid : UserId) (code : String) (waiting : User → User) : App Unit := do
  resetAttempts
  let success ← firestore (createSponsorshipDirect uid code)
  if success then firestore (updateUser uid waiting) else throw .exception

/-- The body of `onSubmit` after the limiter has let the attempt pass. -/
def tryCode (uid : UserId) (waiting : String → User → User) : Option String → App Unit
  | none => failAttempt uid
  | some code => do
      let isValid ← lookUp code
      if isValid then fileRequest uid code (waiting code) else failAttempt uid

/-- The `onSubmit` of both pages, for the signed-in user; they differ in the last update. -/
def submitTrustCode (uid : UserId) (waiting : String → User → User) (code : Option String) :
    App Unit :=
  tryCatch
    (do
      let canAttempt ← canAttemptValidation
      if canAttempt then tryCode uid waiting code
      else do
        let _ ← getRemainingBlockTimeMinutes
        return ())
    fun _ => firestore (updateStatus uid (.value "error"))

/-- `onSubmit` of `FiestChart`. -/
def fiestChartOnSubmit (uid : UserId) (code : Option String) : App Unit :=
  submitTrustCode uid (fun _ => ({ · with completeProfilStatus := .value "waiting" })) code

/-- `onSubmit` of the `TrustCodePage` that `_reopenTrustCode` opens. -/
def reopenTrustCode (uid : UserId) (code : String) : App Unit :=
  submitTrustCode uid
    (fun code =>
      ({ · with trustCode := .value code, completeProfilStatus := .value "waiting" }))
    (some code)

/-- `hasBasicData`. -/
def User.hasBasicData (userData : User) : Bool :=
  userData.email.get?.isSome && userData.firstname.get?.isSome && userData.lastname.get?.isSome

def handleUserReconnection (userId : UserId) : Firestore Unit :=
  tryCatch
    (do
      match ← getUser userId with
      | none => pure ()
      | some userData =>
          if userData.profilCompleted = .value true then pure ()
          else if userData.completeProfilStatus = .value "error" ∧ userData.hasBasicData then
            updateStatus userId .null
          else pure ())
    fun _ => pure ()

end TwoGather
