import TwoGather.TrustCode.Submission

/-!
# What a user writes of its own profile

The updates of one's own document by the pages of the profile and of the settings. Each gives a
map of fields, and a field that is not in the map keeps its value.
-/

namespace TwoGather

open Docs Requests

/-- The fields of an update; a missing one is `undefined`. -/
structure ProfileEdit where
  email : Stored String := .undefined
  fcmToken : Stored String := .undefined
  firstname : Stored String := .undefined
  lastname : Stored String := .undefined
  birthday : Stored Timestamp := .undefined
  profilImages : Stored (List String) := .undefined
  position : Stored GeoPoint := .undefined
  trustCode : Stored String := .undefined
  completeProfilStatus : Stored String := .undefined
  deriving DecidableEq

/-- The value of a field after an update. -/
def Stored.updated {α : Type} (old : Stored α) : Stored α → Stored α
  | .undefined => old
  | new => new

def User.edit (u : User) (e : ProfileEdit) : User :=
  { u with
    email := Stored.updated u.email e.email
    fcmToken := Stored.updated u.fcmToken e.fcmToken
    firstname := Stored.updated u.firstname e.firstname
    lastname := Stored.updated u.lastname e.lastname
    birthday := Stored.updated u.birthday e.birthday
    profilImages := Stored.updated u.profilImages e.profilImages
    position := Stored.updated u.position e.position
    trustCode := Stored.updated u.trustCode e.trustCode
    completeProfilStatus := Stored.updated u.completeProfilStatus e.completeProfilStatus }

/-- The updates, with what they take from their pages. -/
inductive ProfilePage
  /-- `FiestChart`: the data that the pages before have put together. -/
  | chart (firstname lastname : Stored String) (birthday : Stored Timestamp)
      (completeProfilStatus : Stored String)
  /-- `_buildProfileImagesUpload` and `_updateProfilePictures`. -/
  | pictures (urls : List String)
  /-- `GeolocProvider.loadPosition`. -/
  | position (place : GeoPoint)
  /-- The update that `reopenTrustCode` ends with. -/
  | trustCode (code : String)
  /-- The email page of the settings, after the account has changed. -/
  | email (newEmail : String)
  /-- The page of the settings for the names; a name that nobody has typed is null. -/
  | names (firstname lastname : Option String)
  /-- `NotificationsPermission`, with the token of the device, if there is one. -/
  | pushOn (token : Option String)
  /-- The switch of the settings, turned off. -/
  | pushOff

def ProfilePage.edit : ProfilePage → ProfileEdit
  | .chart firstname lastname birthday completeProfilStatus =>
      { firstname, lastname, birthday, completeProfilStatus }
  | .pictures urls => { profilImages := .value urls }
  | .position place => { position := .value place }
  | .trustCode code => { trustCode := .value code, completeProfilStatus := .value "waiting" }
  | .email newEmail => { email := .value newEmail }
  | .names firstname lastname =>
      { firstname := .ofOption firstname, lastname := .ofOption lastname }
  | .pushOn token => { fcmToken := .ofOption token }
  | .pushOff => { fcmToken := .null }

/-- The page catches an error of its update, or the error ends what the page does. -/
def updateProfile (uid : UserId) (page : ProfilePage) : Firestore Unit :=
  tryCatch (updateUser uid (·.edit page.edit)) fun _ => pure ()

end TwoGather
