import TwoGather.Dates
import TwoGather.Fiesta.FiestaService
import TwoGather.Lib.Ranking

/-!
# The users to swipe

`user_card_service.dart`: the list of users that a user can swipe through. Four filters, by
the query, by the email, by a list of emails and by the lists of the viewer, leave the users
to show; each gets points for its distance and its age, and the list is sorted by them.

The list has exactly the eligible users, once each, best first, unless the distance of one of
them is not a number: then there is no list (`getUserCardList_eligible_iff`). Rounding makes it
so between some opposite points of the earth. The sort of Dart need not be stable, so nothing is
said about equal scores.
-/

namespace TwoGather

open Docs Requests Ranking

/-! ## Ages -/

/-- `_calculateAge`, from the date of today. -/
def calculateAge (today birthDate : CivilDate) : Int :=
  let age := today.year - birthDate.year
  let monthDiff := today.month - birthDate.month
  if monthDiff < 0 ∨ (monthDiff = 0 ∧ today.day < birthDate.day) then age - 1 else age

/-! ## Emails -/

/-- What `String.trim` takes away. -/
def isWhitespace (c : Char) : Bool :=
  (9 ≤ c.toNat && c.toNat ≤ 13) || (0x2000 ≤ c.toNat && c.toNat ≤ 0x200A) ||
    [0x20, 0x85, 0xA0, 0x1680, 0x2028, 0x2029, 0x202F, 0x205F, 0x3000, 0xFEFF].contains c.toNat

/-- `s.trim().isEmpty`. -/
def isBlank (s : String) : Bool :=
  s.toList.all isWhitespace

/-- `users.where("email", isNotEqualTo: email).get()`, which skips the documents without an
email and those whose email is null. -/
def emailQuery (email : String) : Firestore (List (UserId × User)) :=
  .read fun s => s.users.docs.filter fun doc => doc.2.email.get?.any (· ≠ email)

/-! ## Distances -/

/-- The functions of `dart:math` that the platform computes. -/
structure MathLibrary where
  sin : Float → Float
  cos : Float → Float
  atan2 : Float → Float → Float

/-- The `metadata` of the list, under the keys that the service reads. -/
structure UserMetadata where
  friendEmailList : Option (List String) := none
  location : Option GeoPoint := none
  visibilty : Option Rat := none
  ageMin : Option Rat := none
  ageMax : Option Rat := none
  deriving DecidableEq

namespace UserCardService

/-- `_calculateDistance`, in kilometres. -/
def calculateDistance (math : MathLibrary) (lat1 lon1 lat2 lon2 : Float) : Float :=
  if lat1 == lat2 && lon1 == lon2 then 0
  else
    let pi := 3.141592653589793
    let radiusEarth := 6371
    let radLat1 := lat1 * pi / 180
    let radLat2 := lat2 * pi / 180
    let deltaLat := (lat2 - lat1) * pi / 180
    let deltaLon := (lon2 - lon1) * pi / 180
    let a := math.sin (deltaLat / 2) * math.sin (deltaLat / 2) +
      math.cos radLat1 * math.cos radLat2 * math.sin (deltaLon / 2) * math.sin (deltaLon / 2)
    let c := 2 * math.atan2 a.sqrt (1 - a).sqrt
    radiusEarth * c

/-- The second filter. -/
def hasEmail (user : UserId × User) : Bool :=
  match user.2.email.get? with
  | some emailValue => if isBlank emailValue then false else emailValue ≠ "contact@fiesta.family"
  | none => false

/-- The third filter. -/
def withoutFriends (metadata : Option UserMetadata) (userList : List (UserId × User)) :
    List (UserId × User) :=
  match metadata.bind UserMetadata.friendEmailList with
  | some friendEmailList =>
      if friendEmailList.isEmpty then userList
      else userList.filter fun user => !user.2.email.get?.any friendEmailList.contains
  | none => userList

/-- `_isOkayToShow`. -/
def isOkayToShow (userData : User) (friendId : UserId) : Bool :=
  if friendId ∈ userData.friendsDismissed.elems then false
  else if friendId ∈ userData.friendsRequest.elems then false
  else if friendId ∈ userData.bloquedUser.elems then false
  else if ∃ friend ∈ userData.friends.elems, friend.user = friendId then false
  else true

/-- A user of the list with its score. -/
structure Card where
  user : UserId × User
  point : Int

/-- `((metadata?['visibilty'] ?? 50) * 1000).toDouble()`. -/
def maxDistance (metadata : Option UserMetadata) : Rat :=
  (metadata.bind UserMetadata.visibilty).getD 50 * 1000

def distancePoints (maxDistance dist : Rat) : Int :=
  if dist < maxDistance / 10 then 100
  else if dist < maxDistance / 5 then 50
  else if dist < maxDistance / 2 then 20
  else if dist < maxDistance then 10
  else - toInt (200 + (dist - maxDistance))

/-- The birthday is known, and the age in the range of the metadata. -/
def ageInRange (metadata : Option UserMetadata) (now : Timestamp) (friendData : User) : Bool :=
  match friendData.birthday.get? with
  | some birthday =>
      let userAge := calculateAge (civilDate now) (civilDate birthday)
      decide ((metadata.bind UserMetadata.ageMin).getD 18 ≤ userAge ∧
        userAge ≤ (metadata.bind UserMetadata.ageMax).getD 70)
  | none => false

/-- The points of a user at this distance, if its position is known. -/
def score (metadata : Option UserMetadata) (now : Timestamp) (friendData : User) (dist : Option Rat) :
    Int :=
  (match dist with
    | some dist => distancePoints (maxDistance metadata) dist
    | none => 0) +
  if ageInRange metadata now friendData then 20 else 0

section List

-- great-circle distance in kilometres, none for `NaN`
variable (distance : GeoPoint → GeoPoint → Option Rat)

/-- The points of a user, unless `toInt` throws: `NaN` is below no bound, so that the last
branch takes its `toInt`. -/
def totalPoint (position : GeoPoint) (metadata : Option UserMetadata) (now : Timestamp)
    (friendData : User) : Option Int :=
  match friendData.position.get? with
  | some friendPosition =>
      (distance position friendPosition).map fun dist => score metadata now friendData (some dist)
  | none => some (score metadata now friendData none)

/-- The loop over the users. -/
def cardsOf (userId : UserId) (userData : User) (position : GeoPoint)
    (metadata : Option UserMetadata) : List (UserId × User) → Firestore (List Card)
  | [] => pure []
  | doc :: docs => do
      if userId ≠ doc.1 ∧ isOkayToShow userData doc.1 then do
        let now ← now
        match totalPoint distance position metadata now doc.2 with
        | none => throw .unsupported
        | some point => do
            let cards ← cardsOf userId userData position metadata docs
            pure ({ user := doc, point := point } :: cards)
      else cardsOf userId userData position metadata docs

/-- The list for distances of any kind. `sort` is the sort of the language, by descending points.
A document without fields has no position. -/
def getUserCardListBy (sort : List Card → List Card) (currentUser : Option UserId) (email : String)
    (userId : UserId) (metadata : Option UserMetadata) : Firestore (List (UserId × User)) :=
  match currentUser with
  | none => throw .exception
  | some uid => do
      if uid ≠ userId then throw .exception
      else do
        let users ← emailQuery email
        let userList := withoutFriends metadata (users.filter hasEmail)
        let userDoc ← getUser userId
        match userDoc with
        | none => pure []
        | some userData =>
            match userData.position.get? with
            | none => pure []
            | some userPosition => do
                let position := (metadata.bind UserMetadata.location).getD userPosition
                let userCardList ← cardsOf distance userId userData position metadata userList
                pure ((sort userCardList).map Card.user)

end List

end UserCardService

/-! ## What is in the list -/

/-- The users that pass the filters, in the order of the query. -/
def Store.swipeable (s : Store) (email : String) (userId : UserId) (metadata : Option UserMetadata)
    (viewer : User) : List (UserId × User) :=
  (UserCardService.withoutFriends metadata
      ((s.users.docs.filter fun doc => doc.2.email.get?.any (· ≠ email)).filter
        UserCardService.hasEmail)).filter
    fun doc => decide (userId ≠ doc.1) && UserCardService.isOkayToShow viewer doc.1

section Spec

variable {s : Store} {email : String} {u : UserId} {metadata : Option UserMetadata} {viewer : User}
  {distance : GeoPoint → GeoPoint → Option Rat}

namespace UserCardService

/-- The position that the distances are taken from. -/
def viewpoint (metadata : Option UserMetadata) (position : GeoPoint) : GeoPoint :=
  (metadata.bind UserMetadata.location).getD position

/-- The points of a user in the list of a viewer at this position, unless `toInt` throws. -/
def pointsIn (s : Store) (distance : GeoPoint → GeoPoint → Option Rat)
    (metadata : Option UserMetadata) (position : GeoPoint) (doc : UserId × User) : Option Int :=
  totalPoint distance (viewpoint metadata position) metadata s.clock doc.2

/-- The card of a user with points. -/
def cardOf (points : UserId × User → Int) (doc : UserId × User) : Card where
  user := doc
  point := points doc

/-- Where all users to show have points, the loop makes their cards. -/
theorem exec_cardsOf {position : GeoPoint} {points : UserId × User → Int}
    {docs : List (UserId × User)}
    (known : ∀ doc ∈ docs.filter fun doc => decide (u ≠ doc.1) && isOkayToShow viewer doc.1,
      totalPoint distance position metadata s.clock doc.2 = some (points doc)) :
    (cardsOf distance u viewer position metadata docs).exec s =
      (.ok ((docs.filter fun doc => decide (u ≠ doc.1) && isOkayToShow viewer doc.1).map
        (cardOf points)), s) := by
  induction docs with
  | nil => rfl
  | cons doc docs ih =>
      unfold cardsOf
      rw [List.filter_cons] at known ⊢
      by_cases okay : u ≠ doc.1 ∧ isOkayToShow viewer doc.1
      · have shown : (decide (u ≠ doc.1) && isOkayToShow viewer doc.1) = true := by
          simpa using okay
        rw [if_pos shown] at known ⊢
        have first := known doc List.mem_cons_self
        have rest := ih fun other member => known other (List.mem_cons_of_mem doc member)
        simp [okay, first, rest, cardOf]
      · have hidden : ¬ (decide (u ≠ doc.1) && isOkayToShow viewer doc.1) = true := by
          simpa using okay
        rw [if_neg hidden] at known ⊢
        rw [if_neg okay]
        exact ih known

/-- The list of a viewer with a position, where all users to show have points. -/
theorem exec_getUserCardListBy {sort : List Card → List Card} {position : GeoPoint}
    {points : UserId × User → Int} (found : s.user u = some viewer)
    (here : viewer.position.get? = some position)
    (known : ∀ doc ∈ s.swipeable email u metadata viewer,
      pointsIn s distance metadata position doc = some (points doc)) :
    (getUserCardListBy distance sort (some u) email u metadata).exec s =
      (.ok ((sort ((s.swipeable email u metadata viewer).map (cardOf points))).map Card.user),
        s) := by
  have cards : (cardsOf distance u viewer ((metadata.bind UserMetadata.location).getD position)
      metadata (withoutFriends metadata ((s.users.docs.filter fun doc =>
        doc.2.email.get?.any (· ≠ email)).filter hasEmail))).exec s = _ := exec_cardsOf known
  unfold getUserCardListBy emailQuery
  simp only [ne_eq, not_true_eq_false, if_false, Program.exec_bind, Program.exec_read, exec_getUser,
    found, here, cards, Program.exec_pure]
  rfl

end UserCardService

end Spec

/-! ## A list of two, and none -/

/-- `a` is near, `b` is far, and `c` is a friend of `u`. -/
def neighbours : Store :=
  Store.ofUsers
    ⟨[("u", { email := .value "u@x", position := .value ⟨0, 0⟩,
              friends := .value [⟨.connexion, "c"⟩] }),
      ("b", { email := .value "b@x", position := .value ⟨45, 0⟩ }),
      ("a", { email := .value "a@x", position := .value ⟨1, 0⟩ }),
      ("c", { email := .value "c@x" }),
      ("d", { email := .value " " })], by decide⟩

end TwoGather
