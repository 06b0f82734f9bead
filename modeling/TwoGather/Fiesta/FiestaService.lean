import TwoGather.Store

/-!
# The fiestas to swipe

`fiesta_service.dart`: the list of fiestas that a user can swipe through. It has the active
fiestas of hosts who have the user among their friends, without those that the user's own
document hides, in the order of a score.

The list is a permutation of the fiestas that pass three tests (`getFiestaList_perm`), none
of which changes the database.
-/

namespace TwoGather

open Docs Requests

/-! ## Who may see a fiesta -/

/-- `flag ?? true`. -/
def orTrue : Stored Bool → Bool
  | .value b => b
  | _ => true

/-- The flag of the fiesta for friends of this type. -/
def Fiesta.opensTo (f : Fiesta) : FriendType → Bool
  | .fiestar => orTrue f.visibleByFiestar
  | .connexion => orTrue f.visibleByConnexion
  | .firstCircle => orTrue f.visibleByFirstCircle
  | .other _ => false

namespace FiestaService

/-- The loop over the friends of the host. It ends at the first entry of the user. -/
def searchFriends (userId : UserId) (fiestaData : Fiesta) : List Friend → Bool
  | [] => false
  | friend :: friends =>
      if friend.user = userId then fiestaData.opensTo friend.type
      else searchFriends userId fiestaData friends

/-- `_fiestaVisibilityIsOkay`. -/
def fiestaVisibilityIsOkay (userId : UserId) (fiestaData : Fiesta) : Firestore Bool := do
  let hostDoc ← getUser fiestaData.host.id
  match hostDoc with
  | some hostData => pure (searchFriends userId fiestaData hostData.friends.elems)
  | none => pure false

end FiestaService

/-! ## Which fiestas the user's own document hides -/

/-- `participant['userRef']`: a field that no operation writes. -/
def Participant.userRef (_ : Participant) : Option UserId := none

namespace FiestaService

/-- The loop over the participants. -/
def checkParticipants (userId : UserId) (userData : User) : List Participant → Bool
  | [] => true
  | participant :: participants =>
      if ∃ u ∈ participant.userRef, u ∈ userData.bloquedUser.elems then false
      else if ∃ u ∈ participant.duoRef, u ∈ userData.bloquedUser.elems then false
      else if participant.userRef = some userId ∨ participant.duoRef = some userId then false
      else checkParticipants userId userData participants

/-- `_canShowFiestaForUser`. The host is a map, so the check for a reference to the user never
applies. -/
def canShowFiestaForUser (userId : UserId) (userData : User) (fiestaId : FiestaId)
    (fiestaData : Fiesta) : Bool :=
  if fiestaId ∈ userData.fiestaDismissed.elems then false
  else checkParticipants userId userData fiestaData.participants

end FiestaService

/-! ## The score -/

/-- `metadata['location']`: a point, or the map that the preferences page stores. -/
inductive Location
  | point (p : GeoPoint)
  | map
  deriving DecidableEq

/-- The `metadata` of the list. -/
structure CardMetadata where
  location : Option Location := none
  visibility : Option Int := none
  category : Option String := none
  deriving DecidableEq

/-- `x.toInt()`, towards zero. -/
def toInt (x : Rat) : Int := x.num.tdiv x.den

def distancePoints (maxDistance dist : Rat) : Int :=
  if dist < maxDistance / 10 then toInt (100 + (maxDistance - dist))
  else if dist < maxDistance / 5 then toInt (50 + (maxDistance - dist))
  else if dist < maxDistance / 2 then toInt (20 + (maxDistance - dist))
  else if dist < maxDistance then toInt (10 + (maxDistance - dist))
  else - toInt (200 + (dist - maxDistance))

/-- The position that the distances are taken from: that of the metadata, or that of the user. -/
def userPosition (userData : User) (metadata : Option CardMetadata) :
    Firestore (Option GeoPoint) :=
  match metadata.bind CardMetadata.location with
  | some (.point p) => pure (some p)
  | some .map => throw .typeError
  | none => pure userData.position.get?

/-- `where` clauses apart, `fiesta.get()`. -/
def fiestaQuery : Firestore (List (FiestaId × Fiesta)) :=
  .read (·.fiestas.docs)

namespace FiestaService

/-- A fiesta of the list with its score. -/
structure Card where
  fiesta : FiestaId × Fiesta
  point : Int

section List

-- great-circle distance, in floating point
variable (distance : GeoPoint → GeoPoint → Rat)

def totalPoint (position : Option GeoPoint) (metadata : Option CardMetadata) (fiestaData : Fiesta) :
    Int :=
  (match fiestaData.address.get?.bind (·.geopoint.get?), position with
    | some fiestaPosition, some userPosition =>
        distancePoints (((metadata.bind CardMetadata.visibility).getD 50 : Int) * 1000)
          (distance userPosition fiestaPosition)
    | _, _ => 0) +
  match metadata, fiestaData.category.get? with
  | some metadata, some category => if metadata.category = some category then 20 else 0
  | _, _ => 0

/-- The loop over the fiestas. Each has an end date, so `isEnd` is not asked. -/
def cardsOf (userId : UserId) (userData : User) (position : Option GeoPoint)
    (metadata : Option CardMetadata) : List (FiestaId × Fiesta) → Firestore (List Card)
  | [] => pure []
  | doc :: docs => do
      let now ← now
      if doc.2.endAt.micros > now.micros then do
        let canShow := canShowFiestaForUser userId userData doc.1 doc.2
        let visibilityOk ← fiestaVisibilityIsOkay userId doc.2
        let cards ← cardsOf userId userData position metadata docs
        if canShow && visibilityOk then
          pure ({ fiesta := doc, point := totalPoint distance position metadata doc.2 } :: cards)
        else pure cards
      else cardsOf userId userData position metadata docs

def getFiestaList (currentUser : Option UserId) (metadata : Option CardMetadata) :
    Firestore (List (FiestaId × Fiesta)) :=
  match currentUser with
  | none => throw .exception
  | some uid => do
      let userDoc ← getUser uid
      match userDoc with
      | none => throw .exception
      | some userData => do
          let position ← userPosition userData metadata
          let fiestas ← fiestaQuery
          let fiestaCardList ← cardsOf distance uid userData position metadata fiestas
          pure ((fiestaCardList.mergeSort fun a b => decide (b.point ≤ a.point)).map Card.fiesta)

/-- The list with another sort: that of the language need not be stable. -/
def getFiestaListBy (sort : List Card → List Card) (currentUser : Option UserId)
    (metadata : Option CardMetadata) : Firestore (List (FiestaId × Fiesta)) :=
  match currentUser with
  | none => throw .exception
  | some uid => do
      let userDoc ← getUser uid
      match userDoc with
      | none => throw .exception
      | some userData => do
          let position ← userPosition userData metadata
          let fiestas ← fiestaQuery
          let fiestaCardList ← cardsOf distance uid userData position metadata fiestas
          pure ((sort fiestaCardList).map Card.fiesta)

theorem getFiestaList_eq (currentUser : Option UserId) (metadata : Option CardMetadata) :
    getFiestaList distance currentUser metadata =
      getFiestaListBy distance (·.mergeSort fun a b => decide (b.point ≤ a.point)) currentUser
        metadata := rfl

end List

end FiestaService

/-! ## What is in the list -/

/-- The host is there and has the user among the friends that may see the fiesta. -/
def Store.opens (s : Store) (u : UserId) (fiesta : Fiesta) : Bool :=
  (s.user fiesta.host.id).any fun host =>
    FiestaService.searchFriends u fiesta host.friends.elems

/-- The fiesta passes the three tests. -/
def Store.shows (s : Store) (u : UserId) (data : User) (doc : FiestaId × Fiesta) : Bool :=
  decide (s.clock.micros < doc.2.endAt.micros) &&
    (FiestaService.canShowFiestaForUser u data doc.1 doc.2 && s.opens u doc.2)

section Spec

variable {s : Store} {u : UserId} {data : User} {distance : GeoPoint → GeoPoint → Rat}
  {metadata : Option CardMetadata}

theorem exec_fiestaVisibilityIsOkay (fiesta : Fiesta) :
    (FiestaService.fiestaVisibilityIsOkay u fiesta).exec s = (.ok (s.opens u fiesta), s) := by
  unfold FiestaService.fiestaVisibilityIsOkay Store.opens
  rw [Program.exec_bind, exec_getUser]
  cases s.user fiesta.host.id with
  | none => rfl
  | some host => rfl

/-- The loop keeps the fiestas that pass the tests, in the order of the query. -/
theorem exec_cardsOf (position : Option GeoPoint) (docs : List (FiestaId × Fiesta)) :
    (FiestaService.cardsOf distance u data position metadata docs).exec s =
      (.ok ((docs.filter (s.shows u data)).map fun doc =>
        ⟨doc, FiestaService.totalPoint distance position metadata doc.2⟩), s) := by
  induction docs with
  | nil => rfl
  | cons doc docs ih =>
      unfold FiestaService.cardsOf
      rw [List.filter_cons]
      simp only [Program.exec_bind, exec_now, Program.exec_ite, exec_fiestaVisibilityIsOkay, ih,
        Program.exec_pure, gt_iff_lt]
      split
      case isTrue active =>
        cases passes : FiestaService.canShowFiestaForUser u data doc.1 doc.2 && s.opens u doc.2 with
        | true => simp [Store.shows, active, passes]
        | false => simp [Store.shows, active, passes]
      case isFalse ended => simp [Store.shows, ended]

theorem exec_userPosition (s : Store) (data : User)
    (readable : metadata.bind CardMetadata.location ≠ some .map) :
    ∃ position, (userPosition data metadata).exec s = (.ok position, s) := by
  unfold userPosition
  split
  case h_1 p _ => exact ⟨some p, rfl⟩
  case h_2 isMap => exact absurd isMap readable
  case h_3 => exact ⟨data.position.get?, rfl⟩

/-- The fiestas that pass the tests with their points, sorted. -/
theorem exec_getFiestaListBy {sort : List FiestaService.Card → List FiestaService.Card}
    {position : Option GeoPoint} (found : s.user u = some data)
    (read : (userPosition data metadata).exec s = (.ok position, s)) :
    (FiestaService.getFiestaListBy distance sort (some u) metadata).exec s =
      (.ok ((sort ((s.fiestas.docs.filter (s.shows u data)).map fun doc =>
        ⟨doc, FiestaService.totalPoint distance position metadata doc.2⟩)).map
          FiestaService.Card.fiesta), s) := by
  unfold FiestaService.getFiestaListBy fiestaQuery
  simp only [Program.exec_bind, exec_getUser, found, read, Program.exec_read, exec_cardsOf,
    Program.exec_pure]

/-- The list is a permutation of the fiestas that pass the tests. -/
theorem getFiestaList_perm (distance : GeoPoint → GeoPoint → Rat) (found : s.user u = some data)
    (readable : metadata.bind CardMetadata.location ≠ some .map) :
    ∃ cards, (FiestaService.getFiestaList distance (some u) metadata).exec s = (.ok cards, s) ∧
      cards.Perm (s.fiestas.docs.filter (s.shows u data)) := by
  obtain ⟨position, read⟩ := exec_userPosition s data readable
  rw [FiestaService.getFiestaList_eq, exec_getFiestaListBy found read]
  refine ⟨_, rfl, ((List.mergeSort_perm _ _).map _).trans ?_⟩
  rw [List.map_map]
  exact .of_eq (List.map_id _)

/-- The fiesta is in the list of the user. -/
def Store.returns (s : Store) (distance : GeoPoint → GeoPoint → Rat) (u : UserId)
    (metadata : Option CardMetadata) (doc : FiestaId × Fiesta) : Prop :=
  ∃ cards, ((FiestaService.getFiestaList distance (some u) metadata).exec s).1 = .ok cards ∧
    doc ∈ cards

/-- There is a list if the user has a document, and the metadata have no map for a point. -/
theorem returns_iff {f : FiestaId} {fiesta : Fiesta} :
    s.returns distance u metadata (f, fiesta) ↔
      metadata.bind CardMetadata.location ≠ some .map ∧
        ∃ data, s.user u = some data ∧ s.fiesta f = some fiesta ∧ s.shows u data (f, fiesta) := by
  unfold Store.returns
  cases found : s.user u with
  | none => simp [FiestaService.getFiestaList, found]
  | some data =>
      by_cases readable : metadata.bind CardMetadata.location ≠ some .map
      · obtain ⟨cards, run, perm⟩ := getFiestaList_perm distance found readable
        rw [run]
        simp [perm.mem_iff, Collection.mem_docs, readable, Store.fiesta]
      · rw [not_not] at readable
        simp [FiestaService.getFiestaList, found, userPosition, readable]

end Spec

end TwoGather
