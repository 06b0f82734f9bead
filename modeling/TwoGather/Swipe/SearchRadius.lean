import Mathlib.Tactic.IntervalCases
import TwoGather.Location
import TwoGather.Swipe.Scores

/-!
# The chosen search radius

`user_swipe_pref_provider.dart` keeps the radius that is chosen on the page of users, and
hands it to the service of users under the key "visibility". The service reads the key
"visibilty", which is never there, and takes its default of 50 for metres: as the distances
are in kilometres, the tiers end at 5000, 10000, 25000 and 50000 km.

So the chosen radius has no effect, and whoever is within it comes first only as far as these
tiers and the age give it more points (`radiusRespected_iff`).
-/

namespace TwoGather

open Docs Dynamic Requests Ranking

/-! ## `user_swipe_pref_provider.dart` -/

structure UserSwipePref where
  age : Int × Int := (18, 28)
  visibilty : Int := 50
  location : Option LocationModel := none

namespace UserSwipePref

def setVisibility (prefs : UserSwipePref) (value : Int) : UserSwipePref :=
  { prefs with visibilty := value }

def getMetadata (prefs : UserSwipePref) : Fields :=
  [("age_min", .int prefs.age.1), ("age_max", .int prefs.age.2),
    ("visibility", .int prefs.visibilty),
    ("location", .optional GeoPoint.value (prefs.location.bind LocationModel.geopoint))]

end UserSwipePref

/-- A number, if the value is one. -/
def numberOf : Value → Option Rat
  | .int n => some n
  | .double x => some x
  | _ => none

/-- What the service reads from a map, with the casts that succeed for the maps of the app. -/
def UserMetadata.ofMap (metadata : Fields) : UserMetadata where
  friendEmailList :=
    match metadata.read "friendEmailList" with
    | .list emails => some (emails.filterMap Value.string?)
    | _ => none
  location :=
    match metadata.read "location" with
    | .geoPoint latitude longitude => some ⟨latitude, longitude⟩
    | _ => none
  visibilty := numberOf (metadata.read "visibilty")
  ageMin := numberOf (metadata.read "age_min")
  ageMax := numberOf (metadata.read "age_max")

namespace UserSwipePref

/-- What the service reads of the preferences. -/
def metadata (prefs : UserSwipePref) : UserMetadata :=
  .ofMap prefs.getMetadata

/-- The radius is not among it. -/
theorem metadata_eq (prefs : UserSwipePref) :
    prefs.metadata =
      { location := prefs.location.bind LocationModel.geopoint
        ageMin := some prefs.age.1
        ageMax := some prefs.age.2 } := by
  unfold metadata UserMetadata.ofMap getMetadata
  cases prefs.location.bind LocationModel.geopoint with
  | none => rfl
  | some p => rfl

theorem maxDistance_metadata (prefs : UserSwipePref) :
    UserCardService.maxDistance (some prefs.metadata) = 50000 := by
  rw [metadata_eq]
  unfold UserCardService.maxDistance
  norm_num

end UserSwipePref

/-! ## What is asked of the list -/

/-- In every list of a viewer with a position, whoever is at less than `r` kilometres comes
before whoever is at `r` kilometres or more. -/
def Store.RadiusRespected (s : Store) (distance : GeoPoint → GeoPoint → Rat) (u : UserId)
    (email : String) (prefs : UserSwipePref) (r : Int) : Prop :=
  let metadata := some (prefs.setVisibility r).metadata
  ∀ viewer position, s.user u = some viewer → viewer.position.get? = some position →
    ∀ list, UserCardService.Returned s distance u email metadata list →
      Respects (fun a b =>
        (∃ d ∈ UserCardService.distanceOf distance
          (UserCardService.viewpoint metadata position) a.2, d < r) ∧
        ∃ d ∈ UserCardService.distanceOf distance
          (UserCardService.viewpoint metadata position) b.2, r ≤ d) list

section Exact

variable {s : Store} {distance : GeoPoint → GeoPoint → Rat} {u : UserId} {email : String}
  {viewer : User} {metadata : Option UserMetadata} {position : GeoPoint}

/-- Lists respect a relation exactly when the points of the users to show do. -/
theorem UserCardService.returned_respects_iff {R : UserId × User → UserId × User → Prop}
    (irrefl : ∀ a, ¬ R a a) (found : s.user u = some viewer)
    (here : viewer.position.get? = some position) :
    (∀ list, Returned s distance u email metadata list → Respects R list) ↔
      ∀ a ∈ s.swipeable email u metadata viewer, ∀ b ∈ s.swipeable email u metadata viewer,
        R a b → points s distance metadata position b < points s distance metadata position a := by
  have left (doc : UserId × User) :
      (cardOf (points s distance metadata position) doc).user = doc := rfl
  have exact : (∀ sort, Sorts Card.point sort → Respects R
      ((sort ((s.swipeable email u metadata viewer).map
        (cardOf (points s distance metadata position)))).map Card.user)) ↔ _ :=
    sorts_back_respects_iff left irrefl
  refine Iff.trans ⟨fun all sort sorts => ?_, fun all list returned => ?_⟩ exact
  · exact all _ ⟨sort, sorts, congrArg Prod.fst
      (exec_getUserCardListBy found here fun _ _ => pointsIn_some)⟩
  · obtain ⟨sort, sorts, run⟩ := returned
    rw [exec_getUserCardListBy found here fun _ _ => pointsIn_some] at run
    cases run
    exact all sort sorts

end Exact

/-! ## The tiers that are left -/

/-- The tier of a distance, as the service sees it. -/
def tier (d : Rat) : Nat :=
  if d < 5000 then 0
  else if d < 10000 then 1
  else if d < 25000 then 2
  else if d < 50000 then 3
  else 4

/-- The first of two users, at the distances `d ≤ d'`, comes before the second: in the same tier
up to 50000 km by the age alone, which must not speak for the second alone in the third and
fourth tier; beyond by the whole kilometres, where the age counts for 20. -/
def Outranks (d d' : Rat) (inRange inRange' : Bool) : Prop :=
  (tier d = tier d' → tier d < 4 → inRange = true ∧ inRange' = false) ∧
  (tier d = 2 → tier d' = 3 → inRange' = true → inRange = true) ∧
  (tier d = 4 → ⌊d⌋ + (if inRange' then 20 else 0) < ⌊d'⌋ + if inRange then 20 else 0)

section Tiers

variable {d d' : Rat}

theorem tier_le (d : Rat) : tier d ≤ 4 := by
  unfold tier
  split_ifs <;> decide

theorem tier_mono (less : d ≤ d') : tier d ≤ tier d' := by
  unfold tier
  split_ifs <;> first | decide | (exfalso; linarith)

/-- The points for each tier. -/
def pointsAt (tier : Nat) (whole : Int) : Int :=
  match tier with
  | 0 => 100
  | 1 => 50
  | 2 => 20
  | 3 => 10
  | _ => 49800 - whole

theorem tier_eq_four : tier d = 4 ↔ 50000 ≤ d := by
  unfold tier
  split_ifs <;> first
    | exact iff_of_false (by decide) (by linarith)
    | exact iff_of_true rfl (by linarith)

theorem distancePoints_tier (d : Rat) :
    UserCardService.distancePoints 50000 d = pointsAt (tier d) ⌊d⌋ := by
  by_cases inside : d < 50000
  · have tenth : (50000 / 10 : Rat) = 5000 := by norm_num
    have fifth : (50000 / 5 : Rat) = 10000 := by norm_num
    have half : (50000 / 2 : Rat) = 25000 := by norm_num
    rw [UserCardService.distancePoints_within inside]
    unfold tierPoints tier
    rw [tenth, fifth, half]
    split_ifs <;> rfl
  · rw [not_lt] at inside
    have shift : (200 + (d - 50000) : Rat) = d - (49800 : Int) := by
      push_cast
      ring
    rw [UserCardService.distancePoints_beyond (by norm_num) inside, shift, Int.floor_sub_intCast,
      tier_eq_four.mpr inside]
    exact neg_sub ⌊d⌋ 49800

theorem floor_of_tier (last : tier d = 4) : 50000 ≤ ⌊d⌋ := by
  rw [Int.le_floor]
  exact_mod_cast tier_eq_four.mp last

/-- Who has more points, in terms of the tiers. -/
theorem outranks_iff (less : d ≤ d') (inRange inRange' : Bool) :
    (UserCardService.distancePoints 50000 d' + (if inRange' then 20 else 0) <
      UserCardService.distancePoints 50000 d + if inRange then 20 else 0) ↔
      Outranks d d' inRange inRange' := by
  rw [distancePoints_tier, distancePoints_tier]
  unfold Outranks
  have far : tier d' = 4 → 50000 ≤ ⌊d'⌋ := floor_of_tier
  have ordered := tier_mono less
  have last := tier_le d'
  generalize tier d = n at *
  generalize tier d' = m at *
  interval_cases m <;> interval_cases n <;> cases inRange <;> cases inRange' <;>
    simp [pointsAt] at * <;> omega

end Tiers

/-! ## When the radius is respected -/

/-- **The list respects a chosen radius exactly when, of any two users to show on different sides
of it, the tiers of the default radius and the ages put the nearer one first.** -/
theorem radiusRespected_iff (s : Store) (distance : GeoPoint → GeoPoint → Rat) (u : UserId)
    (email : String) (prefs : UserSwipePref) (r : Int) :
    s.RadiusRespected distance u email prefs r ↔
      let metadata := some (prefs.setVisibility r).metadata
      ∀ viewer position, s.user u = some viewer → viewer.position.get? = some position →
        ∀ a ∈ s.swipeable email u metadata viewer, ∀ b ∈ s.swipeable email u metadata viewer,
          ∀ d ∈ UserCardService.distanceOf distance
            (UserCardService.viewpoint metadata position) a.2,
          ∀ d' ∈ UserCardService.distanceOf distance
            (UserCardService.viewpoint metadata position) b.2,
          d < r → r ≤ d' →
            Outranks d d' (UserCardService.ageInRange metadata s.clock a.2)
              (UserCardService.ageInRange metadata s.clock b.2) := by
  unfold Store.RadiusRespected
  dsimp only
  refine forall₄_congr fun viewer position found here => ?_
  rw [UserCardService.returned_respects_iff oneSide found here]
  refine forall₄_congr fun a _ b _ => ?_
  generalize chosen : some (prefs.setVisibility r).metadata = metadata
  have total {doc : UserId × User} {d : Rat}
      (known : d ∈ UserCardService.distanceOf distance
        (UserCardService.viewpoint metadata position) doc.2) :
      UserCardService.points s distance metadata position doc =
        UserCardService.distancePoints 50000 d +
          if UserCardService.ageInRange metadata s.clock doc.2 then 20 else 0 := by
    rw [UserCardService.points_eq known, ← chosen, UserSwipePref.maxDistance_metadata]
  constructor
  · intro above d known d' known' inside out
    have less := above ⟨⟨d, known, inside⟩, d', known', out⟩
    rw [total known, total known'] at less
    exact (outranks_iff (inside.le.trans out) _ _).mp less
  · rintro ranked ⟨⟨d, known, inside⟩, d', known', out⟩
    rw [total known, total known']
    exact (outranks_iff (inside.le.trans out) _ _).mpr (ranked d known d' known' inside out)

/-! ## Ten kilometres -/

/-- `near` is at 5.55 km, and `far` at 3996 km; `far` alone is of the age that is looked for. -/
def nearAndFar : Store :=
  Store.ofUsers
    ⟨[("u", { position := .value ⟨0, 0⟩ }),
      ("near", { email := .value "near@x", position := .value ⟨1 / 20, 0⟩ }),
      ("far", { email := .value "far@x", position := .value ⟨36, 0⟩,
                birthday := .value ⟨-631152000000000, by decide, by decide⟩ })], by decide⟩

theorem nearAndFar_age :
    calculateAge (civilDate nearAndFar.clock)
      (civilDate ⟨-631152000000000, by decide, by decide⟩) = 20 := by
  decide

/-- With 10 km chosen, and ages from 18 to 28, `far` comes first. -/
theorem nearAndFar_notRespected : ¬ nearAndFar.RadiusRespected alongMeridian "u" "u@x" {} 10 := by
  intro respected
  have read := (UserCardService.returned_respects_iff oneSide rfl rfl).mp
    (respected _ ⟨0, 0⟩ rfl rfl)
  have less := read ("near", { email := .value "near@x", position := .value ⟨1 / 20, 0⟩ })
    (by decide +kernel)
    ("far", { email := .value "far@x", position := .value ⟨36, 0⟩,
              birthday := .value ⟨-631152000000000, by decide, by decide⟩ })
    (by decide +kernel)
    ⟨⟨|111 * (1 / 20 - 0)|, rfl, by norm_num [abs_of_pos]⟩,
      |111 * (36 - 0)|, rfl, by norm_num [abs_of_pos]⟩
  revert less
  rw [UserSwipePref.metadata_eq]
  norm_num [UserCardService.points, UserCardService.score, UserCardService.distanceOf,
    UserCardService.viewpoint, alongMeridian, UserCardService.maxDistance,
    UserCardService.ageInRange, UserCardService.distancePoints, UserSwipePref.setVisibility,
    nearAndFar_age]

end TwoGather
