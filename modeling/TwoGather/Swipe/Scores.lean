import Mathlib.Algebra.Order.Floor.Ring
import Mathlib.Data.Rat.Floor
import Mathlib.Tactic.Linarith
import Mathlib.Tactic.NormNum
import TwoGather.Swipe.UserCardService

/-!
# Scores and distances

Both services give points for the distance in five tiers up to and beyond the radius, and 20
more for a match of age or category. The fiestas also lose a point for each unit of distance,
which a truncation towards zero rounds.

In both, points never go up with the distance, and the 20 points never make up for being
beyond the radius: within it there are at least 10, beyond it at most -200.
-/

namespace TwoGather

open Docs Requests Ranking

/-! ## Points for a distance -/

/-- Points that do not go up with the distance, and a bonus that does not make up for being at
the radius or beyond. -/
structure FavoursNear (points : Rat → Int) (maxDistance : Rat) (bonus : Int) : Prop where
  anti : ∀ d d', d ≤ d' → points d' ≤ points d
  beats : ∀ d d', d < maxDistance → maxDistance ≤ d' → points d' + bonus < points d

/-- What is not negative is rounded down. -/
theorem toInt_eq_floor {x : Rat} (nonneg : 0 ≤ x) : toInt x = ⌊x⌋ := by
  unfold toInt
  rw [Rat.floor_def', Int.tdiv_eq_ediv_of_nonneg (Rat.num_nonneg.mpr nonneg)]

/-- Within the radius there are points for the tier; at the radius and beyond, at least 200 are
taken away. -/
structure Tiered (points : Rat → Int) (maxDistance : Rat) : Prop where
  within : ∀ d, d < maxDistance → 10 ≤ points d
  beyond : ∀ d, maxDistance ≤ d → points d = - ⌊200 + (d - maxDistance)⌋
  anti : ∀ d d', d ≤ d' → d' < maxDistance → points d' ≤ points d

theorem Tiered.favoursNear {points : Rat → Int} {M : Rat} (tiered : Tiered points M) :
    FavoursNear points M 20 := by
  have far (d : Rat) (out : M ≤ d) : points d ≤ -200 := by
    rw [tiered.beyond d out, Int.neg_le_neg_iff, Int.le_floor]
    push_cast
    linarith
  refine ⟨fun d d' less => ?_, fun d d' inside out => ?_⟩
  · rcases lt_or_ge d' M with inside | out
    · exact tiered.anti d d' less inside
    · rcases lt_or_ge d M with inside | out'
      · have near := tiered.within d inside
        have away := far d' out
        omega
      · rw [tiered.beyond d out', tiered.beyond d' out, Int.neg_le_neg_iff]
        apply Int.floor_le_floor
        linarith
  · have near := tiered.within d inside
    have away := far d' out
    omega

section Points

variable {M d d' : Rat}

/-- The tier of a distance within the radius. -/
def tierPoints (maxDistance dist : Rat) : Int :=
  if dist < maxDistance / 10 then 100
  else if dist < maxDistance / 5 then 50
  else if dist < maxDistance / 2 then 20
  else 10

theorem ten_le_tierPoints (M d : Rat) : 10 ≤ tierPoints M d := by
  unfold tierPoints
  split_ifs <;> decide

theorem tierPoints_anti (nonneg : 0 ≤ M) (less : d ≤ d') : tierPoints M d' ≤ tierPoints M d := by
  have tenth : M / 10 ≤ M / 5 := by linarith
  have fifth : M / 5 ≤ M / 2 := by linarith
  unfold tierPoints
  split_ifs <;> first | decide | (exfalso; linarith)

theorem not_lt_parts (nonneg : 0 ≤ M) (out : M ≤ d) :
    ¬ d < M / 10 ∧ ¬ d < M / 5 ∧ ¬ d < M / 2 ∧ ¬ d < M := by
  refine ⟨?_, ?_, ?_, ?_⟩ <;> linarith

theorem UserCardService.distancePoints_within (inside : d < M) :
    UserCardService.distancePoints M d = tierPoints M d := by
  unfold UserCardService.distancePoints tierPoints
  rw [if_pos inside]

theorem UserCardService.distancePoints_beyond (nonneg : 0 ≤ M) (out : M ≤ d) :
    UserCardService.distancePoints M d = - ⌊200 + (d - M)⌋ := by
  obtain ⟨tenth, fifth, half, whole⟩ := not_lt_parts nonneg out
  unfold UserCardService.distancePoints
  rw [if_neg tenth, if_neg fifth, if_neg half, if_neg whole, toInt_eq_floor (by linarith)]

theorem distancePoints_within (inside : d < M) :
    distancePoints M d = ⌊tierPoints M d + (M - d)⌋ := by
  unfold distancePoints tierPoints
  rw [if_pos inside]
  split_ifs <;> rw [toInt_eq_floor (by linarith)] <;> push_cast <;> rfl

theorem distancePoints_beyond (nonneg : 0 ≤ M) (out : M ≤ d) :
    distancePoints M d = - ⌊200 + (d - M)⌋ := by
  obtain ⟨tenth, fifth, half, whole⟩ := not_lt_parts nonneg out
  unfold distancePoints
  rw [if_neg tenth, if_neg fifth, if_neg half, if_neg whole, toInt_eq_floor (by linarith)]

theorem UserCardService.tiered (nonneg : 0 ≤ M) : Tiered (UserCardService.distancePoints M) M where
  within d inside := by
    rw [distancePoints_within inside]
    exact ten_le_tierPoints M d
  beyond d out := distancePoints_beyond nonneg out
  anti d d' less inside := by
    rw [distancePoints_within inside, distancePoints_within (lt_of_le_of_lt less inside)]
    exact tierPoints_anti nonneg less

theorem FiestaService.tiered (nonneg : 0 ≤ M) : Tiered (distancePoints M) M where
  within d inside := by
    have ten : (10 : Rat) ≤ tierPoints M d := by exact_mod_cast ten_le_tierPoints M d
    rw [TwoGather.distancePoints_within inside, Int.le_floor]
    push_cast
    linarith
  beyond d out := TwoGather.distancePoints_beyond nonneg out
  anti d d' less inside := by
    have tiers : (tierPoints M d' : Rat) ≤ tierPoints M d := by
      exact_mod_cast tierPoints_anti nonneg less
    rw [TwoGather.distancePoints_within inside,
      TwoGather.distancePoints_within (lt_of_le_of_lt less inside)]
    apply Int.floor_le_floor
    linarith

end Points

/-! ## Scores of candidates -/

/-- How a service ranks its candidates: by a score that goes down with the distance, where it is
known, between candidates alike in the bonus, and that prefers those within the radius to the
others. -/
structure RanksByDistance {α : Type} (score : α → Int) (distance : α → Option Rat)
    (bonus : α → Bool) (maxDistance : Rat) (returned : List α → Prop) : Prop where
  anti : ∀ a b, ∀ d ∈ distance a, ∀ d' ∈ distance b, bonus a = bonus b → d ≤ d' → score b ≤ score a
  beats : ∀ a b, ∀ d ∈ distance a, ∀ d' ∈ distance b, d < maxDistance → maxDistance ≤ d' →
    score b < score a
  first : ∀ list, returned list →
    Respects (fun a b => (∃ d ∈ distance a, d < maxDistance) ∧ ∃ d ∈ distance b, maxDistance ≤ d)
      list

/-- Nobody is on both sides of a radius. -/
theorem oneSide {α : Type} {distance : α → Option Rat} {M : Rat} (a : α) :
    ¬ ((∃ d ∈ distance a, d < M) ∧ ∃ d ∈ distance a, M ≤ d) := by
  rintro ⟨⟨d, known, inside⟩, d', known', out⟩
  cases Option.mem_unique known known'
  exact absurd inside (not_lt.mpr out)

/-- Points for the distance and 20 for the bonus rank in this way. -/
theorem FavoursNear.ranks {α : Type} {score : α → Int} {distance : α → Option Rat}
    {bonus : α → Bool} {points : Rat → Int} {M : Rat} {returned : List α → Prop}
    (favours : FavoursNear points M 20)
    (total : ∀ a, ∀ d ∈ distance a, score a = points d + if bonus a then 20 else 0)
    (sorted : ∀ list, returned list → list.Pairwise fun a b => score b ≤ score a) :
    RanksByDistance score distance bonus M returned := by
  have beats : ∀ a b, ∀ d ∈ distance a, ∀ d' ∈ distance b, d < M → M ≤ d' → score b < score a := by
    intro a b d known d' known' inside out
    have better := favours.beats d d' inside out
    rw [total a d known, total b d' known']
    split <;> split <;> omega
  refine ⟨fun a b d known d' known' same less => ?_, beats, fun list is => ?_⟩
  · rw [total a d known, total b d' known', same]
    exact Int.add_le_add_right (favours.anti d d' less) _
  · refine (sorted list is).imp fun {b a} notAbove related => ?_
    obtain ⟨⟨d, known, inside⟩, d', known', out⟩ := related
    exact absurd (beats a b d known d' known' inside out) (not_lt.mpr notAbove)

namespace FiestaService

def maxDistance (metadata : Option CardMetadata) : Rat :=
  ((metadata.bind CardMetadata.visibility).getD 50 : Int) * 1000

/-- The distance of a fiesta with an address from a user with a position. -/
def distanceOf (distance : GeoPoint → GeoPoint → Rat) (position : Option GeoPoint)
    (fiestaData : Fiesta) : Option Rat :=
  match fiestaData.address.get?.bind (·.geopoint.get?), position with
  | some fiestaPosition, some userPosition => some (distance userPosition fiestaPosition)
  | _, _ => none

def categoryMatches (metadata : Option CardMetadata) (fiestaData : Fiesta) : Bool :=
  match metadata, fiestaData.category.get? with
  | some metadata, some category => metadata.category = some category
  | _, _ => false

theorem totalPoint_eq {distance : GeoPoint → GeoPoint → Rat} {position : Option GeoPoint}
    {metadata : Option CardMetadata} {fiestaData : Fiesta} {d : Rat}
    (known : d ∈ distanceOf distance position fiestaData) :
    totalPoint distance position metadata fiestaData =
      distancePoints (maxDistance metadata) d +
        if categoryMatches metadata fiestaData then 20 else 0 := by
  unfold distanceOf at known
  unfold totalPoint categoryMatches
  congr 1
  · cases place : fiestaData.address.get?.bind (·.geopoint.get?) with
    | none => simp [place] at known
    | some fiestaPosition =>
        cases position with
        | none => simp [place] at known
        | some userPosition =>
            simp only [place, Option.mem_def, Option.some.injEq] at known
            subst known
            rfl
  · cases metadata with
    | none => rfl
    | some metadata =>
        cases fiestaData.category.get? with
        | none => rfl
        | some category => simp

/-- The lists that the service may return. -/
def Returned (s : Store) (distance : GeoPoint → GeoPoint → Rat) (u : UserId)
    (metadata : Option CardMetadata) (list : List (FiestaId × Fiesta)) : Prop :=
  ∃ sort, Sorts Card.point sort ∧
    ((getFiestaListBy distance sort (some u) metadata).exec s).1 = .ok list

theorem Returned.sorted {s : Store} {distance : GeoPoint → GeoPoint → Rat} {u : UserId}
    {data : User} {metadata : Option CardMetadata} {position : Option GeoPoint}
    {list : List (FiestaId × Fiesta)} (found : s.user u = some data)
    (read : (userPosition data metadata).exec s = (.ok position, s))
    (returned : Returned s distance u metadata list) :
    list.Pairwise fun a b => totalPoint distance position metadata b.2 ≤
      totalPoint distance position metadata a.2 := by
  obtain ⟨sort, sorts, run⟩ := returned
  rw [exec_getFiestaListBy found read] at run
  cases run
  have left (doc : FiestaId × Fiesta) :
      (Card.mk doc (totalPoint distance position metadata doc.2)).fiesta = doc := rfl
  exact ((sorts _).back left).sorted

end FiestaService

namespace UserCardService

def distanceOf (distance : GeoPoint → GeoPoint → Rat) (position : GeoPoint) (friendData : User) :
    Option Rat :=
  friendData.position.get?.map (distance position)

/-- The points of a user in the list of a viewer at this position. -/
def points (s : Store) (distance : GeoPoint → GeoPoint → Rat) (metadata : Option UserMetadata)
    (position : GeoPoint) (doc : UserId × User) : Int :=
  score metadata s.clock doc.2 (distanceOf distance (viewpoint metadata position) doc.2)

theorem points_eq {s : Store} {distance : GeoPoint → GeoPoint → Rat}
    {metadata : Option UserMetadata} {position : GeoPoint} {doc : UserId × User} {d : Rat}
    (known : d ∈ distanceOf distance (viewpoint metadata position) doc.2) :
    points s distance metadata position doc =
      distancePoints (maxDistance metadata) d +
        if ageInRange metadata s.clock doc.2 then 20 else 0 := by
  unfold points score
  rw [Option.mem_def.mp known]

/-- Where all distances are numbers, everybody has points. -/
theorem pointsIn_some {s : Store} {distance : GeoPoint → GeoPoint → Rat}
    {metadata : Option UserMetadata} {position : GeoPoint} {doc : UserId × User} :
    pointsIn s (fun p q => some (distance p q)) metadata position doc =
      some (points s distance metadata position doc) := by
  unfold pointsIn totalPoint points distanceOf
  cases doc.2.position.get? with
  | none => rfl
  | some q => rfl

/-- The lists that the service may return. -/
def Returned (s : Store) (distance : GeoPoint → GeoPoint → Rat) (u : UserId) (email : String)
    (metadata : Option UserMetadata) (list : List (UserId × User)) : Prop :=
  ∃ sort, Sorts Card.point sort ∧
    ((getUserCardListBy (fun p q => some (distance p q)) sort (some u) email u metadata).exec s).1 =
      .ok list

theorem Returned.sorted {s : Store} {distance : GeoPoint → GeoPoint → Rat} {u : UserId}
    {email : String} {viewer : User} {metadata : Option UserMetadata} {position : GeoPoint}
    {list : List (UserId × User)} (found : s.user u = some viewer)
    (here : viewer.position.get? = some position)
    (returned : Returned s distance u email metadata list) :
    list.Pairwise fun a b => points s distance metadata position b ≤
      points s distance metadata position a := by
  obtain ⟨sort, sorts, run⟩ := returned
  rw [exec_getUserCardListBy found here fun _ _ => pointsIn_some] at run
  cases run
  have left (doc : UserId × User) :
      (cardOf (points s distance metadata position) doc).user = doc := rfl
  exact ((sorts _).back left).sorted

end UserCardService

/-- **In both services the points never go up with the distance, the bonus never makes up for
being beyond the radius, and the list has whoever is within the radius before whoever is not.** -/
theorem scores_favourNear (s : Store) (distance : GeoPoint → GeoPoint → Rat) :
    (∀ M, 0 ≤ M → FavoursNear (distancePoints M) M 20 ∧
      FavoursNear (UserCardService.distancePoints M) M 20) ∧
    (∀ u data metadata position, s.user u = some data →
      (userPosition data metadata).exec s = (.ok position, s) →
      0 ≤ FiestaService.maxDistance metadata →
      RanksByDistance
        (fun doc : FiestaId × Fiesta =>
          FiestaService.totalPoint distance position metadata doc.2)
        (fun doc => FiestaService.distanceOf distance position doc.2)
        (fun doc => FiestaService.categoryMatches metadata doc.2)
        (FiestaService.maxDistance metadata) (FiestaService.Returned s distance u metadata)) ∧
    (∀ u email viewer metadata position, s.user u = some viewer →
      viewer.position.get? = some position → 0 ≤ UserCardService.maxDistance metadata →
      RanksByDistance (UserCardService.points s distance metadata position)
        (fun doc => UserCardService.distanceOf distance
          (UserCardService.viewpoint metadata position) doc.2)
        (fun doc => UserCardService.ageInRange metadata s.clock doc.2)
        (UserCardService.maxDistance metadata)
        (UserCardService.Returned s distance u email metadata)) := by
  refine ⟨fun M nonneg => ?_, ?_, ?_⟩
  · exact ⟨(FiestaService.tiered nonneg).favoursNear, (UserCardService.tiered nonneg).favoursNear⟩
  · intro u data metadata position found read nonneg
    exact (FiestaService.tiered nonneg).favoursNear.ranks
      (fun _ _ known => FiestaService.totalPoint_eq known)
      fun _ returned => returned.sorted found read
  · intro u email viewer metadata position found here nonneg
    exact (UserCardService.tiered nonneg).favoursNear.ranks
      (fun _ _ known => UserCardService.points_eq known)
      fun _ returned => returned.sorted found here

/-- Distances along a meridian, about 111 kilometres a degree. -/
def alongMeridian (p q : GeoPoint) : Rat :=
  |111 * (q.latitude - p.latitude)|

/-- With a radius of 1000 km `a` comes before `b` in the list of `u`. -/
theorem neighbours_favourNear :
    RanksByDistance
      (UserCardService.points neighbours alongMeridian (some { visibilty := some 1 }) ⟨0, 0⟩)
      (fun doc => UserCardService.distanceOf alongMeridian
        (UserCardService.viewpoint (some { visibilty := some 1 }) ⟨0, 0⟩) doc.2)
      (fun doc =>
        UserCardService.ageInRange (some { visibilty := some 1 }) neighbours.clock doc.2)
      (UserCardService.maxDistance (some { visibilty := some 1 }))
      (UserCardService.Returned neighbours alongMeridian "u" "u@x"
        (some { visibilty := some 1 })) :=
  (scores_favourNear neighbours alongMeridian).2.2 "u" "u@x" _ (some { visibilty := some 1 }) ⟨0, 0⟩
    rfl rfl (by norm_num [UserCardService.maxDistance])

end TwoGather
