import TwoGather.Location
import TwoGather.Swipe.Scores

/-!
# The preferences for fiestas

`fiesta_swipe_pref_provider.dart` keeps a radius, a place and a type of fiestas, and hands
them to the service of fiestas in a map. The place is in it as a map of its own, where the
service casts it to a point, and the type is under "fiesta_type", where the service reads
"category". The radius arrives, but the service takes it for metres and rounds the points.

So the preferences are honoured exactly when no place is chosen, no two fiestas of different
types are at the same distance, and none is at the radius exactly while another one is less
than a kilometre nearer (`preferencesHonoured_iff`).
-/

namespace TwoGather

open Docs Dynamic Requests Ranking

/-! ## `fiesta_swipe_pref_provider.dart` -/

structure FiestaSwipePref where
  visibilty : Int := 50
  location : Option LocationModel := none
  fiestaType : Option String := none

namespace FiestaSwipePref

def getMetadata (prefs : FiestaSwipePref) : Fields :=
  [("visibility", .int prefs.visibilty),
    ("location", .optional (fun l => .map l.toMap) prefs.location),
    ("fiesta_type", .optional .string prefs.fiestaType)]

end FiestaSwipePref

/-- What the service reads from a map. Whatever is no point fails the cast of the location, as a
map does; the radius of the app is a whole number. -/
def CardMetadata.ofMap (metadata : Fields) : CardMetadata where
  location :=
    match metadata.read "location" with
    | .null => none
    | .geoPoint latitude longitude => some (.point ⟨latitude, longitude⟩)
    | _ => some .map
  visibility :=
    match metadata.read "visibility" with
    | .int n => some n
    | _ => none
  category := (metadata.read "category").string?

namespace FiestaSwipePref

/-- What the service reads of the preferences. -/
def metadata (prefs : FiestaSwipePref) : CardMetadata :=
  .ofMap prefs.getMetadata

/-- The place is not read as a point, and the type is not read at all. -/
theorem metadata_eq (prefs : FiestaSwipePref) :
    prefs.metadata =
      { location := prefs.location.map fun _ => .map
        visibility := some prefs.visibilty } := by
  unfold metadata CardMetadata.ofMap getMetadata
  cases prefs.location with
  | none => cases prefs.fiestaType <;> rfl
  | some l => cases prefs.fiestaType <;> rfl

theorem maxDistance_metadata (prefs : FiestaSwipePref) :
    FiestaService.maxDistance (some prefs.metadata) = prefs.visibilty * 1000 := by
  rw [metadata_eq]
  rfl

theorem categoryMatches_metadata (prefs : FiestaSwipePref) (fiesta : Fiesta) :
    FiestaService.categoryMatches (some prefs.metadata) fiesta = false := by
  rw [metadata_eq]
  unfold FiestaService.categoryMatches
  cases fiesta.category.get? with
  | none => rfl
  | some category => rfl

end FiestaSwipePref

/-! ## What is asked of the list -/

/-- The first fiesta has an address closer than the radius, the second one at the radius or
beyond. -/
def Nearer (distance : GeoPoint → GeoPoint → Rat) (position : Option GeoPoint) (r : Int)
    (a b : FiestaId × Fiesta) : Prop :=
  (∃ d ∈ FiestaService.distanceOf distance position a.2, d < r) ∧
    ∃ d ∈ FiestaService.distanceOf distance position b.2, (r : Rat) ≤ d

/-- The two are at the same distance, the first one of the chosen type and the second one of
another type. -/
def Preferred (distance : GeoPoint → GeoPoint → Rat) (position : Option GeoPoint)
    (fiestaType : Option String) (a b : FiestaId × Fiesta) : Prop :=
  (∃ d, d ∈ FiestaService.distanceOf distance position a.2 ∧
    d ∈ FiestaService.distanceOf distance position b.2) ∧
  ∃ chosen ∈ fiestaType, a.2.category.get? = some chosen ∧
    ∃ type ∈ b.2.category.get?, type ≠ chosen

/-- The preferences are honoured for the user `u` with these data: the list is returned, the
distances are taken from the chosen place, and both orders are respected. -/
structure PreferencesHonoured (s : Store) (distance : GeoPoint → GeoPoint → Rat) (u : UserId)
    (data : User) (prefs : FiestaSwipePref) : Prop where
  completes : ∀ sort, Sorts FiestaService.Card.point sort → ∃ list,
    ((FiestaService.getFiestaListBy distance sort (some u) (some prefs.metadata)).exec s).1 =
      .ok list
  measures : ∀ place ∈ prefs.location, ∀ p ∈ place.geopoint,
    ((userPosition data (some prefs.metadata)).exec s).1 = .ok (some p)
  radius : ∀ position, ((userPosition data (some prefs.metadata)).exec s).1 = .ok position →
    ∀ list, FiestaService.Returned s distance u (some prefs.metadata) list →
      Respects (Nearer distance position prefs.visibilty) list
  type : ∀ position, ((userPosition data (some prefs.metadata)).exec s).1 = .ok position →
    ∀ list, FiestaService.Returned s distance u (some prefs.metadata) list →
      Respects (Preferred distance position prefs.fiestaType) list

section Exact

variable {s : Store} {distance : GeoPoint → GeoPoint → Rat} {u : UserId} {data : User}
  {metadata : Option CardMetadata} {position : Option GeoPoint} {prefs : FiestaSwipePref}

/-- Lists respect a relation exactly when the points of the fiestas to show do. -/
theorem FiestaService.returned_respects_iff {R : FiestaId × Fiesta → FiestaId × Fiesta → Prop}
    (irrefl : ∀ a, ¬ R a a) (found : s.user u = some data)
    (read : (userPosition data metadata).exec s = (.ok position, s)) :
    (∀ list, Returned s distance u metadata list → Respects R list) ↔
      ∀ a ∈ s.fiestas.docs.filter (s.shows u data), ∀ b ∈ s.fiestas.docs.filter (s.shows u data),
        R a b → totalPoint distance position metadata b.2 <
          totalPoint distance position metadata a.2 := by
  have left (doc : FiestaId × Fiesta) :
      (Card.mk doc (totalPoint distance position metadata doc.2)).fiesta = doc := rfl
  have exact : (∀ sort, Sorts Card.point sort → Respects R
      ((sort ((s.fiestas.docs.filter (s.shows u data)).map fun doc =>
        ⟨doc, totalPoint distance position metadata doc.2⟩)).map Card.fiesta)) ↔ _ :=
    sorts_back_respects_iff left irrefl
  refine Iff.trans ⟨fun all sort sorts => ?_, fun all list returned => ?_⟩ exact
  · exact all _ ⟨sort, sorts, congrArg Prod.fst (exec_getFiestaListBy found read)⟩
  · obtain ⟨sort, sorts, run⟩ := returned
    rw [exec_getFiestaListBy found read] at run
    cases run
    exact all sort sorts

/-- A place in the preferences fails the cast. -/
theorem getFiestaListBy_place {place : LocationModel} (chosen : prefs.location = some place)
    (sort : List FiestaService.Card → List FiestaService.Card) (found : s.user u = some data) :
    ((FiestaService.getFiestaListBy distance sort (some u) (some prefs.metadata)).exec s).1 =
      .error .typeError := by
  rw [FiestaSwipePref.metadata_eq]
  simp [FiestaService.getFiestaListBy, found, userPosition, chosen]

/-- Without one the distances are taken from the position of the user. -/
theorem exec_userPosition_free (free : prefs.location = none) :
    (userPosition data (some prefs.metadata)).exec s = (.ok data.position.get?, s) := by
  rw [FiestaSwipePref.metadata_eq, free]
  rfl

end Exact

/-! ## Rounded points -/

section Rounded

variable {x y : Rat} {r : Int}

/-- A distance closer than a radius is in the first tier. -/
theorem distancePoints_first (positive : 0 < r) (first : x < 100 * r) :
    distancePoints (r * 1000) x = 100 + 1000 * r - ⌈x⌉ := by
  have positive' : (0 : Rat) < r := by exact_mod_cast positive
  have tenth : (r * 1000 / 10 : Rat) = 100 * r := by ring
  have shift : (((100 : Int) : Rat) + (r * 1000 - x)) = -x + ((100 + 1000 * r : Int) : Rat) := by
    push_cast
    ring
  rw [distancePoints_within (by linarith), tierPoints, tenth, if_pos first, shift,
    Int.floor_add_intCast, Int.floor_neg]
  ring

/-- One beyond the first tier has fewer points. -/
theorem distancePoints_later (positive : 0 < r) (inside : x < r) (later : 100 * r ≤ y) :
    distancePoints (r * 1000) y < distancePoints (r * 1000) x := by
  have positive' : (0 : Rat) < r := by exact_mod_cast positive
  rcases lt_or_ge y (r * 1000) with within | beyond
  · have notFirst : ¬ y < r * 1000 / 10 := by linarith
    have tier : tierPoints (r * 1000) y ≤ 50 := by
      unfold tierPoints
      rw [if_neg notFirst]
      split_ifs <;> decide
    have tier' : (tierPoints (r * 1000) y : Rat) ≤ 50 := by exact_mod_cast tier
    have rounded : (⌈x⌉ : Rat) < x + 1 := Int.ceil_lt_add_one x
    have near : x < 100 * r := by linarith
    rw [distancePoints_first positive near, distancePoints_within within, Int.floor_lt]
    push_cast
    linarith
  · have better := (FiestaService.tiered (by linarith)).favoursNear.beats x y
      (show x < (r * 1000 : Rat) by linarith) beyond
    linarith

/-- Of two fiestas on different sides of the radius, the nearer one has more points, unless the
other one is at the radius exactly and the rounding makes them equal. -/
theorem nearer_points_iff (nonneg : 0 ≤ x) (inside : x < r) (out : (r : Rat) ≤ y) :
    distancePoints (r * 1000) y < distancePoints (r * 1000) x ↔ ¬ ((r : Rat) - 1 < x ∧ y = r) := by
  have positive' : (0 : Rat) < r := lt_of_le_of_lt nonneg inside
  have positive : 0 < r := by exact_mod_cast positive'
  rcases lt_or_ge y (100 * r) with first | later
  · have below : ⌈x⌉ ≤ r := Int.ceil_le.mpr inside.le
    have above : r ≤ ⌈y⌉ := Int.le_ceil_iff.mpr (by linarith)
    have highest : (r : Rat) - 1 < x ↔ ⌈x⌉ = r := by
      rw [Int.ceil_eq_iff]
      exact (and_iff_left inside.le).symm
    have lowest : y = r ↔ ⌈y⌉ = r := by
      rw [Int.ceil_eq_iff]
      constructor
      · intro same
        rw [same]
        exact ⟨by linarith, le_refl _⟩
      · exact fun both => le_antisymm both.2 out
    rw [distancePoints_first positive first, distancePoints_first positive (by linarith), highest,
      lowest]
    omega
  · refine iff_of_true (distancePoints_later positive inside later) fun both => ?_
    linarith [both.2]

end Rounded

/-! ## When the preferences are honoured -/

section Honoured

variable {s : Store} {distance : GeoPoint → GeoPoint → Rat} {u : UserId} {data : User}
  {position : Option GeoPoint} {prefs : FiestaSwipePref}

theorem totalPoint_metadata {fiesta : Fiesta} {d : Rat}
    (known : d ∈ FiestaService.distanceOf distance position fiesta) :
    FiestaService.totalPoint distance position (some prefs.metadata) fiesta =
      distancePoints (prefs.visibilty * 1000) d := by
  rw [FiestaService.totalPoint_eq known, FiestaSwipePref.maxDistance_metadata,
    FiestaSwipePref.categoryMatches_metadata]
  exact add_zero _

/-- Without a chosen place the radius is respected up to the rounding. -/
theorem radius_iff (nonneg : ∀ p q, 0 ≤ distance p q) (a b : FiestaId × Fiesta) :
    (Nearer distance position prefs.visibilty a b →
      FiestaService.totalPoint distance position (some prefs.metadata) b.2 <
        FiestaService.totalPoint distance position (some prefs.metadata) a.2) ↔
      ∀ x ∈ FiestaService.distanceOf distance position a.2,
        ∀ y ∈ FiestaService.distanceOf distance position b.2,
          ¬ ((prefs.visibilty : Rat) - 1 < x ∧ x < prefs.visibilty ∧ y = prefs.visibilty) := by
  have known_nonneg {x : Rat} (known : x ∈ FiestaService.distanceOf distance position a.2) :
      0 ≤ x := by
    unfold FiestaService.distanceOf at known
    split at known
    · cases known
      exact nonneg _ _
    · cases known
  constructor
  · rintro above x known y known' ⟨close, inside, same⟩
    have less := above ⟨⟨x, known, inside⟩, y, known', same.ge⟩
    rw [totalPoint_metadata known, totalPoint_metadata known'] at less
    exact (nearer_points_iff (known_nonneg known) inside same.ge).mp less ⟨close, same⟩
  · rintro apart ⟨⟨x, known, inside⟩, y, known', out⟩
    rw [totalPoint_metadata known, totalPoint_metadata known']
    apply (nearer_points_iff (known_nonneg known) inside out).mpr
    exact fun both => apart x known y known' ⟨both.1, inside, both.2⟩

/-- The chosen type gives no points, so any pair for which it matters is in no order. -/
theorem type_iff (a b : FiestaId × Fiesta) :
    (Preferred distance position prefs.fiestaType a b →
      FiestaService.totalPoint distance position (some prefs.metadata) b.2 <
        FiestaService.totalPoint distance position (some prefs.metadata) a.2) ↔
      ¬ Preferred distance position prefs.fiestaType a b := by
  constructor
  · intro above preferred
    have less := above preferred
    obtain ⟨⟨d, known, known'⟩, -⟩ := preferred
    rw [totalPoint_metadata known, totalPoint_metadata known'] at less
    exact lt_irrefl _ less
  · exact fun none preferred => absurd preferred none

theorem not_preferred_self (fiestaType : Option String) (a : FiestaId × Fiesta) :
    ¬ Preferred distance position fiestaType a a := by
  rintro ⟨-, chosen, -, category, type, other, differ⟩
  rw [Option.mem_def, category] at other
  cases other
  exact differ rfl

/-- **The preferences are honoured exactly when no place is chosen, and of the fiestas to show no
one is at the radius while another one is less than a kilometre nearer, and no two at the same
distance are of the chosen type and of another one.** -/
theorem preferencesHonoured_iff (nonneg : ∀ p q, 0 ≤ distance p q) (found : s.user u = some data) :
    PreferencesHonoured s distance u data prefs ↔
      prefs.location = none ∧
        ∀ a ∈ s.fiestas.docs.filter (s.shows u data),
          ∀ b ∈ s.fiestas.docs.filter (s.shows u data),
            (∀ x ∈ FiestaService.distanceOf distance data.position.get? a.2,
              ∀ y ∈ FiestaService.distanceOf distance data.position.get? b.2,
                ¬ ((prefs.visibilty : Rat) - 1 < x ∧ x < prefs.visibilty ∧
                  y = prefs.visibilty)) ∧
              ¬ Preferred distance data.position.get? prefs.fiestaType a b := by
  have sorts := sorts_mergeSort FiestaService.Card.point fun l => List.Perm.refl l
  cases place : prefs.location with
  | some l =>
      refine iff_of_false (fun honoured => ?_) fun both => by cases both.1
      obtain ⟨list, run⟩ := honoured.completes _ sorts
      rw [getFiestaListBy_place place _ found] at run
      cases run
  | none =>
      have read : (userPosition data (some prefs.metadata)).exec s =
          (.ok data.position.get?, s) := exec_userPosition_free place
      have radius : (∀ list, FiestaService.Returned s distance u (some prefs.metadata) list →
          Respects (Nearer distance data.position.get? prefs.visibilty) list) ↔ _ :=
        FiestaService.returned_respects_iff oneSide found read
      have type : (∀ list, FiestaService.Returned s distance u (some prefs.metadata) list →
          Respects (Preferred distance data.position.get? prefs.fiestaType) list) ↔ _ :=
        FiestaService.returned_respects_iff (not_preferred_self prefs.fiestaType) found read
      simp only [radius_iff nonneg] at radius
      simp only [type_iff] at type
      constructor
      · intro honoured
        have near := radius.mp (honoured.radius _ (congrArg Prod.fst read))
        have same := type.mp (honoured.type _ (congrArg Prod.fst read))
        exact ⟨rfl, fun a listedA b listedB =>
          ⟨near a listedA b listedB, same a listedA b listedB⟩⟩
      · rintro ⟨-, both⟩
        refine ⟨fun sort _ => ?_, fun l chosen => ?_, fun position here => ?_, fun position here => ?_⟩
        · exact ⟨_, congrArg Prod.fst (exec_getFiestaListBy found read)⟩
        · rw [place] at chosen
          cases chosen
        · rw [read] at here
          cases here
          exact radius.mpr fun a listedA b listedB => (both a listedA b listedB).1
        · rw [read] at here
          cases here
          exact type.mpr fun a listedA b listedB => (both a listedA b listedB).2

end Honoured

/-! ## With and without a place -/

/-- `h` has fiestas at 3 km and at 8 km from `u`. -/
def nearbyFiestas : Store :=
  { Store.ofUsers
      ⟨[("h", { friends := .value [⟨.connexion, "u"⟩] }), ("u", { position := .value ⟨0, 0⟩ })],
        by decide⟩ with
    fiestas :=
      ⟨[("far",
        { title := .value "far"
          host := { id := "h" }
          hostRef := "h"
          endAt := ⟨3600000000, by decide, by decide⟩
          isEnd := .value false
          visibleAfter := .undefined
          participants := []
          address := .value { geopoint := .value ⟨8, 0⟩ } }),
        ("near",
        { title := .value "near"
          host := { id := "h" }
          hostRef := "h"
          endAt := ⟨3600000000, by decide, by decide⟩
          isEnd := .value false
          visibleAfter := .undefined
          participants := []
          address := .value { geopoint := .value ⟨3, 0⟩ } })], by decide⟩ }

/-- A distance that is the difference of the latitudes. -/
def byLatitude (p q : GeoPoint) : Rat :=
  |q.latitude - p.latitude|

/-- With a radius of 5 km alone the preferences are honoured. -/
theorem nearbyFiestas_honoured :
    PreferencesHonoured nearbyFiestas byLatitude "u" { position := .value ⟨0, 0⟩ }
      { visibilty := 5 } := by
  apply (preferencesHonoured_iff (fun p q => abs_nonneg _) rfl).mpr
  refine ⟨rfl, fun a _ b listed => ⟨?_, ?_⟩⟩
  · rintro x - y known ⟨-, -, same⟩
    have shown : b ∈ nearbyFiestas.fiestas.docs := (List.mem_filter.mp listed).1
    simp only [nearbyFiestas, List.mem_cons, List.not_mem_nil, or_false] at shown
    rcases shown with rfl | rfl
    · cases known
      norm_num [byLatitude] at same
    · cases known
      norm_num [byLatitude] at same
  · rintro ⟨-, chosen, none, -⟩
    cases none

/-- With a place there is no list. -/
theorem nearbyFiestas_somewhere :
    ¬ PreferencesHonoured nearbyFiestas byLatitude "u" { position := .value ⟨0, 0⟩ }
      { location := some
          { address := "1 rue A", city := "Paris", region := "", postalCode := "75000",
            formattedText := "1 rue A, Paris", geopoint := some ⟨48, 2⟩ } } := by
  intro honoured
  obtain ⟨list, run⟩ := honoured.completes _
    (sorts_mergeSort FiestaService.Card.point fun l => List.Perm.refl l)
  cases run

end TwoGather
