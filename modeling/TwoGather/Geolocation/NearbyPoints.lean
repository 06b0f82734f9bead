import TwoGather.Lib.Dynamic
import TwoGather.Lib.Ranking
import TwoGather.Lib.Samples

/-!
# Points nearby

`findNearbyPoints` of `geolocation_service.dart` asks for the documents in a box around the
centre, at most `limit` of them, keeps those within the radius and sorts them by distance.
What it returns is within the radius, without duplicates and sorted. But the bound is put on
the box and not on the circle, so points may be missing; `findNearbyPoints_nearest_iff` says
when none is.

The cosine of an angle in degrees and the distance are parameters, and the numbers are exact.
-/

namespace TwoGather

open Dynamic Ranking Samples

/-- The functions on the sphere that the search uses. -/
structure Sphere where
  cosDegrees : ℚ → ℚ
  calculateDistance : (lat1 lon1 lat2 lon2 : ℚ) → ℚ

/-- The arguments of a search. -/
structure NearbySearch where
  centerLat : ℚ
  centerLon : ℚ
  radiusInKm : ℚ
  latitudeField : String := "latitude"
  longitudeField : String := "longitude"
  limit : Nat := 50

structure PointDoc where
  id : String
  data : Fields

/-- The number that a query compares. -/
def number? : Value → Option ℚ
  | .int n => some n
  | .double x => some x
  | _ => none

/-- The cast to `double?`; `none` is a cast that fails. -/
def asDouble : Value → Option (Option ℚ)
  | .null => some none
  | .double x => some (some x)
  | _ => none

namespace NearbySearch

variable (sphere : Sphere) (q : NearbySearch)

def latDelta : ℚ :=
  q.radiusInKm / 111

def lonDelta : ℚ :=
  q.radiusInKm / (111 * sphere.cosDegrees q.centerLat)

/-- The point is between the bounds of the query. -/
def InBox (lat lon : ℚ) : Prop :=
  (q.centerLat - q.latDelta ≤ lat ∧ lat ≤ q.centerLat + q.latDelta) ∧
    q.centerLon - q.lonDelta sphere ≤ lon ∧ lon ≤ q.centerLon + q.lonDelta sphere

instance (lat lon : ℚ) : Decidable (q.InBox sphere lat lon) :=
  inferInstanceAs (Decidable (_ ∧ _))

/-- The document meets the four conditions of the query. -/
def Matches (doc : PointDoc) : Prop :=
  ∃ lat ∈ number? (doc.data.read q.latitudeField), ∃ lon ∈ number? (doc.data.read q.longitudeField),
    q.InBox sphere lat lon

instance (doc : PointDoc) : Decidable (q.Matches sphere doc) :=
  inferInstanceAs (Decidable (∃ lat ∈ _, ∃ lon ∈ _, _))

/-- What `query.get()` may return. -/
def Answers (docs snapshot : List PointDoc) : Prop :=
  Sample q.limit (docs.filter (q.Matches sphere)) snapshot

/-- The loop of the exact filter. -/
def filterExact : List PointDoc → Option (List PointDoc)
  | [] => some []
  | doc :: docs => do
      let lat ← asDouble (doc.data.read q.latitudeField)
      let lon ← asDouble (doc.data.read q.longitudeField)
      let results ← filterExact docs
      match lat, lon with
      | some lat, some lon =>
          let distance := sphere.calculateDistance q.centerLat q.centerLon lat lon
          if distance ≤ q.radiusInKm * 1000 then some (doc :: results) else some results
      | _, _ => some results

/-- The distance that the comparison of the sort computes, where its casts succeed. -/
def distance? (doc : PointDoc) : Option ℚ := do
  let lat ← (asDouble (doc.data.read q.latitudeField)).join
  let lon ← (asDouble (doc.data.read q.longitudeField)).join
  some (sphere.calculateDistance q.centerLat q.centerLon lat lon)

/-- The search, for what the query has returned. -/
def findNearbyPoints (sort : List PointDoc → List PointDoc) (snapshot : List PointDoc) :
    Option (List PointDoc) :=
  (q.filterExact sphere snapshot).map sort

/-! ## What is promised -/

/-- The document is a point, with two doubles. -/
def Stored (doc : PointDoc) : Prop :=
  ∃ lat lon, doc.data.read q.latitudeField = .double lat ∧
    doc.data.read q.longitudeField = .double lon

/-- Every point within the radius is in the box. -/
def Covers : Prop :=
  ∀ lat lon, sphere.calculateDistance q.centerLat q.centerLon lat lon ≤ q.radiusInKm * 1000 →
    q.InBox sphere lat lon

def distanceOf (doc : PointDoc) : ℚ :=
  (q.distance? sphere doc).getD 0

def Within (doc : PointDoc) : Prop :=
  ∃ distance ∈ q.distance? sphere doc, distance ≤ q.radiusInKm * 1000

instance (doc : PointDoc) : Decidable (q.Within sphere doc) :=
  inferInstanceAs (Decidable (∃ distance ∈ _, _))

/-- `sort` sorts documents that have distances by ascending distance. -/
def SortsByDistance (sort : List PointDoc → List PointDoc) : Prop :=
  ∀ l, (∀ doc ∈ l, (q.distance? sphere doc).isSome) →
    Ranks (fun doc => OrderDual.toDual (q.distanceOf sphere doc)) l (sort l)

/-- The results are points within the radius, each once, the nearest first. -/
structure Sound (docs results : List PointDoc) : Prop where
  within : ∀ doc ∈ results, doc ∈ docs ∧ q.Within sphere doc
  distinct : (results.map (·.id)).Nodup
  sorted : results.Pairwise fun a b => q.distanceOf sphere a ≤ q.distanceOf sphere b

/-! ## One search -/

section Search

variable {sphere : Sphere} {q : NearbySearch} {docs snapshot : List PointDoc}
  {sort : List PointDoc → List PointDoc}

theorem distance?_of_stored {doc : PointDoc} {lat lon : ℚ}
    (latitude : doc.data.read q.latitudeField = .double lat)
    (longitude : doc.data.read q.longitudeField = .double lon) :
    q.distance? sphere doc = some (sphere.calculateDistance q.centerLat q.centerLon lat lon) := by
  rw [distance?, latitude, longitude]
  rfl

/-- Points within the radius meet the conditions of the query. -/
theorem matches_of_within {doc : PointDoc} (covers : q.Covers sphere) (stored : q.Stored doc)
    (within : q.Within sphere doc) : q.Matches sphere doc := by
  obtain ⟨lat, lon, latitude, longitude⟩ := stored
  obtain ⟨distance, computed, near⟩ := within
  rw [distance?_of_stored latitude longitude] at computed
  obtain rfl := Option.some.inj computed
  exact ⟨lat, by rw [latitude]; rfl, lon, by rw [longitude]; rfl, covers lat lon near⟩

/-- The loop keeps the points within the radius. -/
theorem filterExact_eq (stored : ∀ doc ∈ snapshot, q.Stored doc) :
    q.filterExact sphere snapshot = some (snapshot.filter (q.Within sphere)) := by
  induction snapshot with
  | nil => rfl
  | cons doc docs ih =>
      obtain ⟨lat, lon, latitude, longitude⟩ := stored doc List.mem_cons_self
      have rest := ih fun doc listed => stored doc (List.mem_cons_of_mem _ listed)
      have distance : q.distance? sphere doc =
          some (sphere.calculateDistance q.centerLat q.centerLon lat lon) :=
        distance?_of_stored latitude longitude
      have within : q.Within sphere doc ↔
          sphere.calculateDistance q.centerLat q.centerLon lat lon ≤ q.radiusInKm * 1000 := by
        simp [Within, distance]
      rw [filterExact, latitude, longitude, rest, List.filter_cons]
      simp only [asDouble, Option.bind_eq_bind, Option.bind_some, within]
      split
      · rename_i near
        simp [near]
      · rename_i far
        simp [far]

/-- What is kept has a distance. -/
theorem isSome_of_within {doc : PointDoc} (within : q.Within sphere doc) :
    (q.distance? sphere doc).isSome := by
  obtain ⟨distance, computed, -⟩ := within
  exact Option.isSome_of_mem computed

/-- A search returns what its sample has within the radius, sorted. -/
theorem findNearbyPoints_eq (sorts : q.SortsByDistance sphere sort)
    (stored : ∀ doc ∈ snapshot, q.Stored doc) :
    ∃ results, q.findNearbyPoints sphere sort snapshot = some results ∧
      results.Perm (snapshot.filter (q.Within sphere)) ∧
      results.Pairwise fun a b => q.distanceOf sphere a ≤ q.distanceOf sphere b := by
  have ranks := sorts (snapshot.filter (q.Within sphere)) fun doc listed =>
    isSome_of_within (of_decide_eq_true (List.mem_filter.mp listed).2)
  refine ⟨_, by rw [findNearbyPoints, filterExact_eq stored, Option.map_some], ranks.perm, ?_⟩
  exact ranks.sorted

/-- What the search returns is right in every case. -/
theorem sound_of_answers (sorts : q.SortsByDistance sphere sort)
    (ids : (docs.map (·.id)).Nodup) (stored : ∀ doc ∈ docs, q.Stored doc)
    (answers : q.Answers sphere docs snapshot) :
    ∃ results, q.findNearbyPoints sphere sort snapshot = some results ∧
      q.Sound sphere docs results := by
  obtain ⟨results, returns, perm, sorted⟩ := findNearbyPoints_eq sorts fun doc listed =>
    stored doc (List.mem_of_mem_filter (answers.subset listed))
  obtain ⟨sound, distinct⟩ := answers.filter (P := q.Within sphere)
  have within : ∀ doc ∈ results, doc ∈ docs ∧ q.Within sphere doc := by
    intro doc found
    obtain ⟨listed, near⟩ := sound doc (perm.mem_iff.mp found)
    exact ⟨List.mem_of_mem_filter listed, near⟩
  refine ⟨results, returns, within, ?_, sorted⟩
  have distinct : results.Nodup := perm.nodup_iff.mpr distinct
  exact distinct.map_on fun a foundA b foundB same =>
    List.inj_on_of_nodup_map ids (within a foundA).1 (within b foundB).1 same

/-- It is the nearest points if and only if what the sample has within the radius is. -/
theorem nearest_of_answers_iff (covers : q.Covers sphere)
    (sorts : q.SortsByDistance sphere sort) (stored : ∀ doc ∈ docs, q.Stored doc)
    (answers : q.Answers sphere docs snapshot) :
    (∃ results, q.findNearbyPoints sphere sort snapshot = some results ∧
        Nearest q.limit (q.distanceOf sphere) (q.Within sphere) docs results) ↔
      Nearest q.limit (q.distanceOf sphere) (q.Within sphere) (docs.filter (q.Matches sphere))
        (snapshot.filter (q.Within sphere)) := by
  obtain ⟨results, returns, perm, -⟩ := findNearbyPoints_eq sorts fun doc listed =>
    stored doc (List.mem_of_mem_filter (answers.subset listed))
  rw [nearest_filter_iff fun doc listed => matches_of_within covers (stored doc listed)]
  constructor
  · intro found
    obtain ⟨results', returns', nearest⟩ := found
    obtain rfl := Option.some.inj (returns.symm.trans returns')
    exact nearest.perm perm.symm
  · exact fun nearest => ⟨results, returns, nearest.perm perm⟩

end Search

end NearbySearch

/-- **Whatever the query returns, the search returns points within the radius, each once and in
order of distance. It returns the nearest ones, and all of them if the limit allows it,
whatever the query returns, if and only if there are not more points in the box than the
limit, or none within the radius, or all those in the box are within the radius and at one
distance.** -/
theorem findNearbyPoints_nearest_iff (sphere : Sphere) (q : NearbySearch)
    (sort : List PointDoc → List PointDoc) (docs : List PointDoc)
    (covers : q.Covers sphere) (sorts : q.SortsByDistance sphere sort)
    (ids : (docs.map (·.id)).Nodup) (stored : ∀ doc ∈ docs, q.Stored doc) (pos : 1 ≤ q.limit) :
    (∀ snapshot, q.Answers sphere docs snapshot → ∃ results,
        q.findNearbyPoints sphere sort snapshot = some results ∧ q.Sound sphere docs results) ∧
      ((∀ snapshot, q.Answers sphere docs snapshot → ∃ results,
          q.findNearbyPoints sphere sort snapshot = some results ∧
            Nearest q.limit (q.distanceOf sphere) (q.Within sphere) docs results) ↔
        (docs.filter (q.Matches sphere)).length ≤ q.limit ∨
          (∀ doc ∈ docs, ¬ q.Within sphere doc) ∨
          (∀ doc ∈ docs, q.Matches sphere doc → q.Within sphere doc) ∧
            ∀ a ∈ docs, ∀ b ∈ docs, q.Matches sphere a → q.Matches sphere b →
              q.distanceOf sphere a = q.distanceOf sphere b) := by
  refine ⟨fun snapshot answers => NearbySearch.sound_of_answers sorts ids stored answers, ?_⟩
  have samples := forall₂_congr fun snapshot (answers : q.Answers sphere docs snapshot) =>
    NearbySearch.nearest_of_answers_iff covers sorts stored answers
  refine samples.trans ((nearest_of_samples_iff (ids.of_map.filter _) pos).trans ?_)
  have box : ∀ doc, doc ∈ docs.filter (q.Matches sphere) ↔ doc ∈ docs ∧ q.Matches sphere doc :=
    fun doc => by simp
  refine or_congr_right (or_congr ?_ (and_congr ?_ ?_))
  · refine forall_congr' fun doc => ?_
    rw [box]
    constructor
    · intro none listed near
      exact none ⟨listed, NearbySearch.matches_of_within covers (stored doc listed) near⟩ near
    · exact fun none both => none both.1
  · refine forall_congr' fun doc => ?_
    rw [box, and_imp]
  · refine forall_congr' fun a => ?_
    rw [box]
    constructor
    · exact fun all listedA b listedB hereA hereB =>
        all ⟨listedA, hereA⟩ b ((box b).mpr ⟨listedB, hereB⟩)
    · intro all both b listed
      obtain ⟨listedB, hereB⟩ := (box b).mp listed
      exact all both.1 b listedB both.2 hereB

/-! ## A point in a corner of the box -/

/-- A plane with 111 kilometres to a degree, and the distance along the two axes. -/
def gridSphere : Sphere where
  cosDegrees _ := 1
  calculateDistance lat1 lon1 lat2 lon2 := (|lat2 - lat1| + |lon2 - lon1|) * 111000

/-- All points within one degree of the origin. -/
def oneDegree (limit : Nat) : NearbySearch where
  centerLat := 0
  centerLon := 0
  radiusInKm := 111
  limit

def pointAt (id : String) (lat lon : ℚ) : PointDoc where
  id
  data := [("latitude", .double lat), ("longitude", .double lon)]

/-- A point within the radius, and one in a corner of the box. -/
def nearAndCorner : List PointDoc :=
  [pointAt "near" (1 / 2) 0, pointAt "corner" (9 / 10) (9 / 10)]

theorem oneDegree_covers (limit : Nat) : (oneDegree limit).Covers gridSphere := by
  intro lat lon near
  have near : (|lat - 0| + |lon - 0|) * 111000 ≤ 111 * 1000 := near
  rw [sub_zero, sub_zero] at near
  have sum : |lat| + |lon| ≤ 1 := by linarith
  obtain ⟨south, north⟩ := abs_le.mp (by linarith [abs_nonneg lon] : |lat| ≤ 1)
  obtain ⟨west, east⟩ := abs_le.mp (by linarith [abs_nonneg lat] : |lon| ≤ 1)
  unfold NearbySearch.InBox NearbySearch.latDelta NearbySearch.lonDelta oneDegree gridSphere
  norm_num
  exact ⟨⟨south, north⟩, west, east⟩

theorem nearAndCorner_stored (limit : Nat) :
    ∀ doc ∈ nearAndCorner, (oneDegree limit).Stored doc := by
  intro doc listed
  simp only [nearAndCorner, List.mem_cons, List.not_mem_nil, or_false] at listed
  obtain rfl | rfl := listed
  · exact ⟨_, _, rfl, rfl⟩
  · exact ⟨_, _, rfl, rfl⟩

/-- A sort of the results by distance. -/
def sortByDistance (q : NearbySearch) (l : List PointDoc) : List PointDoc :=
  l.mergeSort (atLeast fun doc => OrderDual.toDual (q.distanceOf gridSphere doc))

theorem sortByDistance_sorts (q : NearbySearch) :
    q.SortsByDistance gridSphere (sortByDistance q) :=
  fun l _ => sorts_mergeSort _ (fun _ => .refl _) l

/-- With a limit of one document the query may return the corner, and nothing is found. -/
theorem near_point_missed :
    let q := oneDegree 1
    let sort := sortByDistance q
    q.Covers gridSphere ∧ q.SortsByDistance gridSphere sort ∧
      (nearAndCorner.map (·.id)).Nodup ∧ (∀ doc ∈ nearAndCorner, q.Stored doc) ∧ 1 ≤ q.limit ∧
      ¬ ∀ snapshot, q.Answers gridSphere nearAndCorner snapshot → ∃ results,
        q.findNearbyPoints gridSphere sort snapshot = some results ∧
          Nearest q.limit (q.distanceOf gridSphere) (q.Within gridSphere) nearAndCorner results := by
  intro q sort
  have stored : ∀ doc ∈ nearAndCorner, q.Stored doc := nearAndCorner_stored 1
  refine ⟨oneDegree_covers 1, sortByDistance_sorts q, by decide, stored, le_rfl, fun all => ?_⟩
  let corner := pointAt "corner" (9 / 10) (9 / 10)
  have listed : corner ∈ nearAndCorner := List.mem_cons_of_mem _ List.mem_cons_self
  have outside : [corner].filter (q.Within gridSphere) = [] :=
    List.filter_cons_of_neg (by decide +kernel)
  have answers : q.Answers gridSphere nearAndCorner [corner] := by
    refine ⟨List.nodup_singleton _, List.cons_subset.mpr ⟨?_, List.nil_subset _⟩, ?_⟩
    · exact List.mem_filter.mpr ⟨listed, by decide +kernel⟩
    · decide +kernel
  obtain ⟨results, returns, nearest⟩ := all [corner] answers
  have filtered : q.filterExact gridSphere [corner] = some [] := by
    rw [NearbySearch.filterExact_eq, outside]
    exact List.forall_mem_singleton.mpr (stored corner listed)
  rw [NearbySearch.findNearbyPoints, filtered] at returns
  have none : results = [] := (Option.some.inj returns).symm.trans List.mergeSort_nil
  have near := nearest.all (by decide +kernel) (pointAt "near" (1 / 2) 0) List.mem_cons_self
    (by decide +kernel)
  rw [none] at near
  cases near

/-- With a limit of two the query returns both, and the point is found. -/
theorem near_point_found :
    let q := oneDegree 2
    ∃ results, q.findNearbyPoints gridSphere (sortByDistance q) nearAndCorner = some results ∧
      Nearest q.limit (q.distanceOf gridSphere) (q.Within gridSphere) nearAndCorner results := by
  intro q
  have box : nearAndCorner.filter (q.Matches gridSphere) = nearAndCorner :=
    filter_of_all (by
      intro doc listed
      simp only [nearAndCorner, List.mem_cons, List.not_mem_nil, or_false] at listed
      obtain rfl | rfl := listed
      · decide +kernel
      · decide +kernel)
  have ids : (nearAndCorner.map (·.id)).Nodup := by decide
  have answers : q.Answers gridSphere nearAndCorner nearAndCorner := by
    unfold NearbySearch.Answers
    rw [box]
    exact ⟨ids.of_map, List.Subset.refl _, rfl⟩
  refine (findNearbyPoints_nearest_iff gridSphere q _ nearAndCorner (oneDegree_covers 2)
    (sortByDistance_sorts q) ids (nearAndCorner_stored 2) (by decide)).2.mpr (.inl ?_) _ answers
  rw [box]
  exact le_rfl

end TwoGather
