import TwoGather.Documents
import TwoGather.Lib.Dynamic

/-!
# Places

`location_model.dart`: a place that was chosen on the map, and the map under which it is
stored. The two texts of the list of proposals are not stored.
-/

namespace TwoGather

open Dynamic

def GeoPoint.value (p : GeoPoint) : Value :=
  .geoPoint p.latitude p.longitude

structure LocationModel where
  address : String
  city : String
  region : String
  postalCode : String
  countryISOCode : String := "FR"
  mainText : Option String := none
  secondaryText : Option String := none
  formattedText : String
  geopoint : Option GeoPoint := none
  deriving DecidableEq

namespace LocationModel

/-- The field `location` of the class is always null. -/
def toMap (l : LocationModel) : Fields :=
  [("address", .string l.address), ("city", .string l.city),
    ("geopoint", .optional GeoPoint.value l.geopoint), ("location", .null),
    ("region", .string l.region), ("postal_code", .string l.postalCode),
    ("country_iso_code", .string l.countryISOCode), ("formatted_text", .string l.formattedText)]

/-- The cast to `GeoPoint?`. -/
def geopointOf : Value → Option (Option GeoPoint)
  | .null => some none
  | .geoPoint latitude longitude => some (some ⟨latitude, longitude⟩)
  | _ => none

/-- `none` stands for a cast that fails. -/
def fromMap (map : Fields) : Option LocationModel := do
  let address ← (map.read "address").string?
  let city ← (map.read "city").string?
  let region ← (map.read "region").string?
  let postalCode ← (map.read "postal_code").string?
  let countryISOCode ← (map.read "country_iso_code").string?
  let formattedText ← (map.read "formatted_text").string?
  let geopoint ← geopointOf (map.read "geopoint")
  return { address, city, region, postalCode, countryISOCode, formattedText, geopoint }

/-- What is stored is read back. -/
theorem fromMap_toMap (l : LocationModel) :
    fromMap l.toMap = some { l with mainText := none, secondaryText := none } := by
  obtain ⟨address, city, region, postalCode, countryISOCode, _, _, formattedText, geopoint⟩ := l
  cases geopoint with
  | none => rfl
  | some p => rfl

theorem stored_toMap (l : LocationModel) (now : Int) : l.toMap.stored now = l.toMap := by
  obtain ⟨address, city, region, postalCode, countryISOCode, _, _, formattedText, geopoint⟩ := l
  cases geopoint with
  | none => rfl
  | some p => rfl

theorem geopointOf_eq_some {v : Value} {p : Option GeoPoint} (cast : geopointOf v = some p) :
    v = .optional GeoPoint.value p := by
  cases v with
  | null => cases cast; rfl
  | geoPoint latitude longitude => cases cast; rfl
  | _ => cases cast

def keys : List String :=
  ["address", "city", "geopoint", "location", "region", "postal_code", "country_iso_code",
    "formatted_text"]

/-- The fields that are read are those that are written. -/
theorem read_of_fromMap {map : Fields} {l : LocationModel} (read : fromMap map = some l)
    {key : String} (mem : key ∈ keys) (there : key ≠ "location") :
    map.read key = l.toMap.read key := by
  unfold fromMap at read
  obtain ⟨address, readAddress, read⟩ := Option.bind_eq_some_iff.mp read
  obtain ⟨city, readCity, read⟩ := Option.bind_eq_some_iff.mp read
  obtain ⟨region, readRegion, read⟩ := Option.bind_eq_some_iff.mp read
  obtain ⟨postalCode, readPostal, read⟩ := Option.bind_eq_some_iff.mp read
  obtain ⟨country, readCountry, read⟩ := Option.bind_eq_some_iff.mp read
  obtain ⟨formatted, readFormatted, read⟩ := Option.bind_eq_some_iff.mp read
  obtain ⟨geopoint, readPoint, read⟩ := Option.bind_eq_some_iff.mp read
  cases read
  simp only [keys, List.mem_cons, List.not_mem_nil, or_false] at mem
  rcases mem with rfl | rfl | rfl | rfl | rfl | rfl | rfl | rfl
  · exact Value.string?_eq_some readAddress
  · exact Value.string?_eq_some readCity
  · exact geopointOf_eq_some readPoint
  · exact absurd rfl there
  · exact Value.string?_eq_some readRegion
  · exact Value.string?_eq_some readPostal
  · exact Value.string?_eq_some readCountry
  · exact Value.string?_eq_some readFormatted

/-- A map with these keys, and no location. -/
def Fits (map : Fields) : Prop :=
  (∀ key, (map.get? key).isSome ↔ key ∈ keys) ∧ map.read "location" = .null

/-- What was read is written as it was exactly if the map fits. -/
theorem same_iff_fits {map : Fields} {l : LocationModel} (read : fromMap map = some l) :
    Value.Same (.map l.toMap) (.map map) ↔ Fits map := by
  have written : ∀ key, (l.toMap.get? key).isSome ↔ key ∈ keys := fun _ => Fields.isSome_get?_iff
  rw [Value.same_map_iff]
  constructor
  · intro same
    refine ⟨fun key => by rw [← same key, written], ?_⟩
    unfold Fields.read
    rw [← same "location"]
    rfl
  · rintro ⟨fits, location⟩ key
    by_cases mem : key ∈ keys
    · rw [Fields.get?_of_isSome ((written key).mpr mem), Fields.get?_of_isSome ((fits key).mpr mem)]
      by_cases there : key = "location"
      · subst there
        rw [location]
        rfl
      · rw [read_of_fromMap read mem there]
    · have absent : ∀ {fields : Fields}, ((fields.get? key).isSome ↔ key ∈ keys) →
          fields.get? key = none := fun iff =>
        Option.not_isSome_iff_eq_none.mp fun isSome => mem (iff.mp isSome)
      rw [absent (written key), absent (fits key)]

end LocationModel

end TwoGather
