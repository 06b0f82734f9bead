import TwoGather.Location

/-!
# The model of a fiesta

`FiestaModel` is the document of a fiesta as the app reads it, with the models of what is in it:
its tags, its host and its participants. `none` as the result of a `fromJson` stands for a cast
that fails, and `parse` for `DateTime.parse`, with `none` for a text that is no date.
-/

namespace TwoGather

open Dynamic

/-! ## `TimestampConverter` -/

/-- A date is an instant in microseconds. The milliseconds of an integer must be in the range of
`DateTime`. -/
def TimestampConverter.fromJson (parse : String → Option Int) : Value → Option Int
  | .timestamp micros => some micros
  | .string s => parse s
  | .int millis => if millis.natAbs ≤ 8640000000000000 then some (millis * 1000) else none
  | _ => none

/-! ## Tags -/

structure TagModel where
  id : Option String := none
  name : Option String := none
  asset : Option String := none
  deriving DecidableEq

def TagModel.fromJson (json : Fields) : Option TagModel := do
  let id ← (json.read "id").asString
  let name ← (json.read "name").asString
  let asset ← (json.read "asset").asString
  return { id, name, asset }

structure PassionModel where
  name : Option String := none
  tag : Option String := none
  tags : Option (List String) := none
  deriving DecidableEq

/-- A list of texts. -/
def stringsValue (xs : List String) : Value :=
  .list (xs.map .string)

theorem stored_stringsValue (now : Int) (xs : List String) :
    (stringsValue xs).stored now = stringsValue xs := by
  unfold stringsValue
  rw [Value.stored, Fields.storedList_eq, List.map_map]
  rfl

theorem asListOf_strings (xs : Option (List String)) :
    (Value.optional stringsValue xs).asListOf Value.string? = some xs := by
  cases xs with
  | none => rfl
  | some xs =>
      have read := Value.asListOf_map (g := .string) (h := id) (fun _ => rfl : ∀ s : String,
        Value.string? (.string s) = some (id s)) xs
      rwa [List.map_id] at read

section StoredReads

variable {now : Int} {json : Fields} {key : String}

theorem asString_stored {s : Option String} (wrote : json.read key = .optional .string s) :
    ((json.stored now).read key).asString = some s := by
  rw [Fields.read_stored, wrote, Value.stored_optional fun _ => rfl, Value.asString_optional]

theorem asNum_stored {x : Option Rat} (wrote : json.read key = .optional .double x) :
    ((json.stored now).read key).asNum = some x := by
  rw [Fields.read_stored, wrote, Value.stored_optional fun _ => rfl, Value.asNum_optional]

theorem asNum_stored_int {n : Option Int} (wrote : json.read key = .optional .int n) :
    ((json.stored now).read key).asNum = some (n.map Int.cast) := by
  rw [Fields.read_stored, wrote]
  cases n with
  | none => rfl
  | some n => rfl

theorem asDate_stored {parse : String → Option Int} {date : Option Int}
    (wrote : json.read key = .optional .dateTime date) :
    TimestampConverter.fromJson parse ((json.stored now).read key) = date := by
  rw [Fields.read_stored, wrote]
  cases date with
  | none => rfl
  | some micros => rfl

theorem asBool_stored {b : Option Bool} (wrote : json.read key = .optional .bool b) :
    ((json.stored now).read key).asBool = some b := by
  rw [Fields.read_stored, wrote, Value.stored_optional fun _ => rfl, Value.asBool_optional]

theorem asStrings_stored {xs : Option (List String)}
    (wrote : json.read key = .optional stringsValue xs) :
    ((json.stored now).read key).asListOf Value.string? = some xs := by
  rw [Fields.read_stored, wrote, Value.stored_optional (stored_stringsValue now),
    asListOf_strings]

end StoredReads

namespace PassionModel

def fromJson (json : Fields) : Option PassionModel := do
  let name ← (json.read "name").asString
  let tag ← (json.read "tag").asString
  let tags ← (json.read "tags").asListOf Value.string?
  return { name, tag, tags }

def toJson (p : PassionModel) : Fields :=
  .present
    [("name", .optional .string p.name), ("tag", .optional .string p.tag),
      ("tags", .optional stringsValue p.tags)]

theorem read_toJson (p : PassionModel) (key : String) :
    p.toJson.read key =
      Fields.read [("name", .optional .string p.name), ("tag", .optional .string p.tag),
        ("tags", .optional stringsValue p.tags)] key :=
  Fields.read_present _ _ (by simp)

/-- What is stored of a tag is read back. -/
theorem fromJson_stored (now : Int) (p : PassionModel) :
    fromJson (p.toJson.stored now) = some p := by
  unfold fromJson
  rw [asString_stored (p.read_toJson "name"), asString_stored (p.read_toJson "tag"),
    asStrings_stored (p.read_toJson "tags")]
  rfl

end PassionModel

/-- A list of tags. -/
def passionsValue (xs : List PassionModel) : Value :=
  .list (xs.map fun p => .map p.toJson)

/-- A list of tags is read element by element. -/
theorem asPassions_stored {α : Type} {f : Fields → Option α} {g : PassionModel → α} {now : Int}
    (back : ∀ p : PassionModel, f (p.toJson.stored now) = some (g p)) (xs : List PassionModel) :
    ((passionsValue xs).stored now).asListOf (Value.ofMap f) = some (some (xs.map g)) := by
  unfold passionsValue
  rw [Value.stored, Fields.storedList_eq, List.map_map]
  exact Value.asListOf_map back xs

structure PassionListing where
  drink : Option (List PassionModel) := none
  fiesta : Option (List PassionModel) := none
  music : Option (List PassionModel) := none
  passion : Option (List PassionModel) := none
  deriving DecidableEq

namespace PassionListing

def fromJson (json : Fields) : Option PassionListing := do
  let drink ← (json.read "drink").asListOf (Value.ofMap PassionModel.fromJson)
  let fiesta ← (json.read "fiesta").asListOf (Value.ofMap PassionModel.fromJson)
  let music ← (json.read "music").asListOf (Value.ofMap PassionModel.fromJson)
  let passion ← (json.read "passion").asListOf (Value.ofMap PassionModel.fromJson)
  return { drink, fiesta, music, passion }

def toJson (l : PassionListing) : Fields :=
  .present
    [("drink", .optional passionsValue l.drink), ("fiesta", .optional passionsValue l.fiesta),
      ("music", .optional passionsValue l.music), ("passion", .optional passionsValue l.passion)]

theorem read_toJson (l : PassionListing) (key : String) :
    l.toJson.read key =
      Fields.read [("drink", .optional passionsValue l.drink),
        ("fiesta", .optional passionsValue l.fiesta), ("music", .optional passionsValue l.music),
        ("passion", .optional passionsValue l.passion)] key :=
  Fields.read_present _ _ (by simp)

theorem fromJson_stored (now : Int) (l : PassionListing) :
    fromJson (l.toJson.stored now) = some l := by
  have each : ∀ {key : String} {xs : Option (List PassionModel)},
      l.toJson.read key = .optional passionsValue xs →
      ((l.toJson.stored now).read key).asListOf (Value.ofMap PassionModel.fromJson) = some xs := by
    intro key xs wrote
    rw [Fields.read_stored, wrote]
    cases xs with
    | none => rfl
    | some xs =>
        have read := asPassions_stored (PassionModel.fromJson_stored now) xs
        rwa [List.map_id'] at read
  unfold fromJson
  rw [each (l.read_toJson "drink"), each (l.read_toJson "fiesta"), each (l.read_toJson "music"),
    each (l.read_toJson "passion")]
  rfl

end PassionListing

/-! ## Users -/

structure AppUserModel where
  id : Option String := none
  firstname : Option String := none
  lastname : Option String := none
  gender : Option String := none
  reportPoint : Option Rat := none
  level : Option Rat := none
  nationality : Option (List String) := none
  languages : Option (List String) := none
  pictures : Option (List String) := none
  profilImage : Option String := none
  description : Option String := none
  rating : Option Rat := none
  note : Option Rat := none
  numberNote : Option Rat := none
  numberRecommandations : Option Rat := none
  country : Option String := none
  birthday : Option Int := none
  position : Option GeoPoint := none
  locality : Option String := none
  tags : Option PassionListing := none
  isLock : Option Bool := none
  deriving DecidableEq

namespace AppUserModel

def fromJson (parse : String → Option Int) (json : Fields) : Option AppUserModel := do
  let id ← (json.read "id").asString
  let firstname ← (json.read "firstname").asString
  let lastname ← (json.read "lastname").asString
  let gender ← (json.read "gender").asString
  let reportPoint ← (json.read "reportPoint").asNum
  let level ← (json.read "level").asNum
  let nationality ← (json.read "nationality").asListOf Value.string?
  let languages ← (json.read "languages").asListOf Value.string?
  let pictures ← (json.read "pictures").asListOf Value.string?
  let profilImage ← (json.read "profilImage").asString
  let description ← (json.read "description").asString
  let rating ← (json.read "rating").asNum
  let note ← (json.read "note").asNum
  let numberNote ← (json.read "numberNote").asNum
  let numberRecommandations ← (json.read "numberRecommandations").asNum
  let country ← (json.read "country").asString
  let birthday := TimestampConverter.fromJson parse (json.read "birthday")
  let position ← LocationModel.geopointOf (json.read "position")
  let locality ← (json.read "locality").asString
  let tags ← (json.read "tags").asMapOf PassionListing.fromJson
  let isLock ← (json.read "isLock").asBool
  return { id, firstname, lastname, gender, reportPoint, level, nationality, languages, pictures,
           profilImage, description, rating, note, numberNote, numberRecommandations, country,
           birthday, position, locality, tags, isLock }

/-- The entries of a user, those that are `null` included. -/
def entries (u : AppUserModel) : Fields :=
  [("id", .optional .string u.id), ("firstname", .optional .string u.firstname),
    ("lastname", .optional .string u.lastname), ("gender", .optional .string u.gender),
    ("reportPoint", .optional .double u.reportPoint), ("level", .optional .double u.level),
    ("nationality", .optional stringsValue u.nationality),
    ("languages", .optional stringsValue u.languages),
    ("pictures", .optional stringsValue u.pictures),
    ("profilImage", .optional .string u.profilImage),
    ("description", .optional .string u.description), ("rating", .optional .double u.rating),
    ("note", .optional .double u.note), ("numberNote", .optional .double u.numberNote),
    ("numberRecommandations", .optional .double u.numberRecommandations),
    ("country", .optional .string u.country), ("birthday", .optional .timestamp u.birthday),
    ("position", .optional GeoPoint.value u.position),
    ("locality", .optional .string u.locality),
    ("tags", .optional (fun l => .map (PassionListing.toJson l)) u.tags),
    ("isLock", .optional .bool u.isLock)]

def toJson (u : AppUserModel) : Fields :=
  .present u.entries

theorem read_toJson (u : AppUserModel) (key : String) : u.toJson.read key = u.entries.read key :=
  Fields.read_present _ _ (by simp [entries])

/-- What is stored of a user is read back. -/
theorem fromJson_stored (parse : String → Option Int) (now : Int) (u : AppUserModel) :
    fromJson parse (u.toJson.stored now) = some u := by
  have birthday : TimestampConverter.fromJson parse ((u.toJson.stored now).read "birthday") =
      u.birthday := by
    have wrote : u.toJson.read "birthday" = .optional .timestamp u.birthday := u.read_toJson _
    rw [Fields.read_stored, wrote]
    cases u.birthday <;> rfl
  have position : LocationModel.geopointOf ((u.toJson.stored now).read "position") =
      some u.position := by
    have wrote : u.toJson.read "position" = .optional GeoPoint.value u.position := u.read_toJson _
    rw [Fields.read_stored, wrote]
    cases u.position <;> rfl
  have tags : ((u.toJson.stored now).read "tags").asMapOf PassionListing.fromJson =
      some u.tags := by
    have wrote : u.toJson.read "tags" =
        .optional (fun l => .map (PassionListing.toJson l)) u.tags := u.read_toJson _
    rw [Fields.read_stored, wrote]
    cases u.tags with
    | none => rfl
    | some l => exact congrArg (Option.map some) (PassionListing.fromJson_stored now l)
  unfold fromJson
  rw [asString_stored (u.read_toJson "id"), asString_stored (u.read_toJson "firstname"),
    asString_stored (u.read_toJson "lastname"), asString_stored (u.read_toJson "gender"),
    asNum_stored (u.read_toJson "reportPoint"), asNum_stored (u.read_toJson "level"),
    asStrings_stored (u.read_toJson "nationality"), asStrings_stored (u.read_toJson "languages"),
    asStrings_stored (u.read_toJson "pictures"), asString_stored (u.read_toJson "profilImage"),
    asString_stored (u.read_toJson "description"), asNum_stored (u.read_toJson "rating"),
    asNum_stored (u.read_toJson "note"), asNum_stored (u.read_toJson "numberNote"),
    asNum_stored (u.read_toJson "numberRecommandations"),
    asString_stored (u.read_toJson "country"), birthday, position,
    asString_stored (u.read_toJson "locality"), tags, asBool_stored (u.read_toJson "isLock")]
  rfl

end AppUserModel

/-- The participants of a fiesta. -/
structure FiestaUserModel where
  fiestaRef : Option String := none
  duoRef : Option String := none
  status : Option String := none
  deriving DecidableEq

def FiestaUserModel.fromJson (json : Fields) : Option FiestaUserModel := do
  let fiestaRef ← (json.read "fiestaRef").asString
  let duoRef ← (json.read "duoRef").asString
  let status ← (json.read "status").asString
  return { fiestaRef, duoRef, status }

/-! ## Fiestas -/

structure FiestaModel where
  id : Option String := none
  isEnd : Option Bool := none
  host : Option AppUserModel := none
  title : Option String := none
  category : Option String := none
  soundLevel : Option Rat := none
  tags : Option (List TagModel) := none
  description : Option String := none
  visibleAfter : Option Bool := none
  pictures : Option (List String) := none
  address : Option LocationModel := none
  startAt : Option Int := none
  endAt : Option Int := none
  numberOfParticipant : Option Rat := none
  logistic : Option String := none
  thingToBring : Option (List TagModel) := none
  visibilityRadius : Option Rat := none
  visibleByFirstCircle : Option Bool := none
  visibleByFiestar : Option Bool := none
  visibleByConnexion : Option Bool := none
  participants : Option (List FiestaUserModel) := none
  deriving DecidableEq

def FiestaModel.fromJson (parse : String → Option Int) (json : Fields) : Option FiestaModel := do
  let id ← (json.read "id").asString
  let isEnd ← (json.read "isEnd").asBool
  let host ← (json.read "host").asMapOf (AppUserModel.fromJson parse)
  let title ← (json.read "title").asString
  let category ← (json.read "category").asString
  let soundLevel ← (json.read "soundLevel").asNum
  let tags ← (json.read "tags").asListOf (Value.ofMap TagModel.fromJson)
  let description ← (json.read "description").asString
  let visibleAfter ← (json.read "visibleAfter").asBool
  let pictures ← (json.read "pictures").asListOf Value.string?
  let address ← (json.read "address").asMapOf LocationModel.fromMap
  let startAt := TimestampConverter.fromJson parse (json.read "startAt")
  let endAt := TimestampConverter.fromJson parse (json.read "endAt")
  let numberOfParticipant ← (json.read "numberOfParticipant").asNum
  let logistic ← (json.read "logistic").asString
  let thingToBring ← (json.read "thingToBring").asListOf (Value.ofMap TagModel.fromJson)
  let visibilityRadius ← (json.read "visibilityRadius").asNum
  let visibleByFirstCircle ← (json.read "visibleByFirstCircle").asBool
  let visibleByFiestar ← (json.read "visibleByFiestar").asBool
  let visibleByConnexion ← (json.read "visibleByConnexion").asBool
  let participants ← (json.read "participants").asListOf (Value.ofMap FiestaUserModel.fromJson)
  return { id, isEnd, host, title, category, soundLevel, tags, description, visibleAfter,
           pictures, address, startAt, endAt, numberOfParticipant, logistic, thingToBring,
           visibilityRadius, visibleByFirstCircle, visibleByFiestar, visibleByConnexion,
           participants }

/-- The fields of a model that the page of the update takes from it, and those of the document. -/
structure FiestaModel.Reads (parse : String → Option Int) (json : Fields) (m : FiestaModel) :
    Prop where
  title : (json.read "title").asString = some m.title
  category : (json.read "category").asString = some m.category
  soundLevel : (json.read "soundLevel").asNum = some m.soundLevel
  description : (json.read "description").asString = some m.description
  visibleAfter : (json.read "visibleAfter").asBool = some m.visibleAfter
  address : (json.read "address").asMapOf LocationModel.fromMap = some m.address
  startAt : TimestampConverter.fromJson parse (json.read "startAt") = m.startAt
  endAt : TimestampConverter.fromJson parse (json.read "endAt") = m.endAt
  logistic : (json.read "logistic").asString = some m.logistic
  visibilityRadius : (json.read "visibilityRadius").asNum = some m.visibilityRadius

theorem FiestaModel.reads {parse : String → Option Int} {json : Fields} {m : FiestaModel}
    (read : fromJson parse json = some m) : m.Reads parse json := by
  unfold fromJson at read
  obtain ⟨id, -, read⟩ := Option.bind_eq_some_iff.mp read
  obtain ⟨isEnd, -, read⟩ := Option.bind_eq_some_iff.mp read
  obtain ⟨host, -, read⟩ := Option.bind_eq_some_iff.mp read
  obtain ⟨title, readTitle, read⟩ := Option.bind_eq_some_iff.mp read
  obtain ⟨category, readCategory, read⟩ := Option.bind_eq_some_iff.mp read
  obtain ⟨soundLevel, readSound, read⟩ := Option.bind_eq_some_iff.mp read
  obtain ⟨tags, -, read⟩ := Option.bind_eq_some_iff.mp read
  obtain ⟨description, readDescription, read⟩ := Option.bind_eq_some_iff.mp read
  obtain ⟨visibleAfter, readVisible, read⟩ := Option.bind_eq_some_iff.mp read
  obtain ⟨pictures, -, read⟩ := Option.bind_eq_some_iff.mp read
  obtain ⟨address, readAddress, read⟩ := Option.bind_eq_some_iff.mp read
  obtain ⟨number, -, read⟩ := Option.bind_eq_some_iff.mp read
  obtain ⟨logistic, readLogistic, read⟩ := Option.bind_eq_some_iff.mp read
  obtain ⟨things, -, read⟩ := Option.bind_eq_some_iff.mp read
  obtain ⟨radius, readRadius, read⟩ := Option.bind_eq_some_iff.mp read
  obtain ⟨first, -, read⟩ := Option.bind_eq_some_iff.mp read
  obtain ⟨fiestar, -, read⟩ := Option.bind_eq_some_iff.mp read
  obtain ⟨connexion, -, read⟩ := Option.bind_eq_some_iff.mp read
  obtain ⟨participants, -, read⟩ := Option.bind_eq_some_iff.mp read
  cases read
  exact ⟨readTitle, readCategory, readSound, readDescription, readVisible, readAddress, rfl, rfl,
    readLogistic, readRadius⟩

end TwoGather
