import TwoGather.Fiesta.FiestaModel
import TwoGather.Fiesta.FormWrites

/-!
# What the form of a new fiesta stores

`fiesta_form.dart` makes the map of a new fiesta out of what was entered, `createNewFiesta`
stores it, and `FiestaModel.fromJson` reads it. The keys are written out on both sides. The form
writes `thingsToBring`, and the model reads `thingToBring`.

`creationForm_things_lost` says that every accepted fiesta is read back, with each field as it
was submitted, but without its list of things to bring.
-/

namespace TwoGather

open Docs Dynamic Requests

/-! ## The form -/

/-- The three choices of the page that says who sees the fiesta, and the map that it keeps. -/
structure VisibilityData where
  firstCircle : Bool := true
  fiestar : Bool := true
  connexion : Bool := false
  deriving DecidableEq

def VisibilityData.data (v : VisibilityData) : Fields :=
  [("firstCircle", .bool v.firstCircle), ("fiestar", .bool v.fiestar),
    ("connexion", .bool v.connexion)]

/-- The data of the user as far as the forms use them. -/
structure FiestarUserModel where
  firstname : Option String
  lastname : Option String
  profilImages : Option (List String)

def FiestarUserModel.host (user : FiestarUserModel) (uid : UserId) : AppUserModel where
  id := some uid
  firstname := user.firstname
  lastname := user.lastname
  pictures := user.profilImages

def userRef (uid : UserId) : Value :=
  .reference ("users/" ++ uid)

/-- What was entered. The sound level is that of one of the buttons, and the photos are files. -/
structure CreationForm where
  name : Option String := none
  category : Option String := none
  soundLevel : Option Int := none
  tags : Option (List PassionModel) := none
  desc : Option String := none
  visibilty : Option Bool := none
  address : Option LocationModel := none
  date : Option (Option Int × Option Int) := none
  nbMaxUser : Option Int := some 2
  logistic : Option String := none
  mustBeBuyed : Option (List PassionModel) := none
  visibiltyRadius : Option Rat := none
  visibilityData : VisibilityData := {}

namespace CreationForm

/-- `value ?? other`. -/
def orElse (value other : Value) : Value :=
  match value with
  | .null => other
  | _ => value

/-- The first map of the call at `clock`; `none` where a `!` fails. -/
def fiestaData (form : CreationForm) (user : FiestarUserModel) (uid : UserId) (clock : Int)
    (uploadedPhotos : List String) : Option Fields := do
  let name ← form.name
  let category ← form.category
  let soundLevel ← form.soundLevel
  let desc ← form.desc
  let visibilty ← form.visibilty
  let address ← form.address
  let date ← form.date
  let nbMaxUser ← form.nbMaxUser
  let logistic ← form.logistic
  let visibiltyRadius ← form.visibiltyRadius
  return [("host", .map (user.host uid).toJson),
    ("hostRef", userRef uid),
    ("title", .string name),
    ("category", .string category),
    ("soundLevel", .int soundLevel),
    ("tags", passionsValue (form.tags.getD [])),
    ("description", .string desc),
    ("visibleAfter", .bool visibilty),
    ("pictures", stringsValue uploadedPhotos),
    ("address", .map address.toMap),
    ("startAt", .optional .dateTime date.1),
    ("endAt", .optional .dateTime date.2),
    ("numberOfParticipant", .int nbMaxUser),
    ("logistic", .string logistic),
    ("thingsToBring", passionsValue (form.mustBeBuyed.getD [])),
    ("visibilityRadius", .double visibiltyRadius),
    ("visibleByFirstCircle",
      orElse (form.visibilityData.data.read "firstCircle") (.bool true)),
    ("visibleByFiestar", orElse (form.visibilityData.data.read "fiestar") (.bool true)),
    ("visibleByConnexion",
      orElse (form.visibilityData.data.read "connexion") (.bool false)),
    ("isEnd", .bool false),
    ("createdAt", .dateTime clock)]

/-- The second map, for `created-fiesta`. -/
def fiestaUserData (form : CreationForm) (uploadedPhotos : List String) : Fields :=
  [("title", .optional .string form.name),
    ("pictures", stringsValue uploadedPhotos),
    ("address", .optional (fun l => .map (LocationModel.toMap l)) form.address),
    ("startAt", .optional .dateTime (form.date.bind Prod.fst)),
    ("endAt", .optional .dateTime (form.date.bind Prod.snd)),
    ("visibleAfter", .optional .bool form.visibilty)]

/-- The call of `createNewFiesta`; `none` where the first map cannot be made. -/
def submit (form : CreationForm) (fails : FormOp → Bool) (user : FiestarUserModel) (uid : UserId)
    (clock : Int) (uploadedPhotos : List String) (s : FormStore) :
    Option (Except FormErr Bool × FormStore) := do
  let data ← form.fiestaData user uid clock uploadedPhotos
  return (FormController.createNewFiesta fails (some uid) data
    (form.fiestaUserData uploadedPhotos)).exec s

end CreationForm

/-! ## Reading it back -/

/-- A tag of the form as the model of a fiesta reads it. -/
def PassionModel.asTag (p : PassionModel) : TagModel where
  name := p.name

theorem asTag_stored (now : Int) (p : PassionModel) :
    TagModel.fromJson (p.toJson.stored now) = some p.asTag := by
  have id : ((p.toJson.stored now).read "id").asString = some none := by
    rw [Fields.read_stored, p.read_toJson]
    rfl
  have asset : ((p.toJson.stored now).read "asset").asString = some none := by
    rw [Fields.read_stored, p.read_toJson]
    rfl
  unfold TagModel.fromJson
  rw [id, asString_stored (p.read_toJson "name"), asset]
  rfl

/-- The fields of the model, but for the things to bring, are those that were submitted. The
address is what is read of the one that was chosen. -/
structure CreationForm.ReadsOthers (form : CreationForm) (user : FiestarUserModel) (uid : UserId)
    (uploadedPhotos : List String) (m : FiestaModel) : Prop where
  host : m.host = some (user.host uid)
  title : m.title = form.name
  category : m.category = form.category
  soundLevel : m.soundLevel = form.soundLevel.map Int.cast
  tags : m.tags = some ((form.tags.getD []).map PassionModel.asTag)
  description : m.description = form.desc
  visibleAfter : m.visibleAfter = form.visibilty
  pictures : m.pictures = some uploadedPhotos
  address : m.address = form.address.bind fun l => LocationModel.fromMap l.toMap
  startAt : m.startAt = form.date.bind Prod.fst
  endAt : m.endAt = form.date.bind Prod.snd
  numberOfParticipant : m.numberOfParticipant = form.nbMaxUser.map Int.cast
  logistic : m.logistic = form.logistic
  visibilityRadius : m.visibilityRadius = form.visibiltyRadius
  visibleByFirstCircle : m.visibleByFirstCircle = some form.visibilityData.firstCircle
  visibleByFiestar : m.visibleByFiestar = some form.visibilityData.fiestar
  visibleByConnexion : m.visibleByConnexion = some form.visibilityData.connexion
  isEnd : m.isEnd = some false

/-- The fields of the model are those that were submitted. -/
structure CreationForm.ReadsBack (form : CreationForm) (user : FiestarUserModel) (uid : UserId)
    (uploadedPhotos : List String) (m : FiestaModel) : Prop
    extends form.ReadsOthers user uid uploadedPhotos m where
  thingToBring : m.thingToBring = some ((form.mustBeBuyed.getD []).map PassionModel.asTag)

section Reads

variable {s : FormStore} {form : CreationForm} {user : FiestarUserModel} {uid : UserId}
  {clock : Int} {uploadedPhotos : List String} {data : Fields}

/-- What the first map holds under the keys that the model reads. -/
structure CreationForm.Writes (form : CreationForm) (user : FiestarUserModel) (uid : UserId)
    (uploadedPhotos : List String) (data : Fields) : Prop where
  id : data.read "id" = .null
  host : data.read "host" = .map (user.host uid).toJson
  title : data.read "title" = .optional .string form.name
  category : data.read "category" = .optional .string form.category
  soundLevel : data.read "soundLevel" = .optional .int form.soundLevel
  tags : data.read "tags" = passionsValue (form.tags.getD [])
  description : data.read "description" = .optional .string form.desc
  visibleAfter : data.read "visibleAfter" = .optional .bool form.visibilty
  pictures : data.read "pictures" = .optional stringsValue (some uploadedPhotos)
  address : data.read "address" = .optional (fun l => .map (LocationModel.toMap l)) form.address
  startAt : data.read "startAt" = .optional .dateTime (form.date.bind Prod.fst)
  endAt : data.read "endAt" = .optional .dateTime (form.date.bind Prod.snd)
  numberOfParticipant : data.read "numberOfParticipant" = .optional .int form.nbMaxUser
  logistic : data.read "logistic" = .optional .string form.logistic
  thingToBring : data.read "thingToBring" = .null
  visibilityRadius : data.read "visibilityRadius" = .optional .double form.visibiltyRadius
  visibleByFirstCircle :
    data.read "visibleByFirstCircle" = .optional .bool (some form.visibilityData.firstCircle)
  visibleByFiestar :
    data.read "visibleByFiestar" = .optional .bool (some form.visibilityData.fiestar)
  visibleByConnexion :
    data.read "visibleByConnexion" = .optional .bool (some form.visibilityData.connexion)

theorem CreationForm.writes
    (content : form.fiestaData user uid clock uploadedPhotos = some data) :
    form.Writes user uid uploadedPhotos data := by
  obtain ⟨name, category, soundLevel, tags, desc, visibilty, address, date, nbMaxUser, logistic,
    mustBeBuyed, radius, visibilityData⟩ := form
  unfold fiestaData at content
  obtain ⟨name, rfl, content⟩ := Option.bind_eq_some_iff.mp content
  obtain ⟨category, rfl, content⟩ := Option.bind_eq_some_iff.mp content
  obtain ⟨soundLevel, rfl, content⟩ := Option.bind_eq_some_iff.mp content
  obtain ⟨desc, rfl, content⟩ := Option.bind_eq_some_iff.mp content
  obtain ⟨visibilty, rfl, content⟩ := Option.bind_eq_some_iff.mp content
  obtain ⟨address, rfl, content⟩ := Option.bind_eq_some_iff.mp content
  obtain ⟨date, rfl, content⟩ := Option.bind_eq_some_iff.mp content
  obtain ⟨nbMaxUser, rfl, content⟩ := Option.bind_eq_some_iff.mp content
  obtain ⟨logistic, rfl, content⟩ := Option.bind_eq_some_iff.mp content
  obtain ⟨radius, rfl, content⟩ := Option.bind_eq_some_iff.mp content
  cases content
  exact ⟨rfl, rfl, rfl, rfl, rfl, rfl, rfl, rfl, rfl, rfl, rfl, rfl, rfl, rfl, rfl, rfl, rfl, rfl,
    rfl⟩

/-- A field that the controller does not add is as it was given. -/
theorem read_enriched {key : String} {v : Value}
    (own : key ∉ ["createdBy", "createdAt", "updatedAt", "isEnd", "participants"])
    (given : data.read key = v) :
    (FormController.enrichedFiestaData uid data).read key = v := by
  unfold FormController.enrichedFiestaData
  rw [Fields.read_putAll_of_not_mem _ _ _ own, given]

theorem read_enriched_isEnd :
    (FormController.enrichedFiestaData uid data).read "isEnd" = .optional .bool (some false) := by
  simp [FormController.enrichedFiestaData, Value.optional]

theorem read_enriched_participants :
    (FormController.enrichedFiestaData uid data).read "participants" = .list [] := by
  simp [FormController.enrichedFiestaData]

theorem read_created {key : String} {v : Value}
    (given : (FormController.enrichedFiestaData uid data).read key = v) :
    (s.created uid data).read key = v.stored s.now := by
  unfold FormStore.created
  rw [Fields.read_stored, given]

theorem CreationForm.Writes.reads_host (w : form.Writes user uid uploadedPhotos data)
    (parse : String → Option Int) :
    ((s.created uid data).read "host").asMapOf (AppUserModel.fromJson parse) =
      some (some (user.host uid)) := by
  rw [read_created (read_enriched (by decide) w.host)]
  exact congrArg (Option.map some) (AppUserModel.fromJson_stored parse s.now _)

theorem CreationForm.Writes.reads_tags (w : form.Writes user uid uploadedPhotos data) :
    ((s.created uid data).read "tags").asListOf (Value.ofMap TagModel.fromJson) =
      some (some ((form.tags.getD []).map PassionModel.asTag)) := by
  rw [read_created (read_enriched (by decide) w.tags), asPassions_stored (asTag_stored s.now)]

theorem CreationForm.Writes.reads_address (w : form.Writes user uid uploadedPhotos data) :
    ((s.created uid data).read "address").asMapOf LocationModel.fromMap =
      some (form.address.bind fun l => LocationModel.fromMap l.toMap) := by
  rw [read_created (read_enriched (by decide) w.address)]
  cases form.address with
  | none => rfl
  | some l =>
      change (LocationModel.fromMap (l.toMap.stored s.now)).map some = _
      rw [LocationModel.stored_toMap, LocationModel.fromMap_toMap]
      exact congrArg some (LocationModel.fromMap_toMap l).symm

/-- The document of a fiesta from the form is read as a model without things to bring. -/
theorem fromJson_created (parse : String → Option Int)
    (content : form.fiestaData user uid clock uploadedPhotos = some data) :
    ∃ m, FiestaModel.fromJson parse (s.created uid data) = some m ∧
      form.ReadsOthers user uid uploadedPhotos m ∧ m.thingToBring = none := by
  have w := CreationForm.writes content
  have participants : ((s.created uid data).read "participants").asListOf
      (Value.ofMap FiestaUserModel.fromJson) = some (some []) := by
    rw [read_created read_enriched_participants]
    rfl
  have id : (s.created uid data).read "id" = .null :=
    read_created (read_enriched (by decide) w.id)
  have things : (s.created uid data).read "thingToBring" = .null :=
    read_created (read_enriched (by decide) w.thingToBring)
  refine ⟨{ isEnd := some false, host := some (user.host uid), title := form.name,
            category := form.category, soundLevel := form.soundLevel.map Int.cast,
            tags := some ((form.tags.getD []).map PassionModel.asTag), description := form.desc,
            visibleAfter := form.visibilty, pictures := some uploadedPhotos,
            address := form.address.bind fun l => LocationModel.fromMap l.toMap,
            startAt := form.date.bind Prod.fst, endAt := form.date.bind Prod.snd,
            numberOfParticipant := form.nbMaxUser.map Int.cast, logistic := form.logistic,
            visibilityRadius := form.visibiltyRadius,
            visibleByFirstCircle := some form.visibilityData.firstCircle,
            visibleByFiestar := some form.visibilityData.fiestar,
            visibleByConnexion := some form.visibilityData.connexion,
            participants := some [] }, ?_,
    ⟨rfl, rfl, rfl, rfl, rfl, rfl, rfl, rfl, rfl, rfl, rfl, rfl, rfl, rfl, rfl, rfl, rfl, rfl⟩, rfl⟩
  unfold FiestaModel.fromJson
  rw [id, w.reads_host, w.reads_tags, w.reads_address, things, participants]
  unfold FormStore.created
  rw [asBool_stored read_enriched_isEnd,
    asString_stored (read_enriched (by decide) w.title),
    asString_stored (read_enriched (by decide) w.category),
    asNum_stored_int (read_enriched (by decide) w.soundLevel),
    asString_stored (read_enriched (by decide) w.description),
    asBool_stored (read_enriched (by decide) w.visibleAfter),
    asStrings_stored (read_enriched (by decide) w.pictures),
    asDate_stored (read_enriched (by decide) w.startAt),
    asDate_stored (read_enriched (by decide) w.endAt),
    asNum_stored_int (read_enriched (by decide) w.numberOfParticipant),
    asString_stored (read_enriched (by decide) w.logistic),
    asNum_stored (read_enriched (by decide) w.visibilityRadius),
    asBool_stored (read_enriched (by decide) w.visibleByFirstCircle),
    asBool_stored (read_enriched (by decide) w.visibleByFiestar),
    asBool_stored (read_enriched (by decide) w.visibleByConnexion)]
  rfl

end Reads

/-- **An accepted fiesta is read back with all its fields as they were submitted, but without the
list of things to bring, whatever was entered.** -/
theorem creationForm_things_lost (parse : String → Option Int) (form : CreationForm)
    (fails : FormOp → Bool) (user : FiestarUserModel) (uid : UserId) (clock : Int)
    (uploadedPhotos : List String) (s : FormStore) (result : Except FormErr Bool × FormStore)
    (submitted : form.submit fails user uid clock uploadedPhotos s = some result)
    (accepted : result.1 = .ok false) :
    ∃ doc m, result.2.fiesta.get? s.fiesta.next = some doc ∧
      FiestaModel.fromJson parse doc = some m ∧ form.ReadsOthers user uid uploadedPhotos m ∧
      m.thingToBring = none ∧ ¬ form.ReadsBack user uid uploadedPhotos m := by
  unfold CreationForm.submit at submitted
  obtain ⟨data, content, made⟩ := Option.bind_eq_some_iff.mp submitted
  cases made
  rcases createNewFiesta_stores_or (s := s) fails uid data
    (form.fiestaUserData uploadedPhotos) with ⟨-, added⟩ | ⟨-, -, refused⟩
  · obtain ⟨m, read, others, none⟩ := fromJson_created (s := s) parse content
    refine ⟨_, m, ?_, read, others, none, fun back => ?_⟩
    · rw [added, AutoCollection.get?_add, if_pos rfl]
    · rw [back.thingToBring] at none
      cases none
  · exact absurd accepted refused

/-! ## A fiesta to which something is to be brought -/

def plainHost : FiestarUserModel where
  firstname := some "f"
  lastname := some "l"
  profilImages := some []

/-- A form that is filled in, from the first to the second minute of the epoch. -/
def plainForm : CreationForm where
  name := some "t"
  category := some "chill"
  soundLevel := some 1
  desc := some "d"
  visibilty := some true
  address := some
    { address := "a", city := "c", region := "r", postalCode := "p", formattedText := "a, c" }
  date := some (some 60000000, some 120000000)
  logistic := some "everyone"
  mustBeBuyed := some [{ name := some "Chips", tag := some "chips" }]
  visibiltyRadius := some 50

def plainData : Fields :=
  (plainForm.fiestaData plainHost "u" 0 ["p.png"]).getD []

def plainSubmit : Except FormErr Bool × FormStore :=
  ((plainForm.submit (fun _ => false) plainHost "u" 0 ["p.png"] noForms).getD (.ok true, noForms))

theorem plainForm_things_lost :
    ∃ doc m, plainSubmit.2.fiesta.get? noForms.fiesta.next = some doc ∧
      FiestaModel.fromJson (fun _ => none) doc = some m ∧
      plainForm.ReadsOthers plainHost "u" ["p.png"] m ∧
      m.thingToBring = none ∧ ¬ plainForm.ReadsBack plainHost "u" ["p.png"] m :=
  creationForm_things_lost _ _ (fun _ => false) _ _ 0 _ _ _ rfl rfl

/-- The chips are not read back. -/
theorem plainForm_chips :
    plainSubmit.1 = .ok false ∧
      ¬ ∃ doc m, plainSubmit.2.fiesta.get? noForms.fiesta.next = some doc ∧
        FiestaModel.fromJson (fun _ => none) doc = some m ∧
        plainForm.ReadsBack plainHost "u" ["p.png"] m := by
  refine ⟨rfl, ?_⟩
  rintro ⟨doc, m, stored, read, back⟩
  have things := back.thingToBring
  cases stored
  cases read
  cases things

end TwoGather
