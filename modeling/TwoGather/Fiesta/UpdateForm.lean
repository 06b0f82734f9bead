import TwoGather.Fiesta.CreationForm

/-!
# The page that updates a fiesta

`fiesta_update_form_page.dart`. The page keeps what was entered in variables of its own, the same
as those of the form of a new fiesta. Whenever it is built with the fiesta that was read, it puts
some of the fields of the fiesta into its variables; the others keep what they start with. The
save makes all fields of the document out of the variables.
-/

namespace TwoGather

open Docs Dynamic Requests

/-! ## The variables of the page -/

/-- The three steps of the form, one shown at a time. -/
inductive FormStep
  | basicInfo
  | addPhoto
  | complementaryInfo
  deriving DecidableEq

/-- `shown` says that there is a fiesta to show, so that the inputs are there, and `dateField` is
what the field of the dates holds by itself. -/
structure FiestaUpdateForm extends CreationForm where
  actualPage : FormStep := .basicInfo
  photos : List String := []
  dateField : Option (Option Int × Option Int) := none
  shown : Bool := false

/-- `toInt` of a double: what is behind the point is cut off. -/
def doubleToInt (x : Rat) : Int :=
  x.num.tdiv x.den

/-- The inputs of the page, and what they are changed to. -/
inductive Edit
  | name (p0 : String)
  | category (p0 : String)
  | soundLevel (val : Int)
  | tags (t : Option (List PassionModel))
  | desc (p0 : String)
  | visibilty (p0 : Bool)
  | address (location : LocationModel)
  | startAt (finalDate : Int)
  | endAt (finalDate : Int)
  | nbMaxUser (val : Int)
  | logistic (p0 : String)
  | mustBeBuyed (p1 : Option (List PassionModel))
  /-- The page of the visibility, left with a validation: what was chosen there, if anything. -/
  | visibility (firstCircle fiestar connexion : Option Bool)
  | visibiltyRadius (p0 : Rat)

namespace FiestaUpdateForm

/-- The builder with a fiesta. A field for the dates that was not there before starts with the
dates of the fiesta. -/
def load (form : FiestaUpdateForm) (m : FiestaModel) : FiestaUpdateForm :=
  { form with
    name := m.title
    category := m.category
    soundLevel := m.soundLevel.map doubleToInt
    desc := m.description
    address := m.address
    date := some (m.startAt, m.endAt)
    logistic := m.logistic
    visibiltyRadius := m.visibilityRadius
    visibilty := m.visibleAfter
    dateField := if form.shown then form.dateField else some (m.startAt, m.endAt)
    shown := true }

/-- The builder, with a fiesta or without. -/
def build (form : FiestaUpdateForm) : Option FiestaModel → FiestaUpdateForm
  | some m => form.load m
  | none => { form with shown := false }

/-- The input is there. -/
def inView (form : FiestaUpdateForm) : Edit → Bool
  | .name _ | .category _ | .soundLevel _ | .tags _ | .desc _ | .visibilty _ =>
      form.shown && form.actualPage = .basicInfo
  | .mustBeBuyed _ =>
      form.shown && form.actualPage = .complementaryInfo && form.logistic = some "everyone"
  | _ => form.shown && form.actualPage = .complementaryInfo

/-- The dates are picked one at a time, next to what the field holds of the other. -/
def pickDates (form : FiestaUpdateForm) (dates : Option Int × Option Int) : FiestaUpdateForm :=
  { form with date := some dates, dateField := some dates }

def apply (form : FiestaUpdateForm) : Edit → FiestaUpdateForm
  | .name p0 => { form with name := some p0 }
  | .category p0 => { form with category := some p0 }
  | .soundLevel val => { form with soundLevel := some val }
  | .tags t => { form with tags := t }
  | .desc p0 => { form with desc := some p0 }
  | .visibilty p0 => { form with visibilty := some p0 }
  | .address location => { form with address := some location }
  | .startAt finalDate => form.pickDates (some finalDate, form.dateField.bind Prod.snd)
  | .endAt finalDate => form.pickDates (form.dateField.bind Prod.fst, some finalDate)
  | .nbMaxUser val => { form with nbMaxUser := some val }
  | .logistic p0 => { form with logistic := some p0 }
  | .mustBeBuyed p1 => { form with mustBeBuyed := p1 }
  | .visibility firstCircle fiestar connexion =>
      { form with
        visibilityData :=
          { firstCircle := firstCircle.getD form.visibilityData.firstCircle
            fiestar := fiestar.getD form.visibilityData.fiestar
            connexion := connexion.getD form.visibilityData.connexion } }
  | .visibiltyRadius p0 => { form with visibiltyRadius := some p0 }

def edit (form : FiestaUpdateForm) (e : Edit) : FiestaUpdateForm :=
  if form.inView e then form.apply e else form

/-- `next` of the first step. Whether the fields pass their validators depends on what they show,
`valid`. -/
def nextBasic (form : FiestaUpdateForm) (valid : Bool) : FiestaUpdateForm :=
  if form.shown && form.actualPage = .basicInfo && valid then
    { form with actualPage := .addPhoto }
  else form

/-- `next` of the second step, with the photos that are picked. The third step starts with a field
for the dates of its own. -/
def nextPhoto (form : FiestaUpdateForm) (picked : List String) : FiestaUpdateForm :=
  if form.shown && form.actualPage = .addPhoto && !picked.isEmpty then
    { form with photos := picked, actualPage := .complementaryInfo, dateField := form.date }
  else form

/-- The save goes on: the third step is shown, its dates are not missing, and the other fields
pass their validators. -/
def submits (form : FiestaUpdateForm) (valid : Bool) : Bool :=
  form.shown && form.actualPage = .complementaryInfo && form.dateField.isSome && valid

/-- The first map of the save. -/
def fiestaData (form : FiestaUpdateForm) (user : FiestarUserModel) (uid : UserId)
    (uploadedPhotos : List String) : Fields :=
  [("host", .map (user.host uid).toJson),
    ("hostRef", userRef uid),
    ("title", .optional .string form.name),
    ("category", .optional .string form.category),
    ("soundLevel", .optional .int form.soundLevel),
    ("tags", .optional passionsValue form.tags),
    ("description", .optional .string form.desc),
    ("visibleAfter", .optional .bool form.visibilty),
    ("pictures", stringsValue uploadedPhotos),
    ("address", .optional (fun l => .map (LocationModel.toMap l)) form.address),
    ("startAt", .optional .dateTime (form.date.bind Prod.fst)),
    ("endAt", .optional .dateTime (form.date.bind Prod.snd)),
    ("numberOfParticipant", .optional .int form.nbMaxUser),
    ("logistic", .optional .string form.logistic),
    ("thingsToBring", .optional passionsValue form.mustBeBuyed),
    ("visibilityRadius", .optional .double form.visibiltyRadius),
    ("visibleByFirstCircle", form.visibilityData.data.read "firstCircle"),
    ("visibleByFiestar", form.visibilityData.data.read "fiesta"),
    ("visibleByConnexion", form.visibilityData.data.read "connexion")]

end FiestaUpdateForm

/-! ## The page -/

/-- A page that is open for a fiesta: what was read and has not arrived, what the builder has, and
the variables. -/
structure UpdatePage where
  fiestaId : Nat
  incoming : Option FiestaModel := none
  snapshot : Option FiestaModel := none
  form : FiestaUpdateForm := {}

inductive PageEvent
  /-- The fiesta is read. -/
  | fetch
  /-- What was read arrives at the builder. -/
  | arrive
  /-- The page is built once more. -/
  | rebuild
  | edit (e : Edit)
  | nextBasic (valid : Bool)
  | nextPhoto (picked : List String)

namespace UpdatePage

def step (parse : String → Option Int) (fiesta : AutoCollection Fields) (page : UpdatePage) :
    PageEvent → UpdatePage
  | .fetch =>
      { page with
        incoming := (fiesta.get? page.fiestaId).bind (FiestaModel.fromJson parse) }
  | .arrive =>
      { page with snapshot := page.incoming, form := page.form.build page.incoming }
  | .rebuild => { page with form := page.form.build page.snapshot }
  | .edit e => { page with form := page.form.edit e }
  | .nextBasic valid => { page with form := page.form.nextBasic valid }
  | .nextPhoto picked => { page with form := page.form.nextPhoto picked }

/-- The maps of a save that comes to its call, with the user and the data of the user, if they
are there. `upload` gives the url of a photo, if it succeeds. -/
def saved (page : UpdatePage) (user : Option UserId) (userData : Option FiestarUserModel)
    (upload : String → Option String) (valid : Bool) : Option (Fields × Fields) := do
  guard (page.form.submits valid)
  let photos ← page.form.photos.mapM upload
  let uid ← user
  let userData ← userData
  return (page.form.fiestaData userData uid photos, page.form.fiestaUserData photos)

end UpdatePage

/-! ## The maps have a form for the database -/

section Supported

theorem supported_strings (o : Option String) : (Value.optional .string o).supported = true :=
  Value.supported_optional (fun _ => rfl) o

theorem supported_doubles (o : Option Rat) : (Value.optional .double o).supported = true :=
  Value.supported_optional (fun _ => rfl) o

theorem supported_bools (o : Option Bool) : (Value.optional .bool o).supported = true :=
  Value.supported_optional (fun _ => rfl) o

theorem supported_ints (o : Option Int) : (Value.optional .int o).supported = true :=
  Value.supported_optional (fun _ => rfl) o

theorem supported_dates (o : Option Int) : (Value.optional .dateTime o).supported = true :=
  Value.supported_optional (fun _ => rfl) o

theorem supported_stringsValue (xs : List String) : (stringsValue xs).supported = true :=
  supported_list_map (fun _ => rfl) xs

theorem PassionModel.supported_toJson (p : PassionModel) : p.toJson.supported = true := by
  refine Fields.supported_present (supportedFields_iff.mpr ?_)
  simp [supported_strings, Value.supported_optional supported_stringsValue]

theorem supported_passionsValue (xs : List PassionModel) : (passionsValue xs).supported = true :=
  supported_list_map PassionModel.supported_toJson xs

theorem PassionListing.supported_toJson (l : PassionListing) : l.toJson.supported = true := by
  refine Fields.supported_present (supportedFields_iff.mpr ?_)
  simp [Value.supported_optional supported_passionsValue]

theorem AppUserModel.supported_toJson (u : AppUserModel) : u.toJson.supported = true := by
  have birthday := Value.supported_optional (f := .timestamp) (fun _ => rfl) u.birthday
  have position := Value.supported_optional (f := GeoPoint.value) (fun _ => rfl) u.position
  have tags := Value.supported_optional (f := fun l => .map (PassionListing.toJson l))
    PassionListing.supported_toJson u.tags
  refine Fields.supported_present (supportedFields_iff.mpr ?_)
  simp [entries, supported_strings, supported_doubles, supported_bools, birthday, position, tags,
    Value.supported_optional supported_stringsValue]

theorem LocationModel.supported_toMap (l : LocationModel) : l.toMap.supported = true := by
  have geopoint := Value.supported_optional (f := GeoPoint.value) (fun _ => rfl) l.geopoint
  refine supportedFields_iff.mpr ?_
  simp [toMap, geopoint, Value.supported]

/-- What the page saves has a form for the database. -/
theorem FiestaUpdateForm.supported_fiestaData (form : FiestaUpdateForm) (user : FiestarUserModel)
    (uid : UserId) (uploadedPhotos : List String) :
    (form.fiestaData user uid uploadedPhotos).supported = true := by
  have host : (Value.map (user.host uid).toJson).supported = true :=
    AppUserModel.supported_toJson _
  have address := Value.supported_optional (f := fun l => .map (LocationModel.toMap l))
    LocationModel.supported_toMap form.address
  have circle : (form.visibilityData.data.read "firstCircle").supported = true := rfl
  have fiesta : (form.visibilityData.data.read "fiesta").supported = true := rfl
  have connexion : (form.visibilityData.data.read "connexion").supported = true := rfl
  have ref : (userRef uid).supported = true := rfl
  refine supportedFields_iff.mpr ?_
  simp [fiestaData, host, ref, address, circle, fiesta, connexion, supported_strings,
    supported_ints, supported_doubles, supported_bools, supported_dates, supported_stringsValue,
    Value.supported_optional supported_passionsValue]

end Supported

end TwoGather
