import TwoGather.Fiesta.UpdateForm
import TwoGather.Lib.Runs

/-!
# Runs of the two forms

The collection of the fiestas with any number of open pages of the update: creations with any
data, and the steps of the pages, in any order. Every stored fiesta has two dates, a title, a
category and a number of participants (`FormApp.filledIn`), and so has what a page saves.
-/

namespace TwoGather

open Docs Dynamic Requests

/-! ## The app -/

structure FormApp where
  store : FormStore
  pages : Nat → Option UpdatePage

inductive FormCall
  | createNewFiesta (fails : FormOp → Bool) (currentUser : Option UserId)
      (fiestaData fiestaUserData : Fields)
  /-- A page for the fiesta is opened. -/
  | opens (page id : Nat)
  | page (page : Nat) (e : PageEvent)
  | save (page : Nat) (fails : FormOp → Bool) (currentUser : Option UserId)
      (userData : Option FiestarUserModel) (upload : String → Option String) (valid : Bool)
  | wait (micros : Nat)

namespace FormApp

def start (createdFiesta : UserId → AutoCollection Fields) (now : Int) : FormApp where
  store := { fiesta := .empty, createdFiesta, now }
  pages _ := none

def succeeded : Except FormErr Bool → Bool
  | .ok false => true
  | _ => false

/-- A save that comes to its call. After a success the page is closed. -/
def update (app : FormApp) (page : Nat) (fails : FormOp → Bool) (currentUser : Option UserId)
    (id : Nat) (maps : Fields × Fields) : FormApp :=
  let result := (FormController.updateFiesta fails currentUser id
    (Fields.paths maps.1) (Fields.paths maps.2)).exec app.store
  { store := result.2
    pages := if succeeded result.1 then Function.update app.pages page none else app.pages }

def step (parse : String → Option Int) (app : FormApp) : FormCall → FormApp
  | .createNewFiesta fails currentUser fiestaData fiestaUserData =>
      { app with
        store := ((FormController.createNewFiesta fails currentUser fiestaData
          fiestaUserData).exec app.store).2 }
  | .opens page id =>
      { app with pages := Function.update app.pages page (some { fiestaId := id }) }
  | .page page e =>
      match app.pages page with
      | none => app
      | some p =>
          { app with
            pages := Function.update app.pages page (some (p.step parse app.store.fiesta e)) }
  | .save page fails currentUser userData upload valid =>
      match app.pages page with
      | none => app
      | some p =>
          match p.saved currentUser userData upload valid with
          | none => app
          | some maps => app.update page fails currentUser p.fiestaId maps
  | .wait micros => { app with store := { app.store with now := app.store.now + micros } }

section Saves

variable {parse : String → Option Int} {app : FormApp} {page : Nat} {p : UpdatePage}
  {fails : FormOp → Bool} {currentUser : Option UserId} {userData : Option FiestarUserModel}
  {upload : String → Option String} {valid : Bool}

/-- A save that passes the checks of the page makes both updates. -/
theorem step_save {maps : Fields × Fields} (opened : app.pages page = some p)
    (saved : p.saved currentUser userData upload valid = some maps) :
    app.step parse (.save page fails currentUser userData upload valid) =
      app.update page fails currentUser p.fiestaId maps := by
  simp only [step, opened, saved]

/-- A save that does not pass them makes none. -/
theorem step_save_stops (opened : app.pages page = some p)
    (stops : p.saved currentUser userData upload valid = none) :
    app.step parse (.save page fails currentUser userData upload valid) = app := by
  simp only [step, opened, stops]

end Saves

end FormApp

/-! ## What is filled in -/

/-- The fields that every stored fiesta has. -/
structure FilledIn (data : Fields) : Prop where
  startAt : ∃ micros, data.read "startAt" = .timestamp micros
  endAt : ∃ micros, data.read "endAt" = .timestamp micros
  title : data.read "title" ≠ .null
  category : data.read "category" ≠ .null
  numberOfParticipant : data.read "numberOfParticipant" ≠ .null

/-- The same of a model, as far as the page takes it over. -/
structure FiestaModel.FilledIn (m : FiestaModel) : Prop where
  startAt : m.startAt.isSome
  endAt : m.endAt.isSome
  title : m.title.isSome
  category : m.category.isSome

/-- Both dates are there. -/
def BothDates (date : Option (Option Int × Option Int)) : Prop :=
  ∃ startAt endAt, date = some (some startAt, some endAt)

/-- The same of the variables, once they are shown. -/
structure FiestaUpdateForm.FilledIn (form : FiestaUpdateForm) : Prop where
  number : form.nbMaxUser.isSome
  photos : form.actualPage = .complementaryInfo → form.photos ≠ []
  date : form.shown = true → BothDates form.date
  dateField : form.shown = true → BothDates form.dateField
  name : form.shown = true → form.name.isSome
  category : form.shown = true → form.category.isSome

/-- The model of a fiesta that is filled in has what the form needs. -/
theorem FilledIn.model {parse : String → Option Int} {data : Fields} {m : FiestaModel}
    (filled : FilledIn data) (read : FiestaModel.fromJson parse data = some m) : m.FilledIn := by
  have reads := FiestaModel.reads read
  obtain ⟨a, start⟩ := filled.startAt
  obtain ⟨b, finish⟩ := filled.endAt
  refine ⟨?_, ?_, ?_, ?_⟩
  · rw [← reads.startAt, start]
    rfl
  · rw [← reads.endAt, finish]
    rfl
  · have title := Value.asString_eq_some reads.title
    cases given : m.title with
    | none => exact absurd (title.trans (by rw [given]; rfl)) filled.title
    | some s => rfl
  · have category := Value.asString_eq_some reads.category
    cases given : m.category with
    | none => exact absurd (category.trans (by rw [given]; rfl)) filled.category
    | some s => rfl

/-! ## The page keeps it -/

namespace FiestaUpdateForm

variable {form : FiestaUpdateForm}

/-- The empty form lacks nothing, since it is not shown yet. -/
theorem filledIn_start : ({} : FiestaUpdateForm).FilledIn where
  number := rfl
  photos last := by cases last
  date shown := by cases shown
  dateField shown := by cases shown
  name shown := by cases shown
  category shown := by cases shown

/-- A form that is loaded from such a model is filled in. -/
theorem FilledIn.load {m : FiestaModel} (filled : form.FilledIn) (model : m.FilledIn) :
    (form.load m).FilledIn := by
  obtain ⟨a, start⟩ := Option.isSome_iff_exists.mp model.startAt
  obtain ⟨b, finish⟩ := Option.isSome_iff_exists.mp model.endAt
  have loaded : BothDates (some (m.startAt, m.endAt)) := ⟨a, b, by rw [start, finish]⟩
  refine ⟨filled.number, filled.photos, fun _ => loaded, fun _ => ?_, fun _ => model.title,
    fun _ => model.category⟩
  unfold FiestaUpdateForm.load
  dsimp only
  split
  case isTrue shown => exact filled.dateField shown
  case isFalse => exact loaded

/-- A rebuild of the page keeps the form filled in. -/
theorem FilledIn.build {snapshot : Option FiestaModel} (filled : form.FilledIn)
    (models : ∀ m ∈ snapshot, m.FilledIn) : (form.build snapshot).FilledIn := by
  cases snapshot with
  | none =>
      refine ⟨filled.number, filled.photos, fun shown => ?_, fun shown => ?_, fun shown => ?_,
        fun shown => ?_⟩ <;> cases shown
  | some m => exact filled.load (models m rfl)

/-- The date picker gives both dates. -/
theorem FilledIn.pickDates {dates : Option Int × Option Int} (filled : form.FilledIn)
    (both : BothDates (some dates)) : (form.pickDates dates).FilledIn :=
  ⟨filled.number, filled.photos, fun _ => both, fun _ => both, filled.name, filled.category⟩

/-- Every edit keeps the form filled in. -/
theorem FilledIn.edit (filled : form.FilledIn) (e : Edit) : (form.edit e).FilledIn := by
  obtain ⟨number, photos, date, dateField, name, category⟩ := filled
  unfold FiestaUpdateForm.edit
  split
  case isFalse => exact ⟨number, photos, date, dateField, name, category⟩
  case isTrue there =>
      cases e with
      | name p0 => exact ⟨number, photos, date, dateField, fun _ => rfl, category⟩
      | category p0 => exact ⟨number, photos, date, dateField, name, fun _ => rfl⟩
      | nbMaxUser val => exact ⟨rfl, photos, date, dateField, name, category⟩
      | startAt finalDate =>
          have shown : form.shown = true := by
            simp only [inView, Bool.and_eq_true] at there
            exact there.1
          obtain ⟨a, b, field⟩ := dateField shown
          refine FilledIn.pickDates ⟨number, photos, date, dateField, name, category⟩ ?_
          exact ⟨finalDate, b, by rw [field]; rfl⟩
      | endAt finalDate =>
          have shown : form.shown = true := by
            simp only [inView, Bool.and_eq_true] at there
            exact there.1
          obtain ⟨a, b, field⟩ := dateField shown
          refine FilledIn.pickDates ⟨number, photos, date, dateField, name, category⟩ ?_
          exact ⟨a, finalDate, by rw [field]; rfl⟩
      | _ => exact ⟨number, photos, date, dateField, name, category⟩

/-- So does the step to the photos. -/
theorem FilledIn.nextBasic (filled : form.FilledIn) (valid : Bool) :
    (form.nextBasic valid).FilledIn := by
  unfold FiestaUpdateForm.nextBasic
  split
  · refine ⟨filled.number, fun last => ?_, filled.date, filled.dateField, filled.name,
      filled.category⟩
    cases last
  · exact filled

/-- So does the step after the photos. -/
theorem FilledIn.nextPhoto (filled : form.FilledIn) (picked : List String) :
    (form.nextPhoto picked).FilledIn := by
  unfold FiestaUpdateForm.nextPhoto
  split
  case isFalse => exact filled
  case isTrue goes =>
      have any : picked ≠ [] := by
        simp only [Bool.and_eq_true, Bool.not_eq_true', List.isEmpty_eq_false_iff] at goes
        exact goes.2
      exact ⟨filled.number, fun _ => any, filled.date, filled.date, filled.name,
        filled.category⟩

end FiestaUpdateForm

/-- What a page has read, and what it shows, is filled in. -/
structure UpdatePage.FilledIn (page : UpdatePage) : Prop where
  incoming : ∀ m ∈ page.incoming, m.FilledIn
  snapshot : ∀ m ∈ page.snapshot, m.FilledIn
  form : page.form.FilledIn

theorem UpdatePage.filledIn_opened (id : Nat) : ({ fiestaId := id } : UpdatePage).FilledIn where
  incoming _ there := by cases there
  snapshot _ there := by cases there
  form := FiestaUpdateForm.filledIn_start

/-- So does every event of the page. -/
theorem UpdatePage.FilledIn.step {parse : String → Option Int} {fiesta : AutoCollection Fields}
    {page : UpdatePage} (filled : page.FilledIn)
    (docs : ∀ id data, fiesta.get? id = some data → TwoGather.FilledIn data) (e : PageEvent) :
    (page.step parse fiesta e).FilledIn := by
  cases e with
  | fetch =>
      refine ⟨fun m read => ?_, filled.snapshot, filled.form⟩
      obtain ⟨data, found, json⟩ := Option.bind_eq_some_iff.mp read
      exact (docs _ data found).model json
  | arrive =>
      exact ⟨filled.incoming, filled.incoming, filled.form.build filled.incoming⟩
  | rebuild => exact ⟨filled.incoming, filled.snapshot, filled.form.build filled.snapshot⟩
  | edit e => exact ⟨filled.incoming, filled.snapshot, filled.form.edit e⟩
  | nextBasic valid => exact ⟨filled.incoming, filled.snapshot, filled.form.nextBasic valid⟩
  | nextPhoto picked => exact ⟨filled.incoming, filled.snapshot, filled.form.nextPhoto picked⟩

/-! ## What a save makes of the document -/

section Save

variable {s : FormStore} {form : FiestaUpdateForm} {user : FiestarUserModel} {uid : UserId}
  {uploadedPhotos : List String} {now : Int} {data : Fields}

/-- An update whose keys are plain names puts its fields over the document. -/
theorem FormStore.changed_paths (changes data : Fields) :
    s.changed (Fields.paths changes) data = data.putAll (changes.stored s.now) := by
  have same : Form.storedChanges s.now (Fields.paths changes) =
      Fields.paths (changes.stored s.now) := by
    induction changes with
    | nil => rfl
    | cons entry changes ih => exact congrArg (_ :: ·) ih
  unfold FormStore.changed
  rw [same, Fields.change_paths]

/-- It is accepted exactly if its values can be encoded. -/
theorem supportedChanges_paths (changes : Fields) :
    Form.supportedChanges (Fields.paths changes) = changes.supported := by
  unfold Form.supportedChanges Fields.supported
  induction changes with
  | nil => rfl
  | cons entry changes ih => exact congrArg (entry.2.supported && ·) ih

/-- The fields that the page saves. -/
def savedKeys : List String :=
  ["host", "hostRef", "title", "category", "soundLevel", "tags", "description", "visibleAfter",
    "pictures", "address", "startAt", "endAt", "numberOfParticipant", "logistic", "thingsToBring",
    "visibilityRadius", "visibleByFirstCircle", "visibleByFiestar", "visibleByConnexion"]

/-- The document after a save of the page. -/
def FiestaUpdateForm.savedOver (form : FiestaUpdateForm) (user : FiestarUserModel) (uid : UserId)
    (uploadedPhotos : List String) (now : Int) (data : Fields) : Fields :=
  data.putAll ((form.fiestaData user uid uploadedPhotos).stored now)

/-- A field of the form has the value of the form afterwards. -/
theorem read_savedOver {key : String} {v : Value} (mem : key ∈ savedKeys)
    (wrote : (form.fiestaData user uid uploadedPhotos).read key = v) :
    (form.savedOver user uid uploadedPhotos now data).read key = v.stored now := by
  have keys : ((form.fiestaData user uid uploadedPhotos).stored now).map Prod.fst = savedKeys := by
    rw [Fields.map_fst_stored]
    rfl
  unfold FiestaUpdateForm.savedOver
  rw [Fields.read_putAll _ _ _ (by rw [keys]; decide), keys, if_pos mem, Fields.read_stored, wrote]

/-- A save that comes to its call. -/
theorem UpdatePage.saved_eq_some {page : UpdatePage} {currentUser : Option UserId}
    {userData : Option FiestarUserModel} {upload : String → Option String} {valid : Bool}
    {maps : Fields × Fields} (saved : page.saved currentUser userData upload valid = some maps) :
    page.form.submits valid = true ∧
      ∃ photos uid user, page.form.photos.mapM upload = some photos ∧
        maps = (page.form.fiestaData user uid photos, page.form.fiestaUserData photos) := by
  unfold UpdatePage.saved at saved
  obtain ⟨_, submits, saved⟩ := Option.bind_eq_some_iff.mp saved
  obtain ⟨photos, uploaded, saved⟩ := Option.bind_eq_some_iff.mp saved
  obtain ⟨uid, -, saved⟩ := Option.bind_eq_some_iff.mp saved
  obtain ⟨user, -, saved⟩ := Option.bind_eq_some_iff.mp saved
  refine ⟨?_, photos, uid, user, uploaded, (Option.some.inj saved).symm⟩
  by_contra stays
  rw [guard, if_neg stays] at submits
  cases submits

/-- The collection after a save that comes to its call: the document of the page is changed,
unless the update fails. -/
theorem FormApp.update_fiesta {app : FormApp} {page : Nat} {fails : FormOp → Bool}
    {currentUser : Option UserId} {id : Nat} {photos : List String} :
    (app.update page fails currentUser id
      (form.fiestaData user uid photos, form.fiestaUserData photos)).store.fiesta =
        if fails .updateFiesta then app.store.fiesta
        else app.store.fiesta.update id (form.savedOver user uid photos app.store.now) := by
  have fits : Form.supportedChanges (Fields.paths (form.fiestaData user uid photos)) = true := by
    rw [supportedChanges_paths]
    exact form.supported_fiestaData user uid photos
  have both := updateFiesta_fiesta (s := app.store) fails currentUser id
    (Fields.paths (form.fiestaData user uid photos))
    (Fields.paths (form.fiestaUserData photos))
  cases made : fails .updateFiesta with
  | true => exact both.2 fun updates => by cases made.symm.trans updates.2
  | false =>
      refine (both.1 ⟨fits, made⟩).trans (congrArg _ (funext fun data => ?_))
      exact FormStore.changed_paths _ _

end Save

/-! ## All runs keep it -/

theorem stored_ne_null {v : Value} {now : Int} (given : v ≠ .null) : v.stored now ≠ .null := by
  cases v with
  | null => exact absurd rfl given
  | _ => intro none; cases none

theorem isNull_eq_false {v : Value} : FormController.isNull v = false ↔ v ≠ .null := by
  cases v with
  | null => simp [FormController.isNull]
  | _ => simp [FormController.isNull]

/-- What a creation stores is filled in. -/
theorem FormStore.Stores.filledIn {s : FormStore} {fails : FormOp → Bool} {uid : UserId}
    {data : Fields} (stores : s.Stores fails uid data) : FilledIn (s.created uid data) := by
  obtain ⟨startAt, endAt, start, finish, -⟩ := stores.dates
  have given : ∀ {field : String}, field ∈ FormController.requiredFields →
      field ∉ ["createdBy", "createdAt", "updatedAt", "isEnd", "participants"] →
      (s.created uid data).read field ≠ .null := by
    intro field required own
    rw [read_created (read_enriched own rfl)]
    exact stored_ne_null (isNull_eq_false.mp (stores.passes.1 field required))
  exact ⟨⟨startAt, read_created (read_enriched (by decide) start)⟩,
    ⟨endAt, read_created (read_enriched (by decide) finish)⟩, given (by decide) (by decide),
    given (by decide) (by decide), given (by decide) (by decide)⟩

theorem optional_ne_null {f : String → Value} (shown : ∀ a, f a ≠ .null) {o : Option String}
    (there : o.isSome) : Value.optional f o ≠ .null := by
  cases o with
  | none => cases there
  | some a => exact shown a

section Saved

variable {form : FiestaUpdateForm} {valid : Bool}

/-- A form that submits is shown, on its last page. -/
theorem FiestaUpdateForm.shown_of_submits (submits : form.submits valid = true) :
    form.shown = true ∧ form.actualPage = .complementaryInfo := by
  simp only [FiestaUpdateForm.submits, Bool.and_eq_true, decide_eq_true_eq] at submits
  exact ⟨submits.1.1.1, submits.1.1.2⟩

/-- The dates of a document after a save. -/
theorem FiestaUpdateForm.savedOver_dates {user : FiestarUserModel} {uid : UserId}
    {photos : List String} {now startAt endAt : Int}
    (dates : form.date = some (some startAt, some endAt)) (data : Fields) :
    (form.savedOver user uid photos now data).read "startAt" = .timestamp startAt ∧
      (form.savedOver user uid photos now data).read "endAt" = .timestamp endAt := by
  have start : (form.fiestaData user uid photos).read "startAt" = .dateTime startAt := by
    change Value.optional .dateTime (form.date.bind Prod.fst) = _
    rw [dates]
    rfl
  have finish : (form.fiestaData user uid photos).read "endAt" = .dateTime endAt := by
    change Value.optional .dateTime (form.date.bind Prod.snd) = _
    rw [dates]
    rfl
  exact ⟨read_savedOver (by decide) start, read_savedOver (by decide) finish⟩

/-- What a page saves is filled in. -/
theorem FiestaUpdateForm.FilledIn.savedOver (filled : form.FilledIn)
    (submits : form.submits valid = true) (user : FiestarUserModel) (uid : UserId)
    (photos : List String) (now : Int) (data : Fields) :
    TwoGather.FilledIn (form.savedOver user uid photos now data) := by
  obtain ⟨shown, -⟩ := FiestaUpdateForm.shown_of_submits submits
  obtain ⟨a, b, dates⟩ := filled.date shown
  obtain ⟨start, finish⟩ := FiestaUpdateForm.savedOver_dates dates data
  have texts : ∀ s : String, Value.string s ≠ .null := fun s none => by cases none
  refine ⟨⟨a, start⟩, ⟨b, finish⟩, ?_, ?_, ?_⟩
  · rw [read_savedOver (by decide) rfl]
    exact stored_ne_null (optional_ne_null texts (filled.name shown))
  · rw [read_savedOver (by decide) rfl]
    exact stored_ne_null (optional_ne_null texts (filled.category shown))
  · obtain ⟨n, number⟩ := Option.isSome_iff_exists.mp filled.number
    have wrote : (form.fiestaData user uid photos).read "numberOfParticipant" = .int n := by
      change Value.optional .int form.nbMaxUser = _
      rw [number]
      rfl
    rw [read_savedOver (by decide) wrote]
    intro none
    cases none

end Saved

/-- Every stored fiesta is filled in, and so is every open page. -/
structure FormApp.FilledIn (app : FormApp) : Prop where
  docs : ∀ id data, app.store.fiesta.get? id = some data → TwoGather.FilledIn data
  pages : ∀ page p, app.pages page = some p → p.FilledIn

/-- A save opens no page. -/
theorem FormApp.update_pages {app : FormApp} {page other id : Nat} {fails : FormOp → Bool}
    {currentUser : Option UserId} {maps : Fields × Fields} {q : UpdatePage}
    (opened : (app.update page fails currentUser id maps).pages other = some q) :
    app.pages other = some q := by
  unfold FormApp.update at opened
  dsimp only at opened
  split at opened
  · rw [Function.update_apply] at opened
    split at opened
    · cases opened
    · exact opened
  · exact opened

section Steps

variable {parse : String → Option Int} {app : FormApp}

/-- One more fiesta that is filled in. -/
theorem FormApp.FilledIn.docs_add {fiesta : AutoCollection Fields} {data : Fields}
    (filled : app.FilledIn) (new : TwoGather.FilledIn data)
    (added : fiesta = app.store.fiesta.add data) (id : Nat) (d : Fields)
    (found : fiesta.get? id = some d) : TwoGather.FilledIn d := by
  rw [added, AutoCollection.get?_add] at found
  split at found
  · cases found
    exact new
  · exact filled.docs id d found

/-- A save of a page. -/
theorem FormApp.FilledIn.save {page : Nat} {p : UpdatePage} {fails : FormOp → Bool}
    {currentUser : Option UserId} {user : FiestarUserModel} {uid : UserId} {photos : List String}
    {valid : Bool} (filled : app.FilledIn) (opened : app.pages page = some p)
    (submits : p.form.submits valid = true) :
    (app.update page fails currentUser p.fiestaId
      (p.form.fiestaData user uid photos, p.form.fiestaUserData photos)).FilledIn := by
  refine ⟨fun id data found => ?_, fun other q found => ?_⟩
  · rw [FormApp.update_fiesta] at found
    split at found
    · exact filled.docs id data found
    · rw [AutoCollection.get?_update] at found
      split at found
      · obtain ⟨old, -, rfl⟩ := Option.map_eq_some_iff.mp found
        exact (filled.pages page p opened).form.savedOver submits user uid photos _ old
      · exact filled.docs id data found
  · exact filled.pages other q (FormApp.update_pages found)

/-- A page that is opened, or goes on. -/
theorem FormApp.FilledIn.put {page : Nat} {p : UpdatePage} (filled : app.FilledIn)
    (put : p.FilledIn) :
    ({ app with pages := Function.update app.pages page (some p) } : FormApp).FilledIn := by
  refine ⟨filled.docs, fun other q found => ?_⟩
  simp only [Function.update_apply] at found
  split at found
  · cases found
    exact put
  · exact filled.pages other q found

/-- Every call keeps the stored fiestas and the open pages filled in. -/
theorem FormApp.FilledIn.step (filled : app.FilledIn) (call : FormCall) :
    (app.step parse call).FilledIn := by
  cases call with
  | createNewFiesta fails currentUser fiestaData fiestaUserData =>
      refine ⟨?_, filled.pages⟩
      cases currentUser with
      | none => exact filled.docs
      | some uid =>
          rcases createNewFiesta_stores_or (s := app.store) fails uid fiestaData fiestaUserData
            with ⟨stores, added⟩ | ⟨-, same, -⟩
          · exact filled.docs_add stores.filledIn added
          · simp only [FormApp.step, same]
            exact filled.docs
  | opens page id => exact filled.put (UpdatePage.filledIn_opened id)
  | page page e =>
      simp only [FormApp.step]
      cases opened : app.pages page with
      | none => exact filled
      | some p => exact filled.put ((filled.pages page p opened).step filled.docs e)
  | save page fails currentUser userData upload valid =>
      cases opened : app.pages page with
      | none =>
          simp only [FormApp.step, opened]
          exact filled
      | some p =>
          cases maps : p.saved currentUser userData upload valid with
          | none =>
              rw [FormApp.step_save_stops opened maps]
              exact filled
          | some maps' =>
              rw [FormApp.step_save opened maps]
              obtain ⟨submits, photos, uid, user, -, rfl⟩ := UpdatePage.saved_eq_some maps
              exact filled.save opened submits
  | wait micros => exact ⟨filled.docs, filled.pages⟩

end Steps

theorem FormApp.filledIn_start (createdFiesta : UserId → AutoCollection Fields) (now : Int) :
    (FormApp.start createdFiesta now).FilledIn where
  docs id data found := by cases found
  pages page p opened := by cases opened

/-- In every state of every run, each stored fiesta is filled in. -/
theorem FormApp.filledIn {parse : String → Option Int}
    {createdFiesta : UserId → AutoCollection Fields} {now : Int} {calls : List FormCall} {t : FormApp}
    (reached : Reached (FormApp.step parse) (FormApp.start createdFiesta now) calls t) :
    t.FilledIn :=
  all_reached (P := FormApp.FilledIn) (fun _ call filled _ => FilledIn.step filled call)
    (FormApp.filledIn_start createdFiesta now) (Along.trivial _ calls) t reached

end TwoGather
