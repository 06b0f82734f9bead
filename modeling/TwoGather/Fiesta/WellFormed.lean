import TwoGather.Fiesta.FormRuns

/-!
# Well-formed fiestas

A fiesta has a start that is not after its end, and a picture. `createNewFiesta` checks the order
of its dates and that a list of pictures is not empty, but not that the pictures are a list; the
page of the update checks only that the dates are not missing.

`fiestas_wellFormed_iff` says that the fiestas stay well formed exactly if every stored fiesta
comes with a list of pictures and no page saves dates in the wrong order. The end itself can
always be converted, so the job that ends the fiestas gets past its cast.
-/

namespace TwoGather

open Docs Dynamic Requests

/-! ## Well-formed documents -/

structure WellFormed (data : Fields) : Prop where
  dates : ∃ startAt endAt, data.read "startAt" = .timestamp startAt ∧
    data.read "endAt" = .timestamp endAt ∧ startAt ≤ endAt
  pictures : ∃ first rest, data.read "pictures" = .list (first :: rest)
  title : data.read "title" ≠ .null
  category : data.read "category" ≠ .null
  numberOfParticipant : data.read "numberOfParticipant" ≠ .null

/-- `(data.endAt as Timestamp).toDate()` in `checkEndFiesta` does not fail. -/
def endAtConverts (data : Fields) : Prop :=
  ∃ micros, data.read "endAt" = .timestamp micros

/-- What is filled in is well formed if the rest is. -/
theorem wellFormed_iff {data : Fields} {startAt endAt : Int} (filled : FilledIn data)
    (start : data.read "startAt" = .timestamp startAt)
    (finish : data.read "endAt" = .timestamp endAt) :
    WellFormed data ↔
      startAt ≤ endAt ∧ ∃ first rest, data.read "pictures" = .list (first :: rest) := by
  constructor
  · intro formed
    obtain ⟨a, b, same, same', ordered⟩ := formed.dates
    cases start.symm.trans same
    cases finish.symm.trans same'
    exact ⟨ordered, formed.pictures⟩
  · rintro ⟨ordered, pictures⟩
    exact ⟨⟨startAt, endAt, start, finish, ordered⟩, pictures, filled.title, filled.category,
      filled.numberOfParticipant⟩

/-- The pictures that are given are a list. -/
def PicturesAreList (fiestaData : Fields) : Prop :=
  ∃ xs, fiestaData.read "pictures" = .list xs

theorem FormStore.Stores.wellFormed_iff {s : FormStore} {fails : FormOp → Bool} {uid : UserId}
    {data : Fields} (stores : s.Stores fails uid data) :
    WellFormed (s.created uid data) ↔ PicturesAreList data := by
  obtain ⟨startAt, endAt, start, finish, ordered, -⟩ := stores.dates
  rw [TwoGather.wellFormed_iff stores.filledIn
    (read_created (read_enriched (by decide) start))
    (read_created (read_enriched (by decide) finish)), and_iff_right ordered,
    read_created (read_enriched (by decide) rfl)]
  have given := stores.passes.2
  unfold PicturesAreList
  cases pictures : data.read "pictures" with
  | list xs =>
      cases xs with
      | nil =>
          rw [pictures] at given
          cases given
      | cons x xs => exact iff_of_true ⟨x.stored s.now, storedList s.now xs, rfl⟩ ⟨x :: xs, rfl⟩
  | _ =>
      refine iff_of_false (fun all => ?_) fun all => ?_
      · obtain ⟨_, _, same⟩ := all
        cases same
      · obtain ⟨_, same⟩ := all
        cases same

/-- The dates of the page are in order. -/
def FiestaUpdateForm.DatesOrdered (form : FiestaUpdateForm) : Prop :=
  ∀ startAt endAt, form.date = some (some startAt, some endAt) → startAt ≤ endAt

theorem FiestaUpdateForm.FilledIn.wellFormed_iff {form : FiestaUpdateForm} {valid : Bool}
    {upload : String → Option String} {photos : List String} (filled : form.FilledIn)
    (submits : form.submits valid = true) (uploaded : form.photos.mapM upload = some photos)
    (user : FiestarUserModel) (uid : UserId) (now : Int) (data : Fields) :
    WellFormed (form.savedOver user uid photos now data) ↔ form.DatesOrdered := by
  obtain ⟨shown, last⟩ := FiestaUpdateForm.shown_of_submits submits
  obtain ⟨a, b, dates⟩ := filled.date shown
  obtain ⟨start, finish⟩ := FiestaUpdateForm.savedOver_dates dates data
  have pictures : ∃ first rest,
      (form.savedOver user uid photos now data).read "pictures" = .list (first :: rest) := by
    have wrote : (form.fiestaData user uid photos).read "pictures" = stringsValue photos := rfl
    rw [read_savedOver (by decide) wrote, stored_stringsValue]
    cases files : form.photos with
    | nil => exact absurd files (filled.photos last)
    | cons file files' =>
        rw [files, List.mapM_cons] at uploaded
        obtain ⟨url, -, uploaded⟩ := Option.bind_eq_some_iff.mp uploaded
        obtain ⟨urls, -, uploaded⟩ := Option.bind_eq_some_iff.mp uploaded
        cases uploaded
        exact ⟨.string url, urls.map .string, rfl⟩
  rw [TwoGather.wellFormed_iff (filled.savedOver submits user uid photos now data) start finish,
    and_iff_left pictures]
  constructor
  · intro ordered a' b' same
    cases dates.symm.trans same
    exact ordered
  · exact fun ordered => ordered a b dates

/-! ## Runs -/

def FormApp.AllWellFormed (app : FormApp) : Prop :=
  ∀ id data, app.store.fiesta.get? id = some data → WellFormed data

/-- A creation that stores its fiesta gives the pictures as a list, and a save that changes a
fiesta has its dates in order. -/
def FormApp.KeepsWellFormed (app : FormApp) : FormCall → Prop
  | .createNewFiesta fails currentUser fiestaData _ =>
      ∀ uid ∈ currentUser, app.store.Stores fails uid fiestaData → PicturesAreList fiestaData
  | .save page fails currentUser userData upload valid =>
      ∀ p ∈ app.pages page, (p.saved currentUser userData upload valid).isSome →
        fails .updateFiesta = false → (app.store.fiesta.get? p.fiestaId).isSome →
        p.form.DatesOrdered
  | _ => True

section Steps

variable {parse : String → Option Int} {app : FormApp}

theorem FormApp.AllWellFormed.of_fiesta {other : FormApp} (formed : app.AllWellFormed)
    (same : other.store.fiesta = app.store.fiesta) : other.AllWellFormed := by
  intro id data found
  rw [same] at found
  exact formed id data found

/-- One more fiesta. -/
theorem FormApp.AllWellFormed.add_iff {other : FormApp} {data : Fields}
    (formed : app.AllWellFormed) (added : other.store.fiesta = app.store.fiesta.add data) :
    other.AllWellFormed ↔ WellFormed data := by
  unfold FormApp.AllWellFormed
  simp only [added, AutoCollection.get?_add]
  constructor
  · exact fun all => all _ _ (if_pos rfl)
  · intro new id data found
    split at found
    · cases found
      exact new
    · exact formed id data found

/-- One fiesta changed, if it is there. -/
theorem FormApp.AllWellFormed.update_iff {other : FormApp} {id : Nat} {f : Fields → Fields}
    {C : Prop} (formed : app.AllWellFormed)
    (updated : other.store.fiesta = app.store.fiesta.update id f)
    (exact' : ∀ data, WellFormed (f data) ↔ C) :
    other.AllWellFormed ↔ ((app.store.fiesta.get? id).isSome → C) := by
  unfold FormApp.AllWellFormed
  simp only [updated, AutoCollection.get?_update]
  constructor
  · intro all there
    obtain ⟨old, found⟩ := Option.isSome_iff_exists.mp there
    refine (exact' old).mp (all id _ ?_)
    rw [if_pos rfl, found]
    rfl
  · intro holds other data found
    split at found
    case isTrue same =>
      obtain ⟨old, there, rfl⟩ := Option.map_eq_some_iff.mp found
      rw [same] at there
      exact (exact' old).mpr (holds (by rw [there]; rfl))
    case isFalse => exact formed other data found

theorem FormApp.step_wellFormed_iff (filled : app.FilledIn) (formed : app.AllWellFormed)
    (call : FormCall) : (app.step parse call).AllWellFormed ↔ app.KeepsWellFormed call := by
  cases call with
  | createNewFiesta fails currentUser fiestaData fiestaUserData =>
      cases currentUser with
      | none => exact iff_of_true (formed.of_fiesta rfl) fun _ none => by cases none
      | some uid =>
          simp only [FormApp.KeepsWellFormed, Option.mem_def, Option.some.injEq, forall_eq']
          rcases createNewFiesta_stores_or (s := app.store) fails uid fiestaData fiestaUserData
            with ⟨stores, added⟩ | ⟨stays, kept, -⟩
          · rw [forall_prop_of_true stores, ← stores.wellFormed_iff]
            exact formed.add_iff added
          · exact iff_of_true (formed.of_fiesta (congrArg FormStore.fiesta kept))
              fun stores => absurd stores stays
  | save page fails currentUser userData upload valid =>
      simp only [FormApp.KeepsWellFormed]
      cases opened : app.pages page with
      | none =>
          simp only [FormApp.step, opened]
          exact iff_of_true formed fun _ none => by cases none
      | some p =>
          simp only [Option.mem_def, Option.some.injEq, forall_eq']
          cases maps : p.saved currentUser userData upload valid with
          | none =>
              rw [FormApp.step_save_stops opened maps]
              exact iff_of_true formed fun none => by cases none
          | some maps' =>
              rw [FormApp.step_save opened maps, Option.isSome_some, forall_prop_of_true rfl]
              obtain ⟨submits, photos, uid, user, uploaded, rfl⟩ := UpdatePage.saved_eq_some maps
              cases made : fails .updateFiesta with
              | true =>
                  refine iff_of_true (formed.of_fiesta ?_) fun none => by cases none
                  rw [FormApp.update_fiesta, made, if_pos rfl]
              | false =>
                  rw [forall_prop_of_true rfl]
                  refine formed.update_iff ?_
                    ((filled.pages page p opened).form.wellFormed_iff submits uploaded user uid
                      app.store.now)
                  rw [FormApp.update_fiesta, made, if_neg Bool.false_ne_true]
  | opens page id => exact iff_of_true (formed.of_fiesta rfl) True.intro
  | page page e =>
      refine iff_of_true (formed.of_fiesta ?_) True.intro
      simp only [FormApp.step]
      split <;> rfl
  | wait micros => exact iff_of_true (formed.of_fiesta rfl) True.intro

end Steps

/-- **Every stored fiesta stays well formed exactly if each creation that stores a fiesta gives its
pictures as a list and each save of the page that changes one has its dates in order. The end
of a stored fiesta can always be converted.** -/
theorem fiestas_wellFormed_iff (parse : String → Option Int)
    (createdFiesta : UserId → AutoCollection Fields) (now : Int) (calls : List FormCall) :
    (∀ t, Reached (FormApp.step parse) (.start createdFiesta now) calls t →
      ∀ id data, t.store.fiesta.get? id = some data → endAtConverts data) ∧
    ((∀ t, Reached (FormApp.step parse) (.start createdFiesta now) calls t → t.AllWellFormed) ↔
      Along (FormApp.step parse) FormApp.KeepsWellFormed (.start createdFiesta now) calls) := by
  refine ⟨fun t reached id data found => ((FormApp.filledIn reached).docs id data found).endAt, ?_⟩
  have valid : Along (FormApp.step parse) (fun _ _ => True) (.start createdFiesta now) calls :=
    Along.trivial _ calls
  have both := all_reached_iff_along
    (P := fun app => app.FilledIn ∧ app.AllWellFormed) (V := fun _ _ => True)
    (C := FormApp.KeepsWellFormed)
    (fun app call good _ => by
      rw [and_iff_right (good.1.step call), FormApp.step_wellFormed_iff good.1 good.2])
    ⟨FormApp.filledIn_start createdFiesta now, fun id data found => by cases found⟩ valid
  rw [← both]
  constructor
  · exact fun all t reached => ⟨FormApp.filledIn reached, all t reached⟩
  · exact fun all t reached => (all t reached).2

/-! ## A start after the end -/

/-- `u` stores a fiesta, opens the page for it, picks a photo, and moves the start to the third
minute. -/
def lateStart : List FormCall :=
  [.createNewFiesta (fun _ => false) (some "u") plainData [],
    .opens 0 0, .page 0 .fetch, .page 0 .arrive, .page 0 (.nextBasic true),
    .page 0 (.nextPhoto ["q.png"]), .page 0 (.edit (.startAt 180000000)),
    .save 0 (fun _ => false) (some "u") (some plainHost) some true]

/-- The fiesta starts after it ends. -/
theorem lateStart_not_wellFormed :
    ¬ ∀ t, Reached (FormApp.step fun _ => none) (.start (fun _ => .empty) 0) lateStart t →
      t.AllWellFormed := by
  intro all
  have formed := all _ (.run _ _) 0 _ rfl
  obtain ⟨startAt, endAt, start, finish, ordered⟩ := formed.dates
  cases start
  cases finish
  exact absurd ordered (by decide)

end TwoGather
