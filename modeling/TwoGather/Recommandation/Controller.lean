import TwoGather.Store

/-!
# Ratings of users and fiestas

`recommandation_controller.dart`: `noteUser` and `noteFiesta` read a document, add one
rating to what they have read, and write the three fields back. Notes are exact rationals,
where the app has doubles; both functions catch every error.

`noteFiesta` reads the fiesta with `AppUserModel.fromJson`, for which `tags` is a map.
-/

namespace TwoGather

open Docs Requests

namespace Ratings

/-- `docData.numberNote ?? 0`. -/
def count (docData : Ratings) : Rat :=
  docData.numberNote.get?.getD 0

/-- `docData.note ?? 0`. -/
def total (docData : Ratings) : Rat :=
  docData.note.get?.getD 0

/-- The fields with one more rating. -/
def add (docData : Ratings) (note : Rat) : Ratings :=
  let numberNote := docData.count + 1
  let totalNote := docData.total + note
  { numberNote := .value numberNote
    rating := .value (totalNote / numberNote)
    note := .value totalNote }

@[simp] theorem count_add (docData : Ratings) (note : Rat) :
    (docData.add note).count = docData.count + 1 := rfl

@[simp] theorem total_add (docData : Ratings) (note : Rat) :
    (docData.add note).total = docData.total + note := rfl

/-- `rating` is the mean. -/
def Averaged (r : Ratings) : Prop :=
  r.rating = .value (r.total / r.count)

instance (r : Ratings) : Decidable r.Averaged :=
  inferInstanceAs (Decidable (_ = _))

theorem averaged_add (docData : Ratings) (note : Rat) : (docData.add note).Averaged := rfl

end Ratings

/-- Whether `AppUserModel.fromJson` can cast the document: `json['tags'] as Map` fails on a
list. -/
def Fiesta.isAppUser (data : Fiesta) : Bool :=
  data.tags.get?.isNone

/-- `AppUserModel.fromJson` on a document, as far as a rating uses it. -/
def appUserOf {δ : Type} (isAppUser : δ → Bool) (ratings : δ → Ratings) (data : δ) :
    Firestore Ratings :=
  if isAppUser data then pure (ratings data) else throw .typeError

/-- What `noteUser` and `noteFiesta` have in common. -/
def rate {δ : Type} (get : Firestore (Option δ)) (isAppUser : δ → Bool) (ratings : δ → Ratings)
    (update : Ratings → Firestore Unit) (note : Rat) : Firestore Unit :=
  tryCatch
    (do
      let data ← get
      let data ← member data
      let docData ← appUserOf isAppUser ratings data
      update (docData.add note))
    fun _ => pure ()

def noteUser (userId : UserId) (note : Rat) : Firestore Unit :=
  rate (getUser userId) User.isAppUser User.ratings
    (fun r => updateUser userId ({ · with ratings := r })) note

def noteFiesta (fiestaId : FiestaId) (note : Rat) : Firestore Unit :=
  rate (getFiesta fiestaId) Fiesta.isAppUser Fiesta.ratings
    (fun r => updateFiesta fiestaId ({ · with ratings := r })) note

/-- The requests of a rating. -/
theorem rate_eq {δ : Type} (get : Store → Option δ) (isAppUser : δ → Bool) (ratings : δ → Ratings)
    (put : Ratings → Store → Store) (note : Rat) :
    rate (.read get) isAppUser ratings
        (fun r => .step (put r) fun s => if (get s).isSome then pure () else throw .notFound) note =
      .step id fun s =>
        match (get s).filter isAppUser with
        | none => pure ()
        | some data => .step (put ((ratings data).add note)) fun _ => pure () := by
  refine congrArg (Program.step id) (funext fun s => ?_)
  dsimp only [Program.read]
  cases get s with
  | none => rfl
  | some data =>
      change tryCatch
        (appUserOf isAppUser ratings data >>= fun docData => .step (put (docData.add note)) _) _ = _
      unfold appUserOf
      rw [Option.filter_some]
      split
      · refine congrArg (Program.step _) (funext fun after => ?_)
        dsimp only
        split
        · rfl
        · rfl
      · rfl

/-! ## Both as one -/

/-- What is rated. -/
inductive Rated
  | user (userId : UserId)
  | fiesta (fiestaId : FiestaId)
  deriving DecidableEq

namespace Rated

def note : Rated → Rat → Firestore Unit
  | .user userId => noteUser userId
  | .fiesta fiestaId => noteFiesta fiestaId

/-- The ratings stored, if the document exists. -/
def ratings (s : Store) : Rated → Option Ratings
  | .user userId => (s.user userId).map (·.ratings)
  | .fiesta fiestaId => (s.fiesta fiestaId).map (·.ratings)

/-- The ratings that a call reads, if it can. -/
def docData (s : Store) : Rated → Option Ratings
  | .user userId => ((s.user userId).filter (·.isAppUser)).map (·.ratings)
  | .fiesta fiestaId => ((s.fiesta fiestaId).filter (·.isAppUser)).map (·.ratings)

def put (s : Store) (r : Ratings) : Rated → Store
  | .user userId => s.updateUser userId ({ · with ratings := r })
  | .fiesta fiestaId => s.updateFiesta fiestaId ({ · with ratings := r })

variable {s : Store} {x : Rated}

@[simp] theorem ratings_put (r : Ratings) :
    x.ratings (x.put s r) = (x.ratings s).map fun _ => r := by
  cases x with
  | user userId =>
      simp only [ratings, put, Store.user_updateUser, ↓reduceIte, Option.map_map]
      rfl
  | fiesta fiestaId =>
      simp only [ratings, put, Store.fiesta_updateFiesta, ↓reduceIte, Option.map_map]
      rfl

@[simp] theorem docData_put (r : Ratings) :
    x.docData (x.put s r) = (x.docData s).map fun _ => r := by
  cases x with
  | user userId =>
      simp only [docData, put, Store.user_updateUser, ↓reduceIte]
      cases s.user userId with
      | none => rfl
      | some data =>
          simp only [Option.map_some, Option.filter_some]
          split
          · rfl
          · rfl
  | fiesta fiestaId =>
      simp only [docData, put, Store.fiesta_updateFiesta, ↓reduceIte]
      cases s.fiesta fiestaId with
      | none => rfl
      | some data =>
          simp only [Option.map_some, Option.filter_some, Fiesta.isAppUser]
          split
          · rfl
          · rfl

/-- A call reads the ratings that are stored. -/
theorem ratings_of_docData {r : Ratings} (read : x.docData s = some r) : x.ratings s = some r := by
  cases x with
  | user userId =>
      obtain ⟨data, kept, rfl⟩ := Option.map_eq_some_iff.mp read
      obtain ⟨here, -⟩ := Option.filter_eq_some_iff.mp kept
      exact congrArg (Option.map _) here
  | fiesta fiestaId =>
      obtain ⟨data, kept, rfl⟩ := Option.map_eq_some_iff.mp read
      obtain ⟨here, -⟩ := Option.filter_eq_some_iff.mp kept
      exact congrArg (Option.map _) here

/-- The write of a call. -/
def write (x : Rated) (r : Ratings) : Firestore Unit :=
  .step (x.put · r) fun _ => pure ()

/-- What is left of a call after its read. -/
def afterRead (x : Rated) (note : Rat) : Option Ratings → Firestore Unit
  | none => pure ()
  | some docData => x.write (docData.add note)

/-- A call is one read, and one write if the document can be read. -/
theorem note_eq (x : Rated) (note : Rat) :
    x.note note = .step id fun s => x.afterRead note (x.docData s) := by
  cases x with
  | user userId =>
      refine (rate_eq (·.user userId) _ _ (fun r s => put s r (.user userId)) note).trans ?_
      refine congrArg (Program.step id) (funext fun s => ?_)
      dsimp only [docData]
      cases (s.user userId).filter (·.isAppUser) with
      | none => rfl
      | some data => rfl
  | fiesta fiestaId =>
      refine (rate_eq (·.fiesta fiestaId) _ _ (fun r s => put s r (.fiesta fiestaId)) note).trans ?_
      refine congrArg (Program.step id) (funext fun s => ?_)
      dsimp only [docData]
      cases (s.fiesta fiestaId).filter (·.isAppUser) with
      | none => rfl
      | some data => rfl

end Rated

end TwoGather
