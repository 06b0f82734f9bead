import TwoGather.Chat.Salons
import TwoGather.Fiesta.Controller
import TwoGather.Fiesta.HostLevel

/-!
# What the host of a fiesta writes

`createNewFiesta` and `updateFiesta` of `fiesta_controller.dart` on typed documents, among the
other calls. What the two forms give them, field by field and with every error, is in
`TwoGather/Fiesta/FormController.lean`.
-/

namespace TwoGather

open Docs Requests

/-! ## Forms -/

/-- What the form of a fiesta gives to the database. `complete` stands for the required fields
that are left out here: they are filled in, and there is a picture. -/
structure FiestaForm where
  host : Host
  hostRef : UserId
  title : Stored String := .null
  category : Stored String := .null
  tags : Stored (List String) := .null
  visibleAfter : Stored Bool := .null
  address : Stored Address := .null
  startAt : Timestamp
  endAt : Timestamp
  numberOfParticipant : Stored Nat := .null
  visibleByFirstCircle : Stored Bool := .null
  visibleByFiestar : Stored Bool := .null
  visibleByConnexion : Stored Bool := .null
  complete : Bool := true
  deriving DecidableEq

/-- No required field is `null`. -/
def FiestaForm.filled (form : FiestaForm) : Bool :=
  form.title.get?.isSome && form.category.get?.isSome && form.visibleAfter.get?.isSome &&
    form.address.get?.isSome && form.numberOfParticipant.get?.isSome && form.complete

/-- The document of a new fiesta. -/
def FiestaForm.fiesta (form : FiestaForm) : Fiesta where
  title := form.title
  host := form.host
  hostRef := form.hostRef
  endAt := form.endAt
  isEnd := .value false
  visibleAfter := form.visibleAfter
  participants := []
  visibleByConnexion := form.visibleByConnexion
  visibleByFiestar := form.visibleByFiestar
  visibleByFirstCircle := form.visibleByFirstCircle
  category := form.category
  address := form.address
  numberOfParticipant := form.numberOfParticipant
  tags := form.tags

/-- The update of a fiesta, which leaves its guests, its end and its ratings alone. -/
def Fiesta.saved (f : Fiesta) (form : FiestaForm) : Fiesta :=
  { form.fiesta with participants := f.participants, isEnd := f.isEnd, ratings := f.ratings }

/-- What the pages note of the fiesta in the history of the host. -/
def FiestaForm.created (form : FiestaForm) (id : FiestaId) : CreatedFiesta where
  fiestaId := id
  title := form.title
  address := form.address
  startAt := .value form.startAt
  endAt := .value form.endAt
  visibleAfter := form.visibleAfter

/-- The update of a note, which still names its fiesta. -/
def CreatedFiesta.saved (data : CreatedFiesta) (form : FiestaForm) : CreatedFiesta :=
  form.created data.fiestaId

/-! ## Requests -/

/-- A document under an id that is drawn; none is drawn that a document has. -/
def Store.createFiesta (s : Store) (f : FiestaId) (data : Fiesta) : Store :=
  { s with fiestas := if (s.fiesta f).isSome then s.fiestas else s.fiestas.set f data }

@[simp] theorem Store.fiesta_createFiesta (s : Store) (f g : FiestaId) (data : Fiesta) :
    (s.createFiesta f data).fiesta g =
      if g = f then some ((s.fiesta f).getD data) else s.fiesta g := by
  unfold Store.createFiesta
  cases there : s.fiesta f with
  | none => exact Collection.get?_set s.fiestas f g data
  | some old =>
      by_cases same : g = f
      · subst same
        rw [if_pos rfl]
        exact there
      · rw [if_neg same]
        rfl

namespace HostForms

/-- `collection("fiesta").add(..)`, which draws the id. -/
def addFiesta (id : FiestaId) (data : Fiesta) : Firestore Unit :=
  .step (·.createFiesta id data) fun _ => pure ()

def addCreatedFiesta (uid : UserId) (data : CreatedFiesta) : Firestore Unit :=
  .step
    (fun s =>
      { s with
        createdFiesta := Function.update s.createdFiesta uid ((s.createdFiesta uid).add data) })
    fun _ => pure ()

/-- The update of a document of the history: fails if the document does not exist. -/
def updateCreatedFiesta (uid : UserId) (key : Nat) (form : FiestaForm) : Firestore Unit :=
  .step
    (fun s =>
      { s with
        createdFiesta :=
          Function.update s.createdFiesta uid ((s.createdFiesta uid).update key (·.saved form)) })
    fun s => if ((s.createdFiesta uid).get? key).isSome then pure () else throw .notFound

/-- `createNewFiesta`, for the id that is drawn. It answers `true` for an error. -/
def createNewFiesta (uid : UserId) (id : FiestaId) (form : FiestaForm) : Firestore Bool := do
  if form.filled then
    if form.endAt.micros < form.startAt.micros then return true
    let now ← (.read Store.clock : Firestore Timestamp)
    if form.startAt.micros < now.micros then return true
    addFiesta id form.fiesta
    addCreatedFiesta uid (form.created id)
    tryCatch (createFiestaPoint uid) fun _ => pure ()
    addFiestaSalon uid id
    return false
  else return true

/-- `updateFiesta`: `.first` of an empty list is no `FirebaseException`, so it is let through. -/
def updateFiesta (uid : UserId) (id : FiestaId) (form : FiestaForm) : Firestore Bool :=
  tryCatch
    (do
      TwoGather.updateFiesta id (·.saved form)
      match ← createdFiestaQuery uid id with
      | [] => throw .typeError
      | doc :: _ =>
          updateCreatedFiesta uid doc.1 form
          return false)
    fun
    | .typeError => throw .typeError
    | _ => return true

end HostForms

end TwoGather
