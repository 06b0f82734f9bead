import TwoGather.Documents
import TwoGather.Lib.Dynamic
import TwoGather.Lib.Faults

/-!
# Storing the content of a form

`createNewFiesta` and `updateFiesta` of `fiesta_controller.dart`, which store what the forms
give them: maps of any content, for the collection `fiesta` and for the `created-fiesta` of the
user. Both answer `true` for an error. Their handler takes a `FirebaseException` and lets other
errors through, and what was stored before the error stays.
-/

namespace TwoGather

open Docs Dynamic Requests

/-! ## The two collections -/

/-- The collections that the forms write to, and the time in microseconds. -/
structure FormStore where
  fiesta : AutoCollection Fields
  createdFiesta : UserId → AutoCollection Fields
  now : Int

/-- The classes of errors that the handler tells apart, and what else can be raised. -/
inductive FormErr
  /-- A request that the database refuses, or that does not reach it. -/
  | firebaseException
  /-- A cast that fails, or `null!`. -/
  | typeError
  /-- `.first` of an empty list. -/
  | stateError
  /-- A value that the database has no form for. -/
  | argumentError
  deriving DecidableEq

abbrev Form := Program FormStore FormErr

/-- The operations of both functions. -/
inductive FormOp
  | addFiesta
  | addHistory
  | points
  | addSalon
  | updateFiesta
  | findHistory
  | updateHistory
  deriving DecidableEq

namespace Form

/-- A request that may fail. -/
abbrev attempt {α : Type} (fails : Bool) (request : Form α) : Form α :=
  Program.attempt fails .firebaseException request

/-- Values are brought into their form before the request is sent. -/
def encoded (supported : Bool) : Form Unit :=
  if supported then pure () else throw .argumentError

/-- `fiesta.add(data)`, with the id that is drawn. -/
def addFiesta (fails : Bool) (data : Fields) : Form Nat := do
  encoded data.supported
  attempt fails
    (.step (fun s => { s with fiesta := s.fiesta.add (data.stored s.now) })
      fun s => pure s.fiesta.next)

/-- `users.doc(uid).collection("created-fiesta").add(data)`. -/
def addHistory (fails : Bool) (uid : UserId) (data : Fields) : Form Unit := do
  encoded data.supported
  attempt fails
    (.step (fun s => { s with
        createdFiesta := Function.update s.createdFiesta uid
          ((s.createdFiesta uid).add (data.stored s.now)) })
      fun _ => pure ())

/-- The changes of an update with their values in the form of the database. -/
def storedChanges (now : Int) (changes : List (Path × Value)) : List (Path × Value) :=
  changes.map fun entry => (entry.1, entry.2.stored now)

def supportedChanges (changes : List (Path × Value)) : Bool :=
  changes.all fun entry => entry.2.supported

/-- `fiesta.doc(id).update(changes)`: fails if the document does not exist. -/
def updateFiesta (fails : Bool) (id : Nat) (changes : List (Path × Value)) : Form Unit := do
  encoded (supportedChanges changes)
  attempt fails
    (.step (fun s => { s with
        fiesta := s.fiesta.update id (Fields.change · (storedChanges s.now changes)) })
      fun s => if (s.fiesta.get? id).isSome then pure () else throw .firebaseException)

/-- An id as it is stored. -/
def idValue (id : Nat) : Value := .string (toString id)

/-- The field `fiestaId` is this id. -/
def hasId (id : Nat) (data : Fields) : Bool :=
  (data.read "fiestaId").string? = some (toString id)

/-- `created-fiesta` of the user, where `fiestaId` is the id: the first document. -/
def findHistory (fails : Bool) (uid : UserId) (id : Nat) : Form (Option Nat) :=
  attempt fails
    (.read fun s => ((s.createdFiesta uid).docs.find? fun doc => hasId id doc.2).map Prod.fst)

/-- `reference.update(changes)` for a document that was found. -/
def updateHistory (fails : Bool) (uid : UserId) (key : Nat) (changes : List (Path × Value)) :
    Form Unit := do
  encoded (supportedChanges changes)
  attempt fails
    (.step (fun s => { s with
        createdFiesta := Function.update s.createdFiesta uid
          ((s.createdFiesta uid).update key (Fields.change · (storedChanges s.now changes))) })
      fun _ => pure ())

/-- `value as DateTime`, in microseconds. -/
def asDateTime : Value → Form Int
  | .dateTime micros => pure micros
  | _ => throw .typeError

/-- `value as String`. -/
def asString : Value → Form String
  | .string s => pure s
  | _ => throw .typeError

/-- `on FirebaseException catch (e) { return true; }`. -/
def answered (body : Form Bool) : Form Bool :=
  tryCatch body fun
    | .firebaseException => return true
    | e => throw e

end Form

/-! ## `FiestaController` -/

namespace FormController

open Form

def requiredFields : List String :=
  ["title", "category", "soundLevel", "description", "visibleAfter", "pictures", "address",
    "startAt", "endAt", "numberOfParticipant", "logistic", "visibilityRadius"]

def isNull : Value → Bool
  | .null => true
  | _ => false

def isEmptyList : Value → Bool
  | .list [] => true
  | _ => false

def enrichedFiestaData (uid : UserId) (fiestaData : Fields) : Fields :=
  fiestaData.putAll
    [("createdBy", .string uid), ("createdAt", .serverTimestamp),
      ("updatedAt", .serverTimestamp), ("isEnd", .bool false), ("participants", .list [])]

def enrichedUserData (id : Nat) (fiestaUserData : Fields) : Fields :=
  fiestaUserData.putAll
    [("fiestaRef", .reference ("fiesta/" ++ toString id)), ("fiestaId", idValue id),
      ("createdAt", .serverTimestamp)]

/-- The name of the salon: `fiestaData['title'] ?? 'Fiesta'`. -/
def salonName (fiestaData : Fields) : Value :=
  match fiestaData.read "title" with
  | .null => .string "Fiesta"
  | title => title

/-- What follows the checks. The points and the salon, which are not in the two collections, may
fail in any way. -/
def storeFiesta (fails : FormOp → Bool) (uid : UserId) (fiestaData fiestaUserData : Fields) :
    Form Bool := do
  let docRef ← addFiesta (fails .addFiesta) (enrichedFiestaData uid fiestaData)
  addHistory (fails .addHistory) uid (enrichedUserData docRef fiestaUserData)
  Program.unawaited (attempt (fails .points) (pure ()))
  Program.unawaited
    (do
      let _ ← asString (salonName fiestaData)
      attempt (fails .addSalon) (pure ()))
  return false

/-- What follows the casts of the dates. -/
def createAt (fails : FormOp → Bool) (uid : UserId) (fiestaData fiestaUserData : Fields)
    (startAt endAt : Int) : Form Bool := do
  if endAt < startAt then
    return true
  let now ← (.read FormStore.now : Form Int)
  if startAt < now then
    return true
  storeFiesta fails uid fiestaData fiestaUserData

def createNewFiesta (fails : FormOp → Bool) (currentUser : Option UserId)
    (fiestaData fiestaUserData : Fields) : Form Bool :=
  answered
    (match currentUser with
      | none => return true
      | some uid => do
          if requiredFields.any fun field => isNull (fiestaData.read field) then
            return true
          if isEmptyList (fiestaData.read "pictures") then
            return true
          let startAt ← asDateTime (fiestaData.read "startAt")
          let endAt ← asDateTime (fiestaData.read "endAt")
          createAt fails uid fiestaData fiestaUserData startAt endAt)

/-- What follows the update of the fiesta. -/
def updateCreated (fails : FormOp → Bool) (currentUser : Option UserId) (id : Nat)
    (fiestaUserData : List (Path × Value)) : Form Bool :=
  match currentUser with
  | none => throw .typeError
  | some uid => do
      let docs ← findHistory (fails .findHistory) uid id
      match docs with
      | none => throw .stateError
      | some key => do
          updateHistory (fails .updateHistory) uid key fiestaUserData
          return false

def updateFiesta (fails : FormOp → Bool) (currentUser : Option UserId) (id : Nat)
    (fiestaData fiestaUserData : List (Path × Value)) : Form Bool :=
  answered
    (do
      Form.updateFiesta (fails .updateFiesta) id fiestaData
      updateCreated fails currentUser id fiestaUserData)

end FormController

end TwoGather
