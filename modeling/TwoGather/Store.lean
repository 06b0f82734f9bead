import Mathlib.Logic.Function.Basic
import TwoGather.Lib.Faults
import TwoGather.Documents

/-!
# The store and its requests

`Store` is the Firestore database, together with what the requests see of the
outside: the server clock, the push service and the file storage. Sub-collections
live beside the documents of `users`, as in Firestore, where they exist whether or
not their parent document does.

A function of the app or of the cloud functions is a `Firestore` program: each
`await` on the database is one atomic request. A function whose whole body stands in
`try { .. } catch (e)` and only logs or returns the error is the program of that
body, with the caught error as its outcome.
-/

namespace TwoGather

open Docs Requests

structure Store where
  users : Collection UserId User
  fiestas : Collection FiestaId Fiesta
  reports : AutoCollection Report
  codes : AutoCollection TrustCode
  notifications : UserId → AutoCollection Notification
  sponsorship : UserId → AutoCollection Sponsorship
  createdFiesta : UserId → AutoCollection CreatedFiesta
  participatedFiesta : UserId → Collection FiestaId ParticipatedFiesta
  userReports : UserId → AutoCollection UserReport
  salons : Collection SalonId Salon := ⟨[], List.nodup_nil⟩
  /-- The messages of a salon with a drawn id. -/
  messages : SalonId → AutoCollection ChatMessage := fun _ => .empty
  /-- The messages of a salon whose id was given by a client. -/
  media : SalonId → Collection String ChatMessage := fun _ => ⟨[], List.nodup_nil⟩
  /-- The time of the request. -/
  clock : Timestamp
  /-- Whether a call of `sendMulticast` for this token resolves. It throws for a token that is
  null or empty, and when the batch fails as a whole; a token that has expired is only counted in
  what it resolves to. -/
  push : Stored String → Bool
  /-- Whether a call of `send` resolves, which throws for a token that has expired too. -/
  pushOne : Stored String → Bool := fun _ => true
  /-- Whether the SDK accepts `FieldValue.increment(NaN)`. -/
  takesNaN : Bool
  /-- The download url of an uploaded file, if the upload succeeds. -/
  upload : String → Option String

/-- What a request or the code around it can raise. -/
inductive Err
  /-- An update of a document that does not exist. -/
  | notFound
  /-- A property of `undefined`, or a call of a method that does not exist. -/
  | typeError
  /-- An argument the Firestore SDK refuses before it sends anything. -/
  | invalidArgument
  | messaging
  | upload
  /-- `throw Exception(..)` in the code itself. -/
  | exception
  /-- A request that the service refuses, or that does not reach it. -/
  | unavailable
  /-- `toInt` of a number that is not finite. -/
  | unsupported
  deriving DecidableEq

abbrev Firestore := Program Store Err

namespace Store

/-! ## Reading and writing documents -/

/-- The document `users/{u}`, if it exists. -/
def user (s : Store) (u : UserId) : Option User :=
  s.users.get? u

/-- The document `fiesta/{f}`, if it exists. -/
def fiesta (s : Store) (f : FiestaId) : Option Fiesta :=
  s.fiestas.get? f

def updateUser (s : Store) (u : UserId) (g : User → User) : Store :=
  { s with users := s.users.update u g }

def updateFiesta (s : Store) (f : FiestaId) (g : Fiesta → Fiesta) : Store :=
  { s with fiestas := s.fiestas.update f g }

def deleteFiesta (s : Store) (f : FiestaId) : Store :=
  { s with fiestas := s.fiestas.delete f }

def addNotification (s : Store) (u : UserId) (n : Notification) : Store :=
  { s with notifications := Function.update s.notifications u ((s.notifications u).add n) }

/-- A database of users alone, at the epoch, where every push resolves and every file is
taken. -/
def ofUsers (users : Collection UserId User) : Store where
  users := users
  fiestas := ⟨[], List.nodup_nil⟩
  reports := .empty
  codes := .empty
  notifications _ := .empty
  sponsorship _ := .empty
  createdFiesta _ := .empty
  participatedFiesta _ := ⟨[], List.nodup_nil⟩
  userReports _ := .empty
  clock := .epoch
  push _ := true
  takesNaN := false
  upload name := some name

def updateNotification (s : Store) (u : UserId) (k : Nat) (g : Notification → Notification) :
    Store :=
  { s with notifications := Function.update s.notifications u ((s.notifications u).update k g) }

/-! ### Users -/

/-- What holds of every user is what holds of every document of `users`. -/
theorem forall_user {s : Store} {P : UserId → User → Prop} :
    (∀ u data, s.user u = some data → P u data) ↔ ∀ doc ∈ s.users.docs, P doc.1 doc.2 := by
  constructor
  · intro all doc member
    exact all doc.1 doc.2 (Collection.mem_docs.mp member)
  · intro all u data found
    exact all (u, data) (Collection.mem_docs.mpr found)

@[simp] theorem user_updateUser (s : Store) (u v : UserId) (g : User → User) :
    (s.updateUser u g).user v = if v = u then (s.user v).map g else s.user v :=
  Collection.get?_update s.users u v g

@[simp] theorem clock_updateUser (s : Store) (u : UserId) (g : User → User) :
    (s.updateUser u g).clock = s.clock := rfl

@[simp] theorem clock_updateFiesta (s : Store) (f : FiestaId) (g : Fiesta → Fiesta) :
    (s.updateFiesta f g).clock = s.clock := rfl

/-- An update creates no document. -/
theorem isSome_updateUser (s : Store) (u v : UserId) (g : User → User) :
    ((s.updateUser u g).user v).isSome = (s.user v).isSome := by
  rw [user_updateUser]
  split <;> simp

/-- An update changes nothing exactly if it leaves the document as it is. -/
theorem updateUser_eq_self {s : Store} {u : UserId} {g : User → User} :
    s.updateUser u g = s ↔ ∀ data ∈ s.user u, g data = data := by
  unfold user
  rw [← Collection.update_eq_self]
  constructor
  · exact congrArg Store.users
  · intro same
    unfold updateUser
    rw [same]

/-- The same for fiestas. -/
theorem updateFiesta_eq_self {s : Store} {f : FiestaId} {g : Fiesta → Fiesta} :
    s.updateFiesta f g = s ↔ ∀ data ∈ s.fiesta f, g data = data := by
  unfold fiesta
  rw [← Collection.update_eq_self]
  constructor
  · exact congrArg Store.fiestas
  · intro same
    unfold updateFiesta
    rw [same]

/-- Who has no document is not updated. -/
theorem updateUser_of_none {s : Store} {u : UserId} (missing : s.user u = none)
    (g : User → User) : s.updateUser u g = s := by
  rw [updateUser_eq_self, missing]
  intro data found
  cases found

/-- A fiesta that is not there is not updated. -/
theorem updateFiesta_of_none {s : Store} {f : FiestaId} (missing : s.fiesta f = none)
    (g : Fiesta → Fiesta) : s.updateFiesta f g = s := by
  rw [updateFiesta_eq_self, missing]
  intro data found
  cases found

/-- Two updates of one fiesta are one. -/
theorem updateFiesta_updateFiesta (s : Store) (f : FiestaId) (g h : Fiesta → Fiesta) :
    (s.updateFiesta f g).updateFiesta f h = s.updateFiesta f fun d => h (g d) := by
  unfold updateFiesta
  congr 1
  exact Collection.update_update s.fiestas f g h

@[simp] theorem user_updateFiesta (s : Store) (f : FiestaId) (g : Fiesta → Fiesta) (v : UserId) :
    (s.updateFiesta f g).user v = s.user v := rfl

@[simp] theorem user_deleteFiesta (s : Store) (f : FiestaId) (v : UserId) :
    (s.deleteFiesta f).user v = s.user v := rfl

@[simp] theorem user_addNotification (s : Store) (u v : UserId) (n : Notification) :
    (s.addNotification u n).user v = s.user v := rfl

@[simp] theorem user_updateNotification (s : Store) (u v : UserId) (k : Nat)
    (g : Notification → Notification) : (s.updateNotification u k g).user v = s.user v := rfl

/-! ### Fiestas -/

@[simp] theorem fiesta_updateUser (s : Store) (u : UserId) (g : User → User) (f : FiestaId) :
    (s.updateUser u g).fiesta f = s.fiesta f := rfl

@[simp] theorem fiesta_updateFiesta (s : Store) (f e : FiestaId) (g : Fiesta → Fiesta) :
    (s.updateFiesta f g).fiesta e = if e = f then (s.fiesta e).map g else s.fiesta e :=
  Collection.get?_update s.fiestas f e g

@[simp] theorem fiesta_deleteFiesta (s : Store) (f e : FiestaId) :
    (s.deleteFiesta f).fiesta e = if e = f then none else s.fiesta e :=
  Collection.get?_delete s.fiestas f e

/-- Updates and deletions of fiestas commute. -/
theorem updateFiesta_deleteFiesta (s : Store) (f e : FiestaId) (g : Fiesta → Fiesta) :
    (s.deleteFiesta e).updateFiesta f g = (s.updateFiesta f g).deleteFiesta e := by
  unfold updateFiesta deleteFiesta
  congr 1
  exact Collection.update_delete s.fiestas f e g

@[simp] theorem fiesta_addNotification (s : Store) (u : UserId) (n : Notification)
    (f : FiestaId) : (s.addNotification u n).fiesta f = s.fiesta f := rfl

/-! ### Notifications -/

@[simp] theorem notifications_updateUser (s : Store) (u : UserId) (g : User → User) :
    (s.updateUser u g).notifications = s.notifications := rfl

@[simp] theorem notifications_updateFiesta (s : Store) (f : FiestaId) (g : Fiesta → Fiesta) :
    (s.updateFiesta f g).notifications = s.notifications := rfl

@[simp] theorem notifications_addNotification (s : Store) (u v : UserId) (n : Notification) :
    (s.addNotification u n).notifications v =
      if v = u then (s.notifications v).add n else s.notifications v := by
  unfold addNotification
  by_cases same : v = u
  · subst same
    simp
  · simp [same]

end Store

/-! ## Requests -/

/-- `users.doc(u).get()`. -/
def getUser (u : UserId) : Firestore (Option User) :=
  .read (·.user u)

/-- `users.doc(u).update(..)`: fails if the document does not exist. -/
def updateUser (u : UserId) (g : User → User) : Firestore Unit :=
  .step (·.updateUser u g) fun s => if (s.user u).isSome then pure () else throw .notFound

/-- `fiesta.doc(f).get()`. -/
def getFiesta (f : FiestaId) : Firestore (Option Fiesta) :=
  .read (·.fiesta f)

/-- `fiesta.doc(f).update(..)`: fails if the document does not exist. -/
def updateFiesta (f : FiestaId) (g : Fiesta → Fiesta) : Firestore Unit :=
  .step (·.updateFiesta f g) fun s => if (s.fiesta f).isSome then pure () else throw .notFound

/-- `fiesta.doc(f).delete()`: succeeds whether or not the document exists. -/
def deleteFiestaDoc (f : FiestaId) : Firestore Unit :=
  .step (·.deleteFiesta f) fun _ => pure ()

/-- `users.doc(u).collection("notifications").add(n)`, where `receivedAt` is the time of
the request. -/
def addNotification (u : UserId) (n : Timestamp → Notification) : Firestore Unit :=
  .step (fun s => s.addNotification u (n s.clock)) fun _ => pure ()

/-- `users.doc(u).collection("notifications").doc(k).update(..)`. -/
def updateNotification (u : UserId) (k : Nat) (g : Notification → Notification) :
    Firestore Unit :=
  .step (·.updateNotification u k g) fun s =>
    if ((s.notifications u).get? k).isSome then pure () else throw .notFound

/-- The time now, of the server or of the client. -/
def now : Firestore Timestamp :=
  .read (·.clock)

/-- `new Date()`, to the millisecond. -/
def newDate : Firestore Js.Date :=
  .read fun s => some (s.clock.micros / 1000)

/-- `admin.messaging().sendMulticast({tokens: [token], ..})`. -/
def sendMulticast (token : Stored String) : Firestore Unit :=
  .step id fun s => if s.push token then pure () else throw .messaging

/-- The tokens for which `sendMulticast` resolves while the service can be reached. -/
def nonEmptyToken : Stored String → Bool
  | .value token => token ≠ ""
  | _ => false

/-- `admin.messaging().send({token, ..})`. -/
def send (token : Stored String) : Firestore Unit :=
  .step id fun s => if s.pushOne token then pure () else throw .messaging

/-- Access to a property of a document's data: a missing document has no data. -/
def member {α : Type} : Option α → Firestore α
  | some data => pure data
  | none => throw .typeError

/-- A field given to the SDK: `undefined` is refused, since the app does not set
`ignoreUndefinedProperties`. -/
def defined {α : Type} : Stored α → Firestore (Stored α)
  | .undefined => throw .invalidArgument
  | f => pure f

/-- A request that the service may refuse. -/
abbrev attempt {α : Type} (fails : Bool) (request : Firestore α) : Firestore α :=
  Program.attempt fails .unavailable request

/-- `snapshot.data()?.field`. -/
def optional {α : Type} (field : User → Stored α) : Option User → Stored α
  | some data => field data
  | none => .undefined

/-! ## Running the requests -/

section Exec

variable (s : Store)

@[simp] theorem exec_getUser (u : UserId) : (getUser u).exec s = (.ok (s.user u), s) := rfl

/-- An update of a user fails exactly if there is no document. -/
@[simp] theorem exec_updateUser (u : UserId) (g : User → User) :
    (updateUser u g).exec s =
      (if (s.user u).isSome then .ok () else .error .notFound, s.updateUser u g) := by
  unfold updateUser
  rw [Program.exec_step, Program.exec_ite]
  split <;> rfl

@[simp] theorem exec_getFiesta (f : FiestaId) :
    (getFiesta f).exec s = (.ok (s.fiesta f), s) := rfl

/-- An update of a fiesta fails exactly if there is no document. -/
@[simp] theorem exec_updateFiesta (f : FiestaId) (g : Fiesta → Fiesta) :
    (updateFiesta f g).exec s =
      (if (s.fiesta f).isSome then .ok () else .error .notFound, s.updateFiesta f g) := by
  unfold updateFiesta
  rw [Program.exec_step, Program.exec_ite]
  split <;> rfl

@[simp] theorem exec_deleteFiestaDoc (f : FiestaId) :
    (deleteFiestaDoc f).exec s = (.ok (), s.deleteFiesta f) := rfl

/-- A new notification has the time of the request. -/
@[simp] theorem exec_addNotification (u : UserId) (n : Timestamp → Notification) :
    (addNotification u n).exec s = (.ok (), s.addNotification u (n s.clock)) := rfl

@[simp] theorem exec_updateNotification (u : UserId) (k : Nat)
    (g : Notification → Notification) :
    (updateNotification u k g).exec s =
      (if ((s.notifications u).get? k).isSome then .ok () else .error .notFound,
        s.updateNotification u k g) := by
  unfold updateNotification
  rw [Program.exec_step, Program.exec_ite]
  split <;> rfl

@[simp] theorem exec_now : now.exec s = (.ok s.clock, s) := rfl

@[simp] theorem exec_newDate :
    newDate.exec s = (.ok (some (s.clock.micros / 1000)), s) := rfl

/-- A push changes nothing, and may throw. -/
@[simp] theorem exec_sendMulticast (token : Stored String) :
    (sendMulticast token).exec s = (if s.push token then .ok () else .error .messaging, s) := by
  unfold sendMulticast
  rw [Program.exec_step, Program.exec_ite]
  split <;> rfl

/-- The same for the push to one token. -/
@[simp] theorem exec_send (token : Stored String) :
    (send token).exec s = (if s.pushOne token then .ok () else .error .messaging, s) := by
  unfold send
  rw [Program.exec_step, Program.exec_ite]
  split <;> rfl

@[simp] theorem exec_member_some {α : Type} (data : α) :
    (member (some data)).exec s = (.ok data, s) := rfl

@[simp] theorem exec_member_none {α : Type} :
    (member (none : Option α)).exec s = (.error .typeError, s) := rfl

/-- A field that is `undefined` is refused. -/
theorem exec_defined {α : Type} (f : Stored α) :
    (defined f).exec s = (if f.isUndefined then .error .invalidArgument else .ok f, s) := by
  cases f with
  | undefined => rfl
  | null => rfl
  | value a => rfl

end Exec

/-! ## Requests that succeed -/

section Ok

variable {s t : Store}

/-- What was read is what is there. -/
theorem getUser_ok {u : UserId} {data : Option User} (run : (getUser u).exec s = (.ok data, t)) :
    s.user u = data ∧ s = t := by
  cases run
  exact ⟨rfl, rfl⟩

/-- What was read is what is there. -/
theorem getFiesta_ok {f : FiestaId} {data : Option Fiesta}
    (run : (getFiesta f).exec s = (.ok data, t)) : s.fiesta f = data ∧ s = t := by
  cases run
  exact ⟨rfl, rfl⟩

/-- An update that did not fail found its user. -/
theorem updateUser_ok {u : UserId} {g : User → User} {a : Unit}
    (run : (updateUser u g).exec s = (.ok a, t)) :
    (s.user u).isSome ∧ t = s.updateUser u g := by
  rw [exec_updateUser] at run
  split at run
  case isTrue exist =>
    cases run
    exact ⟨exist, rfl⟩
  case isFalse => cases run

/-- An update that did not fail found its fiesta. -/
theorem updateFiesta_ok {f : FiestaId} {g : Fiesta → Fiesta} {a : Unit}
    (run : (updateFiesta f g).exec s = (.ok a, t)) :
    (s.fiesta f).isSome ∧ t = s.updateFiesta f g := by
  rw [exec_updateFiesta] at run
  split at run
  case isTrue exist =>
    cases run
    exact ⟨exist, rfl⟩
  case isFalse => cases run

/-- The notification has been added, with the time of the request. -/
theorem addNotification_ok {u : UserId} {n : Timestamp → Notification} {a : Unit}
    (run : (addNotification u n).exec s = (.ok a, t)) : t = s.addNotification u (n s.clock) := by
  cases run
  rfl

/-- The data were there. -/
theorem member_ok {α : Type} {o : Option α} {a : α} (run : (member o).exec s = (.ok a, t)) :
    o = some a ∧ s = t := by
  cases o with
  | none => cases run
  | some data =>
      cases run
      exact ⟨rfl, rfl⟩

/-- The field was not `undefined`. -/
theorem defined_ok {α : Type} {f g : Stored α} (run : (defined f).exec s = (.ok g, t)) :
    f = g ∧ s = t := by
  rw [exec_defined] at run
  split at run
  · cases run
  · cases run
    exact ⟨rfl, rfl⟩

end Ok

/-! ## Requests that may be cut off -/

section Visits

variable {s t : Store}

/-- On the way there are the stores before and after the update. -/
theorem visits_updateFiesta {f : FiestaId} {g : Fiesta → Fiesta}
    (visit : (updateFiesta f g).Visits s t) : t = s ∨ t = s.updateFiesta f g := by
  cases visit with
  | start => exact .inl rfl
  | later rest =>
      dsimp only at rest
      right
      split at rest
      · cases rest
        rfl
      · cases rest
        rfl

/-- On the way there are the stores before and after the request. -/
theorem visits_addNotification {u : UserId} {n : Timestamp → Notification}
    (visit : (addNotification u n).Visits s t) :
    t = s ∨ t = s.addNotification u (n s.clock) := by
  cases visit with
  | start => exact .inl rfl
  | later rest =>
      cases rest
      exact .inr rfl

end Visits

/-! ## What a request does to the store it finds -/

section Keeps

variable {R : Store → Store → Prop}

/-- An update of a user keeps what each such update keeps. -/
theorem keeps_updateUser {u : UserId} {g : User → User} (each : ∀ s, R s (s.updateUser u g)) :
    (updateUser u g).Keeps R := by
  intro s
  refine ⟨each s, ?_⟩
  dsimp only
  split
  · exact .pure ()
  · exact .throw _

/-- The same for fiestas. -/
theorem keeps_updateFiesta {f : FiestaId} {g : Fiesta → Fiesta}
    (each : ∀ s, R s (s.updateFiesta f g)) : (updateFiesta f g).Keeps R := by
  intro s
  refine ⟨each s, ?_⟩
  dsimp only
  split
  · exact .pure ()
  · exact .throw _

/-- The same for notifications, at any time. -/
theorem keeps_addNotification {u : UserId} {n : Timestamp → Notification}
    (each : ∀ s, R s (s.addNotification u (n s.clock))) : (addNotification u n).Keeps R :=
  fun s => ⟨each s, .pure ()⟩

theorem keeps_member {α : Type} (o : Option α) : (member o).Keeps R := by
  cases o with
  | none => exact .throw _
  | some data => exact .pure data

theorem keeps_defined {α : Type} (f : Stored α) : (defined f).Keeps R := by
  cases f with
  | undefined => exact .throw _
  | null => exact .pure _
  | value a => exact .pure _

end Keeps

/-! ## What kind of request it is -/

section Makes

variable {A : (Store → Store) → Prop}

theorem makes_updateUser {u : UserId} {g : User → User} (act : A (·.updateUser u g)) :
    (updateUser u g).Makes A := by
  refine ⟨act, fun s => ?_⟩
  dsimp only
  split
  · exact .pure ()
  · exact .throw _

theorem makes_updateFiesta {f : FiestaId} {g : Fiesta → Fiesta} (act : A (·.updateFiesta f g)) :
    (updateFiesta f g).Makes A := by
  refine ⟨act, fun s => ?_⟩
  dsimp only
  split
  · exact .pure ()
  · exact .throw _

theorem makes_addNotification {u : UserId} {n : Timestamp → Notification}
    (act : A fun s => s.addNotification u (n s.clock)) : (addNotification u n).Makes A :=
  ⟨act, fun _ => .pure ()⟩

theorem makes_member {α : Type} (o : Option α) : (member o).Makes A := by
  cases o with
  | none => exact .throw _
  | some data => exact .pure data

theorem makes_defined {α : Type} (f : Stored α) : (defined f).Makes A := by
  cases f with
  | undefined => exact .throw _
  | null => exact .pure _
  | value a => exact .pure _

theorem makes_sendMulticast (reads : A id) (token : Stored String) :
    (sendMulticast token).Makes A := by
  refine ⟨reads, fun s => ?_⟩
  dsimp only
  split
  · exact .pure ()
  · exact .throw _

theorem makes_send (reads : A id) (token : Stored String) : (send token).Makes A := by
  refine ⟨reads, fun s => ?_⟩
  dsimp only
  split
  · exact .pure ()
  · exact .throw _

end Makes

end TwoGather
