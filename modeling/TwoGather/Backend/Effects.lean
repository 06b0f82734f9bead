import TwoGather.Fiesta.Dismissal
import TwoGather.Fiesta.EndJob
import TwoGather.Fiesta.HostForms
import TwoGather.Fiesta.Requests
import TwoGather.Lib.Causes
import TwoGather.LockDuo.Controller
import TwoGather.Recommandation.Controller
import TwoGather.Report.CleanJob
import TwoGather.Session.Profile
import TwoGather.Sponsorship.Controller

/-!
# The effects of the requests

One request of the backend changes one user, one fiesta or one notification, creates or deletes
one of these, or does the like elsewhere: in the salons, the requests to sponsors, the codes and
the reports. `Effect` lists what it may do; `Effect.Does` says what that does to the store.

`TwoGather/Backend/Calls.lean` has the effects of every call, and the modules after it what
follows over all interleavings.
-/

namespace TwoGather

open Docs Requests

/-! ## Writes on one document -/

/-- A write of the backend on a document of `users`. -/
inductive UserWrite
  | setFiesta (fiesta : Stored FiestaId)
  | requestFiesta (fiestaId : FiestaId)
  | dismissFiesta (fiestaId : FiestaId)
  | clearDismissed
  | dismissFriend (friendId : UserId)
  | block (userId : UserId)
  | unblock (userId : UserId)
  | request (friend : UserId)
  | unrequest (friend : UserId)
  | addConnexion (friend : UserId)
  | befriend (friend : UserId)
  /-- One side of the transaction that accepts a friend request. -/
  | accept (friend : UserId)
  | setRequests (friendsRequest : List UserId)
  | setFriends (friends : List Friend)
  | lock (duo : Duo)
  | unlock
  | incrementPoint (n : Js.Number)
  | createFiesta
  | setLevel (level : Int)
  | rate (ratings : Ratings)
  | approve
  | setStatus (status : Stored String)
  | setTrustCode (code : String)
  | edit (e : ProfileEdit)

def UserWrite.write (u : User) : UserWrite → User
  | .setFiesta fiesta => u.setFiesta fiesta
  | .requestFiesta fiestaId => u.requestFiesta fiestaId
  | .dismissFiesta fiestaId => u.dismissFiesta fiestaId
  | .clearDismissed => u.clearDismissed
  | .dismissFriend friendId => u.dismissFriend friendId
  | .block userId => u.block userId
  | .unblock userId => u.unblock userId
  | .request friend => u.request friend
  | .unrequest friend => u.unrequest friend
  | .addConnexion friend => u.addConnexion friend
  | .befriend friend => u.befriend friend
  | .accept friend => u.accept friend
  | .setRequests friendsRequest => { u with friendsRequest := .value friendsRequest }
  | .setFriends friends => { u with friends := .value friends }
  | .lock duo => u.lock duo
  | .unlock => u.unlock
  | .incrementPoint n => u.incrementPoint n
  | .createFiesta => u.createFiesta
  | .setLevel level => u.setLevel level
  | .rate ratings => { u with ratings }
  | .approve => u.approve
  | .setStatus status => { u with completeProfilStatus := status }
  | .setTrustCode code => { u with personnalTrustCode := .value code }
  | .edit e => u.edit e

/-- A write of the backend on a document of `fiesta`. -/
inductive FiestaWrite
  | union (e : Participant)
  | remove (e : Participant)
  | markEnded
  | rate (ratings : Ratings)
  | save (form : FiestaForm)

def FiestaWrite.write (f : Fiesta) : FiestaWrite → Fiesta
  | .union e => f.union e
  | .remove e => f.remove e
  | .markEnded => f.markEnded
  | .rate ratings => { f with ratings }
  | .save form => f.saved form

/-- A write of the backend on a notification. -/
inductive Mark
  | complete
  | read

def Mark.write (n : Notification) : Mark → Notification
  | .complete => { n with isComplete := true }
  | .read => { n with isRead := true }

/-- A write of the backend on a document of `Salons`. -/
inductive SalonWrite
  | setLast (m : ChatMessage) (k : MessageId)
  | demand (key : Nat)
  | setLock (lock : LockState)
  | join (u : UserId)
  | addUsers (users : List UserId)
  | removeUsers (users : List UserId)

def SalonWrite.write (salon : Salon) : SalonWrite → Salon
  | .setLast m k => salon.setLast m k
  | .demand key => salon.demand key
  | .setLock lock => salon.setLock lock
  | .join u => salon.join u
  | .addUsers users => salon.addUsers users
  | .removeUsers users => salon.removeUsers users

/-- A write of the backend on a message. -/
inductive MessageWrite
  /-- A demand of a lock shows that it was accepted. -/
  | accept
  | hideFrom (u : UserId)

def MessageWrite.write (m : ChatMessage) : MessageWrite → ChatMessage
  | .accept => { m with state := .accepted }
  | .hideFrom u => m.hideFrom u

/-- A write of the backend on a request to a sponsor. -/
inductive SponsorshipWrite
  | accept (acceptedAt : Timestamp)
  | process (accepted : Bool) (processedAt : Timestamp)

def SponsorshipWrite.write (request : Sponsorship) : SponsorshipWrite → Sponsorship
  | .accept acceptedAt => { request with isAccepted := true, acceptedAt := .value acceptedAt }
  | .process accepted processedAt =>
      { request with isAccepted := accepted, processedAt := .value processedAt }

/-! ## Effects -/

/-- What is neither a user nor a fiesta nor a notification. -/
inductive Elsewhere
  /-- A new document for a salon, in the place of an old one if there is one. -/
  | storeSalon (id : SalonId) (data : Salon)
  | salon (id : SalonId) (w : SalonWrite)
  | deleteSalon (id : SalonId)
  | message (id : SalonId) (m : ChatMessage)
  | media (id : SalonId) (k : String) (m : ChatMessage)
  | onMessage (id : SalonId) (k : MessageId) (w : MessageWrite)
  | deleteMessage (id : SalonId) (k : MessageId)
  | sponsor (u : UserId) (request : Sponsorship)
  | sponsorship (u : UserId) (r : Nat) (w : SponsorshipWrite)
  | dismissSponsorship (u : UserId) (r : Nat)
  | addCode (code : TrustCode)
  | deleteCode (k : Nat)
  | addReport (report : Report)
  | deleteReport (k : Nat)
  | addUserReport (u : UserId) (report : UserReport)
  | addCreated (u : UserId) (data : CreatedFiesta)
  | saveCreated (u : UserId) (k : Nat) (form : FiestaForm)
  | deleteCreated (u : UserId) (k : Nat)

inductive Effect
  /-- Nothing; time may pass. -/
  | nothing
  | elsewhere (x : Elsewhere)
  | user (u : UserId) (w : UserWrite)
  /-- The two sides of the transaction at once. -/
  | accept (u v : UserId)
  | createUser (u : UserId) (data : User)
  | deleteUser (u : UserId)
  | createFiesta (f : FiestaId) (data : Fiesta)
  | fiesta (f : FiestaId) (w : FiestaWrite)
  | deleteFiesta (f : FiestaId)
  | notify (u : UserId) (n : Notification)
  | mark (u : UserId) (k : Nat) (m : Mark)

/-- Only time has passed. -/
def Store.Idle (s t : Store) : Prop :=
  ∃ clock : Timestamp, s.clock.micros ≤ clock.micros ∧ t = { s with clock }

theorem Store.Idle.refl (s : Store) : s.Idle s :=
  ⟨s.clock, Int.le_refl _, rfl⟩

/-- Users, fiestas and notifications are the same, and the clock does not run back. -/
structure Store.SameShown (s t : Store) : Prop where
  users : t.users = s.users
  fiestas : t.fiestas = s.fiestas
  notifications : t.notifications = s.notifications
  clock : s.clock.micros ≤ t.clock.micros

def Elsewhere.Does : Elsewhere → Store → Store → Prop
  | .storeSalon id data, s, t => t = s.setSalon id data
  | .salon id w, s, t => t = s.updateSalon id w.write
  | .deleteSalon id, s, t => t = s.deleteSalon id
  | .message id m, s, t => t = s.addMessage id m
  | .media id k m, s, t => t = s.setMedia id k m
  | .onMessage id k w, s, t => t = s.onMessage id k w.write
  | .deleteMessage id k, s, t => t = s.deleteMessage id k
  | .sponsor u request, s, t =>
      t = { s with
            sponsorship := Function.update s.sponsorship u ((s.sponsorship u).add request) }
  | .sponsorship u r w, s, t =>
      t = { s with
            sponsorship :=
              Function.update s.sponsorship u ((s.sponsorship u).update r w.write) }
  | .dismissSponsorship u r, s, t =>
      t = { s with
            sponsorship := Function.update s.sponsorship u ((s.sponsorship u).delete r) }
  | .addCode code, s, t => t = { s with codes := s.codes.add code }
  | .deleteCode k, s, t => t = { s with codes := s.codes.delete k }
  | .addReport report, s, t => t = { s with reports := s.reports.add report }
  | .deleteReport k, s, t => t = { s with reports := s.reports.delete k }
  | .addUserReport u report, s, t =>
      t = { s with
            userReports := Function.update s.userReports u ((s.userReports u).add report) }
  | .addCreated u data, s, t =>
      t = { s with
            createdFiesta := Function.update s.createdFiesta u ((s.createdFiesta u).add data) }
  | .saveCreated u k form, s, t =>
      t = { s with
            createdFiesta :=
              Function.update s.createdFiesta u ((s.createdFiesta u).update k (·.saved form)) }
  | .deleteCreated u k, s, t =>
      t = { s with
            createdFiesta := Function.update s.createdFiesta u ((s.createdFiesta u).delete k) }

def Effect.Does : Effect → Store → Store → Prop
  | .nothing, s, t => s.Idle t
  | .elsewhere x, s, t => x.Does s t
  | .user u w, s, t => t = s.updateUser u w.write
  | .accept u v, s, t =>
      t = (s.updateUser u (·.accept v)).updateUser v (·.accept u)
  | .createUser u data, s, t => t = { s with users := s.users.set u data }
  | .deleteUser u, s, t => t = { s with users := s.users.delete u }
  | .createFiesta f data, s, t => t = s.createFiesta f data
  | .fiesta f w, s, t => t = s.updateFiesta f w.write
  | .deleteFiesta f, s, t => t = s.deleteFiesta f
  | .notify u n, s, t => t = s.addNotification u n
  | .mark u k m, s, t => t = s.updateNotification u k m.write

section Does

variable {e : Effect} {s t : Store}

theorem Store.Idle.sameShown (idle : s.Idle t) : s.SameShown t := by
  rcases idle with ⟨clock, later, rfl⟩
  exact ⟨rfl, rfl, rfl, later⟩

theorem Elsewhere.sameShown {x : Elsewhere} (does : x.Does s t) : s.SameShown t := by
  cases x with
  | _ =>
      cases does
      exact ⟨rfl, rfl, rfl, Int.le_refl _⟩

/-- The users are the same, or the effect is one on a user. -/
theorem Effect.users_of_does (does : e.Does s t) :
    t.users = s.users ∨ (∃ u w, e = .user u w ∧ t = s.updateUser u w.write) ∨
      (∃ u v, e = .accept u v ∧
        t = (s.updateUser u (·.accept v)).updateUser v (·.accept u)) ∨
      (∃ u data, e = .createUser u data ∧ t = { s with users := s.users.set u data }) ∨
      ∃ u, e = .deleteUser u ∧ t = { s with users := s.users.delete u } := by
  cases e with
  | nothing => exact .inl does.sameShown.users
  | elsewhere x => exact .inl (x.sameShown does).users
  | user u w => exact .inr (.inl ⟨u, w, rfl, does⟩)
  | accept u v => exact .inr (.inr (.inl ⟨u, v, rfl, does⟩))
  | createUser u data => exact .inr (.inr (.inr (.inl ⟨u, data, rfl, does⟩)))
  | deleteUser u => exact .inr (.inr (.inr (.inr ⟨u, rfl, does⟩)))
  | createFiesta _ _ =>
      cases does
      exact .inl rfl
  | fiesta _ _ =>
      cases does
      exact .inl rfl
  | deleteFiesta _ =>
      cases does
      exact .inl rfl
  | notify _ _ =>
      cases does
      exact .inl rfl
  | mark _ _ _ =>
      cases does
      exact .inl rfl

/-- The fiestas are the same, or the effect is one on a fiesta. -/
theorem Effect.fiestas_of_does (does : e.Does s t) :
    t.fiestas = s.fiestas ∨ (∃ f data, e = .createFiesta f data ∧ t = s.createFiesta f data) ∨
      (∃ f w, e = .fiesta f w ∧ t = s.updateFiesta f w.write) ∨
      ∃ f, e = .deleteFiesta f ∧ t = s.deleteFiesta f := by
  cases e with
  | nothing => exact .inl does.sameShown.fiestas
  | elsewhere x => exact .inl (x.sameShown does).fiestas
  | createFiesta f data => exact .inr (.inl ⟨f, data, rfl, does⟩)
  | fiesta f w => exact .inr (.inr (.inl ⟨f, w, rfl, does⟩))
  | deleteFiesta f => exact .inr (.inr (.inr ⟨f, rfl, does⟩))
  | user _ _ =>
      cases does
      exact .inl rfl
  | accept _ _ =>
      cases does
      exact .inl rfl
  | createUser _ _ =>
      cases does
      exact .inl rfl
  | deleteUser _ =>
      cases does
      exact .inl rfl
  | notify _ _ =>
      cases does
      exact .inl rfl
  | mark _ _ _ =>
      cases does
      exact .inl rfl

/-- The notifications are the same, or the effect is one on a notification. -/
theorem Effect.notifications_of_does (does : e.Does s t) :
    t.notifications = s.notifications ∨
      (∃ u n, e = .notify u n ∧ t = s.addNotification u n) ∨
      ∃ u k m, e = .mark u k m ∧ t = s.updateNotification u k m.write := by
  cases e with
  | nothing => exact .inl does.sameShown.notifications
  | elsewhere x => exact .inl (x.sameShown does).notifications
  | notify u n => exact .inr (.inl ⟨u, n, rfl, does⟩)
  | mark u k m => exact .inr (.inr ⟨u, k, m, rfl, does⟩)
  | user _ _ =>
      cases does
      exact .inl rfl
  | accept _ _ =>
      cases does
      exact .inl rfl
  | createUser _ _ =>
      cases does
      exact .inl rfl
  | deleteUser _ =>
      cases does
      exact .inl rfl
  | createFiesta _ _ =>
      cases does
      exact .inl rfl
  | fiesta _ _ =>
      cases does
      exact .inl rfl
  | deleteFiesta _ =>
      cases does
      exact .inl rfl

/-- The clock does not run back. -/
theorem Effect.clock_of_does (does : e.Does s t) : s.clock.micros ≤ t.clock.micros := by
  cases e with
  | nothing => exact does.sameShown.clock
  | elsewhere x => exact (x.sameShown does).clock
  | user _ _ =>
      cases does
      exact Int.le_refl _
  | accept _ _ =>
      cases does
      exact Int.le_refl _
  | createUser _ _ =>
      cases does
      exact Int.le_refl _
  | deleteUser _ =>
      cases does
      exact Int.le_refl _
  | createFiesta _ _ =>
      cases does
      exact Int.le_refl _
  | fiesta _ _ =>
      cases does
      exact Int.le_refl _
  | deleteFiesta _ =>
      cases does
      exact Int.le_refl _
  | notify _ _ =>
      cases does
      exact Int.le_refl _
  | mark _ _ _ =>
      cases does
      exact Int.le_refl _

theorem Store.user_of_users (same : t.users = s.users) (u : UserId) : t.user u = s.user u := by
  unfold Store.user
  rw [same]

theorem Store.fiesta_of_fiestas (same : t.fiestas = s.fiestas) (f : FiestaId) :
    t.fiesta f = s.fiesta f := by
  unfold Store.fiesta
  rw [same]

theorem notifications_updateNotification (s : Store) (u v : UserId) (j : Nat)
    (g : Notification → Notification) :
    (s.updateNotification v j g).notifications u =
      if u = v then (s.notifications u).update j g else s.notifications u := by
  unfold Store.updateNotification
  by_cases same : u = v
  · subst same
    simp
  · simp [same]

end Does

end TwoGather
