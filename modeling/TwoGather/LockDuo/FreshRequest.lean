import TwoGather.LockDuo.OneSalon

/-!
# A lock needs a fresh request

A request for a lock leaves two things that can be answered: a notification with the friend,
and a message in the salon of the two. An answer through the notification closes it, and an
accepted one also closes the message that the salon holds for the last demand. An answer
through the chat closes that message only. So a request can be answered twice, once in each
place, and the second answer may come when the lock of the first has long been ended.

`LockLedger` is the store together with the requests that were made, each with what it left, and
whether it has been answered or a lock of its two users was ended since.

* `Accounted`: whatever can still be answered belongs to a request of the ledger, and a request
  that was answered, or is older than the end of a lock, is closed in one of the two places.
* `fresh_request`: as long as late answers are given to locked users only, answers through the
  chat close the message that they answer, and no request is pending when a lock is ended, every
  new lock comes from a fresh request, and there are no more locks than requests.
-/

namespace TwoGather

open Docs Requests Program

/-! ## Requests and calls -/

/-- The one and the other are these two users. -/
def OfTwo (a b u v : UserId) : Prop :=
  a = u ∧ b = v ∨ a = v ∧ b = u

instance (a b u v : UserId) : Decidable (OfTwo a b u v) :=
  inferInstanceAs (Decidable (_ ∨ _))

/-- The two users are locked with each other. -/
def Store.Locked (s : Store) (u v : UserId) : Prop :=
  s.partner u = some v ∧ s.partner v = some u

instance (s : Store) (u v : UserId) : Decidable (s.Locked u v) :=
  inferInstanceAs (Decidable (_ ∧ _))

/-- A request for a lock, and what it left: a notification with the friend, and a message in a
salon if it came so far. -/
structure LockRequest where
  userId : UserId
  friendId : UserId
  notifId : Nat
  message : Option (SalonId × Nat)
  answered : Bool := false
  /-- A lock of the two users was ended after the request. -/
  stopped : Bool := false
  deriving DecidableEq

/-- The store, and the requests that were made. -/
structure LockLedger where
  store : Store
  requests : List LockRequest

inductive LockCall
  | request (userId friendId : UserId) (salonId : Option SalonId)
  | stop (userId friendId : UserId) (salonId : Option SalonId)
  /-- An answer through the notification. -/
  | answer (userId friendId : UserId) (notifId : Nat) (accepted : Bool)
  /-- An answer of the user through a message of the salon that it shares with the other one. -/
  | answerInChat (userId otherId : UserId) (salonId : SalonId) (key : Nat) (accepted : Bool)

namespace LockCall

/-- `locked_demand.dart` hands over the other user first. -/
def program : LockCall → Firestore Unit
  | request userId friendId salonId => do
      let _ ← FriendController.requestNewLockDuo userId friendId salonId
      return ()
  | stop userId friendId salonId => do
      let _ ← FriendController.stopLockDuo userId friendId salonId
      return ()
  | answer userId friendId notifId accepted =>
      NotificationController.handleDuoRequest userId friendId (some notifId) accepted
  | answerInChat userId otherId _ _ accepted =>
      NotificationController.handleDuoRequest otherId userId none accepted

/-- The salon in which a request leaves its message. -/
def salonOfRequest (s : Store) (userId friendId : UserId) (salonId : Option SalonId) : SalonId :=
  salonId.getD ((s.salonOf userId friendId).getD (userId ++ friendId))

/-- The request that a call between these two stores has made. -/
def made (s t : Store) : LockCall → Option LockRequest
  | request userId friendId salonId =>
      let salonId := salonOfRequest s userId friendId salonId
      let notifId := (s.notifications friendId).next
      let key := (s.messages salonId).next
      if (t.notifications friendId).next = notifId then none
      else some
        { userId, friendId, notifId
          message := if (t.messages salonId).next = key then none else some (salonId, key) }
  | _ => none

/-- What a call says about an earlier request. -/
def mark : LockCall → LockRequest → LockRequest
  | request _ _ _, r => r
  | stop userId friendId _, r =>
      if OfTwo r.userId r.friendId userId friendId then { r with stopped := true } else r
  | answer userId _ notifId _, r =>
      if r.friendId = userId ∧ r.notifId = notifId then { r with answered := true } else r
  | answerInChat _ _ salonId key _, r =>
      if r.message = some (salonId, key) then { r with answered := true } else r

end LockCall

def LockLedger.step (l : LockLedger) (call : LockCall) : LockLedger :=
  let store := (call.program.exec l.store).2
  { store
    requests := l.requests.map call.mark ++ (call.made l.store store).toList }

/-! ## What is open -/

/-- The notification has not been completed. -/
def Store.openNotification (s : Store) (u : UserId) (notifId : Nat) : Bool :=
  ((s.notifications u).get? notifId).any (!·.isComplete)

/-- The demand of the message has not been accepted. -/
def Store.openMessage (s : Store) (message : SalonId × Nat) : Bool :=
  ((s.messages message.1).get? message.2).any (·.state = .notYet)

def LockRequest.openMessage (r : LockRequest) (s : Store) : Bool :=
  r.message.all s.openMessage

/-- The request is closed in neither place. -/
def LockRequest.pending (r : LockRequest) (s : Store) : Bool :=
  s.openNotification r.friendId r.notifId && r.openMessage s

/-- Nothing can be answered. -/
structure Store.NoRequest (s : Store) : Prop where
  notifications : ∀ u k n, (s.notifications u).get? k = some n →
    n.notificationType = .duoRequest → n.isComplete = true
  messages : ∀ id k m, (s.messages id).get? k = some m →
    m.type = .lockDemandMessage → m.state = .accepted

namespace LockCall

/-- Ids have `n` characters, a salon that is handed over is one of the two users, and only open
notifications and messages are answered. -/
def Valid (n : Nat) (l : LockLedger) : LockCall → Prop
  | request userId friendId salonId | stop userId friendId salonId =>
      userId.length = n ∧ friendId.length = n ∧ ∀ id ∈ salonId, PairId userId friendId id
  | answer userId friendId notifId _ =>
      ∃ note ∈ (l.store.notifications userId).get? notifId,
        note.notificationType = .duoRequest ∧ note.isComplete = false ∧
          note.notificationUser.id = friendId
  | answerInChat userId otherId salonId key _ =>
      (userId.length = n ∧ otherId.length = n ∧ PairId userId otherId salonId) ∧
        ∃ m ∈ (l.store.messages salonId).get? key,
          m.type = .lockDemandMessage ∧ m.state = .notYet

/-- The answer through the chat closes the message that it answers: the message is the last
demand of the salon, and the profiles of the two users are complete. -/
def Closing (s : Store) (userId otherId : UserId) (salonId : SalonId) (key : Nat) : Prop :=
  s.salonOf userId otherId = some salonId ∧
    (s.salon salonId).any (·.lastLockedDemand = .value key) ∧
      hasProfile (s.user userId) ∧ hasProfile (s.user otherId)

/-- A request that is closed in the other place is accepted by locked users only, an answer
through the chat closes what it answers, and no request of the two users is pending when a lock
is ended. -/
def Careful (l : LockLedger) : LockCall → Prop
  | request _ _ _ => True
  | stop userId friendId _ =>
      ∀ r ∈ l.requests, OfTwo r.userId r.friendId userId friendId → r.pending l.store = false
  | answer userId friendId notifId accepted =>
      accepted → ∀ r ∈ l.requests, r.friendId = userId → r.notifId = notifId →
        r.openMessage l.store ∨ l.store.Locked userId friendId
  | answerInChat userId otherId salonId key accepted =>
      ∀ r ∈ l.requests, r.message = some (salonId, key) →
        if l.store.openNotification r.friendId r.notifId then
          accepted ∧ Closing l.store userId otherId salonId key
        else accepted → l.store.Locked userId otherId

instance (n : Nat) (l : LockLedger) : (call : LockCall) → Decidable (call.Valid n l)
  | request _ _ salonId | stop _ _ salonId =>
      inferInstanceAs (Decidable (_ ∧ _ ∧ ∀ id ∈ salonId, _ ∨ _))
  | answer userId _ notifId _ =>
      inferInstanceAs (Decidable (∃ note ∈ (l.store.notifications userId).get? notifId, _ ∧ _ ∧ _))
  | answerInChat _ _ salonId key _ =>
      inferInstanceAs (Decidable ((_ ∧ _ ∧ (_ ∨ _)) ∧
        ∃ m ∈ (l.store.messages salonId).get? key, _ ∧ _))

instance (s : Store) (userId otherId : UserId) (salonId : SalonId) (key : Nat) :
    Decidable (Closing s userId otherId salonId key) :=
  inferInstanceAs (Decidable (_ ∧ _ ∧ _ ∧ _))

instance (l : LockLedger) : (call : LockCall) → Decidable (call.Careful l)
  | request _ _ _ => .isTrue trivial
  | stop _ _ _ => inferInstanceAs (Decidable (∀ r ∈ l.requests, _ → _))
  | answer _ _ _ accepted => inferInstanceAs (Decidable (accepted → ∀ r ∈ l.requests, _ → _ → _))
  | answerInChat userId otherId salonId key accepted =>
      inferInstanceAs (Decidable (∀ r ∈ l.requests, _ →
        if l.store.openNotification r.friendId r.notifId then
          accepted ∧ Closing l.store userId otherId salonId key
        else accepted → l.store.Locked userId otherId))

/-- Whenever two users become locked, the call answers a request of theirs that was not answered
before, nor made before the end of a lock of theirs. -/
def Fresh (l : LockLedger) (call : LockCall) : Prop :=
  ∀ u v, ¬ l.store.Locked u v → (l.step call).store.Locked u v →
    ∃ r ∈ l.requests, OfTwo r.userId r.friendId u v ∧ r.answered = false ∧ r.stopped = false ∧
      (call.mark r).answered = true

end LockCall

/-- How often two users become locked. -/
def locks (u v : UserId) : LockLedger → List LockCall → Nat
  | _, [] => 0
  | l, call :: calls =>
      (if ¬ l.store.Locked u v ∧ (l.step call).store.Locked u v then 1 else 0) +
        locks u v (l.step call) calls

/-! ## Answers and ends of locks only close -/

/-- Nothing new can be answered. -/
structure OnlyCloses (s t : Store) : Prop where
  notifications : ∀ u, AutoCollection.Closes (fun n => (n.notificationType, n.notificationUser.id))
    (!·.isComplete) (s.notifications u) (t.notifications u)
  messages : ∀ id, AutoCollection.Closes (·.type) (·.state = .notYet) (s.messages id)
    (t.messages id)

section OnlyCloses

variable {s t : Store}

theorem OnlyCloses.refl (s : Store) : OnlyCloses s s where
  notifications _ := .refl _
  messages _ := .refl _

/-- One call after the other opens nothing. -/
theorem OnlyCloses.trans {u : Store} (first : OnlyCloses s t) (second : OnlyCloses t u) :
    OnlyCloses s u where
  notifications v := (first.notifications v).trans (second.notifications v)
  messages id := (first.messages id).trans (second.messages id)

/-- Who touches neither notifications nor messages opens nothing. -/
theorem OnlyCloses.of_same (notifications : t.notifications = s.notifications)
    (messages : t.messages = s.messages) : OnlyCloses s t where
  notifications u := by
    rw [notifications]
    exact .refl _
  messages id := by
    rw [messages]
    exact .refl _

/-- To complete a notification opens nothing. -/
theorem onlyCloses_complete (s : Store) (u : UserId) (k : Nat) :
    OnlyCloses s (s.updateNotification u k ({ · with isComplete := true })) where
  notifications v := by
    unfold Store.updateNotification
    by_cases same : v = u
    · subst same
      dsimp only
      rw [Function.update_self]
      exact .update _ k (fun _ => rfl) fun _ isOpen => by cases isOpen
    · dsimp only
      rw [Function.update_of_ne same]
      exact .refl _
  messages _ := .refl _

/-- Nor does it to mark a demand as accepted. -/
theorem onlyCloses_accept (s : Store) (id : SalonId) (k : Nat) :
    OnlyCloses s (s.updateMessage id k ({ · with state := .accepted })) where
  notifications _ := .refl _
  messages other := by
    unfold Store.updateMessage
    by_cases same : other = id
    · subst same
      dsimp only
      rw [Function.update_self]
      exact .update _ k (fun _ => rfl) fun _ isOpen => by cases isOpen
    · dsimp only
      rw [Function.update_of_ne same]
      exact .refl _

/-- A notification that is open was open before. -/
theorem OnlyCloses.openNotification (closes : OnlyCloses s t) {u : UserId} {k : Nat}
    (now : t.openNotification u k = true) : s.openNotification u k = true :=
  (closes.notifications u).any now

/-- A demand that is open was open before. -/
theorem OnlyCloses.openMessage (closes : OnlyCloses s t) {message : SalonId × Nat}
    (now : t.openMessage message = true) : s.openMessage message = true :=
  (closes.messages message.1).any now

/-- A request that is pending was pending before. -/
theorem OnlyCloses.pending (closes : OnlyCloses s t) {r : LockRequest}
    (now : r.pending t = true) : r.pending s = true := by
  unfold LockRequest.pending LockRequest.openMessage at now ⊢
  rw [Bool.and_eq_true] at now ⊢
  rcases now with ⟨notification, message⟩
  refine ⟨closes.openNotification notification, ?_⟩
  cases left : r.message with
  | none => rfl
  | some m =>
      rw [left] at message
      exact closes.openMessage message

/-- A request that only closes. -/
def Closes (act : Store → Store) : Prop :=
  ∀ s, OnlyCloses s (act s)

/-- An acceptance opens no request. -/
theorem acceptDuoRequest_closes (userId friendId : UserId) (id : SalonId) :
    (acceptDuoRequest userId friendId id).Makes Closes :=
  acceptDuoRequest_makes OnlyCloses.refl (fun _ _ _ _ => .of_same rfl rfl)
    (fun _ => .of_same rfl rfl) fun k s => onlyCloses_accept s id k

/-- An answer opens no request. -/
theorem handleDuoRequest_closes (userId friendId : UserId) (notifId : Option Nat)
    (accepted : Bool) :
    (NotificationController.handleDuoRequest userId friendId notifId accepted).Makes Closes := by
  rw [handleDuoRequest_eq]
  apply Makes.bind (makes_salonFor OnlyCloses.refl _ _ fun _ _ => .of_same rfl rfl)
  intro id
  exact answerRest_makes (fun k s => onlyCloses_complete s userId k)
    (fun _ => acceptDuoRequest_closes userId friendId id) notifId

/-- Nor does the end of a lock. -/
theorem stopLockDuo_closes (userId friendId : UserId) (salonId : Option SalonId) :
    (FriendController.stopLockDuo userId friendId salonId).Makes Closes := by
  rw [stopLockDuo_eq]
  apply Makes.bind (makes_salonOr OnlyCloses.refl _ fun _ _ => .of_same rfl rfl)
  intro id
  exact stopRest_makes (fun _ _ _ => .of_same rfl rfl) fun _ => .of_same rfl rfl

/-- All calls but requests only close. -/
theorem LockCall.closes (call : LockCall) (s : Store)
    (notRequest : ∀ userId friendId salonId, call ≠ .request userId friendId salonId) :
    OnlyCloses s (call.program.exec s).2 := by
  have makes : call.program.Makes Closes := by
    cases call with
    | request userId friendId salonId => exact absurd rfl (notRequest userId friendId salonId)
    | stop userId friendId salonId =>
        exact .bind (stopLockDuo_closes userId friendId salonId) fun _ => .pure ()
    | answer userId friendId notifId accepted =>
        exact handleDuoRequest_closes userId friendId (some notifId) accepted
    | answerInChat userId otherId salonId key accepted =>
        exact handleDuoRequest_closes otherId userId none accepted
  have keeps : call.program.Keeps OnlyCloses := makes.keeps fun _ closes => closes
  exact keeps.exec OnlyCloses.refl OnlyCloses.trans s

end OnlyCloses

/-! ## What an answer closes -/

section Answers

variable {s : Store} {userId friendId : UserId}

/-- An answer through the notification completes it. -/
theorem answer_completes (s : Store) (userId friendId : UserId) (notifId : Nat)
    (accepted : Bool) :
    (((LockCall.answer userId friendId notifId accepted).program.exec s).2).openNotification
      userId notifId = false := by
  let looked := s.withSalon friendId userId userId friendId
  let marked := looked.updateNotification userId notifId ({ · with isComplete := true })
  let rest : Firestore Unit :=
    if accepted then
      acceptDuoRequest userId friendId ((s.salonOf friendId userId).getD (userId ++ friendId))
    else pure ()
  have run : ((LockCall.answer userId friendId notifId accepted).program.exec s).2 =
      (rest.exec marked).2 := by
    unfold LockCall.program
    dsimp only
    rw [handleDuoRequest_eq, exec_bind, exec_salonFor]
    dsimp only
    unfold answerRest
    rw [exec_caught, exec_bind, exec_setNotificationAsComplete]
  have closes : OnlyCloses marked (rest.exec marked).2 := by
    have makes : rest.Makes Closes := by
      unfold rest
      split
      · exact acceptDuoRequest_closes userId friendId _
      · exact .pure ()
    have keeps : rest.Keeps OnlyCloses := makes.keeps fun _ closes => closes
    exact keeps.exec OnlyCloses.refl OnlyCloses.trans marked
  have completed : marked.openNotification userId notifId = false := by
    unfold Store.openNotification marked Store.updateNotification
    dsimp only
    rw [Function.update_self, AutoCollection.get?_update, if_pos rfl, Option.any_map]
    cases (looked.notifications userId).get? notifId with
    | none => rfl
    | some note => rfl
  rw [run]
  by_contra still
  rw [Bool.not_eq_false] at still
  rw [closes.openNotification still] at completed
  cases completed

/-- An accepted request leaves salons and messages to what follows. -/
theorem confirmDuoRequest_frame (s : Store) (userId friendId : UserId) (accepted : Bool) :
    ((confirmDuoRequest userId friendId accepted).exec s).2.salons = s.salons ∧
      ((confirmDuoRequest userId friendId accepted).exec s).2.messages = s.messages := by
  have makes : (confirmDuoRequest userId friendId accepted).Makes
      fun act => ∀ s, (act s).salons = s.salons ∧ (act s).messages = s.messages :=
    makes_confirmDuoRequest (fun _ => ⟨rfl, rfl⟩) (fun _ _ _ _ => ⟨rfl, rfl⟩) accepted
  have keeps : (confirmDuoRequest userId friendId accepted).Keeps
      fun s t => t.salons = s.salons ∧ t.messages = s.messages :=
    makes.keeps fun _ same => same
  exact keeps.exec (fun _ => ⟨rfl, rfl⟩)
    (fun first second => ⟨second.1.trans first.1, second.2.trans first.2⟩) s

/-- An answer through the chat that closes its message. -/
theorem answerInChat_closes {otherId : UserId} {salonId : SalonId} {key : Nat}
    (closing : LockCall.Closing s userId otherId salonId key) :
    (((LockCall.answerInChat userId otherId salonId key true).program.exec s).2).openMessage
      (salonId, key) = false := by
  rcases closing with ⟨looked, last, profile, profileOther⟩
  rcases (Option.any_eq_true _ _).mp last with ⟨salon, there, demand⟩
  have lastDemand : salon.lastLockedDemand = .value key := of_decide_eq_true demand
  have run : ((LockCall.answerInChat userId otherId salonId key true).program.exec s).2 =
      ((acceptDuoRequest otherId userId salonId).exec s).2 := by
    unfold LockCall.program
    dsimp only
    rw [handleDuoRequest_eq, exec_bind, exec_salonFor, looked]
    unfold Store.withSalon
    rw [looked]
    exact exec_caught _ _ s
  have confirmed := confirmDuoRequest_ok profileOther profile
  have frame := confirmDuoRequest_frame s otherId userId true
  rcases outcome : (confirmDuoRequest otherId userId true).exec s with ⟨result, t⟩
  rw [outcome] at confirmed frame
  dsimp only at confirmed frame
  have salonThere : t.salon salonId = some salon := by
    unfold Store.salon
    rw [frame.1]
    exact there
  rw [run]
  unfold acceptDuoRequest
  rw [exec_bind, outcome, confirmed]
  simp only [checkResult, ↓reduceIte, exec_pure, exec_bind, exec_getSalon, salonThere,
    exec_member_some, exec_updateSalon, Option.isSome_some, lastDemand, exec_updateMessage]
  unfold Store.openMessage Store.updateMessage
  dsimp only
  rw [Function.update_self, AutoCollection.get?_update, if_pos rfl, Option.any_map]
  cases ((t.updateSalon salonId (·.setLock .locked)).messages salonId).get? key with
  | none => rfl
  | some m => rfl

end Answers

/-! ## What a request leaves -/

section Request

variable (s : Store) (userId friendId : UserId) (salonId : Option SalonId)

/-- A new salon leaves notifications and messages as they are. -/
theorem withSalon_frame (uid1 uid2 : UserId) :
    (s.withSalon uid1 uid2 userId friendId).notifications = s.notifications ∧
      (s.withSalon uid1 uid2 userId friendId).messages = s.messages := by
  unfold Store.withSalon
  split
  · exact ⟨rfl, rfl⟩
  · exact ⟨rfl, rfl⟩

/-- The salon of a request is found or made, and nothing is sent yet. -/
theorem exec_salonOr : ∃ t, (salonOr salonId userId friendId).exec s =
    (.ok (LockCall.salonOfRequest s userId friendId salonId), t) ∧
      t.notifications = s.notifications ∧ t.messages = s.messages := by
  cases salonId with
  | some id => exact ⟨s, rfl, rfl, rfl⟩
  | none => exact ⟨_, exec_salonFor s userId friendId userId friendId, withSalon_frame s _ _ _ _⟩

/-- A request changes nothing that can be answered, or leaves a notification and perhaps a
message. -/
theorem request_leaves :
    let call := LockCall.request userId friendId salonId
    let t := (call.program.exec s).2
    let salonId := LockCall.salonOfRequest s userId friendId salonId
    (t.notifications = s.notifications ∧ t.messages = s.messages) ∨
      ∃ note : Notification, note.notificationUser.id = userId ∧
        t.notifications = Function.update s.notifications friendId
          ((s.notifications friendId).add note) ∧
        (t.messages = s.messages ∨
          ∃ m, t.messages = Function.update s.messages salonId ((s.messages salonId).add m)) := by
  intro call t salonId
  rcases exec_salonOr s userId friendId _ with ⟨looked, found, notifications, messages⟩
  have run : t = ((requestRest userId friendId salonId).exec looked).2 := by
    unfold t call LockCall.program
    dsimp only
    rw [exec_discard, requestNewLockDuo_eq, exec_bind, found]
  rw [← notifications, ← messages]
  rcases requestRest_store looked userId friendId salonId with nothing | noted | demanded
  · left
    rw [run, nothing]
    exact ⟨rfl, rfl⟩
  · right
    refine ⟨requestNotification userId (looked.user userId) looked.clock, rfl, ?_, .inl ?_⟩
    · rw [run, noted]
      rfl
    · rw [run, noted]
      rfl
  · right
    refine ⟨requestNotification userId (looked.user userId) looked.clock, rfl, ?_,
      .inr ⟨lockDemand userId looked.clock, ?_⟩⟩
    · rw [run, demanded]
      rfl
    · rw [run, demanded]
      rfl

end Request

/-! ## Who becomes locked -/

section Locked

variable {s : Store} {u v : UserId}

theorem Store.Locked.symm (locked : s.Locked u v) : s.Locked v u :=
  ⟨locked.2, locked.1⟩

/-- The call accepts a request between the two users. -/
def LockCall.Accepts (u v : UserId) : LockCall → Prop
  | answer userId friendId _ accepted => accepted ∧ OfTwo userId friendId u v
  | answerInChat userId otherId _ _ accepted => accepted ∧ OfTwo userId otherId u v
  | _ => False

/-- The two users are not locked by the request. -/
def NoLock (u v : UserId) (act : Store → Store) : Prop :=
  ∀ s, (act s).Locked u v → s.Locked u v

theorem noLock_id (u v : UserId) : NoLock u v id := fun _ locked => locked

/-- To unlock locks nobody. -/
theorem noLock_unlock (u v w : UserId) : NoLock u v (·.updateUser w (·.unlock)) := by
  intro s locked
  rcases locked with ⟨left, right⟩
  rw [partner_unlock, Function.update_apply] at left right
  split at left
  · cases left
  · split at right
    · cases right
    · exact ⟨left, right⟩

/-- To lock two users locks no other pair. -/
theorem noLock_lock {userId friendId w : UserId} {duo : Duo}
    (pairs : Pairs userId friendId w duo) (others : ¬ OfTwo userId friendId u v) :
    NoLock u v (·.updateUser w (·.lock duo)) := by
  intro s locked
  dsimp only at locked
  cases exist : s.user w with
  | none => rwa [Store.updateUser_of_none exist] at locked
  | some data =>
      have there : (s.user w).isSome := by
        rw [exist]
        rfl
      rcases locked with ⟨left, right⟩
      rw [partner_lock there, Function.update_apply] at left right
      have notU : ¬ (u = w ∧ v = duo.id) := by
        intro both
        rcases both with ⟨rfl, rfl⟩
        rcases pairs with ⟨rfl, rfl⟩ | ⟨rfl, rfl⟩
        · exact others (.inl ⟨rfl, rfl⟩)
        · exact others (.inr ⟨rfl, rfl⟩)
      have notV : ¬ (v = w ∧ u = duo.id) := by
        intro both
        rcases both with ⟨rfl, rfl⟩
        rcases pairs with ⟨rfl, rfl⟩ | ⟨rfl, rfl⟩
        · exact others (.inr ⟨rfl, rfl⟩)
        · exact others (.inl ⟨rfl, rfl⟩)
      split at left
      case isTrue same => exact absurd ⟨same, (Option.some.inj left).symm⟩ notU
      case isFalse =>
          split at right
          case isTrue same => exact absurd ⟨same, (Option.some.inj right).symm⟩ notV
          case isFalse => exact ⟨left, right⟩

/-- An answer locks nobody but the two of an acceptance. -/
theorem handleDuoRequest_noLock {userId friendId : UserId} (notifId : Option Nat)
    {accepted : Bool} (others : ¬ (accepted ∧ OfTwo userId friendId u v)) :
    (NotificationController.handleDuoRequest userId friendId notifId accepted).Makes
      (NoLock u v) := by
  rw [handleDuoRequest_eq]
  apply Makes.bind (makes_salonFor (noLock_id u v) _ _ fun _ _ locked => locked)
  intro id
  apply answerRest_makes (fun _ _ locked => locked) _ notifId
  intro yes
  apply acceptDuoRequest_makes (noLock_id u v) _ (fun _ locked => locked) fun _ _ locked => locked
  intro w duo pairs
  exact noLock_lock pairs fun two => others ⟨yes, two⟩

/-- The two may be named in either order. -/
theorem OfTwo.swap {a b : UserId} (two : OfTwo a b u v) : OfTwo b a u v := by
  rcases two with ⟨rfl, rfl⟩ | ⟨rfl, rfl⟩
  · exact .inr ⟨rfl, rfl⟩
  · exact .inl ⟨rfl, rfl⟩

/-- Two that are the same two. -/
theorem OfTwo.trans {a b c d : UserId} (first : OfTwo a b c d) (second : OfTwo c d u v) :
    OfTwo a b u v := by
  rcases first with ⟨rfl, rfl⟩ | ⟨rfl, rfl⟩
  · exact second
  · exact second.swap

/-- Two users become locked by accepting a request only. -/
theorem LockCall.accepts_of_locked {call : LockCall} (before : ¬ s.Locked u v)
    (after : (call.program.exec s).2.Locked u v) : call.Accepts u v := by
  by_contra others
  have makes : call.program.Makes (NoLock u v) := by
    cases call with
    | request userId friendId salonId =>
        apply Makes.bind _ fun _ => .pure ()
        apply Makes.bind (makes_salonOr (noLock_id u v) _ fun _ _ locked => locked)
        intro id
        exact requestRest_makes (noLock_id u v) (fun _ _ _ locked => locked)
          (fun _ _ locked => locked) (fun _ _ locked => locked) userId friendId
    | stop userId friendId salonId =>
        apply Makes.bind _ fun _ => .pure ()
        apply Makes.bind (makes_salonOr (noLock_id u v) _ fun _ _ locked => locked)
        intro id
        exact stopRest_makes (fun w _ => noLock_unlock u v w) fun _ locked => locked
    | answer userId friendId notifId accepted => exact handleDuoRequest_noLock (some notifId) others
    | answerInChat userId otherId salonId key accepted =>
        exact handleDuoRequest_noLock none fun both => others ⟨both.1, both.2.swap⟩
  have keeps : call.program.Keeps fun s t => t.Locked u v → s.Locked u v :=
    makes.keeps fun _ noLock => noLock
  have whole := keeps.exec (R := fun s t => t.Locked u v → s.Locked u v) (fun _ => id)
    (fun first second now => first (second now)) s
  exact before (whole after)

end Locked

/-! ## The invariant -/

/-- Whatever can be answered belongs to a request, and a request that was answered, or is older
than the end of a lock of its two users, is closed in one of the two places. -/
structure Accounted (n : Nat) (l : LockLedger) : Prop where
  notifications : ∀ w k note, (l.store.notifications w).get? k = some note →
    note.notificationType = .duoRequest → note.isComplete = false →
      ∃ r ∈ l.requests, r.friendId = w ∧ r.notifId = k ∧ r.userId = note.notificationUser.id
  messages : ∀ id k m, (l.store.messages id).get? k = some m → m.type = .lockDemandMessage →
    m.state = .notYet → ∃ r ∈ l.requests, r.message = some (id, k)
  salons : ∀ r ∈ l.requests, ∀ id k, r.message = some (id, k) →
    r.userId.length = n ∧ r.friendId.length = n ∧ PairId r.userId r.friendId id
  drawn : ∀ r ∈ l.requests, r.notifId < (l.store.notifications r.friendId).next ∧
    ∀ id k, r.message = some (id, k) → k < (l.store.messages id).next
  closed : ∀ r ∈ l.requests, r.answered ∨ r.stopped → r.pending l.store = false

namespace Accounted

variable {n : Nat} {l : LockLedger}

/-- Where there is no request, nothing is to be accounted for. -/
theorem start {s : Store} (clean : s.NoRequest) : Accounted n ⟨s, []⟩ where
  notifications w k note found type isOpen := by
    rw [clean.notifications w k note found type] at isOpen
    cases isOpen
  messages id k m found type isOpen := by
    rw [clean.messages id k m found type] at isOpen
    cases isOpen
  salons _ listed := by cases listed
  drawn _ listed := by cases listed
  closed _ listed := by cases listed

end Accounted

namespace LockCall

/-- A call says nothing new about what a request left. -/
structure SameRequest (r r' : LockRequest) : Prop where
  userId : r'.userId = r.userId
  friendId : r'.friendId = r.friendId
  notifId : r'.notifId = r.notifId
  message : r'.message = r.message

/-- The end of a lock marks the requests of these two. -/
theorem mark_stop (userId friendId : UserId) (salonId : Option SalonId) (r : LockRequest) :
    (stop userId friendId salonId).mark r =
      if OfTwo r.userId r.friendId userId friendId then { r with stopped := true } else r := rfl

/-- An answer marks the request of its notification. -/
theorem mark_answer (userId friendId : UserId) (notifId : Nat) (accepted : Bool)
    (r : LockRequest) : (answer userId friendId notifId accepted).mark r =
      if r.friendId = userId ∧ r.notifId = notifId then { r with answered := true } else r := rfl

/-- An answer in the chat marks the request of its message. -/
theorem mark_answerInChat (userId otherId : UserId) (salonId : SalonId) (key : Nat)
    (accepted : Bool) (r : LockRequest) :
    (answerInChat userId otherId salonId key accepted).mark r =
      if r.message = some (salonId, key) then { r with answered := true } else r := rfl

/-- A mark leaves the request what it was. -/
theorem sameRequest_mark (call : LockCall) (r : LockRequest) : SameRequest r (call.mark r) := by
  cases call with
  | request userId friendId salonId => exact ⟨rfl, rfl, rfl, rfl⟩
  | stop userId friendId salonId =>
      rw [mark_stop]
      split
      · exact ⟨rfl, rfl, rfl, rfl⟩
      · exact ⟨rfl, rfl, rfl, rfl⟩
  | answer userId friendId notifId accepted =>
      rw [mark_answer]
      split
      · exact ⟨rfl, rfl, rfl, rfl⟩
      · exact ⟨rfl, rfl, rfl, rfl⟩
  | answerInChat userId otherId salonId key accepted =>
      rw [mark_answerInChat]
      split
      · exact ⟨rfl, rfl, rfl, rfl⟩
      · exact ⟨rfl, rfl, rfl, rfl⟩

/-- Whether a request is pending does not depend on its marks. -/
theorem SameRequest.pending {r r' : LockRequest} (same : SameRequest r r') (s : Store) :
    r'.pending s = r.pending s := by
  unfold LockRequest.pending LockRequest.openMessage
  rw [same.friendId, same.notifId, same.message]

end LockCall

section Steps

variable {n : Nat} {l : LockLedger}

/-- A call that only closes, and closes what it marks. -/
theorem Accounted.closing (accounted : Accounted n l) {call : LockCall}
    (closes : OnlyCloses l.store (l.step call).store)
    (none : call.made l.store (l.step call).store = none)
    (settles : ∀ r ∈ l.requests, call.mark r = r ∨ r.pending (l.step call).store = false) :
    Accounted n (l.step call) := by
  have requests : (l.step call).requests = l.requests.map call.mark := by
    change l.requests.map call.mark ++ (call.made l.store (l.step call).store).toList = _
    rw [none]
    exact List.append_nil _
  have marked : ∀ r ∈ l.requests, call.mark r ∈ (l.step call).requests := by
    intro r listed
    rw [requests]
    exact List.mem_map_of_mem listed
  have unmark : ∀ r' ∈ (l.step call).requests, ∃ r ∈ l.requests, call.mark r = r' := by
    intro r' listed
    rw [requests] at listed
    exact List.mem_map.mp listed
  refine ⟨?_, ?_, ?_, ?_, ?_⟩
  · intro w k note found type isOpen
    rcases (closes.notifications w).docs k note found with ⟨note', before, same, wasOpen⟩
    have type' : note'.notificationType = .duoRequest :=
      (congrArg Prod.fst same).symm.trans type
    have isOpen' : note'.isComplete = false := by simpa [isOpen] using wasOpen
    rcases accounted.notifications w k note' before type' isOpen' with ⟨r, listed, rfl, rfl, user⟩
    have fields := call.sameRequest_mark r
    refine ⟨call.mark r, marked r listed, fields.friendId, fields.notifId, ?_⟩
    rw [fields.userId, user]
    exact (congrArg Prod.snd same).symm
  · intro id k m found type isOpen
    rcases (closes.messages id).docs k m found with ⟨m', before, same, wasOpen⟩
    have isOpen' : m'.state = .notYet := by simpa [isOpen] using wasOpen
    rcases accounted.messages id k m' before (same.symm.trans type) isOpen' with ⟨r, listed, left⟩
    exact ⟨call.mark r, marked r listed, (call.sameRequest_mark r).message.trans left⟩
  · intro r' listed id k left
    obtain ⟨r, before, rfl⟩ := unmark r' listed
    have fields := call.sameRequest_mark r
    rw [fields.message] at left
    rw [fields.userId, fields.friendId]
    exact accounted.salons r before id k left
  · intro r' listed
    obtain ⟨r, before, rfl⟩ := unmark r' listed
    have fields := call.sameRequest_mark r
    rw [fields.notifId, fields.friendId, fields.message, (closes.notifications _).next]
    refine ⟨(accounted.drawn r before).1, fun id k left => ?_⟩
    rw [(closes.messages id).next]
    exact (accounted.drawn r before).2 id k left
  · intro r' listed answered
    obtain ⟨r, before, rfl⟩ := unmark r' listed
    rw [(call.sameRequest_mark r).pending]
    rcases settles r before with same | settled
    · rw [same] at answered
      have was := accounted.closed r before answered
      by_contra still
      rw [Bool.not_eq_false] at still
      rw [closes.pending still] at was
      cases was
    · exact settled

/-- The salon of a request is one of the two users. -/
theorem LockCall.salonOfRequest_pair {userId friendId : UserId} {salonId : Option SalonId}
    (given : ∀ id ∈ salonId, PairId userId friendId id) (s : Store) :
    PairId userId friendId (salonOfRequest s userId friendId salonId) := by
  unfold salonOfRequest
  cases salonId with
  | some id => exact given id rfl
  | none =>
      unfold Store.salonOf
      split
      · exact .inl rfl
      · split
        · exact .inr rfl
        · exact .inl rfl

/-- What an old request left is not touched by a new one. -/
theorem LockRequest.pending_of_drawn {s t : Store} {r : LockRequest}
    (notification : (t.notifications r.friendId).get? r.notifId =
      (s.notifications r.friendId).get? r.notifId)
    (message : ∀ id k, r.message = some (id, k) →
      (t.messages id).get? k = (s.messages id).get? k) : r.pending t = r.pending s := by
  unfold pending openMessage Store.openNotification
  rw [notification]
  cases left : r.message with
  | none => rfl
  | some m =>
      unfold Store.openMessage
      rw [Option.all_some, Option.all_some, message m.1 m.2 left]

/-- The second store has what the first one has, and at most what the request left besides. -/
structure Store.Leaves (s t : Store) (new : LockRequest) : Prop where
  notifications : ∀ w k note, (t.notifications w).get? k = some note →
    (s.notifications w).get? k = some note ∨
      new.friendId = w ∧ new.notifId = k ∧ new.userId = note.notificationUser.id
  messages : ∀ id k m, (t.messages id).get? k = some m →
    (s.messages id).get? k = some m ∨ new.message = some (id, k)
  oldNote : ∀ w k, k < (s.notifications w).next →
    (t.notifications w).get? k = (s.notifications w).get? k ∧ k < (t.notifications w).next
  oldMessage : ∀ id k, k < (s.messages id).next →
    (t.messages id).get? k = (s.messages id).get? k ∧ k < (t.messages id).next
  drawn : new.notifId < (t.notifications new.friendId).next ∧
    ∀ id k, new.message = some (id, k) → k < (t.messages id).next

/-- What a request leaves: one notification, and one message at most. -/
theorem Store.Leaves.of_add {s t : Store} {friendId : UserId} {note : Notification}
    {message : Option (SalonId × Nat)}
    (notifications : t.notifications =
      Function.update s.notifications friendId ((s.notifications friendId).add note))
    (messages : (t.messages = s.messages ∧ message = none) ∨
      ∃ id m, t.messages = Function.update s.messages id ((s.messages id).add m) ∧
        message = some (id, (s.messages id).next)) :
    s.Leaves t
      { userId := note.notificationUser.id, friendId, notifId := (s.notifications friendId).next,
        message } := by
  refine ⟨?_, ?_, ?_, ?_, ?_, ?_⟩
  · intro w k found here
    rw [notifications, AutoCollection.get?_update_add] at here
    split at here
    case isTrue isNew =>
      rcases isNew with ⟨rfl, rfl⟩
      cases here
      exact .inr ⟨rfl, rfl, rfl⟩
    case isFalse => exact .inl here
  · intro id k found here
    rcases messages with ⟨same, -⟩ | ⟨id', m, added, left⟩
    · rw [same] at here
      exact .inl here
    · rw [added, AutoCollection.get?_update_add] at here
      split at here
      case isTrue isNew =>
        rcases isNew with ⟨rfl, rfl⟩
        exact .inr left
      case isFalse => exact .inl here
  · intro w k drawn
    rw [notifications]
    exact ⟨AutoCollection.get?_update_add_of_lt _ _ _ _ drawn,
      Nat.lt_of_lt_of_le drawn (AutoCollection.next_le_update_add _ _ _ _)⟩
  · intro id k drawn
    rcases messages with ⟨same, -⟩ | ⟨id', m, added, -⟩
    · rw [same]
      exact ⟨rfl, drawn⟩
    · rw [added]
      exact ⟨AutoCollection.get?_update_add_of_lt _ _ _ _ drawn,
        Nat.lt_of_lt_of_le drawn (AutoCollection.next_le_update_add _ _ _ _)⟩
  · dsimp only
    rw [notifications, AutoCollection.next_update_add, if_pos rfl]
    exact Nat.lt_succ_self _
  · intro id k (left : message = some (id, k))
    rcases messages with ⟨-, none⟩ | ⟨id', m, added, some⟩
    · rw [none] at left
      cases left
    · rw [some] at left
      cases left
      rw [added, AutoCollection.next_update_add, if_pos rfl]
      exact Nat.lt_succ_self _

/-- A new request joins the ledger with what it left. -/
theorem Accounted.append (accounted : Accounted n l) {t : Store} {new : LockRequest}
    (leaves : l.store.Leaves t new)
    (pair : new.userId.length = n ∧ new.friendId.length = n ∧
      ∀ id k, new.message = some (id, k) → PairId new.userId new.friendId id)
    (unmarked : ¬ (new.answered ∨ new.stopped)) : Accounted n ⟨t, l.requests ++ [new]⟩ := by
  refine ⟨?_, ?_, ?_, ?_, ?_⟩
  · intro w k note found type isOpen
    rcases leaves.notifications w k note found with before | left
    · obtain ⟨r, listed, left⟩ := accounted.notifications w k note before type isOpen
      exact ⟨r, List.mem_append_left _ listed, left⟩
    · exact ⟨new, List.mem_append_right _ List.mem_cons_self, left⟩
  · intro id k m found type isOpen
    rcases leaves.messages id k m found with before | left
    · obtain ⟨r, listed, left⟩ := accounted.messages id k m before type isOpen
      exact ⟨r, List.mem_append_left _ listed, left⟩
    · exact ⟨new, List.mem_append_right _ List.mem_cons_self, left⟩
  · intro r listed id k left
    rcases List.mem_append.mp listed with before | isNew
    · exact accounted.salons r before id k left
    · obtain rfl := List.mem_singleton.mp isNew
      exact ⟨pair.1, pair.2.1, pair.2.2 id k left⟩
  · intro r listed
    rcases List.mem_append.mp listed with before | isNew
    · obtain ⟨drawn, drawnMessage⟩ := accounted.drawn r before
      exact ⟨(leaves.oldNote _ _ drawn).2,
        fun id k left => (leaves.oldMessage id k (drawnMessage id k left)).2⟩
    · obtain rfl := List.mem_singleton.mp isNew
      exact leaves.drawn
  · intro r listed marked
    rcases List.mem_append.mp listed with before | isNew
    · obtain ⟨drawn, drawnMessage⟩ := accounted.drawn r before
      have same := LockRequest.pending_of_drawn (leaves.oldNote _ _ drawn).1
        fun id k left => (leaves.oldMessage id k (drawnMessage id k left)).1
      exact same.trans (accounted.closed r before marked)
    · obtain rfl := List.mem_singleton.mp isNew
      exact absurd marked unmarked

/-- A new request is accounted for. -/
theorem Accounted.request (accounted : Accounted n l) {userId friendId : UserId}
    {salonId : Option SalonId} (valid : (LockCall.request userId friendId salonId).Valid n l) :
    Accounted n (l.step (.request userId friendId salonId)) := by
  rcases valid with ⟨lengthU, lengthF, given⟩
  have pair := LockCall.salonOfRequest_pair given l.store
  rcases request_leaves l.store userId friendId salonId with
    ⟨notifications, messages⟩ | ⟨note, rfl, notifications, messages⟩
  · apply accounted.closing (.of_same notifications messages)
    · unfold LockCall.made
      dsimp only
      rw [if_pos]
      exact congrArg (fun f => (f friendId).next) notifications
    · exact fun _ _ => .inl rfl
  · let call := LockCall.request note.notificationUser.id friendId salonId
    let salonId := LockCall.salonOfRequest l.store note.notificationUser.id friendId salonId
    let t := (call.program.exec l.store).2
    let key := (l.store.messages salonId).next
    let message := if (t.messages salonId).next = key then none else some (salonId, key)
    have left : (t.messages = l.store.messages ∧ message = none) ∨
        ∃ id m, t.messages = Function.update l.store.messages id ((l.store.messages id).add m) ∧
          message = some (id, (l.store.messages id).next) := by
      rcases messages with same | ⟨m, added⟩
      · exact .inl ⟨same, if_pos (congrArg (fun f => (f salonId).next) same)⟩
      · refine .inr ⟨salonId, m, added, if_neg ?_⟩
        rw [added, AutoCollection.next_update_add, if_pos rfl]
        exact Nat.succ_ne_self key
    have made : call.made l.store t = some
        { userId := note.notificationUser.id, friendId,
          notifId := (l.store.notifications friendId).next, message } := by
      unfold LockCall.made call
      dsimp only
      rw [if_neg]
      rw [notifications, AutoCollection.next_update_add, if_pos rfl]
      exact Nat.succ_ne_self _
    have requests : (l.step call).requests = l.requests ++
        [{ userId := note.notificationUser.id, friendId,
           notifId := (l.store.notifications friendId).next, message }] := by
      have unmarked : l.requests.map call.mark = l.requests := List.map_id'' (fun _ => rfl) _
      change l.requests.map call.mark ++ (call.made l.store t).toList = _
      rw [made, unmarked]
      rfl
    have inSalon (id : SalonId) (k : Nat) (here : message = some (id, k)) : id = salonId := by
      unfold message at here
      split at here
      · cases here
      · cases here
        rfl
    have appended := accounted.append (Store.Leaves.of_add notifications left)
      ⟨lengthU, lengthF, fun id k here => inSalon id k here ▸ pair⟩ (by simp)
    rw [← requests] at appended
    exact appended

/-- A request whose notification is answered is not pending. -/
theorem LockRequest.pending_eq_false_of_notification {r : LockRequest} {s : Store}
    (closed : s.openNotification r.friendId r.notifId = false) : r.pending s = false := by
  unfold pending
  rw [closed, Bool.false_and]

/-- A request whose demand is answered is not pending. -/
theorem LockRequest.pending_eq_false_of_message {r : LockRequest} {s : Store}
    {message : SalonId × Nat} (left : r.message = some message)
    (closed : s.openMessage message = false) : r.pending s = false := by
  unfold pending openMessage
  rw [left, Option.all_some, closed, Bool.and_false]

/-- What is closed stays closed. -/
theorem OnlyCloses.pending_eq_false {s t : Store} (closes : OnlyCloses s t) {r : LockRequest}
    (closed : r.pending s = false) : r.pending t = false := by
  by_contra still
  rw [Bool.not_eq_false] at still
  rw [closes.pending still] at closed
  cases closed

/-- A careful call closes what it marks. -/
theorem Accounted.step (accounted : Accounted n l) {call : LockCall} (valid : call.Valid n l)
    (careful : call.Careful l) : Accounted n (l.step call) := by
  cases call with
  | request userId friendId salonId => exact accounted.request valid
  | stop userId friendId salonId =>
      have closes := LockCall.closes (.stop userId friendId salonId) l.store (by simp)
      apply accounted.closing closes rfl
      intro r listed
      rw [LockCall.mark_stop]
      split
      case isTrue two => exact .inr (closes.pending_eq_false (careful r listed two))
      case isFalse => exact .inl rfl
  | answer userId friendId notifId accepted =>
      have closes := LockCall.closes (.answer userId friendId notifId accepted) l.store (by simp)
      apply accounted.closing closes rfl
      intro r listed
      rw [LockCall.mark_answer]
      split
      case isTrue same =>
        rcases same with ⟨rfl, rfl⟩
        exact .inr (LockRequest.pending_eq_false_of_notification
          (answer_completes _ _ _ _ _))
      case isFalse => exact .inl rfl
  | answerInChat userId otherId salonId key accepted =>
      have closes := LockCall.closes (.answerInChat userId otherId salonId key accepted) l.store
        (by simp)
      apply accounted.closing closes rfl
      intro r listed
      rw [LockCall.mark_answerInChat]
      split
      case isTrue left =>
        right
        have ready := careful r listed left
        split at ready
        case isTrue =>
          rcases ready with ⟨rfl, closing⟩
          exact LockRequest.pending_eq_false_of_message left (answerInChat_closes closing)
        case isFalse closed =>
          rw [Bool.not_eq_true] at closed
          exact closes.pending_eq_false (LockRequest.pending_eq_false_of_notification closed)
      case isFalse => exact .inl rfl

/-- Ids of one length can be read off a salon id. -/
theorem PairId.ofTwo {a b u v : UserId} {id : SalonId} (lengths : a.length = n ∧ b.length = n)
    (lengths' : u.length = n ∧ v.length = n) (pair : PairId a b id) (pair' : PairId u v id) :
    OfTwo a b u v := by
  have split {a b u v : UserId} (first : a.length = u.length) (same : a ++ b = u ++ v) :
      a = u ∧ b = v := by
    have lists : a.toList ++ b.toList = u.toList ++ v.toList := by
      rw [← String.toList_append, same, String.toList_append]
    have parts := List.append_inj lists (by rwa [String.length_toList, String.length_toList])
    exact ⟨String.toList_inj.mp parts.1, String.toList_inj.mp parts.2⟩
  have all : ∀ w, w = u ∨ w = v → a.length = w.length ∧ b.length = w.length := by
    intro w either
    rcases either with rfl | rfl
    · exact ⟨lengths.1.trans lengths'.1.symm, lengths.2.trans lengths'.1.symm⟩
    · exact ⟨lengths.1.trans lengths'.2.symm, lengths.2.trans lengths'.2.symm⟩
  rcases all u (.inl rfl) with ⟨lengthA, lengthB⟩
  rcases all v (.inr rfl) with ⟨lengthA', lengthB'⟩
  rcases pair with rfl | rfl
  · rcases pair' with same | same
    · exact .inl (split lengthA same)
    · exact .inr (split lengthA' same)
  · rcases pair' with same | same
    · rcases split lengthB same with ⟨first, second⟩
      exact .inr ⟨second, first⟩
    · rcases split lengthB' same with ⟨first, second⟩
      exact .inl ⟨second, first⟩

/-- A request that can be answered in both places has neither been answered nor outlived the end
of a lock. -/
theorem Accounted.fresh_of_pending (accounted : Accounted n l) {r : LockRequest}
    (listed : r ∈ l.requests) (pending : r.pending l.store = true) :
    r.answered = false ∧ r.stopped = false := by
  have unmarked : ¬ (r.answered ∨ r.stopped) := by
    intro marked
    rw [accounted.closed r listed marked] at pending
    cases pending
  rw [not_or, Bool.not_eq_true, Bool.not_eq_true] at unmarked
  exact unmarked

/-- The same two, named otherwise, are not locked either. -/
theorem OfTwo.not_locked {s : Store} {a b u v : UserId} (two : OfTwo a b u v)
    (free : ¬ s.Locked u v) : ¬ s.Locked a b := by
  intro locked
  rcases two with ⟨rfl, rfl⟩ | ⟨rfl, rfl⟩
  · exact free locked
  · exact free locked.symm

/-- A careful call locks two users for a fresh request only. -/
theorem Accounted.fresh (accounted : Accounted n l) {call : LockCall} (valid : call.Valid n l)
    (careful : call.Careful l) : call.Fresh l := by
  intro u v before after
  have accepts := LockCall.accepts_of_locked before after
  cases call with
  | request userId friendId salonId => cases accepts
  | stop userId friendId salonId => cases accepts
  | answer userId friendId notifId accepted =>
      rcases accepts with ⟨rfl, two⟩
      rcases valid with ⟨note, found, type, isOpen, sender⟩
      rcases accounted.notifications userId notifId note found type isOpen with
        ⟨r, listed, friend, notif, user⟩
      have unlocked : ¬ l.store.Locked userId friendId := two.not_locked before
      have message := (careful rfl r listed friend notif).resolve_right unlocked
      have pending : r.pending l.store = true := by
        have there : l.store.openNotification r.friendId r.notifId = true := by
          rw [friend, notif]
          exact (Option.any_eq_true _ _).mpr ⟨note, found, by rw [isOpen]; rfl⟩
        unfold LockRequest.pending
        rw [there, message, Bool.true_and]
      have fresh := accounted.fresh_of_pending listed pending
      refine ⟨r, listed, ?_, fresh.1, fresh.2, ?_⟩
      · rw [user, sender, friend]
        exact two.swap
      · rw [LockCall.mark_answer, if_pos ⟨friend, notif⟩]
  | answerInChat userId otherId salonId key accepted =>
      rcases accepts with ⟨rfl, two⟩
      rcases valid with ⟨⟨lengthU, lengthO, pair⟩, m, found, type, isOpen⟩
      rcases accounted.messages salonId key m found type isOpen with ⟨r, listed, left⟩
      have unlocked : ¬ l.store.Locked userId otherId := two.not_locked before
      have pending : r.pending l.store = true := by
        have notification : l.store.openNotification r.friendId r.notifId = true := by
          have ready := careful r listed left
          split at ready
          case isTrue there => exact there
          case isFalse => exact absurd (ready rfl) unlocked
        have message : l.store.openMessage (salonId, key) = true :=
          (Option.any_eq_true _ _).mpr ⟨m, found, decide_eq_true isOpen⟩
        unfold LockRequest.pending LockRequest.openMessage
        rw [notification, left, Option.all_some, message]
        rfl
      have fresh := accounted.fresh_of_pending listed pending
      refine ⟨r, listed, ?_, fresh.1, fresh.2, ?_⟩
      · rcases accounted.salons r listed salonId key left with ⟨lengthR, lengthF, own⟩
        exact (own.ofTwo ⟨lengthR, lengthF⟩ ⟨lengthU, lengthO⟩ pair).trans two
      · rw [LockCall.mark_answerInChat, if_pos left]

end Steps

/-! ## Whole runs -/

section Runs

variable {n : Nat} {s : Store} {calls : List LockCall}

/-- How many requests of the two users have been answered. -/
def LockLedger.answered (l : LockLedger) (u v : UserId) : Nat :=
  l.requests.countP fun r => OfTwo r.userId r.friendId u v ∧ r.answered

/-- How many requests the two users have made. -/
def LockLedger.asked (l : LockLedger) (u v : UserId) : Nat :=
  l.requests.countP fun r => OfTwo r.userId r.friendId u v

/-- No more requests are answered than were made. -/
theorem answered_le_asked (l : LockLedger) (u v : UserId) : l.answered u v ≤ l.asked u v := by
  apply List.countP_mono_left
  intro r _ both
  exact decide_eq_true (of_decide_eq_true both).1

/-- One element that is counted now and was not before. -/
theorem countP_lt_countP_map {α : Type} {p : α → Bool} {f : α → α} {xs : List α}
    (kept : ∀ x, p x = true → p (f x) = true) {x : α} (listed : x ∈ xs) (before : p x = false)
    (after : p (f x) = true) : xs.countP p < (xs.map f).countP p := by
  have less (ys : List α) : ys.countP p ≤ (ys.map f).countP p := by
    rw [List.countP_map]
    exact List.countP_mono_left fun y _ => kept y
  rcases List.append_of_mem listed with ⟨front, rest, rfl⟩
  have first := less front
  have second := less rest
  rw [List.map_append, List.map_cons, List.countP_append, List.countP_append, List.countP_cons,
    List.countP_cons, before, after]
  simp only [Bool.false_eq_true, ↓reduceIte]
  omega

/-- Answered requests stay answered. -/
theorem mark_answered (call : LockCall) (r : LockRequest) (answered : r.answered = true) :
    (call.mark r).answered = true := by
  cases call with
  | request userId friendId salonId => exact answered
  | stop userId friendId salonId =>
      rw [LockCall.mark_stop]
      split
      · exact answered
      · exact answered
  | answer userId friendId notifId accepted =>
      rw [LockCall.mark_answer]
      split
      · rfl
      · exact answered
  | answerInChat userId otherId salonId key accepted =>
      rw [LockCall.mark_answerInChat]
      split
      · rfl
      · exact answered

/-- A lock that comes from a fresh request uses it up. -/
theorem locks_step {l : LockLedger} {call : LockCall} (fresh : call.Fresh l) (u v : UserId) :
    (if ¬ l.store.Locked u v ∧ (l.step call).store.Locked u v then 1 else 0) + l.answered u v ≤
      (l.step call).answered u v := by
  let p (r : LockRequest) : Bool := OfTwo r.userId r.friendId u v ∧ r.answered
  have kept (r : LockRequest) (now : p r = true) : p (call.mark r) = true := by
    rcases of_decide_eq_true now with ⟨two, answered⟩
    have same := call.sameRequest_mark r
    refine decide_eq_true ⟨?_, mark_answered call r answered⟩
    rwa [same.userId, same.friendId]
  have marked : (l.requests.map call.mark).countP p ≤ (l.step call).answered u v := by
    change _ ≤ List.countP p (l.requests.map call.mark ++ _)
    rw [List.countP_append]
    exact Nat.le_add_right _ _
  split
  case isTrue locked =>
    rcases fresh u v locked.1 locked.2 with ⟨r, listed, two, unanswered, -, answered⟩
    have before : p r = false := by
      apply decide_eq_false
      intro both
      rw [unanswered] at both
      cases both.2
    have after : p (call.mark r) = true := by
      have same := call.sameRequest_mark r
      refine decide_eq_true ⟨?_, answered⟩
      rwa [same.userId, same.friendId]
    have less : l.answered u v < (l.requests.map call.mark).countP p :=
      countP_lt_countP_map kept listed before after
    omega
  case isFalse =>
    have less : l.answered u v ≤ (l.requests.map call.mark).countP p := by
      rw [List.countP_map]
      exact List.countP_mono_left fun r _ => kept r
    omega

/-- There are no more locks than requests that were answered. -/
theorem locks_le {l : LockLedger} (fresh : Along LockLedger.step LockCall.Fresh l calls)
    (u v : UserId) : locks u v l calls + l.answered u v ≤
      (run LockLedger.step l calls).answered u v := by
  induction calls generalizing l with
  | nil =>
      rw [locks, run_nil]
      omega
  | cons call calls ih =>
      have first := locks_step fresh.1 u v
      have rest := ih fresh.2
      rw [locks, run_cons]
      omega

/-- **In a careful run every lock comes from a fresh request, which the answer that locks uses
up, and there are no more locks of two users than requests between them.** -/
theorem fresh_request (clean : s.NoRequest)
    (valid : Along LockLedger.step (LockCall.Valid n) ⟨s, []⟩ calls)
    (careful : Along LockLedger.step LockCall.Careful ⟨s, []⟩ calls) :
    Along LockLedger.step LockCall.Fresh ⟨s, []⟩ calls ∧
      ∀ u v, locks u v ⟨s, []⟩ calls ≤ (run LockLedger.step ⟨s, []⟩ calls).asked u v := by
  have fresh : Along LockLedger.step LockCall.Fresh ⟨s, []⟩ calls :=
    along_of_invariant (P := Accounted n)
      (fun _ _ accounted ready => accounted.step ready.1 ready.2)
      (fun _ _ accounted ready => accounted.fresh ready.1 ready.2) (.start clean)
      (Along.and_iff.mpr ⟨valid, careful⟩)
  refine ⟨fresh, fun u v => ?_⟩
  have used := locks_le fresh u v
  have asked := answered_le_asked (run LockLedger.step ⟨s, []⟩ calls) u v
  omega

end Runs

/-! ## A request that is accepted twice -/

/-- Two users with a profile. -/
def lockUsers : Store :=
  .ofUsers ⟨[("p", profiled "p"), ("q", profiled "q")], by decide⟩

theorem lockUsers_noRequest : lockUsers.NoRequest where
  notifications _ _ _ found := by cases found
  messages _ _ _ found := by cases found

/-- Two requests, each accepted in one of the two places, with the end of the first lock between
them. -/
def twoRequests : List LockCall :=
  [.request "p" "q" none, .answer "q" "p" 0 true, .stop "q" "p" none,
    .request "p" "q" none, .answerInChat "q" "p" "pq" 1 true]

theorem twoRequests_fresh :
    (Along LockLedger.step LockCall.Fresh ⟨lockUsers, []⟩ twoRequests ∧
      ∀ u v, locks u v ⟨lockUsers, []⟩ twoRequests ≤
        (run LockLedger.step ⟨lockUsers, []⟩ twoRequests).asked u v) ∧
      locks "p" "q" ⟨lockUsers, []⟩ twoRequests = 2 :=
  ⟨fresh_request (n := 1) lockUsers_noRequest (by decide) (by decide), by decide⟩

/-- The request is accepted in the chat, the lock is ended, and then the notification is accepted,
which is still open. -/
def lateAnswer : List LockCall :=
  [.request "p" "q" none, .answerInChat "q" "p" "pq" 0 true, .stop "p" "q" none,
    .answer "q" "p" 0 true]

/-- One request, and two locks. -/
theorem lateAnswer_not_fresh : lockUsers.NoRequest ∧
    Along LockLedger.step (LockCall.Valid 1) ⟨lockUsers, []⟩ lateAnswer ∧
      ¬ Along LockLedger.step LockCall.Fresh ⟨lockUsers, []⟩ lateAnswer ∧
        (run LockLedger.step ⟨lockUsers, []⟩ lateAnswer).asked "p" "q" = 1 ∧
          locks "p" "q" ⟨lockUsers, []⟩ lateAnswer = 2 := by
  refine ⟨lockUsers_noRequest, by decide, ?_, by decide, by decide⟩
  intro fresh
  have late := fresh.2.2.2.1 "p" "q" (by decide) (by decide)
  rcases late with ⟨r, listed, -, answered, -⟩
  have all : ∀ r ∈ (run LockLedger.step ⟨lockUsers, []⟩ (lateAnswer.take 3)).requests,
      r.answered = true := by decide
  rw [all r listed] at answered
  cases answered

end TwoGather
