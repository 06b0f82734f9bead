import TwoGather.Lib.Faults
import TwoGather.LockDuo.Controller

/-!
# Lock requests with an operation that fails

The app looks for the salon of the two, or stores a new one, and then calls the cloud
function, which leaves the notification and tells the friend. The message and the lock of
the salon are written after the call. Every error is answered with `true`, and no write is
taken back.

So a request that fails after the notification has been written leaves it, and perhaps the
message too (`requestNewLockDuo_leavesNoTrace_iff`).
-/

namespace TwoGather

open Docs Requests

/-! ## The request with failures -/

/-- The operations of a request. Whether a push throws stands in the store; `answer`
is the result of the cloud function on its way back. -/
inductive LockOp
  | lookUp
  | lookUpBack
  | createSalon
  | call
  | readUser
  | readFriend
  | notify
  | answer
  | addMessage
  | updateSalon
  deriving DecidableEq

/-- The cloud function. -/
def requestNewLockDuoWith (fails : LockOp → Bool) (userId friendId : UserId) :
    Firestore Bool := do
  let userData ← attempt (fails .readUser) (getUser userId)
  let friendData ← attempt (fails .readFriend) (getUser friendId)
  let firstname ← defined (optional User.firstname userData)
  let lastname ← defined (optional User.lastname userData)
  let pictures ← defined (optional User.profilImages userData)
  attempt (fails .notify)
    (addNotification friendId (duoRequestNotification userId firstname lastname pictures))
  let friendData ← member friendData
  pushUnlessEmpty friendData.fcmToken
  return true

/-- The salon that the caller knows, the one that is found, or a new one. -/
def salonOrWith (fails : LockOp → Bool) (salonId : Option SalonId) (userId friendId : UserId) :
    Firestore SalonId :=
  match salonId with
  | some salonId => pure salonId
  | none => do
      let doc1 ← attempt (fails .lookUp) (getSalon (userId ++ friendId))
      if doc1.isSome then
        return userId ++ friendId
      let doc2 ← attempt (fails .lookUpBack) (getSalon (friendId ++ userId))
      if doc2.isSome then
        return friendId ++ userId
      attempt (fails .createSalon)
        (setSalon (userId ++ friendId) { type := .oneToOne, users := [userId, friendId] })
      return userId ++ friendId

/-- What stands in the `try` of the app. -/
def lockRequestBody (fails : LockOp → Bool) (userId friendId : UserId) (salonId : SalonId) :
    Firestore Bool := do
  let result ← attempt (fails .call) (requestNewLockDuoWith fails userId friendId)
  attempt (fails .answer) (pure ())
  checkResult result
  let ref ← attempt (fails .addMessage) (addChatMessage salonId (lockDemand userId))
  attempt (fails .updateSalon) (updateSalon salonId (·.demand ref))
  return false

def FriendController.requestNewLockDuoWith (fails : LockOp → Bool) (userId friendId : UserId)
    (salonId : Option SalonId) : Firestore Bool := do
  let salonId ← salonOrWith fails salonId userId friendId
  tryCatch (lockRequestBody fails userId friendId salonId) fun _ => return true

/-! ## Opening the salon -/

section Open

variable {s : Store} {fails : LockOp → Bool} {u v : UserId} {salonId : Option SalonId}

/-- The salon is given, found or stored: no operation before the `try` fails. -/
def Store.OpensSalon (s : Store) (fails : LockOp → Bool) (u v : UserId)
    (salonId : Option SalonId) : Prop :=
  salonId = none → fails .lookUp = false ∧
    (s.salon (u ++ v) = none → fails .lookUpBack = false ∧
      (s.salon (v ++ u) = none → fails .createSalon = false))

/-- The salon of the request. -/
def Store.openSalon (s : Store) (u v : UserId) (salonId : Option SalonId) : SalonId :=
  salonId.getD ((s.salonOf u v).getD (u ++ v))

/-- The store in which the request goes on. -/
def Store.opened (s : Store) (u v : UserId) (salonId : Option SalonId) : Store :=
  if salonId.isSome then s else s.withSalon u v u v

theorem exec_salonOrWith (opens : s.OpensSalon fails u v salonId) :
    (salonOrWith fails salonId u v).exec s =
      (.ok (s.openSalon u v salonId), s.opened u v salonId) := by
  cases salonId with
  | some id => rfl
  | none =>
      obtain ⟨lookUp, rest⟩ := opens rfl
      unfold salonOrWith Store.openSalon Store.opened Store.withSalon Store.salonOf
      cases first : s.salon (u ++ v) with
      | some _ => simp [lookUp, first]
      | none =>
          obtain ⟨lookUpBack, last⟩ := rest first
          cases second : s.salon (v ++ u) with
          | some _ => simp [lookUp, lookUpBack, first, second]
          | none => simp [lookUp, lookUpBack, first, second, last second]

/-- A failure before the `try` is raised to the caller. -/
theorem exec_salonOrWith_fails (stays : ¬ s.OpensSalon fails u v salonId) :
    (salonOrWith fails salonId u v).exec s = (.error .unavailable, s) := by
  cases salonId with
  | some id => exact absurd (fun missing => by cases missing) stays
  | none =>
      unfold salonOrWith
      cases lookUp : fails .lookUp with
      | true => simp
      | false =>
          cases first : s.salon (u ++ v) with
          | some _ => exact absurd (fun _ => ⟨lookUp, fun none => by simp [first] at none⟩) stays
          | none =>
              cases lookUpBack : fails .lookUpBack with
              | true => simp [first]
              | false =>
                  cases second : s.salon (v ++ u) with
                  | some _ =>
                      refine absurd (fun _ => ⟨lookUp, fun _ => ⟨lookUpBack, fun none => ?_⟩⟩) stays
                      simp [second] at none
                  | none =>
                      cases create : fails .createSalon with
                      | true => simp [first, second]
                      | false =>
                          exact absurd (fun _ => ⟨lookUp, fun _ => ⟨lookUpBack, fun _ => create⟩⟩)
                            stays

@[simp] theorem user_opened (w : UserId) : (s.opened u v salonId).user w = s.user w := by
  unfold Store.opened Store.withSalon
  split
  · rfl
  · split <;> rfl

theorem opened_rest :
    (s.opened u v salonId).notifications = s.notifications ∧
      (s.opened u v salonId).messages = s.messages ∧ (s.opened u v salonId).clock = s.clock ∧
      (s.opened u v salonId).push = s.push := by
  unfold Store.opened Store.withSalon
  split
  · exact ⟨rfl, rfl, rfl, rfl⟩
  · split <;> exact ⟨rfl, rfl, rfl, rfl⟩

/-- Only a salon given by the caller can be missing. -/
theorem isSome_openSalon :
    ((s.opened u v salonId).salon (s.openSalon u v salonId)).isSome ↔
      ∀ id ∈ salonId, (s.salon id).isSome := by
  cases salonId with
  | some id => simp [Store.opened, Store.openSalon]
  | none =>
      suffices there : ((s.opened u v none).salon (s.openSalon u v none)).isSome by simp [there]
      unfold Store.opened Store.openSalon Store.withSalon Store.salonOf
      cases first : s.salon (u ++ v) with
      | some _ => simp [first]
      | none =>
          cases second : s.salon (v ++ u) with
          | some _ => simp [second]
          | none => simp

variable (s u v salonId) in
/-- Without failures these are the look-up and the request of the app. -/
theorem exec_requestNewLockDuoWith_none :
    (FriendController.requestNewLockDuoWith (fun _ => false) u v salonId).exec s =
      (FriendController.requestNewLockDuo u v salonId).exec s := by
  have opens : s.OpensSalon (fun _ => false) u v salonId :=
    fun _ => ⟨rfl, fun _ => ⟨rfl, fun _ => rfl⟩⟩
  unfold FriendController.requestNewLockDuoWith
  rw [Program.exec_bind, exec_salonOrWith opens, requestNewLockDuo_eq, Program.exec_bind]
  cases salonId with
  | some id => rfl
  | none =>
      unfold salonOr
      rw [exec_salonFor]
      rfl

end Open

/-! ## How far the request gets -/

/-- The cloud function writes the notification. -/
def Store.Notifies (s : Store) (fails : LockOp → Bool) (u : UserId) : Prop :=
  (fails .call = false ∧ fails .readUser = false ∧ fails .readFriend = false ∧
    fails .notify = false) ∧ hasProfile (s.user u)

instance (s : Store) (fails : LockOp → Bool) (u : UserId) : Decidable (s.Notifies fails u) :=
  inferInstanceAs (Decidable (_ ∧ _))

/-- The friend is there, and the push resolves. -/
def Store.FriendAnswers (s : Store) (v : UserId) : Prop :=
  ∃ friend ∈ s.user v, s.PassesUnlessEmpty friend.fcmToken

instance (s : Store) (v : UserId) : Decidable (s.FriendAnswers v) :=
  inferInstanceAs (Decidable (∃ friend ∈ s.user v, _))

/-- What comes after the notification works. -/
def Store.Finishes (s : Store) (fails : LockOp → Bool) (v : UserId) (salonId : SalonId) : Prop :=
  s.FriendAnswers v ∧ fails .answer = false ∧ fails .addMessage = false ∧
    fails .updateSalon = false ∧ (s.salon salonId).isSome

section Outcomes

variable {s : Store} {fails : LockOp → Bool} {u v : UserId} {salonId : SalonId}

/-- The store with the notification of the request. -/
def Store.notified (s : Store) (u v : UserId) : Store :=
  s.addNotification v (requestNotification u (s.user u) s.clock)

theorem exec_requestNewLockDuoWith (notifies : s.Notifies fails u) :
    (requestNewLockDuoWith fails u v).exec s =
      (match s.user v with
        | some data => if s.PassesUnlessEmpty data.fcmToken then .ok true else .error .messaging
        | none => .error .typeError,
        s.notified u v) := by
  obtain ⟨⟨-, readUser, readFriend, notify⟩, profile⟩ := notifies
  have same : (requestNewLockDuoWith fails u v).exec s = (requestNewLockDuo u v).exec s := by
    unfold requestNewLockDuoWith requestNewLockDuo
    simp only [readUser, readFriend, notify, Program.attempt_false]
  rw [same, exec_requestNewLockDuo, if_pos profile]
  rfl

/-- A call that does not get to the notification writes nothing and raises an error. -/
theorem exec_requestNewLockDuoWith_fails (sent : fails .call = false)
    (silent : ¬ s.Notifies fails u) :
    ∃ e, (requestNewLockDuoWith fails u v).exec s = (.error e, s) := by
  unfold requestNewLockDuoWith
  cases readUser : fails .readUser with
  | true => exact ⟨_, rfl⟩
  | false =>
      cases readFriend : fails .readFriend with
      | true => exact ⟨_, rfl⟩
      | false =>
          simp only [Program.exec_bind, Program.attempt_false, exec_getUser, exec_defined]
          cases first : (optional User.firstname (s.user u)).isUndefined with
          | true => exact ⟨_, rfl⟩
          | false =>
              cases last : (optional User.lastname (s.user u)).isUndefined with
              | true => exact ⟨_, rfl⟩
              | false =>
                  cases pictures : (optional User.profilImages (s.user u)).isUndefined with
                  | true => exact ⟨_, rfl⟩
                  | false =>
                      have refused : fails .notify = true := by
                        by_contra notify
                        refine silent ⟨⟨sent, readUser, readFriend, by simpa using notify⟩, ?_⟩
                        simp [hasProfile, first, last, pictures]
                      simp only [refused]
                      exact ⟨_, rfl⟩

/-- A request that does not get to the notification leaves what it found. -/
theorem lockRequest_silent (silent : ¬ s.Notifies fails u) :
    (tryCatch (lockRequestBody fails u v salonId) fun _ => pure true : Firestore Bool).exec s =
      (.ok true, s) := by
  have error : ∃ e, (lockRequestBody fails u v salonId).exec s = (.error e, s) := by
    unfold lockRequestBody
    rw [Program.exec_bind, Program.exec_attempt]
    cases sent : fails .call with
    | true => exact ⟨_, rfl⟩
    | false =>
        obtain ⟨e, run⟩ := exec_requestNewLockDuoWith_fails (v := v) sent silent
        simp only [Bool.false_eq_true, if_false, run]
        exact ⟨e, rfl⟩
  obtain ⟨e, run⟩ := error
  rw [Program.exec_tryCatch, run]
  rfl

/-- A request that gets to its end says so. -/
theorem lockRequest_finishes (notifies : s.Notifies fails u) (finishes : s.Finishes fails v salonId) :
    ((tryCatch (lockRequestBody fails u v salonId) fun _ => pure true : Firestore Bool).exec s).1 =
      .ok false := by
  obtain ⟨⟨friend, found, passes⟩, answer, addMessage, update, salon⟩ := finishes
  rw [Option.mem_def] at found
  have there : (((s.notified u v).addMessage salonId (lockDemand u s.clock)).salon salonId).isSome :=
    salon
  have clock : (s.notified u v).clock = s.clock := rfl
  unfold lockRequestBody
  rw [Program.exec_tryCatch]
  simp only [Program.exec_bind, notifies.1.1, Program.attempt_false,
    exec_requestNewLockDuoWith notifies, found, passes, if_true, answer, Program.exec_pure,
    checkResult, addMessage, exec_addChatMessage, update, exec_updateSalon, clock, there]

/-- One that stops after the notification answers `true` and leaves the notification. -/
theorem lockRequest_stops (notifies : s.Notifies fails u)
    (stops : ¬ s.Finishes fails v salonId) :
    ∃ t, (tryCatch (lockRequestBody fails u v salonId) fun _ => pure true :
        Firestore Bool).exec s = (.ok true, t) ∧
      t.notifications v = (s.notifications v).add (requestNotification u (s.user u) s.clock) := by
  have added : (s.notified u v).notifications v =
      (s.notifications v).add (requestNotification u (s.user u) s.clock) := by
    rw [Store.notified, Store.notifications_addNotification, if_pos rfl]
  rw [← added]
  have error : ∃ e t, (lockRequestBody fails u v salonId).exec s = (.error e, t) ∧
      t.notifications v = (s.notified u v).notifications v := by
    unfold lockRequestBody
    simp only [Program.exec_bind, notifies.1.1, Program.attempt_false,
      exec_requestNewLockDuoWith notifies]
    cases found : s.user v with
    | none => exact ⟨_, _, rfl, rfl⟩
    | some friend =>
        by_cases passes : s.PassesUnlessEmpty friend.fcmToken
        · simp only [passes, if_true]
          cases answer : fails .answer with
          | true => exact ⟨_, _, rfl, rfl⟩
          | false =>
              cases addMessage : fails .addMessage with
              | true => exact ⟨_, _, rfl, rfl⟩
              | false =>
                  cases update : fails .updateSalon with
                  | true => exact ⟨_, _, rfl, rfl⟩
                  | false =>
                      have missing : s.salon salonId = none := by
                        by_contra there
                        exact stops ⟨⟨friend, found, passes⟩, answer, addMessage, update,
                          Option.isSome_iff_ne_none.mpr there⟩
                      have none : (((s.notified u v).addMessage salonId
                          (lockDemand u (s.notified u v).clock)).salon salonId) = none := missing
                      simp only [checkResult, if_true, Program.exec_pure, Program.attempt_false,
                        exec_addChatMessage, exec_updateSalon, none]
                      exact ⟨_, _, rfl, rfl⟩
        · simp only [passes, if_false]
          exact ⟨_, _, rfl, rfl⟩
  obtain ⟨e, t, run, same⟩ := error
  refine ⟨t, ?_, same⟩
  rw [Program.exec_tryCatch, run]
  rfl

end Outcomes

/-! ## No trace -/

/-- `t` is `s` as far as a lock request to `v` is concerned: no request is new, no message is,
and no salon has changed its lock. A salon of its own, which a failed request may leave, is not
locked. -/
structure NoTrace (s t : Store) (v : UserId) : Prop where
  notifications : ∀ k note, (t.notifications v).get? k = some note →
    note.notificationType = .duoRequest → (s.notifications v).get? k = some note
  messages : ∀ id k m, (t.messages id).get? k = some m →
    m.type = .lockDemandMessage → (s.messages id).get? k = some m
  kept : ∀ id before, s.salon id = some before → ∃ after, t.salon id = some after ∧
    after.lock = before.lock ∧ after.lastLockedDemand = before.lastLockedDemand
  created : ∀ id after, s.salon id = none → t.salon id = some after →
    after.lock = .value .notYet ∧ after.lastLockedDemand = .undefined

theorem NoTrace.refl (s : Store) (v : UserId) : NoTrace s s v where
  notifications _ _ found _ := found
  messages _ _ _ found _ := found
  kept _ before found := ⟨before, found, rfl, rfl⟩
  created id after missing found := by
    rw [missing] at found
    cases found

section Exact

variable {s : Store} {fails : LockOp → Bool} {u v : UserId} {salonId : Option SalonId}

theorem withSalon_noTrace : NoTrace s (s.withSalon u v u v) v := by
  unfold Store.withSalon
  split
  case isTrue => exact .refl s v
  case isFalse unknown =>
    have missing : s.salon (u ++ v) = none := by
      by_contra there
      apply unknown
      simp [Store.salonOf, Option.isSome_iff_ne_none.mpr there]
    refine ⟨fun _ _ found _ => found, fun _ _ _ found _ => found, ?_, ?_⟩
    · intro id before found
      have other : id ≠ u ++ v := fun same => by simp [same, missing] at found
      exact ⟨before, by rw [Store.salon_setSalon, if_neg other, found], rfl, rfl⟩
    · intro id after missing found
      rw [Store.salon_setSalon, missing] at found
      split at found
      · cases found
        exact ⟨rfl, rfl⟩
      · cases found

/-- A look-up leaves no trace: a salon that it stores is not locked. -/
theorem opened_noTrace : NoTrace s (s.opened u v salonId) v := by
  unfold Store.opened
  split
  · exact .refl s v
  · exact withSalon_noTrace

/-- A notification is a trace. -/
theorem not_noTrace {t : Store} {note : Notification} (type : note.notificationType = .duoRequest)
    (added : t.notifications v = (s.notifications v).add note) : ¬ NoTrace s t v := by
  intro clean
  have found : (t.notifications v).get? (s.notifications v).next = some note := by
    rw [added]
    simp
  have old := clean.notifications _ _ found type
  rw [AutoCollection.get?_next] at old
  cases old

theorem notifies_opened : (s.opened u v salonId).Notifies fails u ↔ s.Notifies fails u := by
  unfold Store.Notifies
  rw [user_opened]

theorem friendAnswers_opened : (s.opened u v salonId).FriendAnswers v ↔ s.FriendAnswers v := by
  unfold Store.FriendAnswers Store.PassesUnlessEmpty
  rw [user_opened, opened_rest.2.2.2]

/-- **A request that is answered with an error leaves no trace exactly when the notification is
not written, or everything after it works: the friend can be told, the answer arrives, and the
message and the lock are written to a salon that exists.** -/
theorem requestNewLockDuo_leavesNoTrace_iff (s : Store) (fails : LockOp → Bool) (u v : UserId)
    (salonId : Option SalonId) :
    (((FriendController.requestNewLockDuoWith fails u v salonId).exec s).1 = .ok true →
        NoTrace s ((FriendController.requestNewLockDuoWith fails u v salonId).exec s).2 v) ↔
      (s.OpensSalon fails u v salonId → s.Notifies fails u →
        s.FriendAnswers v ∧ fails .answer = false ∧ fails .addMessage = false ∧
          fails .updateSalon = false ∧ ∀ id ∈ salonId, (s.salon id).isSome) := by
  unfold FriendController.requestNewLockDuoWith
  rw [Program.exec_bind]
  by_cases opens : s.OpensSalon fails u v salonId
  · rw [exec_salonOrWith opens]
    dsimp only
    have finishes : (s.opened u v salonId).Finishes fails v (s.openSalon u v salonId) ↔
        s.FriendAnswers v ∧ fails .answer = false ∧ fails .addMessage = false ∧
          fails .updateSalon = false ∧ ∀ id ∈ salonId, (s.salon id).isSome := by
      unfold Store.Finishes
      rw [friendAnswers_opened, isSome_openSalon]
    have same : (s.opened u v salonId).Notifies fails u ↔ s.Notifies fails u := notifies_opened
    rw [← finishes, ← same]
    by_cases notifies : (s.opened u v salonId).Notifies fails u
    · by_cases ends : (s.opened u v salonId).Finishes fails v (s.openSalon u v salonId)
      · rw [lockRequest_finishes notifies ends]
        exact ⟨fun _ _ _ => ends, fun _ error => by cases error⟩
      · obtain ⟨t, run, left⟩ := lockRequest_stops notifies ends
        rw [run]
        rw [opened_rest.1] at left
        have trace : ¬ NoTrace s t v := not_noTrace rfl left
        exact ⟨fun clean => absurd (clean rfl) trace, fun all => absurd (all opens notifies) ends⟩
    · rw [lockRequest_silent notifies]
      exact ⟨fun _ _ sent => absurd sent notifies, fun _ _ => opened_noTrace⟩
  · rw [exec_salonOrWith_fails opens]
    exact ⟨fun _ opened => absurd opened opens, fun _ error => by cases error⟩

end Exact

/-! ## A friend who has switched notifications off -/

/-- `u` and `v` have a profile and a salon. The settings have left a null token of `v`. -/
def pushesOff : Store :=
  { Store.ofUsers
      ⟨[("u", { firstname := .value "U", lastname := .value "U", profilImages := .value ["u.png"] }),
        ("v", { fcmToken := .null })], by decide⟩ with
    salons := ⟨[("uv", { type := .oneToOne, users := ["u", "v"] })], by decide⟩
    push := nonEmptyToken }

/-- No operation fails but the push to no token. The app tells `u` that nothing was sent, and `v`
has the request. -/
theorem pushesOff_request :
    let run := (FriendController.requestNewLockDuoWith (fun _ => false) "u" "v" (some "uv")).exec
      pushesOff
    run.1 = .ok true ∧ ¬ NoTrace pushesOff run.2 "v" := by
  refine ⟨rfl, ?_⟩
  intro clean
  have old := clean.notifications 0 _ rfl rfl
  cases old

end TwoGather
