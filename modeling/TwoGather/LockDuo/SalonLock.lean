import Mathlib.Data.Fintype.Basic
import TwoGather.Lib.Script
import TwoGather.LockDuo.FreshRequest

/-!
# The lock of the salon and the lock of the users

Whether two users are locked stands in their two documents, which the cloud functions write, and
once more in the field `lock` of their salon, which the app writes afterwards. An acceptance
writes the one user, the other and then the salon, and so does the end of a lock; a request
writes only the salon, when the notification has long been sent, and a refusal writes neither.
Any of these requests may come between those of another call.

* `LockScene`: two users with one salon, and calls of any users, none of which has begun.
* `Orderly`: what a request must find. An acceptance does not begin to write while the end of a
  lock is writing, nor the other way round; the `sended` of a request comes before the answer;
  the salon is not at `sended` when the last request is refused; and a call with a third user
  does not take a locked user away.
* `salon_lock_agrees`: if all requests of a schedule are orderly, then the salon and the users
  agree whenever no call is in progress.
-/

namespace TwoGather

open Docs Requests Program

/-! ## Calls of any users, and two users with one salon -/

/-- `lock` of the salon. -/
def Store.lockOf (s : Store) (id : SalonId) : Stored LockState :=
  match s.salon id with
  | some salon => salon.lock
  | none => .undefined

namespace LockCall

def userId : LockCall → UserId
  | request userId _ _ | stop userId _ _ | answer userId _ _ _ | answerInChat userId _ _ _ _ =>
      userId

def friendId : LockCall → UserId
  | request _ friendId _ | stop _ friendId _ | answer _ friendId _ _
  | answerInChat _ friendId _ _ _ => friendId

/-- The user that an acceptance or the end of a lock writes first. -/
def first : LockCall → UserId
  | request userId _ _ | stop userId _ _ | answer userId _ _ _ => userId
  | answerInChat _ otherId _ _ _ => otherId

def second : LockCall → UserId
  | request _ friendId _ | stop _ friendId _ | answer _ friendId _ _ => friendId
  | answerInChat userId _ _ _ _ => userId

/-- The salon that is handed over. -/
def given : LockCall → Option SalonId
  | request _ _ salonId | stop _ _ salonId => salonId
  | answer _ _ _ _ | answerInChat _ _ _ _ _ => none

/-- The call is one of these two users with each other. -/
def About (u v : UserId) (call : LockCall) : Prop :=
  OfTwo call.userId call.friendId u v

instance (u v : UserId) (call : LockCall) : Decidable (call.About u v) :=
  inferInstanceAs (Decidable (OfTwo _ _ _ _))

/-- The call ends a lock of the two users. -/
def Stops (u v : UserId) : LockCall → Prop
  | stop userId friendId _ => OfTwo userId friendId u v
  | _ => False

/-- The call makes a request between the two users. -/
def Asks (u v : UserId) : LockCall → Prop
  | request userId friendId _ => OfTwo userId friendId u v
  | _ => False

/-- The call refuses a request between the two users. -/
def Refuses (u v : UserId) : LockCall → Prop
  | answer userId friendId _ accepted => accepted = false ∧ OfTwo userId friendId u v
  | answerInChat userId otherId _ _ accepted => accepted = false ∧ OfTwo userId otherId u v
  | _ => False

instance (u v : UserId) : (call : LockCall) → Decidable (call.Accepts u v)
  | answer _ _ _ _ | answerInChat _ _ _ _ _ => inferInstanceAs (Decidable (_ ∧ _))
  | request _ _ _ | stop _ _ _ => .isFalse id

instance (u v : UserId) : (call : LockCall) → Decidable (call.Stops u v)
  | stop _ _ _ => inferInstanceAs (Decidable (OfTwo _ _ _ _))
  | request _ _ _ | answer _ _ _ _ | answerInChat _ _ _ _ _ => .isFalse id

instance (u v : UserId) : (call : LockCall) → Decidable (call.Refuses u v)
  | answer _ _ _ _ | answerInChat _ _ _ _ _ => inferInstanceAs (Decidable (_ ∧ _))
  | request _ _ _ | stop _ _ _ => .isFalse id

/-- How many requests it takes to find the salon under one of its two ids. -/
def lookups (id : SalonId) (uid1 uid2 : UserId) : Nat :=
  if id = uid1 ++ uid2 then 1 else 2

/-- How many requests an acceptance or the end of a lock makes before it writes: it looks for the
salon, and an acceptance marks the notification and reads the two users. -/
def lead (id : SalonId) : LockCall → Nat
  | request _ _ _ => 0
  | stop userId friendId salonId => if salonId.isSome then 0 else lookups id userId friendId
  | answer userId friendId _ _ => lookups id friendId userId + 3
  | answerInChat userId otherId _ _ _ => lookups id userId otherId + 2

end LockCall

/-- Two users with one salon, and the calls that are made. Ids have one length, and a salon that
is handed over is the one of the users of the call. -/
structure LockScene (ι : Type) where
  u : UserId
  v : UserId
  distinct : u ≠ v
  salonId : SalonId
  pair : PairId u v salonId
  calls : ι → LockCall
  length : v.length = u.length
  lengths : ∀ i, (calls i).userId.length = u.length ∧ (calls i).friendId.length = u.length
  given : ∀ i, ∀ id ∈ (calls i).given, PairId (calls i).userId (calls i).friendId id ∧
    ((calls i).About u v → id = salonId)

/-- A request between the two users: the call that made it, the keys of what it left, and whether
it has been answered. -/
structure SentRequest (ι : Type) where
  call : ι
  notifId : Nat
  message : Option Nat := none
  answered : Bool := false
  deriving DecidableEq

/-- What is left of the calls, how many requests each of them has made, and the lock requests
between the two users in the order of their notifications. -/
structure LockRun (ι : Type) where
  pool : Pool ι Store Err Unit
  made : ι → Nat
  sent : List (SentRequest ι)

namespace LockScene

variable {ι : Type} (scene : LockScene ι)

/-- No call has begun. -/
def start (s : Store) : LockRun ι where
  pool := { store := s, thread i := (scene.calls i).program }
  made _ := 0
  sent := []

/-- The call of the two users answers the request, through the notification or through the
message. -/
def Answers (q : SentRequest ι) : LockCall → Prop
  | .answer userId friendId notifId _ => OfTwo userId friendId scene.u scene.v ∧
      (scene.calls q.call).friendId = userId ∧ q.notifId = notifId
  | .answerInChat userId otherId salonId key _ => OfTwo userId otherId scene.u scene.v ∧
      salonId = scene.salonId ∧ q.message = some key
  | .request _ _ _ | .stop _ _ _ => False

instance (q : SentRequest ι) : (call : LockCall) → Decidable (scene.Answers q call)
  | .answer _ _ _ _ | .answerInChat _ _ _ _ _ => inferInstanceAs (Decidable (_ ∧ _ ∧ _))
  | .request _ _ _ | .stop _ _ _ => .isFalse id

variable [DecidableEq ι]

/-- What a request of `i` says about the lock requests: a call that makes one leaves its
notification and then its message, and an answer answers when it begins. -/
def tell (r : LockRun ι) (i : ι) (s : Store) : List (SentRequest ι) :=
  match scene.calls i with
  | .request userId friendId _ =>
      let notifId := (r.pool.store.notifications friendId).next
      let key := (r.pool.store.messages scene.salonId).next
      if ¬ OfTwo userId friendId scene.u scene.v then r.sent
      else if (s.notifications friendId).next ≠ notifId then
        r.sent ++ [{ call := i, notifId }]
      else if (s.messages scene.salonId).next ≠ key then
        r.sent.map fun q => if q.call = i then { q with message := some key } else q
      else r.sent
  | call =>
      if r.made i = 0 then
        r.sent.map fun q => if scene.Answers q call then { q with answered := true } else q
      else r.sent

/-- The next request of the call `i`. -/
def move (r : LockRun ι) (i : ι) : LockRun ι :=
  let pool := r.pool.move i
  { pool
    made := Function.update r.made i (r.made i + 1)
    sent := scene.tell r i pool.store }

end LockScene

/-! ## Agreement, and what it takes -/

namespace LockScene

variable {ι : Type} (scene : LockScene ι) (r : LockRun ι)

/-- The last request between the two users has not been answered. -/
def LastOpen : Prop :=
  ∃ q ∈ r.sent.getLast?, q.answered = false

instance : Decidable (LastOpen r) :=
  inferInstanceAs (Decidable (∃ q ∈ r.sent.getLast?, _))

/-- The salon is locked if and only if the users are locked with each other, and it is at
`sended` only if the last request between them has been neither accepted nor refused. -/
structure Agrees : Prop where
  locked : r.pool.store.lockOf scene.salonId = .value .locked ↔
    r.pool.store.Locked scene.u scene.v
  sended : r.pool.store.lockOf scene.salonId = .value .sended → LastOpen r

/-- No call is in progress. -/
def Idle : Prop :=
  ∀ i, r.made i = 0 ∨ ∃ outcome, r.pool.Finished i outcome

/-- The call is an acceptance between the two users that has written one of them, and has not yet
written the salon. -/
def Accepting (i : ι) : Prop :=
  (scene.calls i).Accepts scene.u scene.v ∧
    (scene.calls i).lead scene.salonId < r.made i ∧
      r.made i ≤ (scene.calls i).lead scene.salonId + 3

/-- The call ends a lock of the two users: it has written one of them, and has not yet written
the salon. -/
def Stopping (i : ι) : Prop :=
  (scene.calls i).Stops scene.u scene.v ∧
    (scene.calls i).lead scene.salonId < r.made i ∧
      r.made i ≤ (scene.calls i).lead scene.salonId + 2

instance (i : ι) : Decidable (scene.Accepting r i) :=
  inferInstanceAs (Decidable (_ ∧ _ ∧ _))

instance (i : ι) : Decidable (scene.Stopping r i) :=
  inferInstanceAs (Decidable (_ ∧ _ ∧ _))

end LockScene

namespace LockScene

variable {ι : Type} [DecidableEq ι] (scene : LockScene ι) (r : LockRun ι)

/-- What the next request of `i` must find. -/
structure Orderly (i : ι) : Prop where
  /-- An acceptance begins to write while no end of a lock is writing. -/
  accept : (scene.calls i).Accepts scene.u scene.v →
    r.made i = (scene.calls i).lead scene.salonId → ∀ j, ¬ scene.Stopping r j
  /-- The end of a lock begins to write while no acceptance is writing. -/
  stop : (scene.calls i).Stops scene.u scene.v →
    r.made i = (scene.calls i).lead scene.salonId → ∀ j, ¬ scene.Accepting r j
  /-- The salon gets to `sended` while the users are not locked and their last request has not
  been answered, or while an acceptance will still write it. -/
  ask : r.pool.store.lockOf scene.salonId ≠ .value .sended →
    (r.pool.move i).store.lockOf scene.salonId = .value .sended →
      ¬ r.pool.store.Locked scene.u scene.v ∧ LastOpen r ∨ ∃ j, scene.Accepting r j
  /-- The last request is refused while the salon is not at `sended`. -/
  refuse : (scene.calls i).Refuses scene.u scene.v → r.made i = 0 →
    ∀ q ∈ r.sent.getLast?, scene.Answers q (scene.calls i) →
      r.pool.store.lockOf scene.salonId ≠ .value .sended
  /-- A call with a third user changes the lock of one of the two while they are not locked with
  each other and no acceptance between them is writing. -/
  other : ¬ (scene.calls i).About scene.u scene.v →
    ((r.pool.move i).store.partner scene.u ≠ r.pool.store.partner scene.u ∨
      (r.pool.move i).store.partner scene.v ≠ r.pool.store.partner scene.v) →
        ¬ r.pool.store.Locked scene.u scene.v ∧ ∀ j, ¬ scene.Accepting r j

set_option synthInstance.maxSize 1000 in
instance [Fintype ι] (i : ι) : Decidable (scene.Orderly r i) :=
  decidable_of_iff
    (((scene.calls i).Accepts scene.u scene.v →
        r.made i = (scene.calls i).lead scene.salonId → ∀ j, ¬ scene.Stopping r j) ∧
      ((scene.calls i).Stops scene.u scene.v →
        r.made i = (scene.calls i).lead scene.salonId → ∀ j, ¬ scene.Accepting r j) ∧
      (r.pool.store.lockOf scene.salonId ≠ .value .sended →
        (r.pool.move i).store.lockOf scene.salonId = .value .sended →
          ¬ r.pool.store.Locked scene.u scene.v ∧ LastOpen r ∨ ∃ j, scene.Accepting r j) ∧
      ((scene.calls i).Refuses scene.u scene.v → r.made i = 0 →
        ∀ q ∈ r.sent.getLast?, scene.Answers q (scene.calls i) →
          r.pool.store.lockOf scene.salonId ≠ .value .sended) ∧
      (¬ (scene.calls i).About scene.u scene.v →
        ((r.pool.move i).store.partner scene.u ≠ r.pool.store.partner scene.u ∨
          (r.pool.move i).store.partner scene.v ≠ r.pool.store.partner scene.v) →
            ¬ r.pool.store.Locked scene.u scene.v ∧ ∀ j, ¬ scene.Accepting r j))
    ⟨fun h => ⟨h.1, h.2.1, h.2.2.1, h.2.2.2.1, h.2.2.2.2⟩,
      fun h => ⟨h.accept, h.stop, h.ask, h.refuse, h.other⟩⟩

end LockScene

/-- The salon of the two users is the only one, and their profiles are complete. -/
structure Store.Ready (s : Store) (u v : UserId) (id : SalonId) : Prop where
  salon : (s.salon id).isSome
  only : ∀ other, PairId u v other → (s.salon other).isSome → other = id
  user : hasProfile (s.user u)
  friend : hasProfile (s.user v)

/-! ## What the calls between the two users do -/

/-- The request changes neither users nor salons. -/
def Silent (act : Store → Store) : Prop :=
  ∀ s, (act s).users = s.users ∧ (act s).salons = s.salons

/-- The request locks `a` with `b`. -/
def Locks (a b : UserId) (act : Store → Store) : Prop :=
  ∃ duo : Duo, duo.id = b ∧ act = (·.updateUser a (·.lock duo))

def Unlocks (a : UserId) (act : Store → Store) : Prop :=
  act = (·.updateUser a (·.unlock))

def SetsLock (id : SalonId) (lock : LockState) (act : Store → Store) : Prop :=
  act = (·.updateSalon id (·.setLock lock))

theorem silent_id : Silent id := fun _ => ⟨rfl, rfl⟩

section Scripts

variable {u v a b : UserId} {id : SalonId} {α : Type} {kinds : List ((Store → Store) → Prop)}
  {rest : (Store → Store) → Prop}

/-- Two users whose salon has this id, in either order. -/
theorem PairId.of_ofTwo (pair : PairId u v id) (two : OfTwo a b u v) : PairId a b id := by
  rcases two with ⟨rfl, rfl⟩ | ⟨rfl, rfl⟩
  · exact pair
  · exact pair.symm

/-- The salon that is there is found. -/
theorem existSalon_script (pair : PairId u v id) (two : OfTwo a b u v)
    {k : Option SalonId → Firestore α}
    (later : (k (some id)).Script (·.Ready u v id) rest kinds) :
    (FirestoreQuery.existSalonOneToOneWithGivenUsers a b >>= k).Script (·.Ready u v id) rest
      (List.replicate (LockCall.lookups id a b) Silent ++ kinds) := by
  have own : PairId u v (a ++ b) := by
    rcases two with ⟨rfl, rfl⟩ | ⟨rfl, rfl⟩
    · exact .inl rfl
    · exact .inr rfl
  unfold FirestoreQuery.existSalonOneToOneWithGivenUsers LockCall.lookups
  rw [bind_assoc]
  by_cases first : id = a ++ b
  · rw [if_pos first]
    apply Script.read_bind silent_id
    intro s ready
    have there : (s.salon (a ++ b)).isSome := by
      rw [← first]
      exact ready.salon
    rw [if_pos there, ← first]
    exact later
  · rw [if_neg first]
    apply Script.read_bind silent_id
    intro s ready
    have missing : ¬ (s.salon (a ++ b)).isSome := by
      intro there
      exact first (ready.only _ own there).symm
    rw [if_neg missing]
    have second : id = b ++ a := (pair.of_ofTwo two).resolve_left first
    apply Script.read_bind (k := fun doc2 : Option Salon =>
      (if doc2.isSome then pure (some (b ++ a)) else pure none : Firestore _) >>= k) silent_id
    intro t ready
    have there : (t.salon (b ++ a)).isSome := by
      rw [← second]
      exact ready.salon
    rw [if_pos there, ← second]
    exact later

/-- Looking for a salon that is there makes reads only, and finds it. -/
theorem salonFor_script (pair : PairId u v id) (two : OfTwo a b u v) (userId friendId : UserId)
    {k : SalonId → Firestore α} (later : (k id).Script (·.Ready u v id) rest kinds) :
    (salonFor a b userId friendId >>= k).Script (·.Ready u v id) rest
      (List.replicate (LockCall.lookups id a b) Silent ++ kinds) := by
  unfold salonFor
  rw [bind_assoc]
  exact existSalon_script pair two later

/-- Both users have a profile. -/
theorem Store.Ready.profiles {s : Store} (ready : s.Ready u v id) (two : OfTwo a b u v) :
    hasProfile (s.user a) = true ∧ hasProfile (s.user b) = true := by
  rcases two with ⟨rfl, rfl⟩ | ⟨rfl, rfl⟩
  · exact ⟨ready.user, ready.friend⟩
  · exact ⟨ready.friend, ready.user⟩

/-- An update of one of the two users goes through. -/
theorem updateUser_script {w : UserId} {g : User → User} {A : (Store → Store) → Prop}
    (exist : ∀ s : Store, s.Ready u v id → (s.user w).isSome) (kind : A (·.updateUser w g))
    {k : Unit → Firestore α} (later : (k ()).Script (·.Ready u v id) Silent kinds) :
    (updateUser w g >>= k).Script (·.Ready u v id) Silent (A :: kinds) :=
  Script.step_bind kind (fun s ready => if_pos (exist s ready)) later

/-- The update of the salon is one request of the script. -/
theorem updateSalon_script {g : Salon → Salon} {A : (Store → Store) → Prop}
    (kind : A (·.updateSalon id g)) {k : Unit → Firestore α}
    (later : (k ()).Script (·.Ready u v id) Silent kinds) :
    (updateSalon id g >>= k).Script (·.Ready u v id) Silent (A :: kinds) :=
  Script.step_bind kind (fun _ ready => if_pos ready.salon) later

/-- An accepted request locks the user, the friend and then the salon. -/
theorem acceptDuoRequest_script (two : OfTwo a b u v) :
    (acceptDuoRequest a b id).Script (·.Ready u v id) Silent
      [Silent, Silent, Locks a b, Locks b a, Silent, SetsLock id .locked] := by
  unfold acceptDuoRequest confirmDuoRequest
  rw [bind_assoc]
  apply Script.read_bind silent_id
  intro s ready
  have profile := (ready.profiles two).1
  dsimp only
  rw [bind_assoc]
  apply Script.read_bind silent_id
  intro t readyT
  have profileB := (readyT.profiles two).2
  rw [if_pos rfl, duoOf_profile profileB, pure_bind, bind_assoc]
  have existA (s : Store) (ready : s.Ready u v id) : (s.user a).isSome :=
    hasProfile_isSome (ready.profiles two).1
  have existB (s : Store) (ready : s.Ready u v id) : (s.user b).isSome :=
    hasProfile_isSome (ready.profiles two).2
  apply updateUser_script existA ⟨_, rfl, rfl⟩
  rw [duoOf_profile profile, pure_bind, bind_assoc]
  apply updateUser_script existB ⟨_, rfl, rfl⟩
  apply Script.read_bind silent_id
  intro w readyW
  rcases Option.isSome_iff_exists.mp readyW.salon with ⟨doc, found⟩
  rw [found]
  apply updateSalon_script rfl
  exact (makes_updateMessage fun _ _ => ⟨rfl, rfl⟩).within

/-- Marking a notification raises no error. -/
theorem setNotificationAsComplete_script (notifId : Nat) {k : Unit → Firestore α}
    (later : (k ()).Script (·.Ready u v id) Silent kinds) :
    (setNotificationAsComplete a notifId >>= k).Script (·.Ready u v id) Silent
      (Silent :: kinds) := by
  refine Script.step_bind (fun _ => ⟨rfl, rfl⟩) (fun s _ => ?_) later
  dsimp only
  split
  · rfl
  · rfl

/-- An answer marks its notification, if it has one, and goes on as an acceptance. -/
theorem answerRest_script (two : OfTwo a b u v) (notifId : Option Nat) :
    (answerRest a b notifId true id).Script (·.Ready u v id) Silent
      (List.replicate (if notifId.isSome then 3 else 2) Silent ++
        [Locks a b, Locks b a, Silent, SetsLock id .locked]) := by
  unfold answerRest
  apply Script.tryCatch _ fun _ => Makes.within (.pure ())
  cases notifId with
  | none => exact acceptDuoRequest_script two
  | some notifId => exact setNotificationAsComplete_script notifId (acceptDuoRequest_script two)

/-- The end of a lock: both duos, and then the salon. -/
theorem stopRest_script (two : OfTwo a b u v) :
    (stopRest a b id).Script (·.Ready u v id) Silent
      [Unlocks a, Unlocks b, SetsLock id .notYet] := by
  unfold stopRest stopLockDuo
  apply Script.tryCatch _ fun _ => Makes.within (.pure true)
  rw [bind_assoc]
  have existA (s : Store) (ready : s.Ready u v id) : (s.user a).isSome :=
    hasProfile_isSome (ready.profiles two).1
  have existB (s : Store) (ready : s.Ready u v id) : (s.user b).isSome :=
    hasProfile_isSome (ready.profiles two).2
  apply updateUser_script existA rfl
  rw [bind_assoc]
  apply updateUser_script existB rfl
  apply updateSalon_script rfl
  exact Makes.within (.pure false)

end Scripts

/-! ## The salon that a call finds -/

section Yields

variable {a b userId friendId : UserId}

/-- An id that is found is one of the two users. -/
theorem existSalon_yields (a b : UserId) :
    (FirestoreQuery.existSalonOneToOneWithGivenUsers a b).Yields
      fun found => ∀ id ∈ found, PairId a b id := by
  apply Yields.read_bind
  intro doc1
  split
  · intro id found
    exact .inl (Option.some.inj found).symm
  · apply Yields.read_bind
    intro doc2
    split
    · intro id found
      exact .inr (Option.some.inj found).symm
    · intro id found
      cases found

/-- So is one that is found or made. -/
theorem salonFor_yields (two : OfTwo userId friendId a b) :
    (salonFor a b userId friendId).Yields (PairId a b) := by
  apply Yields.bind (existSalon_yields a b)
  intro found pair
  cases found with
  | some id => exact pair id rfl
  | none =>
      intro _
      rcases two with ⟨rfl, rfl⟩ | ⟨rfl, rfl⟩
      · exact .inl rfl
      · exact .inr rfl

/-- So is one that the page gives. -/
theorem salonOr_yields {salonId : Option SalonId}
    (given : ∀ id ∈ salonId, PairId userId friendId id) :
    (salonOr salonId userId friendId).Yields (PairId userId friendId) := by
  cases salonId with
  | some id => exact given id rfl
  | none => exact salonFor_yields (.inl ⟨rfl, rfl⟩)

end Yields

/-! ## What the requests do -/

section Kinds

variable {u v : UserId} {id : SalonId} {act : Store → Store} {s : Store}

/-- What keeps the profiles and the salons of the two keeps them ready. -/
theorem Store.Ready.of_same {t : Store} (ready : s.Ready u v id) (pair : PairId u v id)
    (profiles : ∀ w, hasProfile (t.user w) = hasProfile (s.user w))
    (salons : ∀ other, PairId u v other → (t.salon other).isSome = (s.salon other).isSome) :
    t.Ready u v id where
  salon := (salons id pair).trans ready.salon
  only other pair there := ready.only other pair ((salons other pair).symm.trans there)
  user := (profiles u).trans ready.user
  friend := (profiles v).trans ready.friend

/-- An update that leaves names and pictures alone leaves the profile. -/
theorem profile_updateUser {g : User → User} (same : ∀ d, (g d).firstname = d.firstname ∧
    (g d).lastname = d.lastname ∧ (g d).profilImages = d.profilImages) (s : Store)
    (w x : UserId) : hasProfile ((s.updateUser w g).user x) = hasProfile (s.user x) := by
  rw [Store.user_updateUser]
  split
  · cases s.user x with
    | none => rfl
    | some d =>
        rcases same d with ⟨first, last, pictures⟩
        unfold hasProfile
        simp only [Option.map_some, optional, first, last, pictures]
  · rfl

/-- So it keeps the two ready. -/
theorem ready_updateUser {g : User → User} (ready : s.Ready u v id) (pair : PairId u v id)
    (same : ∀ d, (g d).firstname = d.firstname ∧ (g d).lastname = d.lastname ∧
      (g d).profilImages = d.profilImages) (w : UserId) : (s.updateUser w g).Ready u v id :=
  ready.of_same pair (profile_updateUser same s w) fun _ _ => rfl

/-- The update of any salon keeps the two ready. -/
theorem ready_updateSalon (ready : s.Ready u v id) (pair : PairId u v id) (other : SalonId)
    (g : Salon → Salon) : (s.updateSalon other g).Ready u v id :=
  ready.of_same pair (fun _ => rfl) fun third _ => keepsSalons_updateSalon g s third

/-- The salon has the state that the update sets. -/
theorem lockOf_updateSalon (there : (s.salon id).isSome) (g : Salon → Salon) {x : LockState}
    (sets : ∀ d, (g d).lock = .value x) : (s.updateSalon id g).lockOf id = .value x := by
  rcases Option.isSome_iff_exists.mp there with ⟨salon, found⟩
  unfold Store.lockOf
  rw [Store.salon_updateSalon, if_pos rfl, found]
  exact sets salon

/-- The update of another salon leaves the state alone. -/
theorem lockOf_updateSalon_of_ne {other : SalonId} (differ : id ≠ other) (g : Salon → Salon) :
    (s.updateSalon other g).lockOf id = s.lockOf id := by
  unfold Store.lockOf
  rw [Store.salon_updateSalon, if_neg differ]

namespace Silent

/-- A silent request leaves the state of the salon alone. -/
theorem lockOf (silent : Silent act) (s : Store) (id : SalonId) :
    (act s).lockOf id = s.lockOf id := by
  unfold Store.lockOf Store.salon
  rw [(silent s).2]

/-- It leaves the partners alone. -/
theorem partner (silent : Silent act) (s : Store) : (act s).partner = s.partner := by
  unfold Store.partner Store.user
  rw [(silent s).1]

/-- It keeps the two ready. -/
theorem ready (silent : Silent act) (pair : PairId u v id) (ready : s.Ready u v id) :
    (act s).Ready u v id := by
  apply ready.of_same pair
  · intro w
    unfold Store.user
    rw [(silent s).1]
  · intro other _
    unfold Store.salon
    rw [(silent s).2]

end Silent

/-- The request of a call with a third user: it keeps the lock of the salon, and locks the two
users by no means. -/
structure Apart (u v : UserId) (id : SalonId) (act : Store → Store) : Prop where
  ready : ∀ s, s.Ready u v id → (act s).Ready u v id
  lock : ∀ s, (act s).lockOf id = s.lockOf id
  noLock : NoLock u v act

/-- A silent request stays apart from the two. -/
theorem Silent.apart (silent : Silent act) (pair : PairId u v id) : Apart u v id act where
  ready _ ready := silent.ready pair ready
  lock s := silent.lockOf s id
  noLock s locked := by
    unfold Store.Locked at locked ⊢
    rwa [silent.partner] at locked

/-- So does the update of another salon. -/
theorem apart_updateSalon (pair : PairId u v id) {other : SalonId} (differ : id ≠ other)
    (g : Salon → Salon) : Apart u v id (·.updateSalon other g) where
  ready _ ready := ready_updateSalon ready pair other g
  lock _ := lockOf_updateSalon_of_ne differ g
  noLock _ locked := locked

/-- So does a new salon of others. -/
theorem apart_setSalon (pair : PairId u v id) {other : SalonId} (third : ¬ PairId u v other)
    (new : Salon) : Apart u v id (·.setSalon other new) where
  ready s ready := by
    refine ready.of_same (t := s.setSalon other new) pair (fun _ => rfl) ?_
    intro a own
    rw [Store.salon_setSalon, if_neg]
    intro same
    exact third (same ▸ own)
  lock _ := by
    unfold Store.lockOf
    rw [Store.salon_setSalon, if_neg]
    intro same
    exact third (same ▸ pair)
  noLock _ locked := locked

/-- So does the end of a lock, as far as the salon is concerned. -/
theorem apart_unlock (pair : PairId u v id) (w : UserId) :
    Apart u v id (·.updateUser w (·.unlock)) where
  ready _ ready := ready_updateUser (g := (·.unlock)) ready pair (fun _ => ⟨rfl, rfl, rfl⟩) w
  lock _ := rfl
  noLock := noLock_unlock u v w

/-- So does a lock of two others. -/
theorem apart_lock (pair : PairId u v id) {a b w : UserId} {duo : Duo} (pairs : Pairs a b w duo)
    (others : ¬ OfTwo a b u v) : Apart u v id (·.updateUser w (·.lock duo)) where
  ready _ ready := ready_updateUser (g := (·.lock duo)) ready pair (fun _ => ⟨rfl, rfl, rfl⟩) w
  lock _ := rfl
  noLock := noLock_lock pairs others

section Others

variable {a b : UserId} (pair : PairId u v id) (third : ∀ id, PairId a b id → ¬ PairId u v id)

include pair third

/-- A salon of others is another one. -/
theorem third_ne {other : SalonId} (own : PairId a b other) : id ≠ other := by
  intro same
  exact third other own (same ▸ pair)

/-- A lock request of others stays apart from the two. -/
theorem requestNewLockDuo_apart {salonId : Option SalonId}
    (given : ∀ id ∈ salonId, PairId a b id) :
    (FriendController.requestNewLockDuo a b salonId).Makes (Apart u v id) := by
  rw [requestNewLockDuo_eq]
  apply Makes.bind_of_yields (makes_salonOr (silent_id.apart pair) salonId
    fun new => apart_setSalon pair (third _ (.inl rfl)) new) (salonOr_yields given)
  intro other own
  exact requestRest_makes (silent_id.apart pair)
    (fun _ _ => Silent.apart (fun _ => ⟨rfl, rfl⟩) pair)
    (fun _ => Silent.apart (fun _ => ⟨rfl, rfl⟩) pair)
    (fun _ => apart_updateSalon pair (third_ne pair third own) _) a b

/-- So does the end of a lock of others. -/
theorem stopLockDuo_apart {salonId : Option SalonId} (given : ∀ id ∈ salonId, PairId a b id) :
    (FriendController.stopLockDuo a b salonId).Makes (Apart u v id) := by
  rw [stopLockDuo_eq]
  apply Makes.bind_of_yields (makes_salonOr (silent_id.apart pair) salonId
    fun new => apart_setSalon pair (third _ (.inl rfl)) new) (salonOr_yields given)
  intro other own
  exact stopRest_makes (fun w _ => apart_unlock pair w)
    (apart_updateSalon pair (third_ne pair third own) _)

/-- So does an answer to others. -/
theorem handleDuoRequest_apart (others : ¬ OfTwo b a u v) (notifId : Option Nat)
    (accepted : Bool) :
    (NotificationController.handleDuoRequest b a notifId accepted).Makes (Apart u v id) := by
  rw [handleDuoRequest_eq]
  apply Makes.bind_of_yields (makes_salonFor (silent_id.apart pair) a b
    fun new => apart_setSalon pair (third _ (.inr rfl)) new) (salonFor_yields (.inr ⟨rfl, rfl⟩))
  intro other own
  apply answerRest_makes (fun _ => Silent.apart (fun _ => ⟨rfl, rfl⟩) pair) _ notifId
  intro _
  exact acceptDuoRequest_makes (silent_id.apart pair)
    (fun _ _ pairs => apart_lock pair pairs others)
    (apart_updateSalon pair (third_ne pair third own) _)
    fun _ => Silent.apart (fun _ => ⟨rfl, rfl⟩) pair

end Others

/-- The request of a lock request: it is silent, or sets the salon to `sended`. -/
def Asks (id : SalonId) (act : Store → Store) : Prop :=
  Silent act ∨ ∃ key, act = (·.updateSalon id (·.demand key))

/-- What a request does after it has its salon. -/
theorem requestRest_asks (userId friendId : UserId) (id : SalonId) :
    (requestRest userId friendId id).Makes (Asks id) :=
  requestRest_makes (.inl silent_id) (fun _ _ => .inl fun _ => ⟨rfl, rfl⟩)
    (fun _ => .inl fun _ => ⟨rfl, rfl⟩) (fun key => .inr ⟨key, rfl⟩) userId friendId

end Kinds

namespace LockScene

variable {ι : Type} (scene : LockScene ι)

/-- The requests of an acceptance between the two users. -/
def acceptScript (i : ι) : List ((Store → Store) → Prop) :=
  List.replicate ((scene.calls i).lead scene.salonId) Silent ++
    [Locks (scene.calls i).first (scene.calls i).second,
      Locks (scene.calls i).second (scene.calls i).first, Silent,
      SetsLock scene.salonId .locked]

/-- The requests of the end of a lock of the two users. -/
def stopScript (i : ι) : List ((Store → Store) → Prop) :=
  List.replicate ((scene.calls i).lead scene.salonId) Silent ++
    [Unlocks (scene.calls i).first, Unlocks (scene.calls i).second,
      SetsLock scene.salonId .notYet]

/-- An acceptance makes the requests of its script, one by one. -/
theorem accept_script {i : ι} (accepts : (scene.calls i).Accepts scene.u scene.v) :
    (scene.calls i).program.Script (·.Ready scene.u scene.v scene.salonId) Silent
      (scene.acceptScript i) := by
  unfold acceptScript
  cases call : scene.calls i with
  | request userId friendId salonId =>
      rw [call] at accepts
      cases accepts
  | stop userId friendId salonId =>
      rw [call] at accepts
      cases accepts
  | answer userId friendId notifId accepted =>
      rw [call] at accepts
      rcases accepts with ⟨rfl, two⟩
      have script := salonFor_script scene.pair two.swap userId friendId
        (answerRest_script two (some notifId))
      rw [← List.append_assoc, List.replicate_append_replicate] at script
      exact script
  | answerInChat userId otherId salonId key accepted =>
      rw [call] at accepts
      rcases accepts with ⟨rfl, two⟩
      have script := salonFor_script scene.pair two otherId userId
        (answerRest_script two.swap none)
      rw [← List.append_assoc, List.replicate_append_replicate] at script
      exact script

/-- So does the end of a lock. -/
theorem stop_script {i : ι} (stops : (scene.calls i).Stops scene.u scene.v) :
    (scene.calls i).program.Script (·.Ready scene.u scene.v scene.salonId) Silent
      (scene.stopScript i) := by
  unfold stopScript
  cases call : scene.calls i with
  | request userId friendId salonId =>
      rw [call] at stops
      cases stops
  | answer userId friendId notifId accepted =>
      rw [call] at stops
      cases stops
  | answerInChat userId otherId salonId key accepted =>
      rw [call] at stops
      cases stops
  | stop userId friendId salonId =>
      rw [call] at stops
      have two : OfTwo userId friendId scene.u scene.v := stops
      apply Script.bind _ fun _ => Makes.within (.pure ())
      rw [stopLockDuo_eq]
      cases salonId with
      | none => exact salonFor_script scene.pair two userId friendId (stopRest_script two)
      | some id =>
          have given := scene.given i
          rw [call] at given
          rw [(given id rfl).2 two]
          exact stopRest_script two

/-- A request does nothing but ask, while the two are ready. -/
theorem ask_within {i : ι} (asks : (scene.calls i).Asks scene.u scene.v) :
    (scene.calls i).program.Within (·.Ready scene.u scene.v scene.salonId)
      (Asks scene.salonId) := by
  cases call : scene.calls i with
  | stop userId friendId salonId =>
      rw [call] at asks
      cases asks
  | answer userId friendId notifId accepted =>
      rw [call] at asks
      cases asks
  | answerInChat userId otherId salonId key accepted =>
      rw [call] at asks
      cases asks
  | request userId friendId salonId =>
      rw [call] at asks
      have two : OfTwo userId friendId scene.u scene.v := asks
      apply Within.bind _ fun _ => Makes.within (.pure ())
      rw [requestNewLockDuo_eq]
      have rest : (requestRest userId friendId scene.salonId).Script
          (·.Ready scene.u scene.v scene.salonId) (TwoGather.Asks scene.salonId) [] :=
        (requestRest_asks userId friendId scene.salonId).within
      cases salonId with
      | none =>
          have script := salonFor_script scene.pair two userId friendId rest
          rw [List.append_nil] at script
          apply script.within _ fun _ asks => asks
          intro A listed act silent
          rw [List.eq_of_mem_replicate listed] at silent
          exact .inl silent
      | some id =>
          have given := scene.given i
          rw [call] at given
          rw [(given id rfl).2 two]
          exact rest

/-- A refusal marks its notification, if it has one. -/
theorem refuse_within {i : ι} (refuses : (scene.calls i).Refuses scene.u scene.v) :
    (scene.calls i).program.Within (·.Ready scene.u scene.v scene.salonId) Silent := by
  have rest (a b : UserId) (notifId : Option Nat) :
      (answerRest a b notifId false scene.salonId).Script
        (·.Ready scene.u scene.v scene.salonId) Silent [] :=
    (answerRest_makes (fun _ _ => ⟨rfl, rfl⟩) (fun no => by cases no) notifId).within
  have whole {a b : UserId} (two : OfTwo a b scene.u scene.v) (notifId : Option Nat) :
      (NotificationController.handleDuoRequest a b notifId false).Within
        (·.Ready scene.u scene.v scene.salonId) Silent := by
    rw [handleDuoRequest_eq]
    have script := salonFor_script scene.pair two.swap a b (rest a b notifId)
    rw [List.append_nil] at script
    apply script.within _ fun _ silent => silent
    intro A listed act silent
    rwa [List.eq_of_mem_replicate listed] at silent
  cases call : scene.calls i with
  | request userId friendId salonId =>
      rw [call] at refuses
      cases refuses
  | stop userId friendId salonId =>
      rw [call] at refuses
      cases refuses
  | answer userId friendId notifId accepted =>
      rw [call] at refuses
      rcases refuses with ⟨rfl, two⟩
      exact whole two (some notifId)
  | answerInChat userId otherId salonId key accepted =>
      rw [call] at refuses
      rcases refuses with ⟨rfl, two⟩
      exact whole two.swap none

/-- A call that is about other users, or about one of the two and a third one. -/
theorem other_makes {i : ι} (others : ¬ (scene.calls i).About scene.u scene.v) :
    (scene.calls i).program.Makes (Apart scene.u scene.v scene.salonId) := by
  have third (id : SalonId) (own : PairId (scene.calls i).userId (scene.calls i).friendId id) :
      ¬ PairId scene.u scene.v id := by
    intro theirs
    exact others (own.ofTwo (scene.lengths i) ⟨rfl, scene.length⟩ theirs)
  have given (id : SalonId) (handed : id ∈ (scene.calls i).given) :
      PairId (scene.calls i).userId (scene.calls i).friendId id := (scene.given i id handed).1
  cases call : scene.calls i with
  | request userId friendId salonId =>
      rw [call] at third given
      exact .bind (requestNewLockDuo_apart scene.pair third given) fun _ => .pure ()
  | stop userId friendId salonId =>
      rw [call] at third given
      exact .bind (stopLockDuo_apart scene.pair third given) fun _ => .pure ()
  | answer userId friendId notifId accepted =>
      rw [call] at third others
      exact handleDuoRequest_apart scene.pair (fun id own => third id own.symm)
        others (some notifId) accepted
  | answerInChat userId otherId salonId key accepted =>
      rw [call] at third others
      exact handleDuoRequest_apart scene.pair third (fun two => others two.swap) none accepted

end LockScene

end TwoGather
