import TwoGather.Lib.Partners
import TwoGather.Lib.Runs
import TwoGather.Store

/-!
# The duo lock

`confirmDuoRequest` and `stopLockDuo` keep the lock of two users in both documents,
as the `duo` map and the flag `isLock`. Seen as a partner map (`Store.partner`),
they join and separate the two users they are given, whatever locks these had
before.

* `DuoCall.step_partner`: what a call does to the partner map, including the accepted
  request that stops halfway because a profile lacks a field the SDK needs.
* `duo_symmetric_iff`: the locks stay symmetric over a whole run exactly when every
  call finds its two users free for each other.
-/

namespace TwoGather

open Docs Requests Partners

/-! ## The two functions -/

/-- The `duo` map written for a partner with these data. -/
def duoOf (id : UserId) (data : Option User) : Firestore Duo := do
  let firstname ← defined (optional User.firstname data)
  let lastname ← defined (optional User.lastname data)
  let pictures ← defined (optional User.profilImages data)
  return { id, firstname, lastname, pictures }

def User.lock (u : User) (duo : Duo) : User :=
  { u with duo := .value duo, isLock := .value true }

def User.unlock (u : User) : User :=
  { u with duo := .null, isLock := .value false }

/-- `confirm_duo_request.ts`. -/
def confirmDuoRequest (userId friendId : UserId) (accepted : Bool) : Firestore Bool := do
  let userData ← getUser userId
  let friendData ← getUser friendId
  if accepted then
    let duo ← duoOf friendId friendData
    updateUser userId (·.lock duo)
    let duo ← duoOf userId userData
    updateUser friendId (·.lock duo)
  return true

/-- `stop_lock_duo.ts`. -/
def stopLockDuo (userId friendId : UserId) : Firestore Bool := do
  updateUser userId (·.unlock)
  updateUser friendId (·.unlock)
  return true

section Makes

variable {A : (Store → Store) → Prop}

theorem makes_duoOf_bind {α : Type} {id : UserId} {data : Option User} {k : Duo → Firestore α}
    (rest : ∀ duo, duo.id = id → (k duo).Makes A) : (duoOf id data >>= k).Makes A := by
  unfold duoOf
  rw [Program.bind_assoc]
  apply Program.Makes.bind (makes_defined _)
  intro firstname
  rw [Program.bind_assoc]
  apply Program.Makes.bind (makes_defined _)
  intro lastname
  rw [Program.bind_assoc]
  apply Program.Makes.bind (makes_defined _)
  intro pictures
  exact rest _ rfl

/-- The user gets a `duo` map that stands for the friend, or the friend one for the user. -/
def Pairs (userId friendId u : UserId) (duo : Duo) : Prop :=
  u = userId ∧ duo.id = friendId ∨ u = friendId ∧ duo.id = userId

/-- The requests of a confirmation are locks of the two with each other. -/
theorem makes_confirmDuoRequest (reads : A id) {userId friendId : UserId}
    (act : ∀ u duo, Pairs userId friendId u duo → A (·.updateUser u (·.lock duo)))
    (accepted : Bool) : (confirmDuoRequest userId friendId accepted).Makes A := by
  apply Program.Makes.bind (.read reads _)
  intro userData
  apply Program.Makes.bind (.read reads _)
  intro friendData
  cases accepted with
  | false => exact .pure true
  | true =>
      apply makes_duoOf_bind
      intro duo friend
      apply Program.Makes.bind (makes_updateUser (act userId duo (.inl ⟨rfl, friend⟩)))
      intro _
      apply makes_duoOf_bind
      intro duo user
      apply Program.Makes.bind (makes_updateUser (act friendId duo (.inr ⟨rfl, user⟩)))
      intro _
      exact .pure true

/-- The requests of the end of a lock unlock the two. -/
theorem makes_stopLockDuo {userId friendId : UserId}
    (act : ∀ u, u = userId ∨ u = friendId → A (·.updateUser u (·.unlock))) :
    (stopLockDuo userId friendId).Makes A := by
  apply Program.Makes.bind (makes_updateUser (act userId (.inl rfl)))
  intro _
  apply Program.Makes.bind (makes_updateUser (act friendId (.inr rfl)))
  intro _
  exact .pure true

end Makes

/-! ## Locks as a partner map -/

/-- The user that `u` is locked with. -/
def Store.partner (s : Store) (u : UserId) : Option UserId :=
  (s.user u).bind fun data => data.duo.get?.map Duo.id

/-- The fields copied into the `duo` map of a partner are all there. -/
def hasProfile (data : Option User) : Bool :=
  !(optional User.firstname data).isUndefined && !(optional User.lastname data).isUndefined &&
    !(optional User.profilImages data).isUndefined

/-- `isLock` is set exactly on users with a duo. -/
def Store.FlagsAgree (s : Store) : Prop :=
  ∀ u data, s.user u = some data → (data.isLock = .value true ↔ data.duo.get?.isSome)

/-- The `duo` map copied from these data. -/
def copyOf (id : UserId) (data : Option User) : Duo where
  id := id
  firstname := optional User.firstname data
  lastname := optional User.lastname data
  pictures := optional User.profilImages data

/-- A copy of a profile that lacks a field is refused by the database. -/
theorem exec_duoOf (id : UserId) (data : Option User) (s : Store) :
    (duoOf id data).exec s =
      (if hasProfile data then .ok (copyOf id data) else .error .invalidArgument, s) := by
  unfold duoOf hasProfile copyOf
  cases first : (optional User.firstname data).isUndefined <;>
    cases last : (optional User.lastname data).isUndefined <;>
      cases pictures : (optional User.profilImages data).isUndefined <;>
        simp [exec_defined, first, last, pictures]

theorem duoOf_profile {data : Option User} (profile : hasProfile data = true) (id : UserId) :
    duoOf id data = pure (copyOf id data) := by
  unfold hasProfile at profile
  unfold duoOf copyOf
  cases first : optional User.firstname data <;> cases last : optional User.lastname data <;>
    cases pictures : optional User.profilImages data <;>
      simp_all [Stored.isUndefined] <;> rfl

/-- A lock names its partner. -/
theorem partner_lock {s : Store} {u : UserId} (exist : (s.user u).isSome) (duo : Duo) :
    (s.updateUser u (·.lock duo)).partner = Function.update s.partner u (some duo.id) := by
  obtain ⟨data, found⟩ := Option.isSome_iff_exists.mp exist
  funext v
  by_cases same : v = u
  · subst same
    simp [Store.partner, User.lock, found]
  · simp [Store.partner, same]

/-- The end of a lock leaves no partner. -/
theorem partner_unlock (s : Store) (u : UserId) :
    (s.updateUser u (·.unlock)).partner = Function.update s.partner u none := by
  funext v
  by_cases same : v = u
  · subst same
    cases found : s.user v with
    | none => simp [Store.partner, found]
    | some data => simp [Store.partner, User.unlock, found]
  · simp [Store.partner, same]

/-- A lock sets both fields. -/
theorem Store.FlagsAgree.lock {s : Store} (agree : s.FlagsAgree) (u : UserId) (duo : Duo) :
    (s.updateUser u (·.lock duo)).FlagsAgree := by
  intro v data found
  rw [user_updateUser] at found
  split at found
  · obtain ⟨old, -, rfl⟩ := Option.map_eq_some_iff.mp found
    simp [User.lock]
  · exact agree v data found

/-- So does its end. -/
theorem Store.FlagsAgree.unlock {s : Store} (agree : s.FlagsAgree) (u : UserId) :
    (s.updateUser u (·.unlock)).FlagsAgree := by
  intro v data found
  rw [user_updateUser] at found
  split at found
  · obtain ⟨old, -, rfl⟩ := Option.map_eq_some_iff.mp found
    simp [User.unlock]
  · exact agree v data found

/-! ## Runs of calls -/

/-- A call of one of the two functions. -/
inductive DuoCall
  | confirm (userId friendId : UserId) (accepted : Bool)
  | stop (userId friendId : UserId)

namespace DuoCall

def userId : DuoCall → UserId
  | .confirm u _ _ => u
  | .stop u _ => u

def friendId : DuoCall → UserId
  | .confirm _ v _ => v
  | .stop _ v => v

def program : DuoCall → Firestore Bool
  | .confirm u v accepted => confirmDuoRequest u v accepted
  | .stop u v => stopLockDuo u v

/-- The store after the call. -/
def step (s : Store) (call : DuoCall) : Store :=
  (call.program.exec s).2

/-- The call is about two different users that exist. -/
structure Valid (s : Store) (call : DuoCall) : Prop where
  distinct : call.userId ≠ call.friendId
  user : (s.user call.userId).isSome
  friend : (s.user call.friendId).isSome

instance (s : Store) (call : DuoCall) : Decidable (call.Valid s) :=
  decidable_of_iff
    (call.userId ≠ call.friendId ∧ (s.user call.userId).isSome ∧ (s.user call.friendId).isSome)
    ⟨fun h => ⟨h.1, h.2.1, h.2.2⟩, fun h => ⟨h.distinct, h.user, h.friend⟩⟩

end DuoCall

/-- What a call does to the partner map. An accepted request whose friend has no
profile changes nothing; one whose user has none locks the user only. -/
def DuoCall.effect (s : Store) : DuoCall → (UserId → Option UserId)
  | .confirm u v accepted =>
      if accepted && hasProfile (s.user v) then
        if hasProfile (s.user u) then join s.partner u v
        else Function.update s.partner u (some v)
      else s.partner
  | .stop u v => separate s.partner u v

/-- What a confirmation does to the partners. -/
theorem DuoCall.effect_confirm (s : Store) (u v : UserId) (accepted : Bool) :
    (confirm u v accepted).effect s =
      if accepted && hasProfile (s.user v) then
        if hasProfile (s.user u) then join s.partner u v
        else Function.update s.partner u (some v)
      else s.partner := rfl

/-- The writes of `confirmDuoRequest`: none, the user's, or both. -/
theorem confirmDuoRequest_store {s : Store} {u v : UserId} (accepted : Bool)
    (distinct : u ≠ v) (user : (s.user u).isSome) (friend : (s.user v).isSome) :
    ((confirmDuoRequest u v accepted).exec s).2 =
      if accepted && hasProfile (s.user v) then
        if hasProfile (s.user u) then
          (s.updateUser u (·.lock (copyOf v (s.user v)))).updateUser v
            (·.lock (copyOf u (s.user u)))
        else s.updateUser u (·.lock (copyOf v (s.user v)))
      else s := by
  unfold confirmDuoRequest
  cases accepted with
  | false => simp
  | true =>
      cases profileV : hasProfile (s.user v) with
      | false => simp [exec_duoOf, profileV]
      | true =>
          cases profileU : hasProfile (s.user u) with
          | false => simp [exec_duoOf, profileV, profileU, user]
          | true =>
              simp [exec_duoOf, profileV, profileU, user, friend, distinct.symm]

/-- Who has a profile has a document. -/
theorem hasProfile_isSome {data : Option User} (profile : hasProfile data = true) :
    data.isSome := by
  cases data with
  | none => cases profile
  | some _ => rfl

/-- Between users with a profile an accepted request is confirmed. -/
theorem confirmDuoRequest_ok {s : Store} {u v : UserId} (profileU : hasProfile (s.user u) = true)
    (profileV : hasProfile (s.user v) = true) :
    ((confirmDuoRequest u v true).exec s).1 = .ok true := by
  have still : ((s.updateUser u (·.lock (copyOf v (s.user v)))).user v).isSome := by
    rw [Store.isSome_updateUser]
    exact hasProfile_isSome profileV
  unfold confirmDuoRequest
  simp [exec_duoOf, profileU, profileV, hasProfile_isSome profileU, -Store.user_updateUser, still]

/-- The writes of `stopLockDuo`. -/
theorem stopLockDuo_store {s : Store} {u v : UserId} (distinct : u ≠ v)
    (user : (s.user u).isSome) (friend : (s.user v).isSome) :
    ((stopLockDuo u v).exec s).2 =
      (s.updateUser u (·.unlock)).updateUser v (·.unlock) := by
  unfold stopLockDuo
  simp [user, friend, distinct.symm]

namespace DuoCall

/-- A confirmation locks the two; without the profile of one of them it stops in between. -/
theorem step_confirm {s : Store} {u v : UserId} {accepted : Bool}
    (valid : (confirm u v accepted).Valid s) :
    (confirm u v accepted).step s =
      if accepted && hasProfile (s.user v) then
        if hasProfile (s.user u) then
          (s.updateUser u (·.lock (copyOf v (s.user v)))).updateUser v
            (·.lock (copyOf u (s.user u)))
        else s.updateUser u (·.lock (copyOf v (s.user v)))
      else s :=
  confirmDuoRequest_store accepted valid.distinct valid.user valid.friend

/-- The end of a lock unlocks both. -/
theorem step_stop {s : Store} {u v : UserId} (valid : (stop u v).Valid s) :
    (stop u v).step s = (s.updateUser u (·.unlock)).updateUser v (·.unlock) :=
  stopLockDuo_store valid.distinct valid.user valid.friend

/-- A call does to the partners what its effect says. -/
theorem step_partner {s : Store} {call : DuoCall} (valid : call.Valid s) :
    (call.step s).partner = call.effect s := by
  cases call with
  | confirm u v accepted =>
      have user : (s.user u).isSome := valid.user
      have friend : ((s.updateUser u (·.lock (copyOf v (s.user v)))).user v).isSome := by
        have differ : v ≠ u := valid.distinct.symm
        rw [Store.user_updateUser, if_neg differ]
        exact valid.friend
      rw [step_confirm valid, effect_confirm]
      split
      · split
        · rw [partner_lock friend, partner_lock user]
          rfl
        · rw [partner_lock user]
          rfl
      · rfl
  | stop u v =>
      rw [step_stop valid, partner_unlock, partner_unlock]
      rfl

/-- A call keeps the two fields in agreement. -/
theorem step_flagsAgree {s : Store} {call : DuoCall} (valid : call.Valid s)
    (agree : s.FlagsAgree) : (call.step s).FlagsAgree := by
  cases call with
  | confirm u v accepted =>
      rw [step_confirm valid]
      split
      · split
        · exact (agree.lock u _).lock v _
        · exact agree.lock u _
      · exact agree
  | stop u v =>
      rw [step_stop valid]
      exact (agree.unlock u).unlock v

/-- No call creates or deletes a user. -/
theorem step_isSome {s : Store} {call : DuoCall} (valid : call.Valid s) (w : UserId) :
    ((call.step s).user w).isSome = (s.user w).isSome := by
  cases call with
  | confirm u v accepted =>
      rw [step_confirm valid]
      split
      · split
        · rw [Store.isSome_updateUser, Store.isSome_updateUser]
        · rw [Store.isSome_updateUser]
      · rfl
  | stop u v => rw [step_stop valid, Store.isSome_updateUser, Store.isSome_updateUser]

end DuoCall

/-! ## Symmetry over whole runs -/

/-- Locked users name each other, `isLock` is set exactly on users with a duo, and
nobody is the duo of two users. -/
structure DuoSymmetric (s : Store) : Prop where
  back : ∀ a b, s.partner a = some b → s.partner b = some a
  flags : s.FlagsAgree
  single : ∀ a a' b, s.partner a = some b → s.partner a' = some b → a = a'

/-- No user has a duo. -/
def NoDuo (s : Store) : Prop :=
  ∀ u data, s.user u = some data → data.duo.get? = none

/-- No user is flagged as locked. -/
def NoFlag (s : Store) : Prop :=
  ∀ u data, s.user u = some data → data.isLock ≠ .value true

/-- The call finds its two users free for each other. Refused requests, and requests
from which nothing is written, are free of conditions; a request that locks only its
user is harmless only if the two are locked already. -/
def DuoCall.Undisturbed (s : Store) : DuoCall → Prop
  | .confirm u v accepted =>
      accepted = true → hasProfile (s.user v) = true →
        if hasProfile (s.user u) then FreeFor s.partner u v ∧ FreeFor s.partner v u
        else s.partner u = some v
  | .stop u v => FreeFor s.partner u v ∧ FreeFor s.partner v u

instance (s : Store) : (call : DuoCall) → Decidable (call.Undisturbed s)
  | .confirm u v accepted =>
      inferInstanceAs (Decidable (accepted = true → hasProfile (s.user v) = true →
        if hasProfile (s.user u) then FreeFor s.partner u v ∧ FreeFor s.partner v u
        else s.partner u = some v))
  | .stop u v => inferInstanceAs (Decidable (FreeFor s.partner u v ∧ FreeFor s.partner v u))

/-- Duos are symmetric exactly if partners are mutual and the fields agree. -/
theorem duoSymmetric_iff {s : Store} : DuoSymmetric s ↔ Mutual s.partner ∧ s.FlagsAgree := by
  constructor
  · intro symmetric
    exact ⟨symmetric.back, symmetric.flags⟩
  · intro both
    rcases both with ⟨sym, flags⟩
    exact ⟨sym, flags, fun a a' b left right => sym.unique left right⟩

/-- Nobody becomes its own partner. -/
theorem DuoCall.effect_proper {s : Store} {call : DuoCall} (distinct : call.userId ≠ call.friendId)
    (proper : Proper s.partner) : Proper (call.effect s) := by
  intro a
  cases call with
  | confirm u v accepted =>
      have differ : u ≠ v := distinct
      rw [effect_confirm]
      split
      · split
        · rw [join_apply]
          split
          case isTrue same => simpa [same] using differ
          case isFalse =>
            split
            case isTrue same => simpa [same] using differ.symm
            case isFalse => exact proper a
        · rw [Function.update_apply]
          split
          case isTrue same => simpa [same] using differ.symm
          case isFalse => exact proper a
      · exact proper a
  | stop u v =>
      rw [effect, separate_apply]
      split
      · simp
      · split
        · simp
        · exact proper a

/-- From symmetric locks, a call leads to symmetric locks exactly when it finds its two
users free for each other. -/
theorem DuoCall.step_symmetric_iff {s : Store} {call : DuoCall} (valid : call.Valid s)
    (proper : Proper s.partner) (symmetric : DuoSymmetric s) :
    DuoSymmetric (call.step s) ↔ call.Undisturbed s := by
  obtain ⟨sym, flags⟩ := duoSymmetric_iff.mp symmetric
  have flags' := step_flagsAgree valid flags
  rw [duoSymmetric_iff, step_partner valid, and_iff_left flags']
  cases call with
  | confirm u v accepted =>
      have differ : u ≠ v := valid.distinct
      rw [effect_confirm]
      simp only [Undisturbed]
      cases accepted with
      | false => simpa using sym
      | true =>
          cases profileV : hasProfile (s.user v) with
          | false => simpa using sym
          | true =>
              cases profileU : hasProfile (s.user u) with
              | false => simpa using mutual_update_iff sym differ
              | true => simpa using mutual_join_iff sym proper differ
  | stop u v => exact mutual_separate_iff sym proper

theorem NoDuo.partner {s : Store} (noDuo : NoDuo s) (u : UserId) : s.partner u = none := by
  cases found : s.user u with
  | none => simp [Store.partner, found]
  | some data => simp [Store.partner, found, noDuo u data found]

/-- Where nobody has a duo, duos are symmetric exactly if no flag is set. -/
theorem NoDuo.symmetric_iff {s : Store} (noDuo : NoDuo s) : DuoSymmetric s ↔ NoFlag s := by
  constructor
  · intro symmetric u data found flag
    have duo := (symmetric.flags u data found).mp flag
    rw [noDuo u data found] at duo
    cases duo
  · intro noFlag
    refine duoSymmetric_iff.mpr ⟨fun a b partner => ?_, fun u data found => ?_⟩
    · rw [noDuo.partner] at partner
      cases partner
    · rw [noDuo u data found]
      simpa using noFlag u data found

/-- What a call needs and every call keeps: two different existing users, and nobody
locked with itself. -/
def DuoCall.Proper (s : Store) (call : DuoCall) : Prop :=
  call.Valid s ∧ Partners.Proper s.partner

/-- In a run of valid calls nobody ever is its own partner. -/
theorem DuoCall.along_proper {s : Store} {calls : List DuoCall} (proper : Partners.Proper s.partner)
    (valid : ∀ call ∈ calls, call.Valid s) : Along DuoCall.step DuoCall.Proper s calls := by
  induction calls generalizing s with
  | nil => trivial
  | cons call calls ih =>
      have first := valid call List.mem_cons_self
      refine ⟨⟨first, proper⟩, ih ?_ fun other member => ?_⟩
      · rw [step_partner first]
        exact effect_proper first.distinct proper
      · have later := valid other (List.mem_cons_of_mem call member)
        exact ⟨later.distinct, (step_isSome first _).trans later.user,
          (step_isSome first _).trans later.friend⟩

/-- **The locks are symmetric in every store of a run exactly when no user is flagged at
the start and every call finds its two users free for each other.** -/
theorem duo_symmetric_iff {s : Store} {calls : List DuoCall} (noDuo : NoDuo s)
    (valid : ∀ call ∈ calls, call.Valid s) :
    (∀ t, Reached DuoCall.step s calls t → DuoSymmetric t) ↔
      NoFlag s ∧ Along DuoCall.step DuoCall.Undisturbed s calls := by
  have proper : Partners.Proper s.partner := by
    intro u
    rw [noDuo.partner]
    simp
  have rule : DuoSymmetric s →
      ((∀ t, Reached DuoCall.step s calls t → DuoSymmetric t) ↔
        Along DuoCall.step DuoCall.Undisturbed s calls) := fun start =>
    all_reached_iff_along
      (fun _ _ symmetric ready => DuoCall.step_symmetric_iff ready.1 ready.2 symmetric)
      start (DuoCall.along_proper proper valid)
  constructor
  · intro all
    have start := all s (.start s calls)
    exact ⟨noDuo.symmetric_iff.mp start, (rule start).mp all⟩
  · intro both
    rcases both with ⟨noFlag, undisturbed⟩
    exact (rule (noDuo.symmetric_iff.mpr noFlag)).mpr undisturbed

/-! ## Locking one's partner away

Three users with a profile; `a` locks with `b` and then accepts `c`. -/

/-- A user with the fields of a duo. -/
def profiled (name : String) : User where
  firstname := .value name
  lastname := .value name
  profilImages := .value []

def threeUsers : Store :=
  .ofUsers ⟨[("a", profiled "a"), ("b", profiled "b"), ("c", profiled "c")], by decide⟩

theorem threeUsers_noDuo : NoDuo threeUsers := Store.forall_user.mpr (by decide)

theorem threeUsers_noFlag : NoFlag threeUsers := Store.forall_user.mpr (by decide)

def relock : List DuoCall := [.confirm "a" "b" true, .confirm "a" "c" true]

/-- After `a` accepts `c`, its old partner `b` still names `a`. -/
theorem relock_breaks_symmetry :
    NoDuo threeUsers ∧ (∀ call ∈ relock, call.Valid threeUsers) ∧
      ∃ t, Reached DuoCall.step threeUsers relock t ∧
        t.partner "b" = some "a" ∧ t.partner "a" = some "c" ∧ ¬ DuoSymmetric t := by
  have stale : (run DuoCall.step threeUsers relock).partner "b" = some "a" := by decide
  have moved : (run DuoCall.step threeUsers relock).partner "a" = some "c" := by decide
  refine ⟨threeUsers_noDuo, by decide, _, .run _ _, stale, moved, fun symmetric => ?_⟩
  have back := moved.symm.trans (symmetric.back _ _ stale)
  exact absurd back (by decide)

def relockAfterStop : List DuoCall :=
  [.confirm "a" "b" true, .stop "b" "a", .confirm "a" "c" true]

/-- A lock that is made and stopped before the next one keeps the locks symmetric. -/
theorem duo_symmetric_lock_stop_lock :
    (run DuoCall.step threeUsers relockAfterStop).partner "a" = some "c" ∧
      ∀ t, Reached DuoCall.step threeUsers relockAfterStop t → DuoSymmetric t :=
  ⟨by decide, (duo_symmetric_iff threeUsers_noDuo (by decide)).mpr
    ⟨threeUsers_noFlag, by decide⟩⟩

end TwoGather
