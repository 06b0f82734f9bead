import TwoGather.Fiesta.EndJob
import TwoGather.Friend.Controller
import TwoGather.Lib.Pool
import TwoGather.Lib.Runs

/-!
# Updates of the friend lists that get lost

The lists `friends` and `friendsRequest` of one user. `addFriend`, `addFriendWithSwipe`,
`handleFriendRequest` and `checkEndFiesta` patch single elements of the value of their moment
(`ListCall.patches`). `cancelFriendRequest` and `addToFirstCircle` overwrite a list with what
they make of a copy that was read before, so what was patched in between is lost.

In every interleaving of such calls the database is that of the sequential execution in the
order of the writes, as long as each overwrite makes of its copy what it would make of the
list of its moment; and the first overwrite that does not loses an update
(`no_update_lost_iff`).
-/

namespace TwoGather

open Docs Requests

/-! ## Patches of an array -/

/-- The second array comes from the first by patches of single elements. -/
inductive Patched {α : Type} [DecidableEq α] (before : List α) : List α → Prop
  | refl : Patched before before
  | union {after : List α} (patched : Patched before after) (x : α) :
      Patched before (arrayUnion after x)
  | remove {after : List α} (patched : Patched before after) (x : α) :
      Patched before (arrayRemove after x)

/-- Two patches, one after the other, are one. -/
theorem Patched.trans {α : Type} [DecidableEq α] {first second third : List α}
    (left : Patched first second) (right : Patched second third) : Patched first third := by
  induction right with
  | refl => exact left
  | union _ x ih => exact ih.union x
  | remove _ x ih => exact ih.remove x

/-- What a request may do to the lists of `u`. -/
structure Patches (u : UserId) (s t : Store) : Prop where
  exists_iff : (t.user u).isSome = (s.user u).isSome
  friends : Patched (s.friendsOf u) (t.friendsOf u)
  requests : Patched (s.requestsOf u) (t.requestsOf u)

section Patches

variable {u : UserId}

/-- Who leaves the document alone patches it. -/
theorem Patches.of_user {s t : Store} (same : t.user u = s.user u) : Patches u s t where
  exists_iff := by rw [same]
  friends := by
    have eq : t.friendsOf u = s.friendsOf u := by
      unfold Store.friendsOf
      rw [same]
    rw [eq]
    exact .refl
  requests := by
    have eq : t.requestsOf u = s.requestsOf u := by
      unfold Store.requestsOf
      rw [same]
    rw [eq]
    exact .refl

/-- Two patches of a document are one. -/
theorem Patches.trans {s t r : Store} (first : Patches u s t) (second : Patches u t r) :
    Patches u s r where
  exists_iff := second.exists_iff.trans first.exists_iff
  friends := first.friends.trans second.friends
  requests := first.requests.trans second.requests

/-- An update of a document that patches the two lists. -/
def PatchesLists (g : User → User) : Prop :=
  ∀ d, Patched d.friends.elems (g d).friends.elems ∧
    Patched d.friendsRequest.elems (g d).friendsRequest.elems

/-- An update that patches the lists patches the document. -/
theorem PatchesLists.updateUser {g : User → User} (patches : PatchesLists g) (s : Store)
    (w : UserId) : Patches u s (s.updateUser w g) := by
  by_cases same : u = w
  · subst same
    refine ⟨Store.isSome_updateUser .., ?_, ?_⟩
    · unfold Store.friendsOf
      rw [Store.user_updateUser, if_pos rfl]
      cases s.user u with
      | none => exact .refl
      | some d => exact (patches d).1
    · unfold Store.requestsOf
      rw [Store.user_updateUser, if_pos rfl]
      cases s.user u with
      | none => exact .refl
      | some d => exact (patches d).2
  · apply Patches.of_user
    rw [Store.user_updateUser, if_neg same]

theorem patchesLists_request (friend : UserId) : PatchesLists (·.request friend) :=
  fun _ => ⟨.refl, .union .refl _⟩

theorem patchesLists_unrequest (friend : UserId) : PatchesLists (·.unrequest friend) :=
  fun _ => ⟨.refl, .remove .refl _⟩

theorem patchesLists_addConnexion (friend : UserId) : PatchesLists (·.addConnexion friend) :=
  fun _ => ⟨.union .refl _, .refl⟩

theorem patchesLists_befriend (friend : UserId) : PatchesLists (·.befriend friend) :=
  fun _ => ⟨.union .refl _, .remove .refl _⟩

theorem patchesLists_accept (friend : UserId) : PatchesLists (·.accept friend) := by
  intro d
  unfold User.accept
  dsimp only
  split
  · exact patchesLists_unrequest friend d
  · exact patchesLists_befriend friend d

end Patches

/-! ## The other calls -/

section Calls

variable {u : UserId}

/-- The requests that only patch the lists of `u`. -/
def PatchAct (u : UserId) (act : Store → Store) : Prop :=
  ∀ s, Patches u s (act s)

/-- So does the request that makes it. -/
theorem makes_update {w : UserId} {g : User → User} (patches : PatchesLists g) :
    (updateUser w g).Makes (PatchAct u) :=
  makes_updateUser fun s => patches.updateUser s w

theorem patchAct_id : PatchAct u id :=
  fun _ => .of_user rfl

/-- What is written elsewhere leaves the lists alone. -/
theorem patchAct_of_user {act : Store → Store} (same : ∀ s, (act s).user = s.user) :
    PatchAct u act :=
  fun s => .of_user (congrFun (same s) u)

/-- `addFriend` adds and removes single elements. -/
theorem addFriend_patches (userId friendId : UserId) :
    (addFriend userId friendId).Makes (PatchAct u) := by
  apply Program.Makes.tryCatch
  · refine .bind (makes_update (patchesLists_request _)) fun _ => ?_
    refine .bind (.read patchAct_id _) fun userData => ?_
    refine .bind (.read patchAct_id _) fun friendData => ?_
    unfold answerOrNotify
    split
    · refine .bind (makes_update (patchesLists_befriend _)) fun _ => ?_
      exact makes_update (patchesLists_befriend _)
    · exact makes_addNotification (patchAct_of_user fun _ => rfl)
  · exact fun _ => makes_update (patchesLists_unrequest _)

/-- So does the swipe. -/
theorem addFriendWithSwipe_patches (userId friendId : UserId) :
    (addFriendWithSwipe userId friendId).Makes (PatchAct u) := by
  rw [addFriendWithSwipe_eq]
  refine ⟨patchAct_id, fun s => ?_⟩
  unfold swipeAfterRead
  dsimp only
  split
  · exact .throw _
  · split
    · unfold answerSwipe
      split
      · refine .bind (makes_update (patchesLists_unrequest _)) fun _ => ?_
        refine .bind (makes_update (patchesLists_unrequest _)) fun _ => ?_
        refine .bind (makes_update (patchesLists_addConnexion _)) fun _ => ?_
        exact .bind (makes_update (patchesLists_addConnexion _)) fun _ => .pure true
      · exact .bind (makes_update (patchesLists_request _)) fun _ => .pure true
    · exact .throw _

/-- So does the answer to a request. -/
theorem handleFriendRequest_patches (userId friendId : UserId) (notifId : Nat) (accepted : Bool) :
    (handleFriendRequest userId friendId notifId accepted).Makes (PatchAct u) := by
  refine .bind (makes_setNotificationAsComplete (patchAct_of_user fun _ => rfl)) fun _ => ?_
  cases accepted with
  | true =>
      refine ⟨fun s => ?_, fun s => ?_⟩
      · dsimp only
        split
        · exact ((patchesLists_accept _).updateUser s userId).trans
            ((patchesLists_accept _).updateUser _ friendId)
        · exact .of_user rfl
      · dsimp only
        split
        · exact .pure ()
        · exact .throw _
  | false => exact makes_update (patchesLists_unrequest _)

/-- The job never comes to its promotions. -/
theorem checkEndFiesta_patches : checkEndFiesta.Makes (PatchAct u) := by
  refine .bind (.read patchAct_id _) fun fiestas => .forEach fun e _ => ?_
  refine .bind (.read patchAct_id _) fun now => ?_
  split
  · refine .bind (makes_updateFiesta (patchAct_of_user fun _ => rfl)) fun _ => ?_
    refine .bind (makes_addNotification (patchAct_of_user fun _ => rfl)) fun _ => ?_
    refine .forEach fun member _ => ?_
    rw [noteMember_eq]
    split
    · refine .bind (.read patchAct_id _) fun fUserData => ?_
      refine .bind (makes_docOf _) fun sUser => ?_
      refine .bind (.read patchAct_id _) fun _ => ?_
      exact .bind (makes_member _) fun _ => .throw _
    · exact .pure ()
  · exact .pure ()

end Calls

/-- A call of one of the functions that patch the lists. -/
inductive ListCall
  | addFriend (userId friendId : UserId)
  | addFriendWithSwipe (userId friendId : UserId)
  | handleFriendRequest (userId friendId : UserId) (notifId : Nat) (accepted : Bool)
  | checkEndFiesta

namespace ListCall

def program : ListCall → Firestore Unit
  | .addFriend userId friendId => TwoGather.addFriend userId friendId
  | .addFriendWithSwipe userId friendId => do
      let _ ← TwoGather.addFriendWithSwipe userId friendId
      pure ()
  | .handleFriendRequest userId friendId notifId accepted =>
      TwoGather.handleFriendRequest userId friendId notifId accepted
  | .checkEndFiesta => TwoGather.checkEndFiesta

/-- Every request of a call patches single elements of the lists of `u`, or leaves them alone. -/
theorem patches (call : ListCall) {u : UserId} : call.program.Makes (PatchAct u) := by
  cases call with
  | addFriend userId friendId => exact addFriend_patches userId friendId
  | addFriendWithSwipe userId friendId =>
      exact .bind (addFriendWithSwipe_patches userId friendId) fun _ => .pure ()
  | handleFriendRequest userId friendId notifId accepted =>
      exact handleFriendRequest_patches userId friendId notifId accepted
  | checkEndFiesta => exact checkEndFiesta_patches

end ListCall

/-! ## Overwrites from held lists -/

/-- The lists that a client of the user holds. -/
structure HeldLists where
  friends : List Friend
  friendsRequest : List UserId
  deriving DecidableEq

/-- The database with the other calls under way, the lists that each client of the user holds,
and the database that the same writes make one after the other. -/
structure ListScene (κ ι : Type) where
  pool : Pool ι Store Err Unit
  held : κ → Option HeldLists
  serial : Store

/-- A client of the user reads the lists or overwrites one of them, or another call makes its
next request. -/
inductive ListMove (κ ι : Type)
  | read (i : κ)
  | cancelFriendRequest (i : κ) (friendId : UserId)
  | addToFirstCircle (i : κ) (ids : List UserId)
  | next (j : ι)

variable {κ ι : Type}

/-- The request that comes next, if any. -/
def nextAct (pool : Pool ι Store Err Unit) (j : ι) : Store → Store :=
  match pool.thread j with
  | .done _ => id
  | .step act _ => act

namespace ListScene

def start (s : Store) (calls : ι → ListCall) : ListScene κ ι where
  pool := { store := s, thread := fun j => (calls j).program }
  held _ := none
  serial := s

/-- The database after a request of a client of the user. -/
def write (t : ListScene κ ι) (p : Firestore Unit) : Pool ι Store Err Unit :=
  { t.pool with store := (p.exec t.pool.store).2 }

end ListScene

namespace ListMove

variable [DecidableEq κ] [DecidableEq ι] (u : UserId)

/-- The overwriting calls change the lists that they are given. One after the other, each would
be given the lists of its moment. -/
def step (t : ListScene κ ι) : ListMove κ ι → ListScene κ ι
  | .read i =>
      { t with
        held := Function.update t.held i (some
          { friends := t.pool.store.friendsOf u
            friendsRequest := t.pool.store.requestsOf u }) }
  | .cancelFriendRequest i friendId =>
      match t.held i with
      | none => t
      | some l =>
          { pool := t.write (TwoGather.cancelFriendRequest u l.friendsRequest friendId)
            held := Function.update t.held i (some
              { l with friendsRequest := l.friendsRequest.filter (· ≠ friendId) })
            serial := ((TwoGather.cancelFriendRequest u (t.serial.requestsOf u) friendId).exec
              t.serial).2 }
  | .addToFirstCircle i ids =>
      match t.held i with
      | none => t
      | some l =>
          { pool := t.write (TwoGather.addToFirstCircle u l.friends ids)
            held := Function.update t.held i (some
              { l with friends := l.friends.map (·.promote ids) })
            serial := ((TwoGather.addToFirstCircle u (t.serial.friendsOf u) ids).exec
              t.serial).2 }
  | .next j => { t with pool := t.pool.move j, serial := nextAct t.pool j t.serial }

/-- An overwrite makes of the held list what it would make of the list of its moment. -/
def Faithful (t : ListScene κ ι) : ListMove κ ι → Prop
  | .cancelFriendRequest i friendId => ∀ l ∈ t.held i,
      l.friendsRequest.filter (· ≠ friendId) =
        (t.pool.store.requestsOf u).filter (· ≠ friendId)
  | .addToFirstCircle i ids => ∀ l ∈ t.held i,
      l.friends.map (·.promote ids) = (t.pool.store.friendsOf u).map (·.promote ids)
  | _ => True

instance (t : ListScene κ ι) : (move : ListMove κ ι) → Decidable (move.Faithful u t)
  | .cancelFriendRequest i friendId => inferInstanceAs (Decidable (∀ l ∈ t.held i,
      l.friendsRequest.filter (· ≠ friendId) =
        (t.pool.store.requestsOf u).filter (· ≠ friendId)))
  | .addToFirstCircle i ids => inferInstanceAs (Decidable (∀ l ∈ t.held i,
      l.friends.map (·.promote ids) = (t.pool.store.friendsOf u).map (·.promote ids)))
  | .read _ | .next _ => .isTrue trivial

end ListMove

/-- The lists of `u` are those of the sequential execution. -/
structure ListScene.NoneLost (u : UserId) (t : ListScene κ ι) : Prop where
  friends : t.pool.store.friendsOf u = t.serial.friendsOf u
  requests : t.pool.store.requestsOf u = t.serial.requestsOf u

/-- The user exists, and the other calls only patch its lists. -/
structure ListScene.Patching (u : UserId) (t : ListScene κ ι) : Prop where
  user : (t.pool.store.user u).isSome
  calls : ∀ j, (t.pool.thread j).Makes (PatchAct u)

section Steps

variable [DecidableEq κ] [DecidableEq ι] {u : UserId} {t : ListScene κ ι} {move : ListMove κ ι}

/-- `cancelFriendRequest` writes the list that the provider holds. -/
theorem exec_cancelFriendRequest (s : Store) (l : List UserId) (friendId : UserId) :
    ((cancelFriendRequest u l friendId).exec s).2 =
      s.updateUser u ({ · with friendsRequest := .value (l.filter (· ≠ friendId)) }) := by
  unfold cancelFriendRequest
  rw [Program.exec_caught, exec_updateUser]

/-- So does `addToFirstCircle`. -/
theorem exec_addToFirstCircle (s : Store) (l : List Friend) (ids : List UserId) :
    ((addToFirstCircle u l ids).exec s).2 =
      s.updateUser u ({ · with friends := .value (l.map (·.promote ids)) }) := by
  unfold addToFirstCircle
  rw [exec_updateUser]

/-- Afterwards the requests are those of that list. -/
theorem requestsOf_cancel {s : Store} (user : (s.user u).isSome) (l : List UserId) :
    (s.updateUser u ({ · with friendsRequest := .value l })).requestsOf u = l := by
  rw [Store.requestsOf_updateUser user (fun _ => l) fun _ => rfl, Function.update_self]

/-- Afterwards the friends are those of that list. -/
theorem friendsOf_promote {s : Store} (user : (s.user u).isSome) (l : List Friend) :
    (s.updateUser u ({ · with friends := .value l })).friendsOf u = l := by
  rw [Store.friendsOf_updateUser user (fun _ => l) fun _ => rfl, Function.update_self]

/-- Every move keeps the running calls to patches. -/
theorem ListScene.Patching.step (patching : t.Patching u) (move : ListMove κ ι) :
    (move.step u t).Patching u := by
  cases move with
  | read i => exact ⟨patching.user, patching.calls⟩
  | cancelFriendRequest i friendId =>
      unfold ListMove.step
      dsimp only
      split
      · exact patching
      · refine ⟨?_, patching.calls⟩
        unfold ListScene.write
        rw [exec_cancelFriendRequest, Store.isSome_updateUser]
        exact patching.user
  | addToFirstCircle i ids =>
      unfold ListMove.step
      dsimp only
      split
      · exact patching
      · refine ⟨?_, patching.calls⟩
        unfold ListScene.write
        rw [exec_addToFirstCircle, Store.isSome_updateUser]
        exact patching.user
  | next j =>
      refine ⟨?_, fun i => Pool.makes_move (patching.calls i) j⟩
      change ((t.pool.move j).store.user u).isSome
      cases left : t.pool.thread j with
      | done outcome =>
          rw [Pool.move_done left]
          exact patching.user
      | step act next =>
          have calls := patching.calls j
          rw [left] at calls
          rw [Pool.store_move left, (calls.1 t.pool.store).exists_iff]
          exact patching.user

/-- A faithful move has the effect that it has in the sequential execution. -/
theorem store_step (same : t.pool.store = t.serial) (faithful : move.Faithful u t) :
    (move.step u t).pool.store = (move.step u t).serial := by
  cases move with
  | read i => exact same
  | cancelFriendRequest i friendId =>
      unfold ListMove.step
      dsimp only
      split
      · exact same
      case h_2 l held =>
        unfold ListScene.write
        dsimp only
        rw [exec_cancelFriendRequest, exec_cancelFriendRequest, ← same, faithful l held]
  | addToFirstCircle i ids =>
      unfold ListMove.step
      dsimp only
      split
      · exact same
      case h_2 l held =>
        unfold ListScene.write
        dsimp only
        rw [exec_addToFirstCircle, exec_addToFirstCircle, ← same, faithful l held]
  | next j =>
      change (t.pool.move j).store = nextAct t.pool j t.serial
      unfold nextAct
      cases left : t.pool.thread j with
      | done outcome =>
          rw [Pool.move_done left]
          exact same
      | step act next => rw [Pool.store_move left, same]

/-- An overwrite that is not faithful changes the lists otherwise than one after the other. -/
theorem faithful_of_noneLost (patching : t.Patching u) (same : t.pool.store = t.serial)
    (kept : (move.step u t).NoneLost u) : move.Faithful u t := by
  cases move with
  | read i => trivial
  | cancelFriendRequest i friendId =>
      intro l held
      have requests := kept.requests
      rw [Option.mem_def] at held
      simp only [ListMove.step, held, ListScene.write, exec_cancelFriendRequest, ← same] at requests
      rw [requestsOf_cancel patching.user, requestsOf_cancel patching.user] at requests
      exact requests
  | addToFirstCircle i ids =>
      intro l held
      have friends := kept.friends
      rw [Option.mem_def] at held
      simp only [ListMove.step, held, ListScene.write, exec_addToFirstCircle, ← same] at friends
      rw [friendsOf_promote patching.user, friendsOf_promote patching.user] at friends
      exact friends
  | next j => trivial

end Steps

/-- **In every interleaving, the lists of the user are at all times those of the sequential
execution in the order of the writes exactly when each overwrite makes of the held list what it
would make of the list of its moment.** -/
theorem no_update_lost_iff [DecidableEq κ] [DecidableEq ι] {u : UserId} {s : Store}
    (user : (s.user u).isSome) (calls : ι → ListCall) (moves : List (ListMove κ ι)) :
    (∀ t, Reached (ListMove.step u) (.start s calls) moves t → t.NoneLost u) ↔
      Along (ListMove.step u) (fun t move => move.Faithful u t) (.start s calls) moves := by
  have start : (ListScene.start s calls : ListScene κ ι).NoneLost u := ⟨rfl, rfl⟩
  rw [all_reached_iff, and_iff_right start]
  refine along_iff_along (P := fun t => t.Patching u ∧ t.pool.store = t.serial)
    (fun t move holds kept => ?_) (fun t move holds => ?_) ⟨⟨user, fun j => ?_⟩, rfl⟩
  · exact ⟨holds.1.step move, store_step holds.2 (faithful_of_noneLost holds.1 holds.2 kept)⟩
  · refine ⟨faithful_of_noneLost holds.1 holds.2, fun faithful => ?_⟩
    have same := store_step holds.2 faithful
    exact ⟨congrArg (Store.friendsOf · u) same, congrArg (Store.requestsOf · u) same⟩
  · exact (calls j).patches

/-! ## A request that a cancellation loses -/

/-- `u` asks `b` from one device. -/
def asksB (_ : Unit) : ListCall :=
  .addFriend "u" "b"

def twoDevices : ListScene Unit Unit :=
  .start (.ofUsers ⟨[("u", {}), ("b", {})], by decide⟩) asksB

/-- On the other device the list is read, and one request in it is cancelled. -/
def cancelC : ListMove Unit Unit :=
  .cancelFriendRequest () "c"

/-- Both calls, one after the other. -/
def askThenCancel : List (ListMove Unit Unit) :=
  [.next (), .next (), .next (), .next (), .read (), cancelC]

def cancelThenAsk : List (ListMove Unit Unit) :=
  [.read (), cancelC, .next (), .next (), .next (), .next ()]

/-- The list was read before the request is written. -/
def cancelLate : List (ListMove Unit Unit) :=
  [.read (), .next (), cancelC, .next (), .next (), .next ()]

/-- The request is lost, which it is in no sequential execution. -/
theorem request_lost :
    (run (ListMove.step "u") twoDevices cancelLate).pool.store.requestsOf "u" = [] ∧
      (run (ListMove.step "u") twoDevices askThenCancel).pool.store.requestsOf "u" = ["b"] ∧
      (run (ListMove.step "u") twoDevices cancelThenAsk).pool.store.requestsOf "u" = ["b"] := by
  decide

theorem askThenCancel_noneLost :
    (run (ListMove.step "u") twoDevices askThenCancel).NoneLost "u" :=
  (no_update_lost_iff (by decide) asksB askThenCancel).mpr (by decide) _ (.run _ _)

end TwoGather
