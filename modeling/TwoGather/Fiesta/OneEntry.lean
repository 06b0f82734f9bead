import TwoGather.Fiesta.Requests
import TwoGather.Lib.Entries
import TwoGather.Lib.Runs

/-!
# One entry of each user in a fiesta

A user can come into the participants of a fiesta in several ways, and each of them removes
one shape of entry only before it adds its own. So each completed call is an exchange of
entries in one fiesta (`EntryCall.step_entries`), and a run keeps every user in one entry at
most exactly when each call adds an entry that meets none of those it leaves
(`one_entry_iff`).
-/

namespace TwoGather

open Docs Requests

/-! ## The participants of the fiestas -/

/-- The `participants` array of a fiesta; one that does not exist has none. -/
def Store.entries (s : Store) (f : FiestaId) : List Participant :=
  (s.fiesta f).elim [] Fiesta.participants

section Entries

variable {s : Store} {f : FiestaId}

theorem entries_of_fiesta {fiesta : Fiesta} (found : s.fiesta f = some fiesta) :
    s.entries f = fiesta.participants := by
  simp [Store.entries, found]

@[simp] theorem entries_updateUser (u : UserId) (g : User → User) :
    (s.updateUser u g).entries = s.entries := rfl

@[simp] theorem entries_addNotification (u : UserId) (n : Notification) :
    (s.addNotification u n).entries = s.entries := rfl

@[simp] theorem entries_updateNotification (u : UserId) (k : Nat)
    (g : Notification → Notification) : (s.updateNotification u k g).entries = s.entries := rfl

theorem entries_updateFiesta (exist : (s.fiesta f).isSome) {g : Fiesta → Fiesta}
    (h : List Participant → List Participant)
    (effect : ∀ d, (g d).participants = h d.participants) :
    (s.updateFiesta f g).entries = Function.update s.entries f (h (s.entries f)) := by
  rcases Option.isSome_iff_exists.mp exist with ⟨fiesta, found⟩
  funext e
  by_cases same : e = f
  · subst same
    simp [Store.entries, found, effect]
  · simp [Store.entries, same]

end Entries

/-! ## Calls -/

/-- A call that changes the participants. `acceptUser` is the cloud function,
`acceptUserInApp` that of the app. -/
inductive EntryCall
  | acceptFiesta (userId : UserId) (fiestaId : FiestaId) (duo : Option UserId)
      (isWithSearch : Bool)
  | handleRequest (userId duoId : UserId) (fiestaId : FiestaId) (notifId : Nat)
      (accepted : Bool)
  | acceptUser (fiestaId : FiestaId) (fiestaRef : UserId) (duoRef : Option UserId)
  | acceptUserInApp (fiestaId : FiestaId) (userRef duoRef : UserId)
  | refuseUser (fiestaId : FiestaId) (userRef duoRef : UserId)
  | deleteUser (fiestaId : FiestaId) (userRef duoRef : UserId)

/-- Of an entry: the other one has one of its persons. -/
def Participant.Meets (e other : Participant) : Prop :=
  other.Has e.fiestaRef ∨ ∃ d ∈ e.duoRef, other.Has d

instance (e other : Participant) : Decidable (e.Meets other) :=
  inferInstanceAs (Decidable (_ ∨ ∃ d ∈ e.duoRef, _))

/-- What a call takes out of the participants of a fiesta, and what it puts in. -/
structure Exchange where
  fiestaId : FiestaId
  old : Option Participant
  new : Option Participant

namespace EntryCall

def program : EntryCall → Firestore Unit
  | .acceptFiesta u f duo isWithSearch => FiestaController.acceptFiesta u f duo isWithSearch
  | .handleRequest u d f k accepted => NotificationController.handleFiestaRequest u d f k accepted
  | .acceptUser f u o => do
      let _ ← TwoGather.acceptUserInFiesta f u o
  | .acceptUserInApp f u d => FiestaController.acceptUserInFiesta f u d
  | .refuseUser f u d => FiestaController.refuseUserInFiesta f u d
  | .deleteUser f u d => FiestaController.deleteUserInFiesta f u d

/-- The store after the call. -/
def step (s : Store) (call : EntryCall) : Store :=
  (call.program.exec s).2

/-- What a call does before the check that `handleFiestaRequest` never passes. -/
def work : EntryCall → Firestore Unit
  | .handleRequest u d f k accepted => do
      setNotificationAsComplete d k
      if accepted then joinWithFriend u d f
  | call => call.program

/-- The call runs to its end. -/
def Completed (s : Store) (call : EntryCall) : Prop :=
  (call.work.exec s).1 = .ok ()

instance (s : Store) (call : EntryCall) : Decidable (call.Completed s) :=
  inferInstanceAs (Decidable (_ = _))

/-- What the call exchanges, if anything. -/
def exchange : EntryCall → Option Exchange
  | .acceptFiesta u f duo isWithSearch =>
      if isWithSearch then none
      else some
        { fiestaId := f
          old := duo.map fun d => ⟨d, none, .waiting⟩
          new := some ⟨u, duo, if duo.isNone then .waiting else .pending⟩ }
  | .handleRequest u d f _ accepted =>
      if accepted then
        some { fiestaId := f, old := some ⟨d, none, .waiting⟩, new := some ⟨u, some d, .pending⟩ }
      else none
  | .acceptUser f u o =>
      some { fiestaId := f, old := some ⟨u, o, .pending⟩, new := some ⟨u, o, .accepted⟩ }
  | .acceptUserInApp f u d =>
      some { fiestaId := f, old := some ⟨u, some d, .pending⟩, new := some ⟨u, some d, .accepted⟩ }
  | .refuseUser f u d => some { fiestaId := f, old := some ⟨u, some d, .pending⟩, new := none }
  | .deleteUser f u d => some { fiestaId := f, old := some ⟨u, some d, .accepted⟩, new := none }

/-- The entry that the call adds has none of the persons of those it leaves. -/
def Fits (s : Store) (call : EntryCall) : Prop :=
  ∀ x ∈ call.exchange, ∀ new ∈ x.new, ∀ e ∈ s.entries x.fiestaId,
    some e ≠ x.old → e ≠ new → ¬ new.Meets e

instance (s : Store) (call : EntryCall) : Decidable (call.Fits s) :=
  inferInstanceAs (Decidable (∀ x ∈ call.exchange, _))

end EntryCall

/-! ## What a completed call does -/

section Step

variable {s t : Store} {f : FiestaId} {u d : UserId}

/-- The entries after an exchange. -/
def Exchange.apply (s : Store) (x : Exchange) : FiestaId → List Participant :=
  Function.update s.entries x.fiestaId (Entries.exchange x.old x.new (s.entries x.fiestaId))

theorem entries_union (exist : (s.fiesta f).isSome) (e : Participant) :
    (s.updateFiesta f (·.union e)).entries =
      Function.update s.entries f (arrayUnion (s.entries f) e) :=
  entries_updateFiesta exist (arrayUnion · e) fun _ => rfl

theorem entries_remove (exist : (s.fiesta f).isSome) (e : Participant) :
    (s.updateFiesta f (·.remove e)).entries =
      Function.update s.entries f (arrayRemove (s.entries f) e) :=
  entries_updateFiesta exist (arrayRemove · e) fun _ => rfl

/-- A removal and a union in the same fiesta. -/
theorem entries_exchange (exist : (s.fiesta f).isSome) (old new : Participant) :
    ((s.updateFiesta f (·.remove old)).updateFiesta f (·.union new)).entries =
      (Exchange.mk f (some old) (some new)).apply s := by
  have still : ((s.updateFiesta f (·.remove old)).fiesta f).isSome := by simpa using exist
  rw [entries_union still, entries_remove exist, Function.update_idem, Function.update_self]
  rfl

/-- The entry that `duo` waits with goes, if there is a `duo`. -/
theorem entries_removeWaiting (exist : (s.fiesta f).isSome) (duo : Option UserId)
    (new : Participant) :
    ((s.updateFiesta f (·.removeWaiting duo)).updateFiesta f (·.union new)).entries =
      (Exchange.mk f (duo.map fun d => ⟨d, none, .waiting⟩) (some new)).apply s := by
  cases duo with
  | some d => exact entries_exchange exist _ new
  | none =>
      have still : ((s.updateFiesta f (·.removeWaiting none)).fiesta f).isSome := by
        simpa using exist
      have same : (s.updateFiesta f (·.removeWaiting none)).entries =
          Function.update s.entries f (s.entries f) :=
        entries_updateFiesta exist id fun _ => rfl
      rw [entries_union still, same, Function.update_idem, Function.update_self]
      rfl

theorem entries_acceptPair (exist : (s.fiesta f).isSome) :
    (s.acceptPair f u d).entries =
      (Exchange.mk f (some ⟨u, some d, .pending⟩) (some ⟨u, some d, .accepted⟩)).apply s := by
  rw [← entries_exchange exist]
  rfl

theorem acceptFiesta_entries {duo : Option UserId} {isWithSearch : Bool}
    (run : (FiestaController.acceptFiesta u f duo isWithSearch).exec s = (.ok (), t)) :
    t.entries =
      ((EntryCall.acceptFiesta u f duo isWithSearch).exchange).elim s.entries (·.apply s) := by
  rcases Program.exec_bind_ok run with ⟨_, _, update, run⟩
  rcases updateUser_ok update with ⟨-, rfl⟩
  cases isWithSearch with
  | true =>
      rcases requestADuoToGoFiesta_ok run with ⟨v, n, rfl⟩
      rfl
  | false =>
      rcases Program.exec_bind_ok run with ⟨_, _, remove, run⟩
      rcases updateFiesta_ok remove with ⟨exist, rfl⟩
      rcases joinFiesta_ok run with ⟨fiesta, n, -, rfl⟩
      rw [entries_addNotification, entries_removeWaiting exist]
      rfl

theorem EntryCall.work_entries {call : EntryCall} (run : call.work.exec s = (.ok (), t)) :
    t.entries = call.exchange.elim s.entries (·.apply s) := by
  cases call with
  | acceptFiesta u f duo isWithSearch => exact acceptFiesta_entries run
  | handleRequest u d f k accepted =>
      rcases Program.exec_bind_ok run with ⟨_, _, complete, run⟩
      rw [exec_setNotificationAsComplete] at complete
      cases complete
      cases accepted with
      | true =>
          rcases joinWithFriend_ok run with ⟨v, n, exist, rfl⟩
          rw [entries_addNotification, entries_removeWaiting exist]
          rfl
      | false =>
          cases run
          rfl
  | acceptUser f u o =>
      rcases Program.exec_bind_ok run with ⟨_, _, first, ends⟩
      rcases acceptUserInFiesta_ok first with ⟨d, rfl, exist, -, -, rfl⟩
      cases ends
      exact entries_acceptPair exist
  | acceptUserInApp f u d =>
      rcases FiestaController.acceptUserInFiesta_ok run with ⟨exist, -, -, rfl⟩
      exact entries_acceptPair exist
  | refuseUser f u d =>
      rcases updateFiesta_ok run with ⟨exist, rfl⟩
      exact entries_remove exist _
  | deleteUser f u d =>
      rcases FiestaController.deleteUserInFiesta_ok run with ⟨exist, -, -, rfl⟩
      exact entries_remove exist _

/-- What is left of a call after its work changes nothing. -/
theorem EntryCall.step_eq {call : EntryCall} (completed : call.Completed s) :
    call.step s = (call.work.exec s).2 := by
  cases call with
  | handleRequest u d f k accepted =>
      cases accepted with
      | true =>
          have ends : (work (.handleRequest u d f k true)).exec s =
              (.ok (), ((work (.handleRequest u d f k true)).exec s).2) := Prod.ext completed rfl
          rcases Program.exec_bind_ok ends with ⟨_, _, first, rest⟩
          rw [if_pos rfl] at rest
          simp only [step, program, NotificationController.handleFiestaRequest, ↓reduceIte,
            Program.exec_bind, first, rest, Program.exec_throw]
      | false => rfl
  | acceptFiesta u f duo isWithSearch => rfl
  | acceptUser f u o => rfl
  | acceptUserInApp f u d => rfl
  | refuseUser f u d => rfl
  | deleteUser f u d => rfl

/-- A completed call is an exchange of entries in one fiesta, or changes none. -/
theorem EntryCall.step_entries {call : EntryCall} (completed : call.Completed s) :
    (call.step s).entries = call.exchange.elim s.entries (·.apply s) := by
  rw [step_eq completed]
  exact work_entries (Prod.ext completed rfl)

end Step

/-! ## Runs -/

/-- No user is in two entries of a fiesta, whether as the one who joined or as the duo. -/
def Store.OneEntryEach (s : Store) : Prop :=
  ∀ f u, (s.entries f).countP (fun e => e.Has u) ≤ 1

section Run

variable {s : Store}

theorem meets_iff {e new : Participant} :
    Entries.Meet Participant.Has e new ↔ new.Meets e := by
  unfold Entries.Meet Participant.Meets
  constructor
  · intro meet
    rcases meet with ⟨u, has, rfl | duo⟩
    · exact .inl has
    · exact .inr ⟨u, duo, has⟩
  · intro meets
    rcases meets with has | ⟨d, duo, has⟩
    · exact ⟨new.fiestaRef, has, .inl rfl⟩
    · exact ⟨d, has, .inr duo⟩

/-- From a store where everybody has one entry at most, a completed call leads to such a store
exactly when it fits. -/
theorem EntryCall.step_oneEntry_iff {call : EntryCall} (one : s.OneEntryEach)
    (completed : call.Completed s) : (call.step s).OneEntryEach ↔ call.Fits s := by
  have after := step_entries completed
  unfold Store.OneEntryEach Fits
  rw [after]
  cases call.exchange with
  | none =>
      simp only [Option.elim_none, Option.mem_def, reduceCtorEq, false_implies, implies_true,
        iff_true]
      exact one
  | some x =>
      have rule := Entries.apart_exchange_iff (one x.fiestaId) x.old x.new
      simp only [meets_iff] at rule
      simp only [Option.elim_some, Option.mem_def, Option.some.injEq, forall_eq']
      constructor
      · intro all
        have here : Entries.Apart Participant.Has (x.apply s x.fiestaId) := all x.fiestaId
        rw [Exchange.apply, Function.update_self] at here
        exact rule.mp here
      · intro fits f
        by_cases same : f = x.fiestaId
        · subst same
          rw [Exchange.apply, Function.update_self]
          exact rule.mpr fits
        · rw [Exchange.apply, Function.update_of_ne same]
          exact one f

/-- **In a run of completed calls from a store where everybody has one entry at most, that holds
in every store exactly when every call adds an entry that meets none of those it leaves.** -/
theorem one_entry_iff {calls : List EntryCall} (start : s.OneEntryEach)
    (completed : Along EntryCall.step EntryCall.Completed s calls) :
    (∀ t, Reached EntryCall.step s calls t → t.OneEntryEach) ↔
      Along EntryCall.step EntryCall.Fits s calls :=
  all_reached_iff_along (P := Store.OneEntryEach) (V := EntryCall.Completed)
    (fun _ _ one completed => EntryCall.step_oneEntry_iff one completed) start completed

end Run

/-! ## Two lock partners who both join, and a friend who is asked -/

def guest (name : String) : User where
  firstname := .value name
  lastname := .value name
  profilImages := .value []

def oneFiesta : Fiesta where
  title := .value "f"
  host := { id := "h" }
  hostRef := "h"
  endAt := .epoch
  isEnd := .value false
  visibleAfter := .undefined
  participants := []

/-- A host with one fiesta, and two users. -/
def fiestaStore : Store :=
  { Store.ofUsers ⟨[("h", guest "h"), ("a", guest "a"), ("b", guest "b")], by decide⟩ with
    fiestas := ⟨[("f", oneFiesta)], by decide⟩ }

theorem fiestaStore_entries (f : FiestaId) : fiestaStore.entries f = [] := by
  unfold Store.entries
  cases found : fiestaStore.fiesta f with
  | none => rfl
  | some fiesta =>
      have listed := Collection.mem_docs.mpr found
      simp only [fiestaStore, List.mem_singleton, Prod.mk.injEq] at listed
      rw [listed.2]
      rfl

theorem fiestaStore_oneEntry : fiestaStore.OneEntryEach := by
  intro f u
  rw [fiestaStore_entries]
  exact Nat.zero_le _

/-- Each lock partner joins with the other one as duo. -/
def joinTwice : List EntryCall :=
  [.acceptFiesta "a" "f" (some "b") false, .acceptFiesta "b" "f" (some "a") false]

/-- Both users are then in two entries. -/
theorem joinTwice_two_entries :
    (∀ f, fiestaStore.entries f = []) ∧
      Along EntryCall.step EntryCall.Completed fiestaStore joinTwice ∧
      ¬ (run EntryCall.step fiestaStore joinTwice).OneEntryEach := by
  refine ⟨fiestaStore_entries, by decide, fun one => ?_⟩
  exact absurd (one "f" "a") (by decide)

/-- `b` waits for a duo, `a` asks `b`, `b` agrees, and the host accepts the two. -/
def askWaiting : List EntryCall :=
  [.acceptFiesta "b" "f" none false, .acceptFiesta "a" "f" (some "b") true,
    .handleRequest "a" "b" "f" 0 true, .acceptUser "f" "a" (some "b"),
    .refuseUser "f" "a" "b", .deleteUser "f" "a" "b"]

theorem askWaiting_one_entry :
    ((run EntryCall.step fiestaStore (askWaiting.take 4)).entries "f").length = 1 ∧
      ∀ t, Reached EntryCall.step fiestaStore askWaiting t → t.OneEntryEach :=
  ⟨by decide, (one_entry_iff fiestaStore_oneEntry (by decide)).mpr (by decide)⟩

end TwoGather
