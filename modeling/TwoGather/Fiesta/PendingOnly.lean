import TwoGather.Fiesta.Membership
import TwoGather.Fiesta.OneEntry

/-!
# Acceptances from an outdated list

The page of the host shows the pending duos of a snapshot, and an acceptance removes the
pending entry and adds the accepted one, whether or not the first was there. So a duo that
was refused in the meantime is accepted all the same. Acceptances act on pending duos only
exactly when each of them finds the entry, or a duo that is in the fiesta already
(`onlyPending_iff`).
-/

namespace TwoGather

open Docs Requests

/-! ## What an acceptance leaves -/

/-- The duo that a call accepts. -/
structure DuoEntry where
  fiestaId : FiestaId
  fiestaRef : UserId
  duoRef : Option UserId
  deriving DecidableEq

def DuoEntry.withStatus (d : DuoEntry) (status : Status) : Participant where
  fiestaRef := d.fiestaRef
  duoRef := d.duoRef
  status := status

def FiestaCall.accepts : FiestaCall → Option DuoEntry
  | .accept f u o => some ⟨f, u, o⟩
  | .acceptInApp f u v => some ⟨f, u, some v⟩
  | _ => none

section Effects

variable {s t : Store} {d : DuoEntry} {f : FiestaId} {u v : UserId}

/-- The store after the two writes to the fiesta. -/
def Store.acceptEntry (s : Store) (d : DuoEntry) : Store :=
  (s.updateFiesta d.fiestaId (·.remove (d.withStatus .pending))).updateFiesta d.fiestaId
    (·.union (d.withStatus .accepted))

/-- The store after the writes to the users; that of the second is made if the first is there. -/
def Store.bringIn (s : Store) (d : DuoEntry) : Store :=
  match d.duoRef with
  | some v =>
      if (s.user d.fiestaRef).isSome then
        (s.updateUser d.fiestaRef (·.setFiesta (.value d.fiestaId))).updateUser v
          (·.setFiesta (.value d.fiestaId))
      else s
  | none => s

theorem FiestaController.acceptUserInFiesta_store :
    ((FiestaController.acceptUserInFiesta f u v).exec s).2 =
      if (s.fiesta f).isSome then (s.acceptEntry ⟨f, u, some v⟩).bringIn ⟨f, u, some v⟩ else s := by
  unfold FiestaController.acceptUserInFiesta
  cases found : s.fiesta f with
  | none => simp [found, Store.updateFiesta_of_none found]
  | some fiesta =>
      cases user : s.user u with
      | none =>
          have missing : (s.acceptEntry ⟨f, u, some v⟩).user u = none := user
          simp [found, user, Store.bringIn, missing]
          exact Store.updateUser_of_none missing _
      | some data =>
          simp [found, user, Store.bringIn, Store.acceptEntry, DuoEntry.withStatus]

/-- What follows the writes of the cloud function only reads and sends. -/
theorem acceptUserInFiesta_store {o : Option UserId} :
    ((acceptUserInFiesta f u o).exec s).2 =
      if (s.fiesta f).isSome then (s.acceptEntry ⟨f, u, o⟩).bringIn ⟨f, u, o⟩ else s := by
  unfold acceptUserInFiesta
  cases found : s.fiesta f with
  | none => simp [found, Store.updateFiesta_of_none found]
  | some fiesta =>
      cases o with
      | none => simp [found, docOf, Store.bringIn, Store.acceptEntry, DuoEntry.withStatus]
      | some v =>
          cases user : s.user u with
          | none =>
              have missing : (s.acceptEntry ⟨f, u, some v⟩).user u = none := user
              simp [found, user, docOf, Store.bringIn, missing]
              exact Store.updateUser_of_none missing _
          | some data =>
              have exist : (((s.acceptEntry ⟨f, u, some v⟩).updateUser u
                  (·.setFiesta (.value f))).user v).isSome = (s.user v).isSome :=
                Store.isSome_updateUser _ _ _ _
              simp only [Store.acceptEntry, DuoEntry.withStatus] at exist
              simp only [Program.exec_bind, exec_getFiesta, exec_updateFiesta, found,
                Option.isSome_some, if_true, Store.fiesta_updateFiesta, Option.map_some, exec_getUser,
                Store.user_updateFiesta, user, docOf, Program.exec_pure, exec_updateUser,
                exec_member_some, exec_pushUnlessNull, Store.bringIn, Store.acceptEntry,
                DuoEntry.withStatus, exist]
              cases duo : s.user v with
              | none => rfl
              | some data' =>
                  simp only [Option.isSome_some, if_true, exec_member_some]
                  generalize (((s.updateFiesta f (·.remove ⟨u, some v, .pending⟩)).updateFiesta f
                    (·.union ⟨u, some v, .accepted⟩)).updateUser u
                      (·.setFiesta (.value f))).updateUser v (·.setFiesta (.value f)) = after
                  by_cases first : after.PassesUnlessNull data.fcmToken
                  · by_cases second : after.PassesUnlessNull data'.fcmToken
                    · simp only [first, second, if_true]
                    · simp only [first, second, if_true, if_false]
                  · simp only [first, if_false]

theorem FiestaCall.accepts_step {call : FiestaCall} (accepts : call.accepts = some d) :
    call.step s =
      if (s.fiesta d.fiestaId).isSome then (s.acceptEntry d).bringIn d else s := by
  cases call with
  | accept f u o =>
      cases accepts
      exact (Program.exec_discard _ _ _).trans acceptUserInFiesta_store
  | acceptInApp f u v =>
      cases accepts
      exact FiestaController.acceptUserInFiesta_store
  | join _ _ _ _ _ => cases accepts
  | refuse _ _ _ => cases accepts
  | remove _ _ _ => cases accepts
  | delete _ _ => cases accepts

theorem bringIn_entries : (s.bringIn d).entries = s.entries := by
  unfold Store.bringIn
  cases d.duoRef with
  | none => rfl
  | some v =>
      dsimp only
      split
      · rfl
      · rfl

theorem acceptEntry_entries (exist : (s.fiesta d.fiestaId).isSome) :
    (s.acceptEntry d).entries d.fiestaId =
      arrayUnion (arrayRemove (s.entries d.fiestaId) (d.withStatus .pending))
        (d.withStatus .accepted) := by
  have still : ((s.updateFiesta d.fiestaId (·.remove (d.withStatus .pending))).fiesta
      d.fiestaId).isSome := by simpa using exist
  rw [Store.acceptEntry, entries_union still, Function.update_self, entries_remove exist,
    Function.update_self]

theorem User.setFiesta_eq_self {data : User} {fiesta : Stored FiestaId} :
    data.setFiesta fiesta = data ↔ data.fiesta = fiesta := by
  constructor
  · intro same
    rw [← same]
    rfl
  · intro same
    subst same
    rfl

theorem map_setFiesta_iff {o : Option User} {fiesta : Stored FiestaId} :
    o.map (·.setFiesta fiesta) = o ↔ ∀ data ∈ o, data.fiesta = fiesta := by
  cases o with
  | none => simp
  | some data => simp [User.setFiesta_eq_self]

end Effects

/-! ## Acceptances that change nothing -/

/-- The call left the participants and the two users alone. -/
structure LeavesAlone (s t : Store) (d : DuoEntry) : Prop where
  participants : t.entries d.fiestaId = s.entries d.fiestaId
  user : t.user d.fiestaRef = s.user d.fiestaRef
  duo : ∀ v ∈ d.duoRef, t.user v = s.user v

def Store.IsPending (s : Store) (d : DuoEntry) : Prop :=
  d.withStatus .pending ∈ s.entries d.fiestaId

instance (s : Store) (d : DuoEntry) : Decidable (s.IsPending d) :=
  inferInstanceAs (Decidable (_ ∈ _))

/-- The fiesta does not exist, or has the accepted entry and is the fiesta of the two users. -/
def Store.InAlready (s : Store) (d : DuoEntry) : Prop :=
  ∀ fiesta ∈ s.fiesta d.fiestaId, d.withStatus .accepted ∈ fiesta.participants ∧
    ∀ v ∈ d.duoRef, ∀ data ∈ s.user d.fiestaRef, data.fiesta = .value d.fiestaId ∧
      ∀ other ∈ s.user v, other.fiesta = .value d.fiestaId

instance (s : Store) (d : DuoEntry) : Decidable (s.InAlready d) :=
  inferInstanceAs (Decidable (∀ fiesta ∈ s.fiesta d.fiestaId, _))

section Exact

variable {s : Store} {d : DuoEntry} {fiesta : Fiesta}

/-- Each of the two users has the fiesta after the writes. -/
theorem user_setBoth {t : Store} (users : t.user = s.user) (u v : UserId) (o : Stored FiestaId)
    {w : UserId} (either : w = u ∨ w = v) :
    ((t.updateUser u (·.setFiesta o)).updateUser v (·.setFiesta o)).user w =
      (s.user w).map (·.setFiesta o) := by
  have twice : ∀ x : Option User,
      (x.map (·.setFiesta o)).map (·.setFiesta o) = x.map (·.setFiesta o) := by
    intro x
    rw [Option.map_map]
    rfl
  rw [Store.user_updateUser, Store.user_updateUser, users]
  by_cases first : w = u
  · by_cases second : w = v
    · rw [if_pos second, if_pos first, twice]
    · rw [if_neg second, if_pos first]
  · rw [if_pos (either.resolve_left first), if_neg first]

/-- The two users after an acceptance. -/
theorem bringIn_leaves_iff {t : Store} (users : t.user = s.user) :
    ((t.bringIn d).user d.fiestaRef = s.user d.fiestaRef ∧
        ∀ v ∈ d.duoRef, (t.bringIn d).user v = s.user v) ↔
      ∀ v ∈ d.duoRef, ∀ data ∈ s.user d.fiestaRef, data.fiesta = .value d.fiestaId ∧
        ∀ other ∈ s.user v, other.fiesta = .value d.fiestaId := by
  unfold Store.bringIn
  cases d.duoRef with
  | none => simp [users]
  | some v =>
      simp only [Option.mem_def, Option.some.injEq, forall_eq']
      cases user : s.user d.fiestaRef with
      | none =>
          have missing : ¬ (t.user d.fiestaRef).isSome := by simp [users, user]
          rw [if_neg missing, users]
          simp [user]
      | some data =>
          have exist : (t.user d.fiestaRef).isSome := by simp [users, user]
          rw [if_pos exist, user_setBoth users _ _ _ (.inl rfl),
            user_setBoth users _ _ _ (.inr rfl), map_setFiesta_iff, user]
          simp [User.setFiesta_eq_self]

/-- An acceptance without a pending entry leaves all alone exactly when the duo is in already. -/
theorem accept_leavesAlone_iff (notPending : ¬ s.IsPending d) :
    LeavesAlone s
        (if (s.fiesta d.fiestaId).isSome then (s.acceptEntry d).bringIn d else s) d ↔
      s.InAlready d := by
  unfold Store.InAlready
  cases found : s.fiesta d.fiestaId with
  | none => simpa using ⟨rfl, rfl, fun _ _ => rfl⟩
  | some fiesta =>
      have exist : (s.fiesta d.fiestaId).isSome := by simp [found]
      have entries : ((s.acceptEntry d).bringIn d).entries d.fiestaId =
          arrayUnion (s.entries d.fiestaId) (d.withStatus .accepted) := by
        rw [bringIn_entries, acceptEntry_entries exist, arrayRemove_eq_self.mpr notPending]
      have list : s.entries d.fiestaId = fiesta.participants := entries_of_fiesta found
      simp only [Option.isSome_some, if_true, Option.mem_def, Option.some.injEq, forall_eq']
      rw [← list, ← arrayUnion_eq_self, ← entries]
      have users := bringIn_leaves_iff (s := s) (d := d) (t := s.acceptEntry d) rfl
      constructor
      · intro alone
        exact ⟨alone.participants, users.mp ⟨alone.user, alone.duo⟩⟩
      · intro same
        obtain ⟨user, duo⟩ := users.mpr same.2
        exact ⟨same.1, user, duo⟩

end Exact

/-! ## Whole runs -/

/-- An acceptance of a duo that is not pending changes nothing. -/
def FiestaCall.OnlyPending (s : Store) (call : FiestaCall) : Prop :=
  ∀ d ∈ call.accepts, ¬ s.IsPending d → LeavesAlone s (call.step s) d

/-- An acceptance finds its duo pending, or in the fiesta already. -/
def FiestaCall.FindsPending (s : Store) (call : FiestaCall) : Prop :=
  ∀ d ∈ call.accepts, s.IsPending d ∨ s.InAlready d

instance (s : Store) (call : FiestaCall) : Decidable (call.FindsPending s) :=
  inferInstanceAs (Decidable (∀ d ∈ call.accepts, _))

/-- A new request of the duo. -/
def FiestaCall.AsksFor (d : DuoEntry) (call : FiestaCall) : Prop :=
  call.Adds d.fiestaId (d.withStatus .pending)

/-- Once a duo is not pending any more, refused or accepted, it is not accepted again without a
new request. -/
def NeverAgain (s : Store) (calls : List FiestaCall) : Prop :=
  ∀ before rest, calls = before ++ rest → ∀ d,
    ¬ (run FiestaCall.step s before).IsPending d → (∀ call ∈ rest, ¬ call.AsksFor d) →
      Along FiestaCall.step (fun t call => d ∈ call.accepts → LeavesAlone t (call.step t) d)
        (run FiestaCall.step s before) rest

section Runs

variable {s : Store} {d : DuoEntry} {call : FiestaCall}

theorem FiestaCall.leavesAlone_iff : call.OnlyPending s ↔ call.FindsPending s := by
  unfold FiestaCall.OnlyPending FiestaCall.FindsPending
  apply forall_congr'
  intro d
  apply imp_congr_right
  intro accepts
  rw [FiestaCall.accepts_step accepts, or_iff_not_imp_left]
  exact imp_congr_right accept_leavesAlone_iff

/-- A request that does not add an entry brings it nowhere. -/
theorem FiestaAct.absent {new : FiestaId → Participant → Prop} {act : Store → Store}
    (kind : FiestaAct new act) {f : FiestaId} {e : Participant} (notNew : ¬ new f e)
    (absent : e ∉ s.entries f) : e ∉ (act s).entries f := by
  have update : ∀ g (h : Fiesta → Fiesta),
      (∀ fiesta, s.fiesta f = some fiesta → g = f → e ∉ (h fiesta).participants) →
        e ∉ (s.updateFiesta g h).entries f := by
    intro g h leaves
    unfold Store.entries at absent ⊢
    rw [Store.fiesta_updateFiesta]
    split
    case isTrue same =>
      cases found : s.fiesta f with
      | none => simp
      | some fiesta => simpa using leaves fiesta found same.symm
    case isFalse => exact absent
  have inList : ∀ fiesta, s.fiesta f = some fiesta → e ∉ fiesta.participants := by
    intro fiesta found
    rwa [entries_of_fiesta found] at absent
  cases kind with
  | read => exact absent
  | updateUser u g => exact absent
  | addNotification u n => exact absent
  | remove g x =>
      apply update
      intro fiesta found _
      simpa [Fiesta.remove] using fun listed => absurd listed (inList fiesta found)
  | union g x adds =>
      apply update
      intro fiesta found same
      have other : e ≠ x := by
        intro eq
        subst eq same
        exact notNew adds
      simpa [Fiesta.union, other] using inList fiesta found
  | deleteFiesta g =>
      unfold Store.entries at absent ⊢
      rw [Store.fiesta_deleteFiesta]
      split
      · simp
      · exact absent
  | deleteCreatedFiesta u key => exact absent

/-- Only a new request makes a duo pending. -/
theorem FiestaCall.step_notPending (notPending : ¬ s.IsPending d) (quiet : ¬ call.AsksFor d) :
    ¬ (call.step s).IsPending d := by
  have keeps : call.program.Keeps fun s t =>
      d.withStatus .pending ∉ s.entries d.fiestaId →
        d.withStatus .pending ∉ t.entries d.fiestaId := by
    apply call.acts.keeps
    intro act kind t absent
    exact kind.absent quiet absent
  exact keeps.exec (fun _ absent => absent) (fun first second absent => second (first absent)) s
    notPending

/-- **Acceptances act on pending duos only, and no duo is accepted again without a new request,
exactly when each acceptance of the run finds its duo pending or in the fiesta already.** -/
theorem onlyPending_iff (s : Store) (calls : List FiestaCall) :
    (Along FiestaCall.step (fun t call => call.OnlyPending t) s calls ∧ NeverAgain s calls) ↔
      Along FiestaCall.step (fun t call => call.FindsPending t) s calls := by
  constructor
  · intro both
    exact both.1.mono fun _ _ => FiestaCall.leavesAlone_iff.mp
  · intro finds
    have only : Along FiestaCall.step (fun t call => call.OnlyPending t) s calls :=
      finds.mono fun _ _ => FiestaCall.leavesAlone_iff.mpr
    refine ⟨only, fun before rest split d notPending quiet => ?_⟩
    subst split
    have valid : Along FiestaCall.step (fun t call => call.OnlyPending t ∧ ¬ call.AsksFor d)
        (run FiestaCall.step s before) rest :=
      Along.and_iff.mpr ⟨(along_append.mp only).2, .of_forall quiet⟩
    refine along_of_invariant (P := fun t => ¬ t.IsPending d) ?_ ?_ notPending valid
    · intro t call absent fits
      exact FiestaCall.step_notPending absent fits.2
    · intro t call absent fits accepts
      exact fits.1 d accepts absent

end Runs

/-! ## A refused duo, accepted from an older list -/

/-- `a` asks to come with `b`. -/
def asks : FiestaCall := .join "a" "f" "a" (some "b") .pending

/-- The host refuses the duo. -/
def refuses : FiestaCall := .refuse "f" "a" "b"

/-- The page of the host still shows the duo. -/
def acceptsLate : FiestaCall := .acceptInApp "f" "a" "b"

theorem refused_accepted :
    ¬ NeverAgain fiestaStore [asks, refuses, acceptsLate] ∧
      ¬ Along FiestaCall.step (fun t call => call.OnlyPending t) fiestaStore
        [asks, refuses, acceptsLate] := by
  have absent :
      ¬ (run FiestaCall.step fiestaStore [asks, refuses]).IsPending ⟨"f", "a", some "b"⟩ := by
    decide
  have changes : ¬ LeavesAlone (run FiestaCall.step fiestaStore [asks, refuses])
      (acceptsLate.step (run FiestaCall.step fiestaStore [asks, refuses])) ⟨"f", "a", some "b"⟩ :=
    fun alone => absurd alone.participants (by decide)
  constructor
  · intro never
    have quiet : ∀ call ∈ [acceptsLate], ¬ call.AsksFor ⟨"f", "a", some "b"⟩ := by
      intro call listed
      rw [List.mem_singleton.mp listed]
      exact fun asked => absurd asked.2 (by decide)
    exact changes ((never [asks, refuses] [acceptsLate] rfl _ absent quiet).1 rfl)
  · intro only
    exact changes (only.2.2.1 _ rfl absent)

end TwoGather
