import TwoGather.Fiesta.OneEntry
import TwoGather.Lib.Faults

/-!
# Requests to join with an operation that fails

The app notes the fiesta with the user, takes out the duo that waits alone, and calls
`joinFiesta`, which adds the entry without waiting for it and then tells the host. Errors
are swallowed on both sides, and no write is taken back.

So a request that stops is stored in part unless what it has written was there before, and
one that gets to its end is stored entirely unless the update that nobody waits for fails
(`acceptFiesta_whole_iff`).
-/

namespace TwoGather

open Docs Requests

/-! ## The request with failures -/

/-- The operations of a request. The push service has its failures in the store. -/
inductive JoinOp
  | requestFiesta
  | removeWaiting
  | call
  | readFiesta
  | readHost
  | readUser
  | union
  | notify
  deriving DecidableEq

/-- `joinFiesta` with its handler, which answers with the error. -/
def joinFiestaWith (fails : JoinOp → Bool) (userId : UserId) (fiestaId : FiestaId)
    (fiestaRef : UserId) (duoRef : Option UserId) (status : Status) : Firestore Unit :=
  tryCatch
    (do
      let fiestaData ← attempt (fails .readFiesta) (getFiesta fiestaId)
      let fiestaData ← member fiestaData
      let hostData ← attempt (fails .readHost) (getUser fiestaData.host.id)
      let hostData ← member hostData
      pushUnlessNull hostData.fcmToken
      let user ← attempt (fails .readUser) (getUser userId)
      Program.unawaited
        (attempt (fails .union) (updateFiesta fiestaId (·.union { fiestaRef, duoRef, status })))
      let user ← member user
      let pictures ← defined user.profilImages
      attempt (fails .notify)
        (addNotification fiestaData.host.id
          (joinNotification fiestaId fiestaRef duoRef user pictures)))
    fun _ => pure ()

/-- `acceptFiesta` without search, with its handler. -/
def FiestaController.acceptFiestaWith (fails : JoinOp → Bool) (userId : UserId)
    (fiestaId : FiestaId) (duo : Option UserId) : Firestore Unit :=
  tryCatch
    (do
      attempt (fails .requestFiesta) (updateUser userId (·.requestFiesta fiestaId))
      attempt (fails .removeWaiting) (updateFiesta fiestaId (·.removeWaiting duo))
      attempt (fails .call)
        (joinFiestaWith fails userId fiestaId userId duo
          (if duo.isNone then .waiting else .pending)))
    fun _ => pure ()

section NoFailure

variable (s : Store) (u r : UserId) (f : FiestaId) (o : Option UserId)

/-- Without failures the handler changes nothing. -/
theorem joinFiestaWith_none (status : Status) :
    ((joinFiestaWith (fun _ => false) u f r o status).exec s).2 =
      ((joinFiesta u f r o status).exec s).2 := by
  unfold joinFiestaWith joinFiesta
  rw [Program.exec_caught]
  cases found : s.fiesta f with
  | none => simp [found]
  | some fiesta =>
      cases host : s.user fiesta.host.id with
      | none => simp [found, host]
      | some data =>
          simp only [Program.exec_bind, Program.attempt_false, exec_getFiesta, found,
            exec_member_some, exec_getUser, host]

/-- Where nothing fails, this is `acceptFiesta`. -/
theorem FiestaController.acceptFiestaWith_none :
    ((FiestaController.acceptFiestaWith (fun _ => false) u f o).exec s).2 =
      ((FiestaController.acceptFiesta u f o false).exec s).2 := by
  unfold FiestaController.acceptFiestaWith FiestaController.acceptFiesta
  rw [Program.exec_caught]
  simp only [Program.attempt_false, Bool.false_eq_true, if_false, Program.exec_bind,
    exec_updateUser, exec_updateFiesta]
  cases s.user u with
  | none => rfl
  | some data =>
      cases fiesta : (s.updateUser u (·.requestFiesta f)).fiesta f with
      | none => simp [fiesta]
      | some fiesta => simp only [Option.isSome_some, if_true, fiesta, joinFiestaWith_none]

end NoFailure

/-! ## How far the request gets -/

/-- The entry that the request adds. -/
def newEntry (u : UserId) (o : Option UserId) : Participant :=
  ⟨u, o, if o.isNone then .waiting else .pending⟩

/-- The fiestas that a user has asked for. -/
def Store.requestedBy (s : Store) (u : UserId) : List FiestaId :=
  (optional User.requestedFiesta (s.user u)).elems

/-- The duo waits alone. -/
def Store.DuoWaits (s : Store) (f : FiestaId) (o : Option UserId) : Prop :=
  ∃ d ∈ o, ⟨d, none, .waiting⟩ ∈ s.entries f

instance (s : Store) (f : FiestaId) (o : Option UserId) : Decidable (s.DuoWaits f o) :=
  inferInstanceAs (Decidable (∃ d ∈ o, _))

/-- The first update is made. -/
def Store.Asks (s : Store) (fails : JoinOp → Bool) (u : UserId) : Prop :=
  fails .requestFiesta = false ∧ (s.user u).isSome

instance (s : Store) (fails : JoinOp → Bool) (u : UserId) : Decidable (s.Asks fails u) :=
  inferInstanceAs (Decidable (_ ∧ _))

/-- The second one is made if it is reached. -/
def Store.Removes (s : Store) (fails : JoinOp → Bool) (f : FiestaId) : Prop :=
  fails .removeWaiting = false ∧ (s.fiesta f).isSome

instance (s : Store) (fails : JoinOp → Bool) (f : FiestaId) : Decidable (s.Removes fails f) :=
  inferInstanceAs (Decidable (_ ∧ _))

/-- The host is there, and no push is refused. -/
def Store.HostAnswers (s : Store) (f : FiestaId) : Prop :=
  ∃ fiesta ∈ s.fiesta f, ∃ host ∈ s.user fiesta.host.id, s.PassesUnlessNull host.fcmToken

instance (s : Store) (f : FiestaId) : Decidable (s.HostAnswers f) :=
  inferInstanceAs (Decidable (∃ fiesta ∈ s.fiesta f, _))

/-- The call gets to its update if it is made. -/
def Store.GetsToUnion (s : Store) (fails : JoinOp → Bool) (f : FiestaId) : Prop :=
  (fails .call = false ∧ fails .readFiesta = false ∧ fails .readHost = false ∧
    fails .readUser = false) ∧ s.HostAnswers f

instance (s : Store) (fails : JoinOp → Bool) (f : FiestaId) : Decidable (s.GetsToUnion fails f) :=
  inferInstanceAs (Decidable (_ ∧ _))

/-- The host is told if the call gets that far. -/
def Store.TellsHost (s : Store) (fails : JoinOp → Bool) (u : UserId) : Prop :=
  fails .notify = false ∧ ∃ user ∈ s.user u, user.profilImages ≠ .undefined

instance (s : Store) (fails : JoinOp → Bool) (u : UserId) : Decidable (s.TellsHost fails u) :=
  inferInstanceAs (Decidable (_ ∧ ∃ user ∈ s.user u, _))

section Outcomes

variable {s : Store} {fails : JoinOp → Bool} {u : UserId} {f : FiestaId} {o : Option UserId}

/-- The store after the two updates of the app. -/
def Store.askedFor (s : Store) (u : UserId) (f : FiestaId) (o : Option UserId) : Store :=
  (s.updateUser u (·.requestFiesta f)).updateFiesta f (·.removeWaiting o)

/-- The store after the update of the cloud function, if that is made. -/
def Store.afterUnion (s : Store) (fails : JoinOp → Bool) (f : FiestaId) (e : Participant) : Store :=
  if fails .union then s else s.updateFiesta f (·.union e)

/-- The update that is not awaited is made, or fails without a word. -/
theorem exec_union (e : Participant) (exist : (s.fiesta f).isSome) :
    (Program.unawaited (attempt (fails .union) (updateFiesta f (·.union e)))).exec s =
      (.ok (), s.afterUnion fails f e) := by
  rw [Program.exec_unawaited, Program.exec_attempt]
  unfold Store.afterUnion
  split
  · rfl
  · rw [exec_updateFiesta, if_pos exist]

theorem clock_afterUnion (e : Participant) : (s.afterUnion fails f e).clock = s.clock := by
  unfold Store.afterUnion
  split
  · rfl
  · rfl

/-- The last part of the call. -/
theorem exec_tellHost (fails : JoinOp → Bool) {data : User} (user : s.user u = some data)
    (host : UserId) (n : Stored (List String) → Timestamp → Notification) (t : Store) :
    ((do
      let pictures ← defined data.profilImages
      attempt (fails .notify) (addNotification host (n pictures)) : Firestore Unit).exec t).2 =
      if s.TellsHost fails u then t.addNotification host (n data.profilImages t.clock) else t := by
  split
  case isTrue tells =>
    obtain ⟨sent, _, again, present⟩ := tells
    rw [user] at again
    cases again
    have defined : data.profilImages.isUndefined = false :=
      Bool.eq_false_iff.mpr (mt Stored.isUndefined_iff.mp present)
    rw [Program.exec_bind, exec_defined, defined, sent]
    rfl
  case isFalse silent =>
    rw [Program.exec_bind, exec_defined]
    cases missing : data.profilImages.isUndefined with
    | true => rfl
    | false =>
        have refused : fails .notify = true := by
          by_contra sent
          refine silent ⟨by simpa using sent, data, user, fun undefined => ?_⟩
          rw [undefined] at missing
          cases missing
        rw [refused]
        rfl

/-- What the cloud function leaves. -/
theorem joinFiestaWith_store {status : Status} {fiesta : Fiesta} {data : User}
    (found : s.fiesta f = some fiesta) (user : s.user u = some data) (sent : fails .call = false) :
    ((joinFiestaWith fails u f u o status).exec s).2 =
      if s.GetsToUnion fails f then
        if s.TellsHost fails u then
          (s.afterUnion fails f ⟨u, o, status⟩).addNotification fiesta.host.id
            (joinNotification f u o data data.profilImages s.clock)
        else s.afterUnion fails f ⟨u, o, status⟩
      else s := by
  unfold joinFiestaWith
  rw [Program.exec_caught]
  split
  case isTrue gets =>
    obtain ⟨⟨-, readFiesta, readHost, readUser⟩, _, again, host, foundHost, passes⟩ := gets
    rw [found] at again
    cases again
    rw [Option.mem_def] at foundHost
    have exist : (s.fiesta f).isSome := by simp [found]
    have tail := exec_tellHost fails user fiesta.host.id (joinNotification f u o data)
      (s.afterUnion fails f ⟨u, o, status⟩)
    rw [clock_afterUnion] at tail
    rw [← tail]
    simp only [Program.exec_bind, readFiesta, readHost, readUser, Program.attempt_false,
      exec_getFiesta, found, exec_member_some, exec_getUser, foundHost, exec_pushUnlessNull, passes,
      if_true, exec_union _ exist, user]
  case isFalse stops =>
    cases readFiesta : fails .readFiesta with
    | true => rfl
    | false =>
        cases readHost : fails .readHost with
        | true => simp [found]
        | false =>
            cases foundHost : s.user fiesta.host.id with
            | none => simp [found, foundHost]
            | some host =>
                by_cases passes : s.PassesUnlessNull host.fcmToken
                · have last : fails .readUser = true := by
                    by_contra readUser
                    exact stops ⟨⟨sent, readFiesta, readHost, by simpa using readUser⟩, fiesta,
                      found, host, foundHost, passes⟩
                  simp [found, foundHost, exec_pushUnlessNull, passes, last]
                · simp [found, foundHost, exec_pushUnlessNull, passes]

/-- A request changes nothing exactly if the fiesta is on the list. -/
theorem requestFiesta_eq_self {data : User} :
    data.requestFiesta f = data ↔ f ∈ data.requestedFiesta.elems := by
  rw [← Stored.union_eq_self]
  constructor
  · exact congrArg User.requestedFiesta
  · intro same
    unfold User.requestFiesta
    rw [same]

/-- To enter somebody changes nothing exactly if the entry is there. -/
theorem Fiesta.union_eq_self {fiesta : Fiesta} {e : Participant} :
    fiesta.union e = fiesta ↔ e ∈ fiesta.participants := by
  rw [← arrayUnion_eq_self]
  constructor
  · exact congrArg Fiesta.participants
  · intro same
    unfold Fiesta.union
    rw [same]

/-- To remove an entry changes nothing exactly if it is not there. -/
theorem Fiesta.remove_eq_self {fiesta : Fiesta} {e : Participant} :
    fiesta.remove e = fiesta ↔ e ∉ fiesta.participants := by
  rw [← arrayRemove_eq_self]
  constructor
  · exact congrArg Fiesta.participants
  · intro same
    unfold Fiesta.remove
    rw [same]

/-- The same for the waiting entry of the duo. -/
theorem removeWaiting_eq_self {fiesta : Fiesta} :
    fiesta.removeWaiting o = fiesta ↔ ¬ ∃ d ∈ o, ⟨d, none, .waiting⟩ ∈ fiesta.participants := by
  cases o with
  | none => simp [Fiesta.removeWaiting]
  | some d => simp [Fiesta.removeWaiting, Fiesta.remove_eq_self]

/-! ## When a stage has changed nothing -/

/-- The same for the document of the user. -/
theorem requested_eq_self (user : (s.user u).isSome) :
    s.updateUser u (·.requestFiesta f) = s ↔ f ∈ s.requestedBy u := by
  obtain ⟨data, found⟩ := Option.isSome_iff_exists.mp user
  simp [Store.updateUser_eq_self, found, requestFiesta_eq_self, Store.requestedBy, optional]

/-- After the first requests the fiesta is on the list of the user. -/
theorem requestedBy_askedFor (user : (s.user u).isSome) : f ∈ (s.askedFor u f o).requestedBy u := by
  obtain ⟨data, found⟩ := Option.isSome_iff_exists.mp user
  have added : f ∈ (data.requestFiesta f).requestedFiesta.elems := by simp [User.requestFiesta]
  simpa [Store.askedFor, Store.requestedBy, found, optional] using added

/-- And the waiting entry of the duo is gone. -/
theorem mem_entries_askedFor (exist : (s.fiesta f).isSome) {e : Participant} :
    e ∈ (s.askedFor u f o).entries f ↔ e ∈ s.entries f ∧ ∀ d ∈ o, e ≠ ⟨d, none, .waiting⟩ := by
  have still : ((s.updateUser u (·.requestFiesta f)).fiesta f).isSome := exist
  cases o with
  | none =>
      have same : (s.askedFor u f none).entries = _ := entries_updateFiesta still id fun _ => rfl
      simp [same]
  | some d =>
      have removed : (s.askedFor u f (some d)).entries = _ := entries_remove still _
      simp [removed]

/-- The entry that comes is not the one that goes. -/
theorem newEntry_ne {d : UserId} (duo : o = some d) : newEntry u o ≠ ⟨d, none, .waiting⟩ := by
  subst duo
  intro same
  cases same

/-- The new entry is there, unless its update failed. -/
theorem mem_entries_afterUnion (exist : (s.fiesta f).isSome) {e new : Participant} :
    e ∈ (s.afterUnion fails f new).entries f ↔
      e ∈ s.entries f ∨ fails .union = false ∧ e = new := by
  unfold Store.afterUnion
  cases fails .union with
  | true => simp
  | false =>
      have listed := entries_union exist new
      simp [listed]

/-- The update leaves the lists of the users alone. -/
theorem requestedBy_afterUnion (fails : JoinOp → Bool) (e : Participant) :
    (s.afterUnion fails f e).requestedBy = s.requestedBy := by
  unfold Store.afterUnion
  split
  · rfl
  · rfl

theorem notifications_afterUnion (e : Participant) :
    (s.afterUnion fails f e).notifications = s.notifications := by
  unfold Store.afterUnion
  split
  · rfl
  · rfl

/-- The app has changed nothing. -/
theorem askedFor_eq_self (user : (s.user u).isSome) (exist : (s.fiesta f).isSome) :
    s.askedFor u f o = s ↔ f ∈ s.requestedBy u ∧ ¬ s.DuoWaits f o := by
  constructor
  · intro same
    have requested : f ∈ (s.askedFor u f o).requestedBy u := requestedBy_askedFor user
    rw [same] at requested
    refine ⟨requested, fun waits => ?_⟩
    obtain ⟨d, duo, listed⟩ := waits
    rw [← same, mem_entries_askedFor exist] at listed
    exact listed.2 d duo rfl
  · intro both
    obtain ⟨fiesta, found⟩ := Option.isSome_iff_exists.mp exist
    unfold Store.askedFor
    rw [(requested_eq_self user).mpr both.1, Store.updateFiesta_eq_self]
    intro data again
    rw [removeWaiting_eq_self, ← entries_of_fiesta again]
    exact both.2

/-- The call has changed nothing either. -/
theorem afterUnion_eq_self (user : (s.user u).isSome) (exist : (s.fiesta f).isSome) :
    (s.askedFor u f o).afterUnion fails f (newEntry u o) = s ↔
      (f ∈ s.requestedBy u ∧ ¬ s.DuoWaits f o) ∧
        (fails .union = true ∨ newEntry u o ∈ s.entries f) := by
  have still : ((s.askedFor u f o).fiesta f).isSome := by simpa [Store.askedFor] using exist
  constructor
  · intro same
    have requested : f ∈ (s.askedFor u f o).requestedBy u := requestedBy_askedFor user
    rw [← requestedBy_afterUnion fails (newEntry u o), same] at requested
    refine ⟨⟨requested, fun waits => ?_⟩, ?_⟩
    · obtain ⟨d, duo, listed⟩ := waits
      rw [← same, mem_entries_afterUnion still, mem_entries_askedFor exist] at listed
      rcases listed with old | new
      · exact old.2 d duo rfl
      · exact newEntry_ne duo new.2.symm
    · cases union : fails .union with
      | true => exact .inl rfl
      | false =>
          right
          rw [← same, mem_entries_afterUnion still]
          exact .inr ⟨union, rfl⟩
  · intro unchanged
    rw [(askedFor_eq_self user exist).mpr unchanged.1]
    unfold Store.afterUnion
    split
    case isTrue => rfl
    case isFalse union =>
      rw [Store.updateFiesta_eq_self]
      intro data found
      rw [Fiesta.union_eq_self, ← entries_of_fiesta found]
      exact unchanged.2.resolve_left union

/-! ## Where the request stops -/

/-- The store after a request that is not made. -/
theorem acceptFiestaWith_unsent (unsent : ¬ s.Asks fails u) :
    ((FiestaController.acceptFiestaWith fails u f o).exec s).2 = s := by
  unfold FiestaController.acceptFiestaWith
  rw [Program.exec_caught]
  cases refused : fails .requestFiesta with
  | true => rfl
  | false =>
      have missing : s.user u = none := by
        by_contra user
        exact unsent ⟨refused, Option.isSome_iff_ne_none.mpr user⟩
      simp [missing, Store.updateUser_of_none missing]

/-- The store after a request that stops at the second update. -/
theorem acceptFiestaWith_half (asks : s.Asks fails u) (stops : ¬ s.Removes fails f) :
    ((FiestaController.acceptFiestaWith fails u f o).exec s).2 =
      s.updateUser u (·.requestFiesta f) := by
  unfold FiestaController.acceptFiestaWith
  rw [Program.exec_caught]
  simp only [asks.1, Program.attempt_false, Program.exec_bind, exec_updateUser, asks.2, if_true]
  cases refused : fails .removeWaiting with
  | true => rfl
  | false =>
      have missing : (s.updateUser u (·.requestFiesta f)).fiesta f = none := by
        by_contra fiesta
        exact stops ⟨refused, Option.isSome_iff_ne_none.mpr fiesta⟩
      simp [missing, Store.updateFiesta_of_none missing]

/-- What the fiesta is after the first requests. -/
theorem fiesta_askedFor {fiesta : Fiesta} (found : s.fiesta f = some fiesta) :
    (s.askedFor u f o).fiesta f = some (fiesta.removeWaiting o) := by
  simp [Store.askedFor, found]

/-- It has the same host. -/
theorem host_removeWaiting (fiesta : Fiesta) : (fiesta.removeWaiting o).host = fiesta.host := by
  cases o with
  | none => rfl
  | some d => rfl

/-- The updates of the app leave the token of the host alone, who may be the user. -/
theorem hostAnswers_requestFiesta (g : FiestaId) :
    (s.updateUser u (·.requestFiesta g)).HostAnswers f ↔ s.HostAnswers f := by
  have passes : ∀ token, (s.updateUser u (·.requestFiesta g)).PassesUnlessNull token ↔
      s.PassesUnlessNull token := fun _ => .rfl
  simp only [Store.HostAnswers, Store.fiesta_updateUser, Store.user_updateUser, passes]
  apply exists_congr
  intro fiesta
  apply and_congr_right
  intro _
  split
  · simp [User.requestFiesta]
  · exact .rfl

/-- Whether the host can be told does not depend on who waits. -/
theorem hostAnswers_removeWaiting :
    (s.updateFiesta f (·.removeWaiting o)).HostAnswers f ↔ s.HostAnswers f := by
  have passes : ∀ token, (s.updateFiesta f (·.removeWaiting o)).PassesUnlessNull token ↔
      s.PassesUnlessNull token := fun _ => .rfl
  simp only [Store.HostAnswers, Store.fiesta_updateFiesta, if_true, Store.user_updateFiesta, passes]
  cases s.fiesta f with
  | none => simp
  | some fiesta => simp [host_removeWaiting]

/-- So the first requests do not change whether the host can be told. -/
theorem hostAnswers_askedFor : (s.askedFor u f o).HostAnswers f ↔ s.HostAnswers f :=
  hostAnswers_removeWaiting.trans (hostAnswers_requestFiesta f)

/-- Nor do they change whether it is told. -/
theorem tellsHost_askedFor : (s.askedFor u f o).TellsHost fails u ↔ s.TellsHost fails u := by
  unfold Store.TellsHost Store.askedFor
  simp [User.requestFiesta]

/-- The host gets one notification for the request. -/
def HostTold (s t : Store) (u : UserId) (f : FiestaId) : Prop :=
  ∃ fiesta n, s.fiesta f = some fiesta ∧
    t.notifications = Function.update s.notifications fiesta.host.id
      ((s.notifications fiesta.host.id).add n) ∧
    n.notificationType = .handleFiestaConfirmation ∧ n.notificationUser.id = u ∧
    n.metadata.fiestaId = .value f

/-- The store after a request that gets to the call. -/
theorem acceptFiestaWith_called {t : Store} (asks : s.Asks fails u) (removes : s.Removes fails f)
    (run : ((FiestaController.acceptFiestaWith fails u f o).exec s).2 = t) :
    if s.GetsToUnion fails f then
      if s.TellsHost fails u then
        HostTold s t u f ∧ ∃ host n,
          t = ((s.askedFor u f o).afterUnion fails f (newEntry u o)).addNotification host n
      else t = (s.askedFor u f o).afterUnion fails f (newEntry u o)
    else t = s.askedFor u f o := by
  obtain ⟨fiesta, found⟩ := Option.isSome_iff_exists.mp removes.2
  obtain ⟨data, user⟩ := Option.isSome_iff_exists.mp asks.2
  have gets : (s.askedFor u f o).GetsToUnion fails f ↔ s.GetsToUnion fails f :=
    and_congr_right fun _ => hostAnswers_askedFor
  have asked : (s.askedFor u f o).user u = some (data.requestFiesta f) := by
    simp [Store.askedFor, user]
  unfold FiestaController.acceptFiestaWith at run
  rw [Program.exec_caught] at run
  have still : ((s.updateUser u (·.requestFiesta f)).fiesta f).isSome := removes.2
  simp only [asks.1, removes.1, Program.attempt_false, Program.exec_bind, exec_updateUser, asks.2,
    if_true, exec_updateFiesta, still] at run
  cases sent : fails .call with
  | true =>
      have stops : ¬ s.GetsToUnion fails f := fun gets =>
        absurd (sent.symm.trans gets.1.1) (by decide)
      rw [sent] at run
      rw [if_neg stops]
      exact run.symm
  | false =>
      have called : ((joinFiestaWith fails u f u o (if o.isNone then .waiting else .pending)).exec
          (s.askedFor u f o)).2 = _ := joinFiestaWith_store (fiesta_askedFor found) asked sent
      rw [sent] at run
      have left := called.symm.trans run
      simp only [gets, tellsHost_askedFor, host_removeWaiting] at left
      split
      case isTrue gets =>
        rw [if_pos gets] at left
        split
        case isTrue tells =>
          rw [if_pos tells] at left
          subst left
          refine ⟨⟨fiesta, joinNotification f u o (data.requestFiesta f) data.profilImages s.clock,
            found, ?_, rfl, rfl, rfl⟩, _, _, rfl⟩
          unfold Store.addNotification
          rw [notifications_afterUnion]
          rfl
        case isFalse silent =>
          rw [if_neg silent] at left
          exact left.symm
      case isFalse stops =>
        rw [if_neg stops] at left
        exact left.symm

/-! ## All or nothing -/

/-- The request is stored entirely. -/
structure RequestStored (s t : Store) (u : UserId) (f : FiestaId) (o : Option UserId) :
    Prop where
  entry : newEntry u o ∈ t.entries f
  duo : ¬ t.DuoWaits f o
  requested : f ∈ t.requestedBy u
  host : HostTold s t u f

/-- A request that gets to its end has its entry there: the update that nobody waits for does
not fail, or had nothing to add. One that stops has written nothing that was not there. -/
def Store.StoresWhole (s : Store) (fails : JoinOp → Bool) (u : UserId) (f : FiestaId)
    (o : Option UserId) : Prop :=
  s.Asks fails u →
    if s.Removes fails f ∧ s.GetsToUnion fails f ∧ s.TellsHost fails u then
      fails .union = false ∨ newEntry u o ∈ s.entries f
    else
      f ∈ s.requestedBy u ∧ (s.Removes fails f → ¬ s.DuoWaits f o ∧
        (s.GetsToUnion fails f → fails .union = true ∨ newEntry u o ∈ s.entries f))

instance (s : Store) (fails : JoinOp → Bool) (u : UserId) (f : FiestaId) (o : Option UserId) :
    Decidable (s.StoresWhole fails u f o) :=
  inferInstanceAs (Decidable (_ → _))

/-- A host who is told has one notification more. -/
theorem HostTold.changed {t : Store} (told : HostTold s t u f) :
    t.notifications ≠ s.notifications := by
  obtain ⟨fiesta, n, -, added, -⟩ := told
  intro same
  have next := congrFun (added.symm.trans same) fiesta.host.id
  rw [Function.update_self] at next
  exact absurd (congrArg AutoCollection.next next) (Nat.succ_ne_self _)

/-- A request that stops without a notification is as a whole only if it left nothing. -/
theorem stopped_iff {t : Store} (silent : t.notifications = s.notifications) :
    (RequestStored s t u f o ∨ t = s) ↔ t = s := by
  constructor
  · intro either
    exact either.resolve_left fun stored => stored.host.changed silent
  · exact .inr

/-- One that tells the host is stored entirely if its entry is there. -/
theorem told_iff {t : Store} (asks : s.Asks fails u) (removes : s.Removes fails f)
    (told : HostTold s t u f) {host : UserId} {n : Notification}
    (left : t = ((s.askedFor u f o).afterUnion fails f (newEntry u o)).addNotification host n) :
    (RequestStored s t u f o ∨ t = s) ↔ fails .union = false ∨ newEntry u o ∈ s.entries f := by
  have still : ((s.askedFor u f o).fiesta f).isSome := by
    simpa [Store.askedFor] using removes.2
  have listed : ∀ e, e ∈ t.entries f ↔
      (e ∈ s.entries f ∧ ∀ d ∈ o, e ≠ ⟨d, none, .waiting⟩) ∨
        fails .union = false ∧ e = newEntry u o := by
    intro e
    rw [left, entries_addNotification, mem_entries_afterUnion still, mem_entries_askedFor removes.2]
  constructor
  · intro either
    rcases either with stored | same
    · have entry := (listed _).mp stored.entry
      rcases entry with old | new
      · exact .inr old.1
      · exact .inl new.1
    · exact absurd (congrArg Store.notifications same) told.changed
  · intro either
    left
    refine ⟨?_, ?_, ?_, told⟩
    · rw [listed]
      rcases either with added | old
      · exact .inr ⟨added, rfl⟩
      · exact .inl ⟨old, fun d duo => newEntry_ne duo⟩
    · intro waits
      obtain ⟨d, duo, waiting⟩ := waits
      rcases (listed _).mp waiting with old | new
      · exact old.2 d duo rfl
      · exact newEntry_ne duo new.2.symm
    · have requested : f ∈ (s.askedFor u f o).requestedBy u := requestedBy_askedFor asks.2
      rw [left]
      change f ∈ ((s.askedFor u f o).afterUnion fails f (newEntry u o)).requestedBy u
      rwa [requestedBy_afterUnion]

/-- **A request is stored entirely or not at all exactly when it gets to its end and its
entry is there then, or stops before it has changed anything.** -/
theorem acceptFiesta_whole_iff (s : Store) (fails : JoinOp → Bool) (u : UserId) (f : FiestaId)
    (o : Option UserId) :
    let t := ((FiestaController.acceptFiestaWith fails u f o).exec s).2
    (RequestStored s t u f o ∨ t = s) ↔ s.StoresWhole fails u f o := by
  intro t
  unfold Store.StoresWhole
  by_cases asks : s.Asks fails u
  · by_cases removes : s.Removes fails f
    · have called := acceptFiestaWith_called (o := o) (t := t) asks removes rfl
      split at called
      case isTrue gets =>
        split at called
        case isTrue tells =>
          obtain ⟨told, host, n, left⟩ := called
          rw [told_iff asks removes told left]
          simp [asks, removes, gets, tells]
        case isFalse silent =>
          have quiet : t.notifications = s.notifications := by
            rw [called, notifications_afterUnion]
            rfl
          rw [stopped_iff quiet, called, afterUnion_eq_self asks.2 removes.2]
          simp [asks, removes, gets, silent, and_assoc]
      case isFalse stops =>
        have quiet : t.notifications = s.notifications := by
          rw [called]
          rfl
        rw [stopped_iff quiet, called, askedFor_eq_self asks.2 removes.2]
        simp [asks, removes, stops]
    · have half : t = _ := acceptFiestaWith_half asks removes
      have quiet : t.notifications = s.notifications := by
        rw [half]
        rfl
      rw [stopped_iff quiet, half, requested_eq_self asks.2]
      simp [asks, removes]
  · have unsent : t = s := acceptFiestaWith_unsent asks
    simp [asks, unsent]

end Outcomes

/-! ## A host without a document -/

/-- `b` waits for a duo in a fiesta of `h`, who has no document. -/
def fiestaWithoutHost : Store :=
  { Store.ofUsers ⟨[("a", guest "a"), ("b", guest "b")], by decide⟩ with
    fiestas := ⟨[("f", { oneFiesta with participants := [⟨"b", none, .waiting⟩] })], by decide⟩ }

/-- The request notes the fiesta with `a` and takes out the entry of `b`, and stops. -/
theorem requestWithoutHost_half :
    let t := ((FiestaController.acceptFiestaWith (fun _ => false) "a" "f" (some "b")).exec
      fiestaWithoutHost).2
    ("f" ∈ t.requestedBy "a" ∧ t.entries "f" = []) ∧
      ¬ (RequestStored fiestaWithoutHost t "a" "f" (some "b") ∨ t = fiestaWithoutHost) := by
  refine ⟨by decide, fun either => ?_⟩
  rcases either with stored | same
  · exact absurd stored.entry (by decide)
  · exact absurd (congrArg (fun s : Store => s.entries "f") same) (by decide)

end TwoGather
