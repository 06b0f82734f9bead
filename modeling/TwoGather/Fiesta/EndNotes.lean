import TwoGather.Fiesta.EndJob
import TwoGather.Lib.Runs

/-!
# Notes are asked at most once

Runs of the job that ends fiestas, each at its own time and cut off wherever an error may
stop it. A run marks a fiesta as ended before it asks the host, and finds only fiestas
that are not marked.

* `potential_le`: the questions to a host about a fiesta, and one more while the fiesta is
  not ended, never grow in number. The mark is what pays for the question.
* `notes_at_most_once`: hence at most one question about a fiesta, and runs that come
  after its end do the same with and without it.
-/

namespace TwoGather

open Docs Requests

/-! ## Runs -/

/-- A run that begins at this time and makes at most so many requests. -/
structure JobRun where
  clock : Timestamp
  requests : Nat

/-- The store after the run. -/
def JobRun.step (s : Store) (r : JobRun) : Store :=
  (Program.advance r.requests checkEndFiesta { s with clock := r.clock }).2

/-- How many of these notifications the user has, whenever they were received. -/
def Store.received (s : Store) (u : UserId) (note : Timestamp → Notification) : Nat :=
  (s.notifications u).docs.countP fun doc => doc.2 = note doc.2.receivedAt

/-! ## Only hosts are asked -/

/-- The messages to a host and to a participant are different. -/
theorem memberNotification_ne {id id' : FiestaId} {data data' : Fiesta} {a b : Timestamp} :
    memberNotification id data a ≠ hostNotification id' data' b := by
  intro same
  have message := congrArg (fun n : Notification => n.message.toList[8]?) same
  simp [memberNotification, hostNotification, noteNotification] at message

/-- Notifications are only added, and only to ask a host. -/
def AsksHosts (s t : Store) : Prop :=
  ∀ u, ∃ new, (t.notifications u).docs = (s.notifications u).docs ++ new ∧
    ∀ doc ∈ new, ∃ id data, doc.2 = hostNotification id data doc.2.receivedAt

theorem AsksHosts.refl (s : Store) : AsksHosts s s := by
  intro u
  refine ⟨[], (List.append_nil _).symm, ?_⟩
  intro doc listed
  cases listed

theorem AsksHosts.trans {s t r : Store} (first : AsksHosts s t) (second : AsksHosts t r) :
    AsksHosts s r := by
  intro u
  rcases first u with ⟨new, added, hosts⟩
  rcases second u with ⟨later, addedLater, hostsLater⟩
  refine ⟨new ++ later, by rw [addedLater, added, List.append_assoc], ?_⟩
  intro doc listed
  rcases List.mem_append.mp listed with before | after
  · exact hosts doc before
  · exact hostsLater doc after

/-- The note for the host is such a notification. -/
theorem asksHosts_addNotification (s : Store) (u : UserId) (id : FiestaId) (data : Fiesta)
    (time : Timestamp) : AsksHosts s (s.addNotification u (hostNotification id data time)) := by
  intro v
  by_cases same : v = u
  · subst same
    refine ⟨[((s.notifications v).next, hostNotification id data time)], by simp, ?_⟩
    intro doc listed
    rw [List.mem_singleton.mp listed]
    exact ⟨id, data, rfl⟩
  · simp [same]

/-- A round of the job leaves such notifications only. -/
theorem endFiesta_keeps (id : FiestaId) (data : Fiesta) : (endFiesta id data).Keeps AsksHosts := by
  apply Program.Keeps.bind (.read AsksHosts.refl _)
  intro now
  split
  · apply Program.Keeps.bind
    · apply keeps_updateFiesta
      intro s
      exact AsksHosts.refl s
    · intro _
      apply Program.Keeps.bind
      · apply keeps_addNotification
        intro s
        exact asksHosts_addNotification s _ id data _
      · intro _
        apply Program.Keeps.forEach
        intro member _
        apply (noteMember_keeps member).mono
        intro s t same
        rw [same]
        exact AsksHosts.refl s
  · exact .pure ()

/-- So does the job. -/
theorem checkEndFiesta_keeps : checkEndFiesta.Keeps AsksHosts := by
  apply Program.Keeps.bind (.read AsksHosts.refl _)
  intro fiestas
  apply Program.Keeps.forEach
  intro doc _
  exact endFiesta_keeps doc.1 doc.2

/-- So does a run of it, cut anywhere. -/
theorem JobRun.step_asksHosts (s : Store) (r : JobRun) : AsksHosts s (r.step s) := by
  have keeps : AsksHosts { s with clock := r.clock } (r.step s) :=
    checkEndFiesta_keeps.visits AsksHosts.refl AsksHosts.trans (.advance _ _ _)
  exact keeps

/-- No participant is ever asked. -/
theorem AsksHosts.received_member {s t : Store} (asks : AsksHosts s t) (u : UserId)
    (id : FiestaId) (data : Fiesta) :
    t.received u (memberNotification id data) = s.received u (memberNotification id data) := by
  rcases asks u with ⟨new, added, hosts⟩
  unfold Store.received
  rw [added, List.countP_append, Nat.add_eq_left, List.countP_eq_zero]
  intro doc listed
  rcases hosts doc listed with ⟨id', data', host⟩
  rw [decide_eq_true_eq, host]
  exact memberNotification_ne.symm

/-! ## What pays for a question -/

/-- One as long as the job may find the fiesta. -/
def Store.pending (s : Store) (e : FiestaId) : Nat :=
  if (s.fiesta e).map Fiesta.isEnd = some (.value false) then 1 else 0

/-- The questions to `u` about the fiesta, and the one that may still come. -/
def Store.potential (s : Store) (u : UserId) (e : FiestaId) (d : Fiesta) : Nat :=
  s.received u (hostNotification e d) + s.pending e

section Potential

variable {s t : Store} {u : UserId} {e id : FiestaId} {d data : Fiesta}

/-- A fiesta that is marked is not pending any more. -/
theorem pending_markEnded :
    (s.updateFiesta id (·.markEnded)).pending e = if e = id then 0 else s.pending e := by
  unfold Store.pending
  rw [Store.fiesta_updateFiesta]
  by_cases same : e = id
  · cases s.fiesta e with
    | none => simp [same]
    | some fiesta => simp [same, Fiesta.markEnded]
  · simp [same]

/-- A notification counts for the user who gets it. -/
theorem received_addNotification (v : UserId) (note : Timestamp → Notification)
    (n : Notification) :
    (s.addNotification v n).received u note =
      s.received u note + if u = v ∧ n = note n.receivedAt then 1 else 0 := by
  unfold Store.received
  rw [Store.notifications_addNotification]
  by_cases same : u = v
  · simp [same, List.countP_append, List.countP_cons]
  · simp [same]

/-- A question about another fiesta is another question. -/
theorem hostNotification_id {a b : Timestamp}
    (same : hostNotification id data a = hostNotification e d b) : id = e := by
  have metadata := congrArg (fun n : Notification => n.metadata.fiestaId) same
  exact Stored.value.inj metadata

/-- To mark a fiesta does not raise the potential. -/
theorem potential_markEnded_le :
    (s.updateFiesta id (·.markEnded)).potential u e d ≤ s.potential u e d := by
  unfold Store.potential
  rw [pending_markEnded]
  apply Nat.add_le_add_left
  split
  · exact Nat.zero_le _
  · exact Nat.le_refl _

/-- The mark on a fiesta that was not ended pays for the question to its host. -/
theorem potential_endFiesta_le (pending : s.pending id = 1) :
    (s.endFiesta id data).potential u e d ≤ s.potential u e d := by
  unfold Store.potential Store.endFiesta
  rw [received_addNotification]
  change s.received u (hostNotification e d) + _ + (s.updateFiesta id (·.markEnded)).pending e ≤ _
  rw [pending_markEnded]
  by_cases same : e = id
  · subst same
    rw [pending]
    split
    · simp
    · simp
  · rw [if_neg, if_neg same, Nat.add_zero]
    intro both
    exact same (hostNotification_id both.2).symm

/-- What the loop over the fiestas still has to do: fiestas that are not ended. -/
structure Todo (u : UserId) (e : FiestaId) (d : Fiesta) (bound : Nat)
    (todo : List (FiestaId × Fiesta)) (s : Store) : Prop where
  pending : ∀ doc ∈ todo, s.pending doc.1 = 1
  nodup : (todo.map Prod.fst).Nodup
  bounded : s.potential u e d ≤ bound

/-- One round does its part of what is to do. -/
theorem Todo.endFiesta {bound : Nat} {todo : List (FiestaId × Fiesta)}
    (holds : Todo u e d bound ((id, data) :: todo) s) :
    Todo u e d bound todo (s.endFiesta id data) where
  pending doc listed := by
    have other : doc.1 ≠ id := by
      intro same
      have listed' : id ∈ todo.map Prod.fst := List.mem_map.mpr ⟨doc, listed, same⟩
      exact (List.nodup_cons.mp holds.nodup).1 listed'
    change (s.updateFiesta id (·.markEnded)).pending doc.1 = 1
    rw [pending_markEnded, if_neg other]
    exact holds.pending doc (List.mem_cons_of_mem _ listed)
  nodup := (List.nodup_cons.mp holds.nodup).2
  bounded := by
    have pending := holds.pending (id, data) List.mem_cons_self
    exact (potential_endFiesta_le pending).trans holds.bounded

/-- The documents the query finds are not ended, and no key is found twice. -/
theorem Todo.start (s : Store) (u : UserId) (e : FiestaId) (d : Fiesta) :
    Todo u e d (s.potential u e d)
      (s.fiestas.docs.filter fun doc => doc.2.isEnd = .value false) s where
  pending doc listed := by
    rcases List.mem_filter.mp listed with ⟨stored, open'⟩
    have found : s.fiesta doc.1 = some doc.2 := Collection.mem_docs.mp stored
    unfold Store.pending
    rw [found, Option.map_some, of_decide_eq_true open']
    rfl
  nodup := s.fiestas.nodup.sublist (List.filter_sublist.map _)
  bounded := Nat.le_refl _

/-- A run of the job, finished or cut off, does not raise the number of questions. -/
theorem potential_le (visit : checkEndFiesta.Visits s t) :
    t.potential u e d ≤ s.potential u e d := by
  rcases Program.Visits.of_bind visit with reading | ⟨fiestas, _, query, visit⟩
  · rw [Program.Visits.of_read reading]
  · cases query
    apply Program.Visits.of_forEach (I := Todo u e d (s.potential u e d))
      (fun _ _ holds => holds.bounded) _ (.start s u e d) visit
    intro doc todo s' holds
    constructor
    · intro t' visit'
      rcases endFiesta_visits visit' with rfl | ⟨-, rfl | rfl⟩
      · exact holds.bounded
      · exact potential_markEnded_le.trans holds.bounded
      · exact holds.endFiesta.bounded
    · intro t' run
      rcases endFiesta_ok run with rfl | rfl
      · exact ⟨fun doc' listed => holds.pending doc' (List.mem_cons_of_mem _ listed),
          (List.nodup_cons.mp holds.nodup).2, holds.bounded⟩
      · exact holds.endFiesta

/-- A run of the job never raises the potential. -/
theorem JobRun.step_potential_le (s : Store) (r : JobRun) :
    (r.step s).potential u e d ≤ s.potential u e d := by
  have bounded : (r.step s).potential u e d ≤
      Store.potential { s with clock := r.clock } u e d :=
    potential_le (.advance _ _ _)
  exact bounded

end Potential

/-! ## A fiesta that is ended -/

/-- The fiesta is stored with these data. -/
def HasFiesta (e : FiestaId) (d : Fiesta) (s : Store) : Prop := s.fiesta e = some d

section Blind

variable {e id : FiestaId} {d data : Fiesta}

/-- A read of a user does not see whether the fiesta is there. -/
theorem blind_getUser (u : UserId) :
    (getUser u).Blind (HasFiesta e d) (·.deleteFiesta e) :=
  .read fun _ _ => rfl

theorem blind_newDate : newDate.Blind (HasFiesta e d) (·.deleteFiesta e) :=
  .read fun _ _ => rfl

/-- Nor does the update of another fiesta. -/
theorem blind_updateFiesta (other : e ≠ id) (g : Fiesta → Fiesta) :
    (updateFiesta id g).Blind (HasFiesta e d) (·.deleteFiesta e) := by
  intro s holds
  refine ⟨⟨?_, ?_, ?_⟩, ?_⟩
  · unfold HasFiesta
    rw [Store.fiesta_updateFiesta, if_neg other]
    exact holds
  · exact Store.updateFiesta_deleteFiesta s id e g
  · dsimp only
    rw [Store.fiesta_deleteFiesta, if_neg other.symm]
  · dsimp only
    split
    · exact .pure ()
    · exact .throw _

theorem blind_addNotification (u : UserId) (n : Timestamp → Notification) :
    (addNotification u n).Blind (HasFiesta e d) (·.deleteFiesta e) :=
  fun _ holds => ⟨⟨holds, rfl, rfl⟩, .pure ()⟩

/-- Nor does the note for a participant. -/
theorem blind_noteMember (member : Participant) :
    (noteMember id data member).Blind (HasFiesta e d) (·.deleteFiesta e) := by
  rw [noteMember_eq]
  split
  · apply Program.Blind.bind (blind_getUser _)
    intro fUserData
    apply Program.Blind.bind
    · cases member.duoRef with
      | none => exact .throw _
      | some v => exact .pure v
    · intro sUser
      apply Program.Blind.bind (blind_getUser _)
      intro _
      apply Program.Blind.bind
      · cases fUserData with
        | none => exact .throw _
        | some u => exact .pure u
      · intro _
        exact .throw _
  · exact .pure ()

/-- Nor does the round for another fiesta. -/
theorem blind_endFiesta (other : e ≠ id) :
    (endFiesta id data).Blind (HasFiesta e d) (·.deleteFiesta e) := by
  apply Program.Blind.bind blind_newDate
  intro now
  split
  · apply Program.Blind.bind (blind_updateFiesta other _)
    intro _
    apply Program.Blind.bind (blind_addNotification _ _)
    intro _
    apply Program.Blind.forEach
    intro member _
    exact blind_noteMember member
  · exact .pure ()

/-- The job does the same with and without a fiesta that is ended. -/
theorem blind_checkEndFiesta (ended : d.isEnd = .value true) :
    checkEndFiesta.Blind (HasFiesta e d) (·.deleteFiesta e) := by
  intro s holds
  -- the query does not find the fiesta
  have absent : ∀ doc ∈ s.fiestas.docs, doc.2.isEnd = .value false → doc.1 ≠ e := by
    intro doc listed notEnded same
    have found : s.fiesta doc.1 = some doc.2 := Collection.mem_docs.mp listed
    rw [same, holds] at found
    rw [← Option.some.inj found, ended] at notEnded
    cases notEnded
  refine ⟨⟨holds, rfl, ?_⟩, ?_⟩
  · have query : ((s.deleteFiesta e).fiestas.docs.filter fun doc => doc.2.isEnd = .value false) =
        s.fiestas.docs.filter fun doc => doc.2.isEnd = .value false := by
      unfold Store.deleteFiesta Collection.delete
      rw [List.filter_filter]
      apply List.filter_congr
      intro doc listed
      by_cases notEnded : doc.2.isEnd = .value false
      · simp [notEnded, absent doc listed notEnded]
      · simp [notEnded]
    exact congrArg (fun docs : List (FiestaId × Fiesta) =>
      Program.forEach docs fun e => endFiesta e.1 e.2) query
  · apply Program.Blind.forEach
    intro doc listed
    rcases List.mem_filter.mp listed with ⟨stored, notEnded⟩
    exact blind_endFiesta (absent doc stored (of_decide_eq_true notEnded)).symm

/-- A fiesta that has ended is left alone, as if it were not there. -/
theorem JobRun.step_ended {s : Store} (found : s.fiesta e = some d)
    (ended : d.isEnd = .value true) (r : JobRun) :
    (r.step s).fiesta e = some d ∧ r.step (s.deleteFiesta e) = (r.step s).deleteFiesta e :=
  (blind_checkEndFiesta ended).advance (s := { s with clock := r.clock }) found r.requests

end Blind

/-! ## At most once -/

/-- The entries of the fiesta that have accepted the user. -/
def Fiesta.entriesOf (f : Fiesta) (u : UserId) : List Participant :=
  f.participants.filter fun e => e.status = .accepted ∧ e.Has u

/-- From `s` to `t` notifications were only added, at most one question to the host of a
fiesta and to each user of exactly one accepted entry, and a later run does the same with
and without a fiesta that is ended in `t`. -/
structure AtMostOnce (s t : Store) : Prop where
  added : ∀ u, (s.notifications u).docs <+: (t.notifications u).docs
  host : ∀ e data, s.fiesta e = some data →
    t.received data.hostRef (hostNotification e data) ≤
      s.received data.hostRef (hostNotification e data) + 1
  member : ∀ e data u, s.fiesta e = some data → (data.entriesOf u).length = 1 →
    t.received u (memberNotification e data) ≤ s.received u (memberNotification e data) + 1
  ended : ∀ e data, t.fiesta e = some data → data.isEnd = .value true → ∀ r : JobRun,
    (r.step t).fiesta e = some data ∧ r.step (t.deleteFiesta e) = (r.step t).deleteFiesta e

/-- **Over any runs of the job, each at any time and cut off anywhere, a question about a
fiesta is asked at most once, and nothing happens because of a fiesta that is ended.** -/
theorem notes_at_most_once {s : Store} {runs : List JobRun} :
    ∀ t, Reached JobRun.step s runs t → AtMostOnce s t := by
  intro t reached
  have asks : AsksHosts s t :=
    all_reached (V := fun _ _ => True)
      (fun s' r before _ => before.trans (r.step_asksHosts s')) (.refl s) (.trivial s runs) t
      reached
  constructor
  · intro u
    rcases asks u with ⟨new, added, -⟩
    exact ⟨new, added.symm⟩
  · intro e data _
    let u := data.hostRef
    have paid : t.potential u e data ≤ s.potential u e data :=
      all_reached (P := fun t => t.potential u e data ≤ s.potential u e data)
        (V := fun _ _ => True) (fun s' r before _ => (r.step_potential_le s').trans before)
        (Nat.le_refl _) (.trivial s runs) t reached
    have once : s.pending e ≤ 1 := by
      unfold Store.pending
      split
      · exact Nat.le_refl 1
      · exact Nat.zero_le 1
    calc
      t.received u (hostNotification e data) ≤ t.potential u e data := Nat.le_add_right _ _
      _ ≤ s.received u (hostNotification e data) + s.pending e := paid
      _ ≤ s.received u (hostNotification e data) + 1 := Nat.add_le_add_left once _
  · intro e data u _ _
    rw [asks.received_member u e data]
    exact Nat.le_succ _
  · intro e data found ended r
    exact r.step_ended found ended

/-- A fiesta that ended at the epoch. -/
def overFiesta (participants : List Participant) : Fiesta where
  title := .value "F"
  host := { id := "h" }
  hostRef := "h"
  endAt := .epoch
  isEnd := .value false
  visibleAfter := .undefined
  participants

/-- Two such fiestas of a host, the first one with two participants. -/
def twoOver : Store :=
  { Store.ofUsers ⟨[("h", {}), ("a", { friends := .value [⟨.connexion, "b"⟩] }),
      ("b", { friends := .value [⟨.connexion, "a"⟩] })], by decide⟩ with
    fiestas := ⟨[("f", overFiesta [⟨"a", some "b", .accepted⟩]), ("g", overFiesta [])],
      by decide⟩
    clock := ⟨1000000, by omega, by omega⟩ }

/-- The first run stops at the participants of the first fiesta, the second run goes on. -/
def twoRuns : List JobRun :=
  [⟨⟨1000000, by omega, by omega⟩, 100⟩, ⟨⟨301000000, by omega, by omega⟩, 100⟩]

theorem twoRuns_atMostOnce :
    ((run JobRun.step twoOver twoRuns).notifications "h").docs.length = 2 ∧
      ∀ t, Reached JobRun.step twoOver twoRuns t → AtMostOnce twoOver t :=
  ⟨by decide, notes_at_most_once⟩

end TwoGather
