import TwoGather.LockDuo.SalonLock

/-!
# When the salon and the users agree

The invariant behind `salon_lock_agrees` has two parts. `Shape` is about programs: every call
stands where the number of its requests says, and the two users keep their profiles and their
salon. `Sound` is about the locks: what an acceptance that is writing has written still stands, no
end of a lock is writing at the same time, and otherwise the salon and the users agree.
-/

namespace TwoGather

open Docs Requests Program

namespace LockScene

variable {ι : Type} (scene : LockScene ι)

/-! ## Where the calls stand -/

/-- What is left of a call. -/
structure Stands (r : LockRun ι) (i : ι) : Prop where
  accept : (scene.calls i).Accepts scene.u scene.v →
    (r.pool.thread i).Script (·.Ready scene.u scene.v scene.salonId) Silent
      ((scene.acceptScript i).drop (r.made i))
  stop : (scene.calls i).Stops scene.u scene.v →
    (r.pool.thread i).Script (·.Ready scene.u scene.v scene.salonId) Silent
      ((scene.stopScript i).drop (r.made i))
  ask : (scene.calls i).Asks scene.u scene.v →
    (r.pool.thread i).Within (·.Ready scene.u scene.v scene.salonId) (TwoGather.Asks scene.salonId)
  refuse : (scene.calls i).Refuses scene.u scene.v →
    (r.pool.thread i).Within (·.Ready scene.u scene.v scene.salonId) Silent
  other : ¬ (scene.calls i).About scene.u scene.v →
    (r.pool.thread i).Within (·.Ready scene.u scene.v scene.salonId)
      (Apart scene.u scene.v scene.salonId)

structure Shape (r : LockRun ι) : Prop where
  ready : r.pool.store.Ready scene.u scene.v scene.salonId
  stands : ∀ i, scene.Stands r i

/-- At the start every call stands before its first request. -/
theorem start_shape {s : Store} (ready : s.Ready scene.u scene.v scene.salonId) :
    scene.Shape (scene.start s) where
  ready := ready
  stands _ :=
    { accept := scene.accept_script
      stop := scene.stop_script
      ask := scene.ask_within
      refuse := scene.refuse_within
      other := fun others => (scene.other_makes others).within }

/-! ## The kinds of calls -/

section Kinds

variable {u v : UserId}

/-- A call accepts, ends, asks for or refuses a lock of the two, or is not about them. -/
theorem call_kinds (call : LockCall) : call.Accepts u v ∨ call.Stops u v ∨ call.Asks u v ∨
    call.Refuses u v ∨ ¬ call.About u v := by
  by_cases two : call.About u v
  · cases call with
    | request userId friendId salonId => exact .inr (.inr (.inl two))
    | stop userId friendId salonId => exact .inr (.inl two)
    | answer userId friendId notifId accepted =>
        cases accepted with
        | true => exact .inl ⟨rfl, two⟩
        | false => exact .inr (.inr (.inr (.inl ⟨rfl, two⟩)))
    | answerInChat userId otherId salonId key accepted =>
        cases accepted with
        | true => exact .inl ⟨rfl, two⟩
        | false => exact .inr (.inr (.inr (.inl ⟨rfl, two⟩)))
  · exact .inr (.inr (.inr (.inr two)))

/-- An acceptance names the two. -/
theorem ofTwo_of_accepts {call : LockCall} (accepts : call.Accepts u v) :
    OfTwo call.first call.second u v := by
  cases call with
  | request userId friendId salonId => cases accepts
  | stop userId friendId salonId => cases accepts
  | answer userId friendId notifId accepted => exact accepts.2
  | answerInChat userId otherId salonId key accepted => exact accepts.2.swap

/-- The end of a lock names the two. -/
theorem ofTwo_of_stops {call : LockCall} (stops : call.Stops u v) :
    OfTwo call.first call.second u v := by
  cases call with
  | request userId friendId salonId => cases stops
  | stop userId friendId salonId => exact stops
  | answer userId friendId notifId accepted => cases stops
  | answerInChat userId otherId salonId key accepted => cases stops

/-- A call that ends the lock does not accept it. -/
theorem not_accepts_of_stops {call : LockCall} (stops : call.Stops u v) :
    ¬ call.Accepts u v := by
  intro accepts
  cases call with
  | request userId friendId salonId => cases stops
  | stop userId friendId salonId => cases accepts
  | answer userId friendId notifId accepted => cases stops
  | answerInChat userId otherId salonId key accepted => cases stops

/-- An acceptance is about the two. -/
theorem about_of_accepts {call : LockCall} (accepts : call.Accepts u v) : call.About u v := by
  cases call with
  | request userId friendId salonId => cases accepts
  | stop userId friendId salonId => cases accepts
  | answer userId friendId notifId accepted => exact accepts.2
  | answerInChat userId otherId salonId key accepted => exact accepts.2

/-- The end of the lock is about the two. -/
theorem about_of_stops {call : LockCall} (stops : call.Stops u v) : call.About u v := by
  cases call with
  | request userId friendId salonId => cases stops
  | stop userId friendId salonId => exact stops
  | answer userId friendId notifId accepted => cases stops
  | answerInChat userId otherId salonId key accepted => cases stops

/-- A refusal does not end the lock. -/
theorem not_stops_of_refuses {call : LockCall} (refuses : call.Refuses u v) :
    ¬ call.Stops u v := by
  intro stops
  cases call with
  | request userId friendId salonId => cases stops
  | stop userId friendId salonId => cases refuses
  | answer userId friendId notifId accepted => cases stops
  | answerInChat userId otherId salonId key accepted => cases stops

/-- A refusal is no acceptance. -/
theorem not_accepts_of_refuses {call : LockCall} (refuses : call.Refuses u v) :
    ¬ call.Accepts u v := by
  intro accepts
  cases call with
  | request userId friendId salonId => cases accepts
  | stop userId friendId salonId => cases accepts
  | answer userId friendId notifId accepted =>
      rcases refuses with ⟨rfl, -⟩
      cases accepts.1
  | answerInChat userId otherId salonId key accepted =>
      rcases refuses with ⟨rfl, -⟩
      cases accepts.1

end Kinds

/-! ## The last request -/

/-- The last request stays open if its mark leaves it open. -/
theorem lastOpen_map {f : SentRequest ι → SentRequest ι} {r r' : LockRun ι}
    (sent : r'.sent = r.sent.map f)
    (kept : ∀ q ∈ r.sent.getLast?, q.answered = false → (f q).answered = false)
    (lastOpen : LastOpen r) : LastOpen r' := by
  rcases lastOpen with ⟨q, last, unanswered⟩
  refine ⟨f q, ?_, kept q last unanswered⟩
  rw [sent, List.getLast?_map, Option.mem_def.mp last]
  rfl

/-! ## What a move does -/

section Move

variable [DecidableEq ι] {scene} {r : LockRun ι} {i : ι}

/-- The request of an acceptance that has made so many. -/
theorem accept_effect (shape : scene.Shape r) (accepts : (scene.calls i).Accepts scene.u scene.v) :
    ∃ act, (r.pool.move i).store = act r.pool.store ∧
      (r.made i = (scene.calls i).lead scene.salonId ∧
          Locks (scene.calls i).first (scene.calls i).second act ∨
        r.made i = (scene.calls i).lead scene.salonId + 1 ∧
          Locks (scene.calls i).second (scene.calls i).first act ∨
        r.made i = (scene.calls i).lead scene.salonId + 3 ∧
          SetsLock scene.salonId .locked act ∨
        (r.made i < (scene.calls i).lead scene.salonId ∨
          r.made i = (scene.calls i).lead scene.salonId + 2 ∨
            (scene.calls i).lead scene.salonId + 3 < r.made i) ∧ Silent act) := by
  have script := (shape.stands i).accept accepts
  rcases Pool.script_drop_move silent_id script shape.ready with ⟨act, kind, effect, -⟩
  refine ⟨act, effect, ?_⟩
  unfold acceptScript at kind
  rcases Nat.lt_or_ge (r.made i) ((scene.calls i).lead scene.salonId) with before | after
  · rw [drop_replicate_of_lt _ _ _ before] at kind
    exact .inr (.inr (.inr ⟨.inl before, kind⟩))
  · rcases Nat.exists_eq_add_of_le after with ⟨m, made⟩
    rw [made, drop_replicate_add] at kind
    rcases m with _ | _ | _ | _ | m
    · exact .inl ⟨made, kind⟩
    · exact .inr (.inl ⟨made, kind⟩)
    · exact .inr (.inr (.inr ⟨.inr (.inl made), kind⟩))
    · exact .inr (.inr (.inl ⟨made, kind⟩))
    · refine .inr (.inr (.inr ⟨.inr (.inr (by omega)), ?_⟩))
      simpa using kind

/-- The request of the end of a lock that has made so many. -/
theorem stop_effect (shape : scene.Shape r) (stops : (scene.calls i).Stops scene.u scene.v) :
    ∃ act, (r.pool.move i).store = act r.pool.store ∧
      (r.made i = (scene.calls i).lead scene.salonId ∧ Unlocks (scene.calls i).first act ∨
        r.made i = (scene.calls i).lead scene.salonId + 1 ∧
          Unlocks (scene.calls i).second act ∨
        r.made i = (scene.calls i).lead scene.salonId + 2 ∧
          SetsLock scene.salonId .notYet act ∨
        (r.made i < (scene.calls i).lead scene.salonId ∨
            (scene.calls i).lead scene.salonId + 2 < r.made i) ∧ Silent act) := by
  have script := (shape.stands i).stop stops
  rcases Pool.script_drop_move silent_id script shape.ready with ⟨act, kind, effect, -⟩
  refine ⟨act, effect, ?_⟩
  unfold stopScript at kind
  rcases Nat.lt_or_ge (r.made i) ((scene.calls i).lead scene.salonId) with before | after
  · rw [drop_replicate_of_lt _ _ _ before] at kind
    exact .inr (.inr (.inr ⟨.inl before, kind⟩))
  · rcases Nat.exists_eq_add_of_le after with ⟨m, made⟩
    rw [made, drop_replicate_add] at kind
    rcases m with _ | _ | _ | m
    · exact .inl ⟨made, kind⟩
    · exact .inr (.inl ⟨made, kind⟩)
    · exact .inr (.inr (.inl ⟨made, kind⟩))
    · refine .inr (.inr (.inr ⟨.inr (by omega), ?_⟩))
      simpa using kind

/-- A lock leaves the profiles and the salon in place. -/
theorem ready_locks {a b u v : UserId} {id : SalonId} {act : Store → Store} {s : Store}
    (locks : Locks a b act) (pair : PairId u v id) (ready : s.Ready u v id) :
    (act s).Ready u v id := by
  rcases locks with ⟨duo, -, rfl⟩
  exact ready_updateUser (g := (·.lock duo)) ready pair (fun _ => ⟨rfl, rfl, rfl⟩) a

/-- So does the end of a lock. -/
theorem ready_unlocks {a u v : UserId} {id : SalonId} {act : Store → Store} {s : Store}
    (unlocks : Unlocks a act) (pair : PairId u v id) (ready : s.Ready u v id) :
    (act s).Ready u v id := by
  rw [unlocks]
  exact ready_updateUser (g := (·.unlock)) ready pair (fun _ => ⟨rfl, rfl, rfl⟩) a

/-- So does a new state of the salon. -/
theorem ready_setsLock {u v : UserId} {id : SalonId} {lock : LockState} {act : Store → Store}
    {s : Store} (sets : SetsLock id lock act) (pair : PairId u v id)
    (ready : s.Ready u v id) : (act s).Ready u v id := by
  rw [sets]
  exact ready_updateSalon ready pair id _

/-- Whatever a call does, the two users keep their profiles and their salon. -/
theorem ready_move (shape : scene.Shape r) (i : ι) :
    (r.pool.move i).store.Ready scene.u scene.v scene.salonId := by
  have pair := scene.pair
  have ready := shape.ready
  rcases call_kinds (u := scene.u) (v := scene.v) (scene.calls i) with
    accepts | stops | asks | refuses | others
  · rcases accept_effect shape accepts with ⟨act, effect, kind⟩
    rw [effect]
    rcases kind with ⟨-, locks⟩ | ⟨-, locks⟩ | ⟨-, sets⟩ | ⟨-, silent⟩
    · exact ready_locks locks pair ready
    · exact ready_locks locks pair ready
    · exact ready_setsLock sets pair ready
    · exact silent.ready pair ready
  · rcases stop_effect shape stops with ⟨act, effect, kind⟩
    rw [effect]
    rcases kind with ⟨-, unlocks⟩ | ⟨-, unlocks⟩ | ⟨-, sets⟩ | ⟨-, silent⟩
    · exact ready_unlocks unlocks pair ready
    · exact ready_unlocks unlocks pair ready
    · exact ready_setsLock sets pair ready
    · exact silent.ready pair ready
  · rcases Pool.within_move (.inl silent_id) ((shape.stands i).ask asks) ready with
      ⟨act, kind, effect, -⟩
    rw [effect]
    rcases kind with silent | ⟨key, rfl⟩
    · exact silent.ready pair ready
    · exact ready_updateSalon ready pair _ _
  · rcases Pool.within_move silent_id ((shape.stands i).refuse refuses) ready with
      ⟨act, silent, effect, -⟩
    rw [effect]
    exact silent.ready pair ready
  · rcases Pool.within_move (silent_id.apart pair) ((shape.stands i).other others) ready with
      ⟨act, apart, effect, -⟩
    rw [effect]
    exact apart.ready _ ready

/-- After a move every call stands where its script says. -/
theorem stands_move (shape : scene.Shape r) (i j : ι) : scene.Stands (scene.move r i) j := by
  have ready := shape.ready
  have stands := shape.stands j
  by_cases same : j = i
  · subst same
    have made : (scene.move r j).made j = r.made j + 1 := Function.update_self ..
    refine ⟨fun accepts => ?_, fun stops => ?_, fun asks => ?_, fun refuses => ?_,
      fun others => ?_⟩
    · rcases Pool.script_drop_move silent_id (stands.accept accepts) ready with ⟨-, -, -, later⟩
      rw [made]
      exact later
    · rcases Pool.script_drop_move silent_id (stands.stop stops) ready with ⟨-, -, -, later⟩
      rw [made]
      exact later
    · rcases Pool.within_move (.inl silent_id) (stands.ask asks) ready with ⟨-, -, -, later⟩
      exact later
    · rcases Pool.within_move silent_id (stands.refuse refuses) ready with ⟨-, -, -, later⟩
      exact later
    · rcases Pool.within_move (silent_id.apart scene.pair) (stands.other others) ready with
        ⟨-, -, -, later⟩
      exact later
  · have made : (scene.move r i).made j = r.made j := Function.update_of_ne same ..
    have thread : (scene.move r i).pool.thread j = r.pool.thread j :=
      Pool.thread_move_of_ne r.pool same
    refine ⟨?_, ?_, ?_, ?_, ?_⟩
    · rw [made, thread]
      exact stands.accept
    · rw [made, thread]
      exact stands.stop
    · rw [thread]
      exact stands.ask
    · rw [thread]
      exact stands.refuse
    · rw [thread]
      exact stands.other

/-- Each move keeps every call on its script. -/
theorem shape_move (shape : scene.Shape r) (i : ι) : scene.Shape (scene.move r i) where
  ready := ready_move shape i
  stands := stands_move shape i

/-- What a call says that makes no request. -/
theorem sent_move {call : LockCall} (is : scene.calls i = call)
    (noRequest : ∀ userId friendId salonId, call ≠ .request userId friendId salonId) :
    (scene.move r i).sent =
      if r.made i = 0 then
        r.sent.map fun q => if scene.Answers q call then { q with answered := true } else q
      else r.sent := by
  change scene.tell r i _ = _
  unfold tell
  rw [is]
  cases call with
  | request userId friendId salonId => exact absurd rfl (noRequest userId friendId salonId)
  | stop userId friendId salonId => rfl
  | answer userId friendId notifId accepted => rfl
  | answerInChat userId otherId salonId key accepted => rfl

/-- A call that answers no request, or has begun before, leaves the last request as it is. -/
theorem lastOpen_move (noRequest : ∀ userId friendId salonId,
      scene.calls i ≠ .request userId friendId salonId)
    (silent : r.made i = 0 → ∀ q ∈ r.sent.getLast?, ¬ scene.Answers q (scene.calls i))
    (lastOpen : LastOpen r) : LastOpen (scene.move r i) := by
  have sent := sent_move (r := r) rfl noRequest
  split at sent
  case isTrue begins =>
    apply lastOpen_map sent _ lastOpen
    intro q last unanswered
    rw [if_neg (silent begins q last)]
    exact unanswered
  case isFalse =>
    unfold LastOpen
    rwa [sent]

/-- The end of a lock answers no request. -/
theorem lastOpen_move_stop (stops : (scene.calls i).Stops scene.u scene.v)
    (lastOpen : LastOpen r) : LastOpen (scene.move r i) := by
  apply lastOpen_move _ _ lastOpen
  · intro userId friendId salonId is
    rw [is] at stops
    cases stops
  · intro _ q _ answers
    cases is : scene.calls i with
    | request userId friendId salonId =>
        rw [is] at stops
        cases stops
    | stop userId friendId salonId =>
        rw [is] at answers
        cases answers
    | answer userId friendId notifId accepted =>
        rw [is] at stops
        cases stops
    | answerInChat userId otherId salonId key accepted =>
        rw [is] at stops
        cases stops

/-- A request does not answer any other. -/
theorem lastOpen_move_request {userId friendId : UserId} {salonId : Option SalonId}
    (is : scene.calls i = .request userId friendId salonId) (lastOpen : LastOpen r) :
    LastOpen (scene.move r i) := by
  have sent : (scene.move r i).sent = scene.tell r i (r.pool.move i).store := rfl
  unfold tell at sent
  rw [is] at sent
  dsimp only at sent
  split at sent
  · unfold LastOpen
    rwa [sent]
  · split at sent
    · unfold LastOpen
      rw [sent, List.getLast?_append]
      exact ⟨_, rfl, rfl⟩
    · split at sent
      · apply lastOpen_map sent _ lastOpen
        intro q _ unanswered
        split
        · exact unanswered
        · exact unanswered
      · unfold LastOpen
        rwa [sent]

end Move

/-! ## The invariant on the locks -/

/-- The call is an acceptance between the two users that has begun, and has not yet written the
salon. -/
def InProgress (r : LockRun ι) (i : ι) : Prop :=
  (scene.calls i).Accepts scene.u scene.v ∧ 0 < r.made i ∧
    r.made i ≤ (scene.calls i).lead scene.salonId + 3

structure Sound (r : LockRun ι) : Prop where
  half : ∀ i, scene.Accepting r i →
    r.pool.store.partner (scene.calls i).first = some (scene.calls i).second
  both : ∀ i, scene.Accepting r i → (scene.calls i).lead scene.salonId + 1 < r.made i →
    r.pool.store.partner (scene.calls i).second = some (scene.calls i).first
  apart : ∀ i j, scene.Accepting r i → ¬ scene.Stopping r j
  unlocked : ∀ j, scene.Stopping r j → ¬ r.pool.store.Locked scene.u scene.v
  agree : (∀ i, ¬ scene.Accepting r i) → (∀ i, ¬ scene.Stopping r i) →
    (r.pool.store.lockOf scene.salonId = .value .locked ↔
      r.pool.store.Locked scene.u scene.v)
  pending : r.pool.store.lockOf scene.salonId = .value .sended →
    LastOpen r ∨ ∃ i, scene.InProgress r i

section Sound

variable {scene} {r r' : LockRun ι}

/-- A start that agrees is sound. -/
theorem start_sound {s : Store} (agrees : scene.Agrees (scene.start s)) :
    scene.Sound (scene.start s) where
  half _ accepting := absurd accepting.2.1 (Nat.not_lt_zero _)
  both _ accepting := absurd accepting.2.1 (Nat.not_lt_zero _)
  apart _ _ accepting := absurd accepting.2.1 (Nat.not_lt_zero _)
  unlocked _ stopping := absurd stopping.2.1 (Nat.not_lt_zero _)
  agree _ _ := agrees.locked
  pending sended := .inl (agrees.sended sended)

/-- A call that is accepting is in progress. -/
theorem inProgress_of_accepting {i : ι} (accepting : scene.Accepting r i) :
    scene.InProgress r i :=
  ⟨accepting.1, Nat.lt_of_le_of_lt (Nat.zero_le _) accepting.2.1, accepting.2.2⟩

/-- An acceptance that has finished has written the salon. -/
theorem not_inProgress_of_idle (shape : scene.Shape r) (idle : Idle r) (i : ι) :
    ¬ scene.InProgress r i := by
  intro progress
  rcases progress with ⟨accepts, begun, writing⟩
  rcases idle i with fresh | ⟨outcome, finished⟩
  · rw [fresh] at begun
    cases begun
  · have script := (shape.stands i).accept accepts
    unfold acceptScript at script
    rcases Nat.lt_or_ge (r.made i) ((scene.calls i).lead scene.salonId) with before | after
    · rw [drop_replicate_of_lt _ _ _ before] at script
      exact script.ne_done outcome finished
    · rcases Nat.exists_eq_add_of_le after with ⟨m, made⟩
      rw [made, drop_replicate_add] at script
      rcases m with _ | _ | _ | _ | m
      · exact script.ne_done outcome finished
      · exact script.ne_done outcome finished
      · exact script.ne_done outcome finished
      · exact script.ne_done outcome finished
      · omega

/-- When all is quiet, no call is ending the lock. -/
theorem not_stopping_of_idle (shape : scene.Shape r) (idle : Idle r) (i : ι) :
    ¬ scene.Stopping r i := by
  intro stopping
  rcases stopping with ⟨stops, begun, writing⟩
  rcases idle i with fresh | ⟨outcome, finished⟩
  · rw [fresh] at begun
    cases begun
  · have script := (shape.stands i).stop stops
    rcases Nat.exists_eq_add_of_le (Nat.le_of_lt begun) with ⟨m, made⟩
    unfold stopScript at script
    rw [made, drop_replicate_add] at script
    rcases m with _ | _ | _ | m
    · exact script.ne_done outcome finished
    · exact script.ne_done outcome finished
    · exact script.ne_done outcome finished
    · omega

/-- A sound state agrees when all is quiet. -/
theorem Sound.agrees (sound : scene.Sound r) (shape : scene.Shape r) (idle : Idle r) :
    scene.Agrees r where
  locked := sound.agree
    (fun i accepting => not_inProgress_of_idle shape idle i (inProgress_of_accepting accepting))
    (not_stopping_of_idle shape idle)
  sended sended := by
    rcases sound.pending sended with lastOpen | ⟨i, progress⟩
    · exact lastOpen
    · exact absurd progress (not_inProgress_of_idle shape idle i)

/-- Both or none of the two users are among the two. -/
theorem partner_of_ofTwo {s t : Store} {a b u v : UserId} (two : OfTwo a b u v)
    (user : t.partner u = s.partner u) (friend : t.partner v = s.partner v) :
    t.partner a = s.partner a ∧ t.partner b = s.partner b := by
  rcases two with ⟨rfl, rfl⟩ | ⟨rfl, rfl⟩
  · exact ⟨user, friend⟩
  · exact ⟨friend, user⟩

/-- A move that changes neither the locks of the two users nor that of the salon, and takes no
call into its writing or out of it. -/
theorem Sound.still (sound : scene.Sound r)
    (user : r'.pool.store.partner scene.u = r.pool.store.partner scene.u)
    (friend : r'.pool.store.partner scene.v = r.pool.store.partner scene.v)
    (lock : r'.pool.store.lockOf scene.salonId = r.pool.store.lockOf scene.salonId)
    (accepting : ∀ i, scene.Accepting r' i ↔ scene.Accepting r i)
    (further : ∀ i, scene.Accepting r' i → (scene.calls i).lead scene.salonId + 1 < r'.made i →
      (scene.calls i).lead scene.salonId + 1 < r.made i)
    (stopping : ∀ i, scene.Stopping r' i ↔ scene.Stopping r i)
    (pending : r.pool.store.lockOf scene.salonId = .value .sended →
      LastOpen r' ∨ ∃ i, scene.InProgress r' i) : scene.Sound r' where
  half i now := by
    rw [(partner_of_ofTwo (ofTwo_of_accepts now.1) user friend).1]
    exact sound.half i ((accepting i).mp now)
  both i now after := by
    rw [(partner_of_ofTwo (ofTwo_of_accepts now.1) user friend).2]
    exact sound.both i ((accepting i).mp now) (further i now after)
  apart i j now stops := sound.apart i j ((accepting i).mp now) ((stopping j).mp stops)
  unlocked j stops locked := by
    unfold Store.Locked at locked
    rw [user, friend] at locked
    exact sound.unlocked j ((stopping j).mp stops) locked
  agree noAccept noStop := by
    unfold Store.Locked
    rw [lock, user, friend]
    exact sound.agree (fun i now => noAccept i ((accepting i).mpr now))
      fun j now => noStop j ((stopping j).mpr now)
  pending sended := by
    rw [lock] at sended
    exact pending sended

/-! ### What the writes do to the locks -/

/-- A lock names the partner of one of the two. -/
theorem partner_of_locks {s : Store} {a b u v : UserId} {id : SalonId} {act : Store → Store}
    (locks : Locks a b act) (two : OfTwo a b u v) (ready : s.Ready u v id) :
    (act s).partner = Function.update s.partner a (some b) := by
  rcases locks with ⟨duo, rfl, rfl⟩
  exact partner_lock (hasProfile_isSome (ready.profiles two).1) duo

/-- When one of the two is unlocked, they are not locked with each other. -/
theorem not_locked_of_unlocks {s : Store} {a b u v : UserId} {act : Store → Store}
    (unlocks : Unlocks a act) (two : OfTwo a b u v) : ¬ (act s).Locked u v := by
  intro locked
  rw [unlocks] at locked
  rcases locked with ⟨left, right⟩
  rw [partner_unlock, Function.update_apply] at left right
  rcases two with ⟨rfl, rfl⟩ | ⟨rfl, rfl⟩
  · rw [if_pos rfl] at left
    cases left
  · rw [if_pos rfl] at right
    cases right

/-- The salon has the state that is set. -/
theorem lockOf_of_sets {s : Store} {u v : UserId} {id : SalonId} {lock : LockState}
    {act : Store → Store} (sets : SetsLock id lock act) (ready : s.Ready u v id) :
    (act s).lockOf id = .value lock := by
  rw [sets]
  exact lockOf_updateSalon ready.salon _ fun _ => rfl

/-! ### The moves -/

variable [DecidableEq ι] {i : ι}

/-- A move counts one more request of its call. -/
theorem made_move (r : LockRun ι) (i j : ι) :
    (scene.move r i).made j = if j = i then r.made i + 1 else r.made j :=
  Function.update_apply ..

/-- Another call changes nothing about who is accepting. -/
theorem accepting_move_of_not (notAccept : ¬ (scene.calls i).Accepts scene.u scene.v) (j : ι) :
    scene.Accepting (scene.move r i) j ↔ scene.Accepting r j := by
  unfold Accepting
  rw [made_move]
  split
  case isTrue same =>
    subst same
    exact ⟨fun now => absurd now.1 notAccept, fun was => absurd was.1 notAccept⟩
  case isFalse => rfl

/-- Another call changes nothing about who is ending the lock. -/
theorem stopping_move_of_not (notStop : ¬ (scene.calls i).Stops scene.u scene.v) (j : ι) :
    scene.Stopping (scene.move r i) j ↔ scene.Stopping r j := by
  unfold Stopping
  rw [made_move]
  split
  case isTrue same =>
    subst same
    exact ⟨fun now => absurd now.1 notStop, fun was => absurd was.1 notStop⟩
  case isFalse => rfl

/-- A call that is no acceptance takes none out of its progress. -/
theorem inProgress_move_of_not (notAccept : ¬ (scene.calls i).Accepts scene.u scene.v)
    {j : ι} (progress : scene.InProgress r j) : scene.InProgress (scene.move r i) j := by
  have differ : j ≠ i := by
    intro same
    subst same
    exact notAccept progress.1
  unfold InProgress
  rw [made_move, if_neg differ]
  exact progress

/-- An acceptance of another call is no further than before. -/
theorem further_move_of_not (notAccept : ¬ (scene.calls i).Accepts scene.u scene.v) (j : ι)
    (accepting : scene.Accepting (scene.move r i) j)
    (after : (scene.calls j).lead scene.salonId + 1 < (scene.move r i).made j) :
    (scene.calls j).lead scene.salonId + 1 < r.made j := by
  have differ : j ≠ i := by
    intro same
    subst same
    exact notAccept accepting.1
  rwa [made_move, if_neg differ] at after

/-- The move of a call that is neither acceptance nor end of a lock, if it changes no lock. -/
theorem Sound.other (sound : scene.Sound r)
    (notAccept : ¬ (scene.calls i).Accepts scene.u scene.v)
    (notStop : ¬ (scene.calls i).Stops scene.u scene.v)
    (user : (r.pool.move i).store.partner scene.u = r.pool.store.partner scene.u)
    (friend : (r.pool.move i).store.partner scene.v = r.pool.store.partner scene.v)
    (lock : (r.pool.move i).store.lockOf scene.salonId = r.pool.store.lockOf scene.salonId)
    (last : r.pool.store.lockOf scene.salonId = .value .sended → LastOpen r →
      LastOpen (scene.move r i)) : scene.Sound (scene.move r i) := by
  apply sound.still user friend lock (accepting_move_of_not notAccept)
    (further_move_of_not notAccept) (stopping_move_of_not notStop)
  intro sended
  rcases sound.pending sended with lastOpen | ⟨j, progress⟩
  · exact .inl (last sended lastOpen)
  · exact .inr ⟨j, inProgress_move_of_not notAccept progress⟩

/-- Locking one of the two users with the other takes neither away from the other. -/
theorem entry_kept {u v a b c d : UserId} {m : UserId → Option UserId} (distinct : u ≠ v)
    (two : OfTwo a b u v) (two' : OfTwo c d u v) (entry : m c = some d) :
    Function.update m a (some b) c = some d := by
  rw [Function.update_apply]
  split
  case isTrue same =>
    subst same
    rcases two with ⟨rfl, rfl⟩ | ⟨rfl, rfl⟩
    · rcases two' with ⟨-, rfl⟩ | ⟨same, -⟩
      · rfl
      · exact absurd same distinct
    · rcases two' with ⟨same, -⟩ | ⟨-, rfl⟩
      · exact absurd same distinct.symm
      · rfl
  case isFalse => exact entry

/-- An acceptance locks one of the two users with the other. -/
theorem Sound.lock (sound : scene.Sound r) {a b : UserId} (two : OfTwo a b scene.u scene.v)
    (accepts : (scene.calls i).Accepts scene.u scene.v)
    (partner : (r.pool.move i).store.partner =
      Function.update r.pool.store.partner a (some b))
    (writing : scene.Accepting (scene.move r i) i) (noStop : ∀ j, ¬ scene.Stopping r j)
    (half : Function.update r.pool.store.partner a (some b) (scene.calls i).first =
      some (scene.calls i).second)
    (both : (scene.calls i).lead scene.salonId + 1 < r.made i + 1 →
      Function.update r.pool.store.partner a (some b) (scene.calls i).second =
        some (scene.calls i).first) : scene.Sound (scene.move r i) := by
  have noStop' (j : ι) : ¬ scene.Stopping (scene.move r i) j := by
    rw [stopping_move_of_not fun stops => not_accepts_of_stops stops accepts]
    exact noStop j
  have before (j : ι) (other : j ≠ i) (now : scene.Accepting (scene.move r i) j) :
      scene.Accepting r j := by
    unfold Accepting at now ⊢
    rwa [made_move, if_neg other] at now
  refine ⟨?_, ?_, fun _ j _ => noStop' j, fun j stops => absurd stops (noStop' j),
    fun noAccept => absurd writing (noAccept i), fun _ => .inr ⟨i, ?_⟩⟩
  · intro j now
    change (r.pool.move i).store.partner _ = _
    rw [partner]
    by_cases same : j = i
    · subst same
      exact half
    · exact entry_kept scene.distinct two (ofTwo_of_accepts now.1)
        (sound.half j (before j same now))
  · intro j now after
    change (r.pool.move i).store.partner _ = _
    rw [partner]
    rw [made_move] at after
    by_cases same : j = i
    · subst same
      rw [if_pos rfl] at after
      exact both after
    · rw [if_neg same] at after
      exact entry_kept scene.distinct two (ofTwo_of_accepts now.1).swap
        (sound.both j (before j same now) after)
  · exact inProgress_of_accepting writing

/-- An acceptance that has written both users sets the salon to `locked`. -/
theorem Sound.setLocked (sound : scene.Sound r)
    (made : r.made i = (scene.calls i).lead scene.salonId + 3)
    (accepts : (scene.calls i).Accepts scene.u scene.v)
    (partner : (r.pool.move i).store.partner = r.pool.store.partner)
    (lock : (r.pool.move i).store.lockOf scene.salonId = .value .locked) :
    scene.Sound (scene.move r i) := by
  have writing : scene.Accepting r i := by
    refine ⟨accepts, ?_, ?_⟩
    · omega
    · omega
  have locked : r.pool.store.Locked scene.u scene.v := by
    have half := sound.half i writing
    have both := sound.both i writing (by omega)
    rcases ofTwo_of_accepts accepts with ⟨first, second⟩ | ⟨first, second⟩
    · rw [first, second] at half both
      exact ⟨half, both⟩
    · rw [first, second] at half both
      exact ⟨both, half⟩
  have noStop (j : ι) : ¬ scene.Stopping (scene.move r i) j := by
    rw [stopping_move_of_not fun stops => not_accepts_of_stops stops accepts]
    exact sound.apart i j writing
  have before (j : ι) (now : scene.Accepting (scene.move r i) j) :
      scene.Accepting r j ∧ (scene.move r i).made j = r.made j := by
    unfold Accepting at now ⊢
    rw [made_move] at now ⊢
    split at now
    case isTrue same =>
      subst same
      omega
    case isFalse differ =>
      rw [if_neg differ]
      exact ⟨now, rfl⟩
  refine ⟨?_, ?_, fun _ j _ => noStop j, fun j stops => absurd stops (noStop j), ?_, ?_⟩
  · intro j now
    change (r.pool.move i).store.partner _ = _
    rw [partner]
    exact sound.half j (before j now).1
  · intro j now after
    change (r.pool.move i).store.partner _ = _
    rw [partner]
    rw [(before j now).2] at after
    exact sound.both j (before j now).1 after
  · intro _ _
    change (r.pool.move i).store.lockOf _ = _ ↔ (r.pool.move i).store.Locked _ _
    unfold Store.Locked
    rw [partner, lock]
    exact ⟨fun _ => locked, fun _ => rfl⟩
  · intro sended
    change (r.pool.move i).store.lockOf _ = _ at sended
    rw [lock] at sended
    cases sended

/-- An acceptance outside of its three writes. -/
theorem Sound.accept_silent (sound : scene.Sound r) {act : Store → Store}
    (accepts : (scene.calls i).Accepts scene.u scene.v)
    (effect : (r.pool.move i).store = act r.pool.store)
    (made : r.made i < (scene.calls i).lead scene.salonId ∨
      r.made i = (scene.calls i).lead scene.salonId + 2 ∨
        (scene.calls i).lead scene.salonId + 3 < r.made i)
    (silent : Silent act) : scene.Sound (scene.move r i) := by
  have partner : (r.pool.move i).store.partner = r.pool.store.partner := by
    rw [effect]
    exact silent.partner _
  refine sound.still (congrFun partner _) (congrFun partner _) ?_ ?_ ?_ ?_ ?_
  · change (r.pool.move i).store.lockOf _ = _
    rw [effect]
    exact silent.lockOf _ _
  · intro j
    unfold Accepting
    rw [made_move]
    split
    case isTrue same =>
      subst same
      exact and_congr_right fun _ => by omega
    case isFalse => rfl
  · intro j now after
    rcases now with ⟨-, -, bound⟩
    rw [made_move] at after bound
    split at after
    case isTrue same =>
      subst same
      rw [if_pos rfl] at bound
      omega
    case isFalse => exact after
  · exact stopping_move_of_not fun stops => not_accepts_of_stops stops accepts
  · intro sended
    rcases Nat.lt_or_ge ((scene.calls i).lead scene.salonId + 3) (r.made i) with after | before
    · -- the salon has been written: the call says nothing any more
      rcases sound.pending sended with lastOpen | ⟨j, progress⟩
      · left
        apply lastOpen_move _ (fun begins => by omega) lastOpen
        intro userId friendId salonId is
        rw [is] at accepts
        cases accepts
      · right
        have differ : j ≠ i := by
          intro same
          subst same
          have bound := progress.2.2
          omega
        refine ⟨j, progress.1, ?_⟩
        rw [made_move, if_neg differ]
        exact progress.2
    · right
      refine ⟨i, accepts, ?_⟩
      rw [made_move, if_pos rfl]
      omega

/-- An acceptance that goes on in order keeps the state sound. -/
theorem sound_accept (sound : scene.Sound r) (shape : scene.Shape r)
    (orderly : scene.Orderly r i) (accepts : (scene.calls i).Accepts scene.u scene.v) :
    scene.Sound (scene.move r i) := by
  have two := ofTwo_of_accepts accepts
  have writing {m : Nat} (made : r.made i = (scene.calls i).lead scene.salonId + m)
      (inside : m < 3) : scene.Accepting (scene.move r i) i := by
    refine ⟨accepts, ?_⟩
    rw [made_move, if_pos rfl]
    omega
  rcases accept_effect shape accepts with ⟨act, effect, kind⟩
  rcases kind with ⟨made, locks⟩ | ⟨made, locks⟩ | ⟨made, sets⟩ | ⟨made, silent⟩
  · refine sound.lock two accepts ?_ (writing (m := 0) made (by omega))
      (orderly.accept accepts made) (Function.update_self ..) fun after => by omega
    rw [effect]
    exact partner_of_locks locks two shape.ready
  · have half := sound.half i ⟨accepts, by omega, by omega⟩
    refine sound.lock two.swap accepts ?_ (writing made (by omega))
      (fun j => sound.apart i j ⟨accepts, by omega, by omega⟩)
      (entry_kept scene.distinct two.swap two half) fun _ => Function.update_self ..
    rw [effect]
    exact partner_of_locks locks two.swap shape.ready
  · refine sound.setLocked made accepts ?_ ?_
    · rw [effect, sets]
      rfl
    · rw [effect]
      exact lockOf_of_sets sets shape.ready
  · exact sound.accept_silent accepts effect made silent

/-- The end of a lock takes one of the two users away from the other. -/
theorem Sound.unlock (sound : scene.Sound r)
    (stops : (scene.calls i).Stops scene.u scene.v)
    (lock : (r.pool.move i).store.lockOf scene.salonId = r.pool.store.lockOf scene.salonId)
    (unlocked : ¬ (r.pool.move i).store.Locked scene.u scene.v)
    (noAccept : ∀ j, ¬ scene.Accepting r j)
    (writing : scene.Stopping (scene.move r i) i) : scene.Sound (scene.move r i) := by
  have notAccept := not_accepts_of_stops stops
  have noAccept' (j : ι) : ¬ scene.Accepting (scene.move r i) j := by
    rw [accepting_move_of_not notAccept]
    exact noAccept j
  refine ⟨fun j now => absurd now (noAccept' j), fun j now => absurd now (noAccept' j),
    fun j _ now => absurd now (noAccept' j), fun _ _ => unlocked,
    fun _ noStop => absurd writing (noStop i), ?_⟩
  intro sended
  change (r.pool.move i).store.lockOf _ = _ at sended
  rw [lock] at sended
  rcases sound.pending sended with lastOpen | ⟨j, progress⟩
  · exact .inl (lastOpen_move_stop stops lastOpen)
  · exact .inr ⟨j, inProgress_move_of_not notAccept progress⟩

/-- The end of a lock writes it to the salon. -/
theorem Sound.setNotYet (sound : scene.Sound r) (shape : scene.Shape r) {act : Store → Store}
    (stops : (scene.calls i).Stops scene.u scene.v)
    (effect : (r.pool.move i).store = act r.pool.store)
    (made : r.made i = (scene.calls i).lead scene.salonId + 2)
    (sets : SetsLock scene.salonId .notYet act) : scene.Sound (scene.move r i) := by
  have inside : scene.Stopping r i := ⟨stops, by omega, by omega⟩
  have notAccept := not_accepts_of_stops stops
  have lock : (r.pool.move i).store.lockOf scene.salonId = .value .notYet := by
    rw [effect]
    exact lockOf_of_sets sets shape.ready
  have partner : (r.pool.move i).store.partner = r.pool.store.partner := by
    rw [effect, sets]
    rfl
  have unlocked : ¬ (r.pool.move i).store.Locked scene.u scene.v := by
    unfold Store.Locked
    rw [partner]
    exact sound.unlocked i inside
  have noAccept (j : ι) : ¬ scene.Accepting (scene.move r i) j := by
    rw [accepting_move_of_not notAccept]
    exact fun now => sound.apart j i now inside
  refine ⟨fun j now => absurd now (noAccept j), fun j now => absurd now (noAccept j),
    fun j _ now => absurd now (noAccept j), fun _ _ => unlocked, fun _ _ => ?_, ?_⟩
  · change (r.pool.move i).store.lockOf _ = _ ↔ _
    rw [lock]
    exact ⟨fun locked => (by cases locked), fun locked => absurd locked unlocked⟩
  · intro sended
    change (r.pool.move i).store.lockOf _ = _ at sended
    rw [lock] at sended
    cases sended

/-- The end of a lock outside of its three writes. -/
theorem Sound.stop_silent (sound : scene.Sound r) {act : Store → Store}
    (stops : (scene.calls i).Stops scene.u scene.v)
    (effect : (r.pool.move i).store = act r.pool.store)
    (made : r.made i < (scene.calls i).lead scene.salonId ∨
      (scene.calls i).lead scene.salonId + 2 < r.made i)
    (silent : Silent act) : scene.Sound (scene.move r i) := by
  have notAccept := not_accepts_of_stops stops
  have partner : (r.pool.move i).store.partner = r.pool.store.partner := by
    rw [effect]
    exact silent.partner _
  refine sound.still (congrFun partner _) (congrFun partner _) ?_
    (accepting_move_of_not notAccept) (further_move_of_not notAccept) ?_ ?_
  · change (r.pool.move i).store.lockOf _ = _
    rw [effect]
    exact silent.lockOf _ _
  · intro j
    unfold Stopping
    rw [made_move]
    split
    case isTrue same =>
      subst same
      exact and_congr_right fun _ => by omega
    case isFalse => rfl
  · intro sended
    rcases sound.pending sended with lastOpen | ⟨j, progress⟩
    · exact .inl (lastOpen_move_stop stops lastOpen)
    · exact .inr ⟨j, inProgress_move_of_not notAccept progress⟩

/-- So does the end of a lock. -/
theorem sound_stop (sound : scene.Sound r) (shape : scene.Shape r)
    (orderly : scene.Orderly r i) (stops : (scene.calls i).Stops scene.u scene.v) :
    scene.Sound (scene.move r i) := by
  have two := ofTwo_of_stops stops
  have writing {m : Nat} (made : r.made i = (scene.calls i).lead scene.salonId + m)
      (inside : m < 2) : scene.Stopping (scene.move r i) i := by
    refine ⟨stops, ?_⟩
    rw [made_move, if_pos rfl]
    omega
  rcases stop_effect shape stops with ⟨act, effect, kind⟩
  rcases kind with ⟨made, unlocks⟩ | ⟨made, unlocks⟩ | ⟨made, sets⟩ | ⟨made, silent⟩
  · refine sound.unlock stops ?_ ?_ (orderly.stop stops made)
      (writing (m := 0) made (by omega))
    · rw [effect, unlocks]
      rfl
    · rw [effect]
      exact not_locked_of_unlocks unlocks two
  · have inside : scene.Stopping r i := ⟨stops, by omega, by omega⟩
    refine sound.unlock stops ?_ ?_ (fun j now => sound.apart j i now inside)
      (writing made (by omega))
    · rw [effect, unlocks]
      rfl
    · rw [effect]
      exact not_locked_of_unlocks unlocks two.swap
  · exact sound.setNotYet shape stops effect made sets
  · exact sound.stop_silent stops effect made silent

/-- The salon gets to `sended`, by a request that comes in time. -/
theorem Sound.sends (sound : scene.Sound r)
    (notAccept : ¬ (scene.calls i).Accepts scene.u scene.v)
    (notStop : ¬ (scene.calls i).Stops scene.u scene.v)
    (partner : (r.pool.move i).store.partner = r.pool.store.partner)
    (sended : (r.pool.move i).store.lockOf scene.salonId = .value .sended)
    (last : LastOpen r → LastOpen (scene.move r i))
    (found : (¬ r.pool.store.Locked scene.u scene.v ∧ LastOpen r) ∨ ∃ j, scene.Accepting r j) :
    scene.Sound (scene.move r i) := by
  have accepting := accepting_move_of_not (r := r) notAccept
  have stopping := stopping_move_of_not (r := r) notStop
  have same {a b : UserId} (two : OfTwo a b scene.u scene.v) :=
    partner_of_ofTwo two (congrFun partner scene.u) (congrFun partner scene.v)
  have still : (r.pool.move i).store.Locked scene.u scene.v ↔
      r.pool.store.Locked scene.u scene.v := by
    unfold Store.Locked
    rw [partner]
  refine ⟨?_, ?_, ?_, ?_, ?_, ?_⟩
  · intro j now
    exact (same (ofTwo_of_accepts now.1)).1.trans (sound.half j ((accepting j).mp now))
  · intro j now after
    exact (same (ofTwo_of_accepts now.1)).2.trans
      (sound.both j ((accepting j).mp now) (further_move_of_not notAccept j now after))
  · intro j k now stops
    exact sound.apart j k ((accepting j).mp now) ((stopping k).mp stops)
  · intro j stops locked
    exact sound.unlocked j ((stopping j).mp stops) (still.mp locked)
  · intro noAccept _
    change (r.pool.move i).store.lockOf _ = _ ↔ (r.pool.move i).store.Locked _ _
    rw [sended, still]
    rcases found with ⟨unlocked, -⟩ | ⟨j, writing⟩
    · exact ⟨fun locked => (by cases locked), fun locked => absurd locked unlocked⟩
    · exact absurd ((accepting j).mpr writing) (noAccept j)
  · intro _
    rcases found with ⟨-, lastOpen⟩ | ⟨j, writing⟩
    · exact .inl (last lastOpen)
    · exact .inr ⟨j, inProgress_of_accepting ((accepting j).mpr writing)⟩

/-- So does a new request. -/
theorem sound_ask (sound : scene.Sound r) (shape : scene.Shape r)
    (orderly : scene.Orderly r i) (asks : (scene.calls i).Asks scene.u scene.v) :
    scene.Sound (scene.move r i) := by
  rcases Pool.within_move (.inl silent_id) ((shape.stands i).ask asks) shape.ready with
    ⟨act, kind, effect, -⟩
  cases is : scene.calls i with
  | stop userId friendId salonId =>
      rw [is] at asks
      cases asks
  | answer userId friendId notifId accepted =>
      rw [is] at asks
      cases asks
  | answerInChat userId otherId salonId key accepted =>
      rw [is] at asks
      cases asks
  | request userId friendId salonId =>
      have notAccept : ¬ (scene.calls i).Accepts scene.u scene.v := by
        rw [is]
        exact id
      have notStop : ¬ (scene.calls i).Stops scene.u scene.v := by
        rw [is]
        exact id
      have last := lastOpen_move_request (r := r) is
      rcases kind with silent | ⟨key, demand⟩
      · have partner : (r.pool.move i).store.partner = r.pool.store.partner := by
          rw [effect]
          exact silent.partner _
        refine sound.other notAccept notStop (congrFun partner _) (congrFun partner _) ?_
          fun _ => last
        rw [effect]
        exact silent.lockOf _ _
      · have partner : (r.pool.move i).store.partner = r.pool.store.partner := by
          rw [effect, demand]
          rfl
        have sended : (r.pool.move i).store.lockOf scene.salonId = .value .sended := by
          rw [effect, demand]
          exact lockOf_updateSalon shape.ready.salon _ fun _ => rfl
        by_cases already : r.pool.store.lockOf scene.salonId = .value .sended
        · exact sound.other notAccept notStop (congrFun partner _) (congrFun partner _)
            (sended.trans already.symm) fun _ => last
        · exact sound.sends notAccept notStop partner sended last (orderly.ask already sended)

/-- So does a refusal. -/
theorem sound_refuse (sound : scene.Sound r) (shape : scene.Shape r)
    (orderly : scene.Orderly r i) (refuses : (scene.calls i).Refuses scene.u scene.v) :
    scene.Sound (scene.move r i) := by
  rcases Pool.within_move silent_id ((shape.stands i).refuse refuses) shape.ready with
    ⟨act, silent, effect, -⟩
  have partner : (r.pool.move i).store.partner = r.pool.store.partner := by
    rw [effect]
    exact silent.partner _
  refine sound.other (not_accepts_of_refuses refuses) (not_stops_of_refuses refuses)
    (congrFun partner _) (congrFun partner _) ?_ ?_
  · rw [effect]
    exact silent.lockOf _ _
  · intro sended lastOpen
    apply lastOpen_move _ _ lastOpen
    · intro userId friendId salonId is
      rw [is] at refuses
      cases refuses
    · intro begins q last answers
      exact orderly.refuse refuses begins q last answers sended

/-- A call that is not about the two users says nothing about their requests. -/
theorem lastOpen_move_other (others : ¬ (scene.calls i).About scene.u scene.v)
    (lastOpen : LastOpen r) : LastOpen (scene.move r i) := by
  cases is : scene.calls i with
  | request userId friendId salonId => exact lastOpen_move_request is lastOpen
  | stop userId friendId salonId =>
      apply lastOpen_move _ _ lastOpen
      · intro a b c same
        rw [is] at same
        cases same
      · intro _ q _ answers
        rw [is] at answers
        cases answers
  | answer userId friendId notifId accepted =>
      apply lastOpen_move _ _ lastOpen
      · intro a b c same
        rw [is] at same
        cases same
      · intro _ q _ answers
        rw [is] at answers others
        exact others answers.1
  | answerInChat userId otherId salonId key accepted =>
      apply lastOpen_move _ _ lastOpen
      · intro a b c same
        rw [is] at same
        cases same
      · intro _ q _ answers
        rw [is] at answers others
        exact others answers.1

/-- So does a call that is not about the two. -/
theorem sound_other (sound : scene.Sound r) (shape : scene.Shape r)
    (orderly : scene.Orderly r i) (others : ¬ (scene.calls i).About scene.u scene.v) :
    scene.Sound (scene.move r i) := by
  have notAccept : ¬ (scene.calls i).Accepts scene.u scene.v :=
    fun accepts => others (about_of_accepts accepts)
  have notStop : ¬ (scene.calls i).Stops scene.u scene.v :=
    fun stops => others (about_of_stops stops)
  rcases Pool.within_move (silent_id.apart scene.pair) ((shape.stands i).other others)
    shape.ready with ⟨act, apart, effect, -⟩
  have lock : (r.pool.move i).store.lockOf scene.salonId =
      r.pool.store.lockOf scene.salonId := by
    rw [effect]
    exact apart.lock _
  have noLock (locked : (r.pool.move i).store.Locked scene.u scene.v) :
      r.pool.store.Locked scene.u scene.v := by
    rw [effect] at locked
    exact apart.noLock _ locked
  by_cases same : (r.pool.move i).store.partner scene.u = r.pool.store.partner scene.u ∧
      (r.pool.move i).store.partner scene.v = r.pool.store.partner scene.v
  · exact sound.other notAccept notStop same.1 same.2 lock fun _ => lastOpen_move_other others
  · rw [not_and_or] at same
    rcases orderly.other others same with ⟨unlocked, noAccept⟩
    have noAccept' (j : ι) : ¬ scene.Accepting (scene.move r i) j := by
      rw [accepting_move_of_not notAccept]
      exact noAccept j
    have unlocked' (locked : (r.pool.move i).store.Locked scene.u scene.v) : False :=
      unlocked (noLock locked)
    refine ⟨fun j now => absurd now (noAccept' j), fun j now => absurd now (noAccept' j),
      fun j _ now => absurd now (noAccept' j), fun _ _ => unlocked', fun _ noStop => ?_, ?_⟩
    · have before := sound.agree noAccept fun j stops =>
        noStop j ((stopping_move_of_not notStop j).mpr stops)
      change (r.pool.move i).store.lockOf _ = _ ↔ (r.pool.move i).store.Locked _ _
      rw [lock, before]
      exact ⟨fun locked => absurd locked unlocked, noLock⟩
    · intro sended
      change (r.pool.move i).store.lockOf _ = _ at sended
      rw [lock] at sended
      rcases sound.pending sended with lastOpen | ⟨j, progress⟩
      · exact .inl (lastOpen_move_other others lastOpen)
      · exact .inr ⟨j, inProgress_move_of_not notAccept progress⟩

/-- So every orderly move keeps the state sound. -/
theorem sound_move (sound : scene.Sound r) (shape : scene.Shape r)
    (orderly : scene.Orderly r i) : scene.Sound (scene.move r i) := by
  rcases call_kinds (u := scene.u) (v := scene.v) (scene.calls i) with
    accepts | stops | asks | refuses | others
  · exact sound_accept sound shape orderly accepts
  · exact sound_stop sound shape orderly stops
  · exact sound_ask sound shape orderly asks
  · exact sound_refuse sound shape orderly refuses
  · exact sound_other sound shape orderly others

/-- **If every request of a schedule is orderly, the salon and the two users agree whenever no
call is in progress.** -/
theorem salon_lock_agrees {s : Store} (ready : s.Ready scene.u scene.v scene.salonId)
    (agrees : scene.Agrees (scene.start s)) {schedule : List ι}
    (orderly : Along scene.move scene.Orderly (scene.start s) schedule) :
    ∀ r, Reached scene.move (scene.start s) schedule r → Idle r → scene.Agrees r := by
  intro r reached idle
  have both : scene.Shape r ∧ scene.Sound r :=
    all_reached (P := fun r => scene.Shape r ∧ scene.Sound r)
      (fun r i holds orderly => ⟨shape_move holds.1 i, sound_move holds.2 holds.1 orderly⟩)
      ⟨start_shape scene ready, start_sound agrees⟩ orderly r reached
  exact both.2.agrees both.1 idle

end Sound

end LockScene

/-! ## A request and its answer -/

/-- Two users with a profile and a salon. -/
def salonUsers : Store :=
  { lockUsers with
    salons := ⟨[("pq", { type := .oneToOne, users := ["p", "q"] })], by decide⟩ }

theorem salonUsers_ready : salonUsers.Ready "p" "q" "pq" where
  salon := by decide
  only other pair there := by
    rcases pair with rfl | rfl
    · rfl
    · exact absurd there (by decide)
  user := by decide
  friend := by decide

/-- `p` asks `q`, and `q` answers through the notification. -/
def askAndAnswer (accepted : Bool) : LockScene Bool where
  u := "p"
  v := "q"
  distinct := by decide
  salonId := "pq"
  pair := .inl rfl
  calls asks := if asks then .request "p" "q" none else .answer "q" "p" 0 accepted
  length := rfl
  lengths := by decide +revert
  given i id handed := by
    cases i with
    | true => cases handed
    | false => cases handed

theorem askAndAnswer_start (accepted : Bool) :
    (askAndAnswer accepted).Agrees ((askAndAnswer accepted).start salonUsers) where
  locked := by decide +revert
  sended := by decide +revert

/-- The answer comes when the request has ended, and the salon gets to `locked`. -/
def oneAfterTheOther : List Bool :=
  List.replicate 7 true ++ List.replicate 9 false

theorem oneAfterTheOther_agrees :
    (∀ r, Reached (askAndAnswer true).move ((askAndAnswer true).start salonUsers)
        oneAfterTheOther r → LockScene.Idle r → (askAndAnswer true).Agrees r) ∧
      (run (askAndAnswer true).move ((askAndAnswer true).start salonUsers)
        oneAfterTheOther).pool.store.lockOf "pq" = .value .locked :=
  ⟨LockScene.salon_lock_agrees salonUsers_ready (askAndAnswer_start true) (by decide), by decide⟩

/-- A refusal leaves the salon at `sended`, and an acceptance that overtakes the rest of the
request is overwritten by it. -/
theorem askAndAnswer_disagrees :
    (∃ r, Reached (askAndAnswer false).move ((askAndAnswer false).start salonUsers)
        oneAfterTheOther r ∧ LockScene.Idle r ∧
          r.pool.store.lockOf "pq" = .value .sended ∧ ¬ LockScene.LastOpen r) ∧
      ∃ r, Reached (askAndAnswer true).move ((askAndAnswer true).start salonUsers)
        (List.replicate 4 true ++ (List.replicate 9 false ++ List.replicate 3 true)) r ∧
          LockScene.Idle r ∧ r.pool.store.lockOf "pq" = .value .sended ∧
            r.pool.store.Locked "p" "q" := by
  refine ⟨⟨_, .run _ _, ?_, by decide, by decide⟩, ⟨_, .run _ _, ?_, by decide, by decide⟩⟩
  · intro i
    cases i with
    | true => exact .inr ⟨.ok (), rfl⟩
    | false => exact .inr ⟨.ok (), rfl⟩
  · intro i
    cases i with
    | true => exact .inr ⟨.ok (), rfl⟩
    | false => exact .inr ⟨.ok (), rfl⟩

end TwoGather
