import TwoGather.Chat.Opening
import TwoGather.Lib.Pool
import TwoGather.Lib.Runs
import TwoGather.LockDuo.Controller

/-!
# One salon for two users

Four calls create the salon of two users when they find none: a lock request, its answer, the
end of a lock and the chat button. Each looks for the salon under both ids, one after the other,
and then stores a new one under the id that it prefers. Nothing holds the three requests
together.

`one_salon`: there is never a second salon, and none is replaced, if no call creates the salon
while another one has already missed it.
-/

namespace TwoGather

open Docs Requests Program FirestoreQuery

/-! ## Calls -/

/-- A call that may create the salon of the caller and another user. -/
inductive SalonCall
  | requestNewLockDuo (salonId : Option SalonId)
  | handleDuoRequest (notifId : Option Nat) (accepted : Bool)
  | stopLockDuo (salonId : Option SalonId)
  /-- The button of any of the pages. -/
  | chatButton

def SalonCall.program (me other : UserId) : SalonCall → Firestore Unit
  | requestNewLockDuo salonId => do
      let _ ← FriendController.requestNewLockDuo me other salonId
      return ()
  | handleDuoRequest notifId accepted =>
      NotificationController.handleDuoRequest me other notifId accepted
  | stopLockDuo salonId => do
      let _ ← FriendController.stopLockDuo me other salonId
      return ()
  | chatButton => do
      let _ ← TwoGather.chatButton me other
      return ()

/-- The calls of `u` on `v`, and of `v` on `u` where the flag is not set; none has begun. -/
def salonCalls {ι : Type} (s : Store) (u v : UserId) (calls : ι → Bool × SalonCall) :
    Pool ι Store Err Unit where
  store := s
  thread i := if (calls i).1 then (calls i).2.program u v else (calls i).2.program v u

/-- The id is one of the two under which the salon of the users may be stored. -/
def PairId (u v : UserId) (id : SalonId) : Prop :=
  id = u ++ v ∨ id = v ++ u

/-- The next request of the call stores a new salon under this id. -/
def Creates {ι : Type} (pool : Pool ι Store Err Unit) (i : ι) (id : SalonId) : Prop :=
  ∃ new next, pool.thread i = .step (·.setSalon id new) next

/-- There is at most one salon of the two users. -/
def Store.OneSalon (s : Store) (u v : UserId) : Prop :=
  ¬ ((s.salon (u ++ v)).isSome ∧ (s.salon (v ++ u)).isSome)

/-- A new salon takes the place of a stored one. -/
def Replaces {ι : Type} (pool : Pool ι Store Err Unit) (i : ι) : Prop :=
  ∃ id, Creates pool i id ∧ (pool.store.salon id).isSome

/-- Ids of one length are not confused with each other in a salon id. -/
theorem ids_differ {u v : UserId} (distinct : u ≠ v) (lengths : u.length = v.length) :
    u ++ v ≠ v ++ u := by
  intro same
  have lists : u.toList ++ v.toList = v.toList ++ u.toList := by
    rw [← String.toList_append, same, String.toList_append]
  have first := (List.append_inj lists (by rwa [String.length_toList, String.length_toList])).1
  exact distinct (String.toList_inj.mp first)

/-! ## Creating requests -/

/-- The request neither creates nor removes a salon. -/
def KeepsSalons (act : Store → Store) : Prop :=
  ∀ s id, ((act s).salon id).isSome = (s.salon id).isSome

/-- The request creates a salon of the two users. -/
def CreatesSalon (u v : UserId) (act : Store → Store) : Prop :=
  ∃ id, PairId u v id ∧ ∃ new, act = (·.setSalon id new)

section Acts

variable {salonId other : SalonId} {new new' : Salon}

theorem keepsSalons_id : KeepsSalons id := fun _ _ => rfl

theorem keepsSalons_updateSalon (g : Salon → Salon) : KeepsSalons (·.updateSalon salonId g) := by
  intro s other
  rw [Store.salon_updateSalon]
  split
  · rw [Option.isSome_map]
  · rfl

/-- Storing a new salon does not keep the salons: it creates one where there is none. -/
theorem not_keepsSalons_setSalon : ¬ KeepsSalons (·.setSalon salonId new) := by
  intro keeps
  have created := keeps (Store.ofUsers ⟨[], List.nodup_nil⟩) salonId
  rw [Store.salon_setSalon, if_pos rfl] at created
  cases created

/-- The id of a new salon can be told from what the request does. -/
theorem setSalon_inj
    (same : (fun s : Store => s.setSalon salonId new) = fun s => s.setSalon other new') :
    salonId = other := by
  by_contra differ
  have here := congrArg
    (fun act : Store → Store => (act (Store.ofUsers ⟨[], List.nodup_nil⟩)).salon salonId) same
  simp only [Store.salon_setSalon, if_neg differ, ↓reduceIte] at here
  cases here

end Acts

/-! ## What the calls do -/

section Calls

variable {u v me other uid1 uid2 : UserId} {salonId : SalonId} {α : Type}

/-- While there is a salon of the two users, looking for it finds one. -/
theorem existSalon_within (pair : PairId uid1 uid2 salonId) {k : Option SalonId → Firestore α}
    (found : ∀ id, (k (some id)).Makes KeepsSalons) :
    (existSalonOneToOneWithGivenUsers uid1 uid2 >>= k).Within
      (fun s => (s.salon salonId).isSome) KeepsSalons := by
  unfold existSalonOneToOneWithGivenUsers
  rw [bind_assoc]
  apply Within.read_bind keepsSalons_id
  intro s there
  cases first : s.salon (uid1 ++ uid2) with
  | some _ => exact (found _).within
  | none =>
      have second : salonId = uid2 ++ uid1 := by
        rcases pair with rfl | second
        · rw [first] at there
          cases there
        · exact second
      subst second
      apply Within.read_bind (k := fun doc2 : Option Salon =>
        (if doc2.isSome then pure (some (uid2 ++ uid1)) else pure none : Firestore _) >>= k)
        keepsSalons_id
      intro t there
      rw [if_pos there]
      exact (found _).within

/-- A call that begins by looking for the salon, and creates it at most once after that. -/
theorem salonFor_once (pair : PairId u v (me ++ other)) :
    (salonFor uid1 uid2 me other).AtMostOnce (CreatesSalon u v) KeepsSalons := by
  apply AtMostOnce.bind_right (makes_existSalon keepsSalons_id uid1 uid2)
  intro found
  cases found with
  | some id => exact .of_makes (.pure _)
  | none => exact .inl ⟨⟨_, pair, _, rfl⟩, fun _ => .pure _⟩

theorem salonFor_within (pair : PairId uid1 uid2 salonId) {k : SalonId → Firestore α}
    (rest : ∀ id, (k id).Makes KeepsSalons) :
    (salonFor uid1 uid2 me other >>= k).Within
      (fun s => (s.salon salonId).isSome) KeepsSalons := by
  unfold salonFor
  rw [bind_assoc]
  exact existSalon_within pair rest

/-- What follows the look-ups makes no salon. -/
theorem requestRest_keepsSalons (me other : UserId) (id : SalonId) :
    (requestRest me other id).Makes KeepsSalons :=
  requestRest_makes keepsSalons_id (fun _ _ _ _ => rfl) (fun _ _ _ => rfl)
    (fun _ => keepsSalons_updateSalon _) me other

theorem stopRest_keepsSalons (me other : UserId) (id : SalonId) :
    (stopRest me other id).Makes KeepsSalons :=
  stopRest_makes (fun _ _ _ _ => rfl) (keepsSalons_updateSalon _)

theorem answerRest_keepsSalons (me other : UserId) (notifId : Option Nat) (accepted : Bool)
    (id : SalonId) : (answerRest me other notifId accepted id).Makes KeepsSalons :=
  answerRest_makes (fun _ _ _ => rfl) (fun _ => acceptDuoRequest_makes keepsSalons_id
    (fun _ _ _ _ _ => rfl) (keepsSalons_updateSalon _) fun _ _ _ => rfl) notifId

/-- The three functions of the lock, and the chat button, create the salon once at most. -/
theorem SalonCall.once (call : SalonCall) (pair : ∀ id, PairId me other id → PairId u v id) :
    (call.program me other).AtMostOnce (CreatesSalon u v) KeepsSalons := by
  have mine := pair (me ++ other) (.inl rfl)
  cases call with
  | requestNewLockDuo salonId =>
      apply AtMostOnce.bind_left _ fun _ => .pure ()
      apply AtMostOnce.bind_left _ fun id => requestRest_keepsSalons me other id
      cases salonId with
      | some id => exact .of_makes (.pure id)
      | none => exact salonFor_once mine
  | handleDuoRequest notifId accepted =>
      apply AtMostOnce.bind_left (salonFor_once mine)
      exact fun id => answerRest_keepsSalons me other notifId accepted id
  | stopLockDuo salonId =>
      apply AtMostOnce.bind_left _ fun _ => .pure ()
      apply AtMostOnce.bind_left _ fun id => stopRest_keepsSalons me other id
      cases salonId with
      | some id => exact .of_makes (.pure id)
      | none => exact salonFor_once mine
  | chatButton =>
      apply AtMostOnce.bind_left _ fun _ => .pure ()
      apply AtMostOnce.bind_right (makes_existSalon keepsSalons_id me other)
      intro found
      cases found with
      | some id => exact .of_makes (.pure id)
      | none => exact .inl ⟨⟨_, pair _ (.inr rfl), _, rfl⟩, fun _ => .pure _⟩

/-- While there is a salon, a call that has not begun creates none. -/
theorem SalonCall.within (call : SalonCall) (pair : PairId me other salonId) :
    (call.program me other).Within (fun s => (s.salon salonId).isSome) KeepsSalons := by
  cases call with
  | requestNewLockDuo given =>
      apply Within.bind _ fun _ => Makes.within (.pure ())
      cases given with
      | some id => exact (requestRest_keepsSalons me other id).within
      | none => exact salonFor_within pair (requestRest_keepsSalons me other)
  | handleDuoRequest notifId accepted =>
      exact salonFor_within pair.symm (answerRest_keepsSalons me other notifId accepted)
  | stopLockDuo given =>
      apply Within.bind _ fun _ => Makes.within (.pure ())
      cases given with
      | some id => exact (stopRest_keepsSalons me other id).within
      | none => exact salonFor_within pair (stopRest_keepsSalons me other)
  | chatButton =>
      apply Within.bind _ fun _ => Makes.within (.pure ())
      exact existSalon_within pair fun id => .pure id

end Calls

/-! ## Every interleaving -/

section Pool

variable {ι : Type} {u v : UserId}

/-- No other call has missed the salon that the next request creates: each of them makes no salon
as long as this one is there. -/
def Unmissed (pool : Pool ι Store Err Unit) (i : ι) : Prop :=
  ∀ id, Creates pool i id → ∀ j, j ≠ i →
    (pool.thread j).Within (fun s => (s.salon id).isSome) KeepsSalons

/-- There is no salon yet, or one, which all calls find. -/
structure Single (u v : UserId) (pool : Pool ι Store Err Unit) : Prop where
  once : ∀ i, (pool.thread i).AtMostOnce (CreatesSalon u v) KeepsSalons
  single : (∀ id, PairId u v id → pool.store.salon id = none) ∨
    ∃ id, (∀ other, PairId u v other → ((pool.store.salon other).isSome ↔ other = id)) ∧
      (pool.store.salon id).isSome ∧
        ∀ i, (pool.thread i).Within (fun s => (s.salon id).isSome) KeepsSalons

variable {pool : Pool ι Store Err Unit}

/-- A call creates salons of the two users only. -/
theorem Single.pairId (single : Single u v pool) {i : ι} {id : SalonId}
    (creates : Creates pool i id) : PairId u v id := by
  rcases creates with ⟨new, next, program⟩
  have once := single.once i
  rw [program] at once
  rcases once with ⟨⟨other, pair, new', same⟩, -⟩ | ⟨keeps, -⟩
  · rw [setSalon_inj same]
    exact pair
  · exact absurd keeps not_keepsSalons_setSalon

theorem Single.oneSalon (single : Single u v pool) (differ : u ++ v ≠ v ++ u) :
    pool.store.OneSalon u v := by
  intro both
  rcases both with ⟨first, second⟩
  rcases single.single with nothing | ⟨id, only, -, -⟩
  · rw [nothing _ (.inl rfl)] at first
    cases first
  · have here := (only _ (.inl rfl)).mp first
    have there := (only _ (.inr rfl)).mp second
    exact differ (here.trans there.symm)

/-- Once a salon of the two users is stored, no call creates another one. -/
theorem Single.not_creates (single : Single u v pool) {salonId : SalonId}
    (pair : PairId u v salonId) (stored : (pool.store.salon salonId).isSome) (i : ι)
    (id : SalonId) : ¬ Creates pool i id := by
  intro creates
  rcases creates with ⟨new, next, program⟩
  rcases single.single with nothing | ⟨id', -, there, finds⟩
  · rw [nothing salonId pair] at stored
    cases stored
  · have within := finds i
    rw [program] at within
    exact not_keepsSalons_setSalon (within pool.store there).1

theorem Single.not_replaces (single : Single u v pool) (i : ι) : ¬ Replaces pool i := by
  intro replaces
  rcases replaces with ⟨id, creates, exist⟩
  exact single.not_creates (single.pairId creates) exist i id creates

theorem Single.start {s : Store} (nothing : ∀ id, PairId u v id → s.salon id = none)
    (calls : ι → Bool × SalonCall) : Single u v (salonCalls s u v calls) := by
  refine ⟨fun i => ?_, .inl nothing⟩
  unfold salonCalls
  dsimp only
  split
  · exact SalonCall.once _ fun _ pair => pair
  · exact SalonCall.once _ fun _ pair => pair.symm

variable [DecidableEq ι]

theorem once_move (once : ∀ i, (pool.thread i).AtMostOnce (CreatesSalon u v) KeepsSalons)
    (i j : ι) : ((pool.move j).thread i).AtMostOnce (CreatesSalon u v) KeepsSalons := by
  by_cases same : i = j
  · subst same
    have now := once i
    cases left : pool.thread i with
    | done outcome =>
        rw [Pool.move_done left]
        exact once i
    | step act next =>
        rw [left] at now
        rw [Pool.thread_move_self left]
        rcases now with ⟨-, later⟩ | ⟨-, later⟩
        · exact .of_makes (later pool.store)
        · exact later pool.store
  · rw [Pool.thread_move_of_ne pool same]
    exact once i

theorem Single.move (single : Single u v pool) {i : ι} (unmissed : Unmissed pool i) :
    Single u v (pool.move i) := by
  refine ⟨fun j => once_move single.once j i, ?_⟩
  cases left : pool.thread i with
  | done outcome =>
      rw [Pool.move_done left]
      exact single.single
  | step act next =>
      have once := single.once i
      rw [left] at once
      have store := Pool.store_move left
      have own := Pool.thread_move_self left
      rcases single.single with nothing | ⟨id, only, there, finds⟩
      · rcases once with ⟨⟨id, pair, new, rfl⟩, later⟩ | ⟨keeps, -⟩
        · -- the salon is created, and every other call will find it
          right
          refine ⟨id, ?_, ?_, ?_⟩
          · intro other pairOther
            rw [store, Store.salon_setSalon]
            split
            case isTrue same => simp [same]
            case isFalse differ => simp [nothing other pairOther, differ]
          · rw [store, Store.salon_setSalon, if_pos rfl]
            rfl
          · intro j
            by_cases same : j = i
            · subst same
              rw [own]
              exact (later pool.store).within
            · rw [Pool.thread_move_of_ne pool same]
              exact unmissed id ⟨new, next, left⟩ j same
        · left
          intro id pair
          have kept := keeps pool.store id
          rw [nothing id pair] at kept
          rw [store]
          exact Option.not_isSome_iff_eq_none.mp (by rw [kept]; simp)
      · have within := finds i
        rw [left] at within
        rcases within pool.store there with ⟨keeps, later⟩
        right
        refine ⟨id, ?_, ?_, ?_⟩
        · intro other pair
          rw [store, keeps pool.store other]
          exact only other pair
        · rw [store, keeps pool.store id]
          exact there
        · intro j
          by_cases same : j = i
          · subst same
            rw [own]
            exact later
          · rw [Pool.thread_move_of_ne pool same]
            exact finds j

theorem Single.along (single : Single u v pool) {schedule : List ι}
    (unmissed : Along Pool.move Unmissed pool schedule) :
    Along Pool.move (fun pool i => ¬ Replaces pool i) pool schedule :=
  along_of_invariant (fun _ _ single first => single.move first)
    (fun _ i single _ => single.not_replaces i) single unmissed

/-- A salon of the two users stays. -/
theorem Single.stored_move (single : Single u v pool) {salonId : SalonId}
    (pair : PairId u v salonId) (stored : (pool.store.salon salonId).isSome) (i : ι) :
    ((pool.move i).store.salon salonId).isSome := by
  cases left : pool.thread i with
  | done outcome =>
      rw [Pool.move_done left]
      exact stored
  | step act next =>
      rw [Pool.store_move left]
      rcases single.single with nothing | ⟨id, only, there, finds⟩
      · rw [nothing salonId pair] at stored
        cases stored
      · have within := finds i
        rw [left] at within
        rw [(within pool.store there).1 pool.store salonId]
        exact stored

/-- Once a salon of the two users is stored, every schedule meets the condition. -/
theorem unmissed_stored (single : Single u v pool) {salonId : SalonId}
    (pair : PairId u v salonId) (stored : (pool.store.salon salonId).isSome)
    (schedule : List ι) : Along Pool.move Unmissed pool schedule := by
  induction schedule generalizing pool with
  | nil => trivial
  | cons i schedule ih =>
      have first : Unmissed pool i :=
        fun id creates => absurd creates (single.not_creates pair stored i id)
      exact ⟨first, ih (single.move first) (single.stored_move pair stored i)⟩

/-- **If no call creates the salon of two users while another one has already missed it, there is
never a second salon of the two, and none is replaced.** -/
theorem one_salon (s : Store) {u v : UserId} (distinct : u ≠ v) (lengths : u.length = v.length)
    (nothing : ∀ id, PairId u v id → s.salon id = none) (calls : ι → Bool × SalonCall)
    (schedule : List ι)
    (unmissed : Along Pool.move Unmissed (salonCalls s u v calls) schedule) :
    (∀ pool, Reached Pool.move (salonCalls s u v calls) schedule pool →
        pool.store.OneSalon u v) ∧
      Along Pool.move (fun pool i => ¬ Replaces pool i) (salonCalls s u v calls) schedule := by
  have start := Single.start nothing calls
  have differ := ids_differ distinct lengths
  refine ⟨?_, start.along unmissed⟩
  intro pool reached
  have single := all_reached (fun _ _ single first => single.move first) start unmissed pool reached
  exact single.oneSalon differ

/-- While the other calls have not begun, the call of `i` meets the condition. -/
theorem unmissed_alone {s : Store} {calls : ι → Bool × SalonCall} (single : Single u v pool)
    {i : ι} (others : ∀ j, j ≠ i → pool.thread j = (salonCalls s u v calls).thread j) (n : Nat) :
    Along Pool.move Unmissed pool (List.replicate n i) := by
  induction n generalizing pool with
  | zero => trivial
  | succ n ih =>
      have first : Unmissed pool i := by
        intro id creates j other
        have pair := single.pairId creates
        rw [others j other]
        unfold salonCalls
        dsimp only
        split
        · exact SalonCall.within _ pair
        · exact SalonCall.within _ pair.symm
      refine ⟨first, ih (single.move first) fun j other => ?_⟩
      rw [Pool.thread_move_of_ne pool other]
      exact others j other

end Pool

/-! ## Two chat buttons at once -/

/-- `ann` and `bob` have no salon. -/
def strangersStore : Store :=
  Store.ofUsers ⟨[("ann", {}), ("bob", {})], by decide⟩

/-- Each of them opens the chat with the other. -/
def bothOpen : Pool Bool Store Err Unit :=
  salonCalls strangersStore "ann" "bob" fun ann => (ann, .chatButton)

theorem strangersStore_nothing (id : SalonId) : strangersStore.salon id = none := rfl

/-- `ann` has created the salon before `bob` looks for it. -/
def annFirst : List Bool :=
  List.replicate 3 true ++ List.replicate 2 false

/-- The one who looks for the salon afterwards finds it. -/
theorem bothOpen_first :
    ((∀ pool, Reached Pool.move bothOpen annFirst pool → pool.store.OneSalon "ann" "bob") ∧
        Along Pool.move (fun pool i => ¬ Replaces pool i) bothOpen annFirst) ∧
      (bothOpen.play annFirst).Finished true (.ok ()) ∧
      (bothOpen.play annFirst).Finished false (.ok ()) := by
  have start : Single "ann" "bob" bothOpen :=
    Single.start (fun id _ => strangersStore_nothing id) _
  have alone : Along Pool.move Unmissed bothOpen (List.replicate 3 true) :=
    unmissed_alone start (fun _ _ => rfl) 3
  have created : Single "ann" "bob" (run Pool.move bothOpen (List.replicate 3 true)) :=
    all_reached (fun _ _ single first => single.move first) start alone _ (.run _ _)
  have unmissed : Along Pool.move Unmissed bothOpen annFirst :=
    along_append.mpr ⟨alone, unmissed_stored created (.inr rfl) rfl _⟩
  exact ⟨one_salon strangersStore (by decide) (by decide) (fun id _ => strangersStore_nothing id)
    (fun ann => (ann, .chatButton)) annFirst unmissed, rfl, rfl⟩

/-- Both look for the salon before one of them has created it. -/
theorem bothOpen_two :
    ¬ (bothOpen.play [true, true, false, false, true, false]).store.OneSalon "ann" "bob" := by
  intro one
  exact one ⟨rfl, rfl⟩

end TwoGather
