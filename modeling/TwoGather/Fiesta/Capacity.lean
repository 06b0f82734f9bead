import TwoGather.Fiesta.Membership
import TwoGather.Lib.Entries
import TwoGather.Lib.Pool

/-!
# How many people a fiesta has

The field `numberOfParticipant` of a fiesta is shown, and no function looks at it. An
acceptance is a removal and a union, each blind to the list it finds, so what keeps a fiesta
within its number is that every accepted entry finds room at the moment of its own write
(`capacity_iff`), in any interleaving.
-/

namespace TwoGather

open Docs Requests

/-! ## Persons -/

/-- The persons of an entry. -/
def Participant.size (e : Participant) : Nat :=
  if e.duoRef.isSome then 2 else 1

/-- The persons that an entry brings to the fiesta. -/
def Participant.seats (e : Participant) : Nat :=
  if e.status = .accepted then e.size else 0

/-- The persons in the accepted entries. -/
def Fiesta.persons (f : Fiesta) : Nat :=
  Entries.total Participant.seats f.participants

/-- The fiesta has no more persons than its number says. -/
def Store.WithinCapacity (s : Store) (f : FiestaId) : Prop :=
  ∀ fiesta ∈ s.fiesta f, ∀ n ∈ fiesta.numberOfParticipant.get?, fiesta.persons ≤ n

instance (s : Store) (f : FiestaId) : Decidable (s.WithinCapacity f) :=
  inferInstanceAs (Decidable (∀ fiesta ∈ s.fiesta f, _))

/-! ## The kinds of requests -/

/-- The request brings nobody to the fiesta. -/
def Calm (f : FiestaId) (act : Store → Store) : Prop :=
  ∀ s, ∀ after ∈ (act s).fiesta f, ∃ before ∈ s.fiesta f,
    after.numberOfParticipant = before.numberOfParticipant ∧ after.persons ≤ before.persons

/-- The request brings nobody, or adds one entry. -/
def Seating (f : FiestaId) (act : Store → Store) : Prop :=
  Calm f act ∨ ∃ e : Participant, e.status = .accepted ∧ act = (·.updateFiesta f (·.union e))

section Kinds

variable {f g : FiestaId} {e : Participant} {fiesta : Fiesta}

theorem persons_union :
    (fiesta.union e).persons = fiesta.persons + if e ∈ fiesta.participants then 0 else e.seats :=
  Entries.total_arrayUnion fiesta.participants e

theorem persons_remove_le : (fiesta.remove e).persons ≤ fiesta.persons :=
  Entries.total_arrayRemove fiesta.participants e

theorem Calm.within {act : Store → Store} (calm : Calm f act) {s : Store}
    (within : s.WithinCapacity f) : (act s).WithinCapacity f := by
  intro after found n number
  rcases calm s after found with ⟨before, foundBefore, same, fewer⟩
  rw [same] at number
  exact Nat.le_trans fewer (within before foundBefore n number)

/-- A request that leaves the fiestas alone. -/
theorem calm_of_fiesta_eq {act : Store → Store} (same : ∀ s, (act s).fiesta f = s.fiesta f) :
    Calm f act := by
  intro s after found
  rw [same s] at found
  exact ⟨after, found, rfl, Nat.le_refl _⟩

/-- An update of a fiesta that brings nobody. -/
theorem calm_updateFiesta {h : Fiesta → Fiesta}
    (number : ∀ d, (h d).numberOfParticipant = d.numberOfParticipant)
    (fewer : ∀ d, (h d).persons ≤ d.persons) : Calm f (·.updateFiesta g h) := by
  intro s after found
  rw [Option.mem_def, Store.fiesta_updateFiesta] at found
  split at found
  · rcases Option.map_eq_some_iff.mp found with ⟨before, foundBefore, rfl⟩
    exact ⟨before, foundBefore, number before, fewer before⟩
  · exact ⟨after, found, rfl, Nat.le_refl _⟩

theorem seating_remove : Seating f (·.updateFiesta g (·.remove e)) :=
  .inl (calm_updateFiesta (fun _ => rfl) fun _ => persons_remove_le)

theorem seating_union : Seating f (·.updateFiesta g (·.union e)) := by
  by_cases accepted : e.status = .accepted
  · by_cases same : g = f
    · subst same
      exact .inr ⟨e, accepted, rfl⟩
    · left
      apply calm_of_fiesta_eq
      intro s
      rw [Store.fiesta_updateFiesta, if_neg (Ne.symm same)]
  · left
    apply calm_updateFiesta
    · intro _
      rfl
    · intro d
      rw [persons_union, Participant.seats, if_neg accepted]
      simp

theorem seating_read : Seating f id := .inl (calm_of_fiesta_eq fun _ => rfl)

theorem seating_updateUser {u : UserId} {h : User → User} : Seating f (·.updateUser u h) :=
  .inl (calm_of_fiesta_eq fun _ => rfl)

theorem seating_addNotification {u : UserId} {n : Timestamp → Notification} :
    Seating f fun s => s.addNotification u (n s.clock) :=
  .inl (calm_of_fiesta_eq fun _ => rfl)

theorem seating_deleteFiesta : Seating f (·.deleteFiesta g) := by
  left
  intro s after found
  rw [Option.mem_def, Store.fiesta_deleteFiesta] at found
  split at found
  · cases found
  · exact ⟨after, found, rfl, Nat.le_refl _⟩

end Kinds

/-! ## The calls make such requests only -/

theorem FiestaAct.seating {new : FiestaId → Participant → Prop} {f : FiestaId}
    {act : Store → Store} (kind : FiestaAct new act) : Seating f act := by
  cases kind with
  | read => exact seating_read
  | updateUser u g => exact seating_updateUser
  | addNotification u n => exact seating_addNotification
  | remove g e => exact seating_remove
  | union g e _ => exact seating_union
  | deleteFiesta g => exact seating_deleteFiesta
  | deleteCreatedFiesta u key => exact .inl (calm_of_fiesta_eq fun _ => rfl)

theorem FiestaCall.seating (call : FiestaCall) {f : FiestaId} :
    call.program.Makes (Seating f) :=
  call.acts.mono fun _ => FiestaAct.seating

/-! ## Interleavings -/

variable {ι : Type} [DecidableEq ι]

/-- Each client makes one call. -/
def FiestaCall.pool (s : Store) (calls : ι → FiestaCall) : Pool ι Store Err Unit where
  store := s
  thread i := (calls i).program

/-- If the next request of the client adds an accepted entry to `f`, there is room for it. -/
def RoomFor (f : FiestaId) (pool : Pool ι Store Err Unit) (i : ι) : Prop :=
  ∀ e next, pool.thread i = .step (·.updateFiesta f (·.union e)) next → e.status = .accepted →
    ∀ fiesta ∈ pool.store.fiesta f, e ∉ fiesta.participants →
      ∀ n ∈ fiesta.numberOfParticipant.get?, fiesta.persons + e.size ≤ n

section Room

variable {f : FiestaId} {pool : Pool ι Store Err Unit}

/-- A union keeps a fiesta within its number exactly when there is room. -/
theorem within_union_iff {s : Store} (within : s.WithinCapacity f) {e : Participant}
    (accepted : e.status = .accepted) :
    (s.updateFiesta f (·.union e)).WithinCapacity f ↔
      ∀ fiesta ∈ s.fiesta f, e ∉ fiesta.participants →
        ∀ n ∈ fiesta.numberOfParticipant.get?, fiesta.persons + e.size ≤ n := by
  unfold Store.WithinCapacity at within ⊢
  rw [Store.fiesta_updateFiesta, if_pos rfl]
  cases found : s.fiesta f with
  | none => simp
  | some fiesta =>
      simp only [Option.map_some, Option.mem_def, Option.some.injEq, forall_eq']
      have number : (fiesta.union e).numberOfParticipant = fiesta.numberOfParticipant := rfl
      rw [persons_union, Participant.seats, if_pos accepted, number]
      by_cases present : e ∈ fiesta.participants
      · simpa [present] using within fiesta found
      · simp [present]

/-- From a fiesta within its number, a move leads to such a fiesta exactly when there is room. -/
theorem within_move_iff (within : pool.store.WithinCapacity f)
    (seating : ∀ i, (pool.thread i).Makes (Seating f)) (i : ι) :
    (pool.move i).store.WithinCapacity f ↔ RoomFor f pool i := by
  have request := seating i
  cases left : pool.thread i with
  | done outcome =>
      rw [Pool.move_done left]
      refine ⟨fun _ e next step => ?_, fun _ => within⟩
      rw [left] at step
      cases step
  | step act next =>
      rw [left] at request
      rw [Pool.store_move left]
      rcases request.1 with calm | ⟨e, accepted, rfl⟩
      · refine ⟨fun _ e next' step accepted => ?_, fun _ => calm.within within⟩
        rw [left] at step
        cases step
        exact (within_union_iff within accepted).mp (calm.within within)
      · constructor
        · intro after e' next' step accepted'
          rw [left] at step
          injection step with same
          rw [same] at after
          exact (within_union_iff within accepted').mp after
        · intro room
          exact (within_union_iff within accepted).mpr (room e next left accepted)

/-- **In any interleaving of calls from a fiesta within its number of participants, it stays
within the number exactly when each accepted entry finds room at the moment of its write.** -/
theorem capacity_iff {s : Store} (start : s.WithinCapacity f) (calls : ι → FiestaCall)
    (schedule : List ι) :
    (∀ pool, Reached Pool.move (FiestaCall.pool s calls) schedule pool →
        pool.store.WithinCapacity f) ↔
      Along Pool.move (RoomFor f) (FiestaCall.pool s calls) schedule := by
  have seating : ∀ i, ((FiestaCall.pool s calls).thread i).Makes (Seating f) :=
    fun i => (calls i).seating
  have each : Along Pool.move (fun pool i => (pool.move i).store.WithinCapacity f)
        (FiestaCall.pool s calls) schedule ↔
      Along Pool.move (RoomFor f) (FiestaCall.pool s calls) schedule :=
    along_iff_along
      (P := fun pool : Pool ι Store Err Unit =>
        pool.store.WithinCapacity f ∧ ∀ i, (pool.thread i).Makes (Seating f))
      (fun _ i good after => ⟨after, fun j => Pool.makes_move (good.2 j) i⟩)
      (fun _ i good => within_move_iff good.1 good.2 i) ⟨start, seating⟩
  rw [all_reached_iff (P := fun pool : Pool ι Store Err Unit => pool.store.WithinCapacity f), each]
  exact and_iff_right start

end Room

/-! ## Two pairs for a fiesta of two -/

def smallFiesta : Store :=
  { Store.ofUsers ⟨[("h", {}), ("a", { profilImages := .value [] }), ("b", {}),
      ("c", { profilImages := .value [] }), ("d", {})], by decide⟩ with
    fiestas := ⟨[("f", { emptyFiesta with numberOfParticipant := .value 2 })], by decide⟩ }

/-- Two pairs ask, and the host accepts both. -/
def twoPairs : Fin 4 → FiestaCall
  | 0 => .join "a" "f" "a" (some "b") .pending
  | 1 => .join "c" "f" "c" (some "d") .pending
  | 2 => .acceptInApp "f" "a" "b"
  | 3 => .acceptInApp "f" "c" "d"

/-- One call after the other. -/
def inTurn : List (Fin 4) :=
  [0, 0, 0, 0, 0, 1, 1, 1, 1, 1, 2, 2, 2, 2, 3, 3, 3, 3]

/-- Four persons are then accepted for a fiesta of two. -/
theorem twoPairs_too_many :
    smallFiesta.WithinCapacity "f" ∧
      ∃ pool, Reached Pool.move (FiestaCall.pool smallFiesta twoPairs) inTurn pool ∧
        ¬ pool.store.WithinCapacity "f" :=
  ⟨by decide, _, .run _ _, by decide⟩

/-- One of the two acceptances finds no room. -/
theorem twoPairs_no_room :
    smallFiesta.WithinCapacity "f" ∧
      ¬ Along Pool.move (RoomFor "f") (FiestaCall.pool smallFiesta twoPairs) inTurn := by
  refine ⟨by decide, fun room => ?_⟩
  have within := (capacity_iff (by decide) twoPairs inTurn).mpr room _ (.run _ _)
  exact absurd within (by decide)

end TwoGather
