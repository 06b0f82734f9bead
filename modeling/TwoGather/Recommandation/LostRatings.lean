import Mathlib.Algebra.BigOperators.Group.Finset.Basic
import Mathlib.Data.Fintype.Card
import Mathlib.Tactic.Linarith
import Mathlib.Tactic.NormNum
import Mathlib.Tactic.Ring
import TwoGather.Lib.Copies
import TwoGather.Lib.Pool
import TwoGather.Lib.Runs
import TwoGather.Recommandation.Controller

/-!
# Ratings that get lost

Any number of calls that rate one user or one fiesta, in any interleaving of their reads and
writes. A call overwrites the fields with what it makes of its copy, so the ratings written
since its read are lost, and a fiesta with a list of tags cannot be read at all. Both aside,
the number of notes, their sum and their mean are exact (`ratings_kept_iff`).
-/

namespace TwoGather

open Docs Requests Copies

variable {ι : Type}

/-- What the ratings should be after calls with these notes. -/
structure SumLaw [Fintype ι] (before : Ratings) (notes : ι → Rat) (after : Ratings) : Prop where
  count : after.count = before.count + Fintype.card ι
  total : after.total = before.total + ∑ i, notes i
  averaged : after.Averaged

/-- Without calls the law says that the stored mean is right. -/
theorem sumLaw_of_isEmpty [Fintype ι] [IsEmpty ι] {before : Ratings} {notes : ι → Rat} :
    SumLaw before notes before ↔ before.Averaged := by
  refine ⟨SumLaw.averaged, fun averaged => ⟨?_, ?_, averaged⟩⟩
  · rw [Fintype.card_eq_zero, Nat.cast_zero, add_zero]
  · rw [Finset.univ_eq_empty, Finset.sum_empty, add_zero]

/-- One call for each note. -/
def Rated.calls (x : Rated) (s : Store) (notes : ι → Rat) : Pool ι Store Err Unit where
  store := s
  thread i := x.note (notes i)

/-- The pool of calls, the stored ratings with the copies that calls have read, and the calls
that have written. -/
structure RatingScene (ι : Type) where
  pool : Pool ι Store Err Unit
  cell : Cell ι Ratings
  rated : Finset ι

variable [DecidableEq ι]

namespace RatingScene

/-- Nobody has read the document yet. -/
def start (x : Rated) (s : Store) (before : Ratings) (notes : ι → Rat) : RatingScene ι where
  pool := x.calls s notes
  cell := .start before
  rated := ∅

/-- The next request of a call: its read, then its write. -/
def step (notes : ι → Rat) (t : RatingScene ι) (i : ι) : RatingScene ι :=
  if i ∈ t.rated then { t with pool := t.pool.move i }
  else
    match t.cell.held i with
    | none => { t with pool := t.pool.move i, cell := t.cell.step (.copy i) }
    | some _ =>
        { pool := t.pool.move i
          cell := t.cell.step (.overwrite i (·.add (notes i)))
          rated := insert i t.rated }

/-- If the call writes next, no rating was written since its read. -/
def UpToDate (t : RatingScene ι) (i : ι) : Prop :=
  i ∈ t.rated ∨ ∀ pair ∈ t.cell.held i, pair.2 = t.cell.writes

instance (t : RatingScene ι) (i : ι) : Decidable (t.UpToDate i) :=
  inferInstanceAs (Decidable (_ ∨ _))

theorem pool_step (notes : ι → Rat) (t : RatingScene ι) (i : ι) :
    (t.step notes i).pool = t.pool.move i := by
  unfold step
  split
  · rfl
  · split
    · rfl
    · rfl

theorem pool_run (notes : ι → Rat) (t : RatingScene ι) (schedule : List ι) :
    (run (step notes) t schedule).pool = t.pool.play schedule := by
  induction schedule generalizing t with
  | nil => rfl
  | cons i schedule ih =>
      rw [run_cons, ih, pool_step]
      rfl

end RatingScene

/-- What holds at every moment, if the calls can read the document. -/
structure RatingInvariant (x : Rated) (before : Ratings) (notes : ι → Rat) (t : RatingScene ι) :
    Prop where
  stored : x.docData t.pool.store = some t.cell.value
  waiting : ∀ i, t.cell.held i = none → i ∉ t.rated ∧ t.pool.thread i = x.note (notes i)
  reading : ∀ i copy w, t.cell.held i = some (copy, w) → i ∉ t.rated →
    t.pool.thread i = x.write (copy.add (notes i))
  finished : ∀ i ∈ t.rated, t.pool.thread i = pure ()
  counted : t.cell.Counted Ratings.count before.count
  writes : t.cell.writes = t.rated.card
  total : t.cell.serial.total = before.total + ∑ i ∈ t.rated, notes i
  averaged : t.rated.Nonempty → t.cell.value.Averaged

section Steps

variable {x : Rated} {s : Store} {before : Ratings} {notes : ι → Rat} {t : RatingScene ι} {i : ι}

omit [DecidableEq ι] in
theorem RatingInvariant.start (read : x.docData s = some before) :
    RatingInvariant x before notes (.start x s before notes) where
  stored := read
  waiting _ _ := ⟨Finset.notMem_empty _, rfl⟩
  reading _ _ _ held := by cases held
  finished _ rated := absurd rated (Finset.notMem_empty _)
  counted := Cell.counted_start _ _
  writes := rfl
  total := by
    change before.total = before.total + ∑ i ∈ ∅, notes i
    rw [Finset.sum_empty, add_zero]
  averaged rated := absurd rated Finset.not_nonempty_empty

/-- A call reads the document. -/
theorem RatingInvariant.read (invariant : RatingInvariant x before notes t)
    (held : t.cell.held i = none) :
    RatingInvariant x before notes
      { t with pool := t.pool.move i, cell := t.cell.step (.copy i) } := by
  obtain ⟨notRated, thread⟩ := invariant.waiting i held
  have request := thread.trans (x.note_eq (notes i))
  have store : (t.pool.move i).store = t.pool.store := Pool.store_move request
  have rest : (t.pool.move i).thread i = x.write (t.cell.value.add (notes i)) := by
    rw [Pool.thread_move_self request, invariant.stored]
    rfl
  exact {
    stored := by
      change x.docData (t.pool.move i).store = _
      rw [store]
      exact invariant.stored
    waiting := by
      intro j (unread : (t.cell.step (.copy i)).held j = none)
      by_cases same : j = i
      · rw [same, Cell.held_copy_self] at unread
        cases unread
      · rw [Cell.held_copy_of_ne same] at unread
        rw [Pool.thread_move_of_ne _ same]
        exact invariant.waiting j unread
    reading := by
      intro j copy w (read : (t.cell.step (.copy i)).held j = some (copy, w)) free
      by_cases same : j = i
      · rw [same, Cell.held_copy_self] at read
        cases read
        rw [same]
        exact rest
      · rw [Cell.held_copy_of_ne same] at read
        rw [Pool.thread_move_of_ne _ same]
        exact invariant.reading j copy w read free
    finished := by
      intro j rated
      rw [Pool.thread_move_of_ne _ (ne_of_mem_of_not_mem rated notRated)]
      exact invariant.finished j rated
    counted := invariant.counted.step (e := .copy i) trivial
    writes := invariant.writes
    total := invariant.total
    averaged := invariant.averaged }

/-- A call writes what it makes of its copy. -/
theorem RatingInvariant.write (invariant : RatingInvariant x before notes t)
    (notRated : i ∉ t.rated) {copy : Ratings} {w : Nat} (held : t.cell.held i = some (copy, w)) :
    RatingInvariant x before notes
      { pool := t.pool.move i
        cell := t.cell.step (.overwrite i (·.add (notes i)))
        rated := insert i t.rated } := by
  have request := invariant.reading i copy w held notRated
  have stored : x.docData (t.pool.move i).store = some (copy.add (notes i)) := by
    rw [Pool.store_move request, Rated.docData_put, invariant.stored]
    rfl
  have counted := invariant.counted.step (e := .overwrite i (·.add (notes i))) fun _ => rfl
  have cell := Cell.step_overwrite held (·.add (notes i))
  exact {
    stored := by
      change x.docData (t.pool.move i).store = some (t.cell.step _).value
      rw [stored, cell]
    waiting := by
      intro j (unread : (t.cell.step _).held j = none)
      by_cases same : j = i
      · rw [same, Cell.held_overwrite_self held] at unread
        cases unread
      · rw [Cell.held_overwrite_of_ne same] at unread
        obtain ⟨free, thread⟩ := invariant.waiting j unread
        rw [Pool.thread_move_of_ne _ same, Finset.mem_insert]
        exact ⟨not_or.mpr ⟨same, free⟩, thread⟩
    reading := by
      intro j copy w (read : (t.cell.step _).held j = some (copy, w)) free
      obtain ⟨same, free⟩ := not_or.mp (mt Finset.mem_insert.mpr free)
      rw [Cell.held_overwrite_of_ne same] at read
      rw [Pool.thread_move_of_ne _ same]
      exact invariant.reading j copy w read free
    finished := by
      intro j rated
      by_cases same : j = i
      · rw [same]
        exact Pool.thread_move_self request
      · rw [Pool.thread_move_of_ne _ same]
        exact invariant.finished j (Finset.mem_of_mem_insert_of_ne rated same)
    counted
    writes := by
      change (t.cell.step _).writes = _
      rw [cell, Finset.card_insert_of_notMem notRated, invariant.writes]
    total := by
      change (t.cell.step _).serial.total = _
      rw [cell, Finset.sum_insert notRated]
      dsimp only
      rw [Ratings.total_add, invariant.total]
      ring
    averaged := by
      intro _
      change (t.cell.step _).value.Averaged
      rw [cell]
      exact Ratings.averaged_add copy (notes i) }

theorem RatingInvariant.step (invariant : RatingInvariant x before notes t) (i : ι) :
    RatingInvariant x before notes (t.step notes i) := by
  unfold RatingScene.step
  split
  case isTrue rated =>
    have still : t.pool.move i = t.pool := Pool.move_done (invariant.finished i rated)
    rw [still]
    exact invariant
  case isFalse notRated =>
    split
    case h_1 unread => exact invariant.read unread
    case h_2 pair held => exact invariant.write notRated held

/-- The count stays exact exactly when it was and the call is up to date. -/
theorem RatingInvariant.count_step (invariant : RatingInvariant x before notes t) (i : ι) :
    (t.step notes i).cell.value.count = before.count + (t.step notes i).cell.writes ↔
      t.cell.value.count = before.count + t.cell.writes ∧ t.UpToDate i := by
  unfold RatingScene.step RatingScene.UpToDate
  split
  case isTrue rated => exact (and_iff_left (.inl rated)).symm
  case isFalse notRated =>
    split
    case h_1 unread =>
      refine (and_iff_left (.inr fun pair held => ?_)).symm
      rw [unread] at held
      cases held
    case h_2 pair held =>
      rw [or_iff_right notRated]
      exact invariant.counted.count_step (e := .overwrite i (·.add (notes i))) fun _ => rfl

/-- Up-to-date calls have the effect that they have one after the other. -/
theorem RatingInvariant.serial_step (invariant : RatingInvariant x before notes t)
    (agree : t.cell.value = t.cell.serial) (current : t.UpToDate i) :
    (t.step notes i).cell.value = (t.step notes i).cell.serial := by
  unfold RatingScene.step
  split
  case isTrue => exact agree
  case isFalse notRated =>
    split
    case h_1 => exact agree
    case h_2 pair held =>
      have fresh : t.cell.Fresh (.overwrite i (·.add (notes i))) := current.resolve_left notRated
      exact (Cell.serial_step agree _).mpr (invariant.counted.faithful fresh)

/-- A document that cannot be read stays as it is. -/
theorem unreadable_play (unreadable : x.docData s = none) (notes : ι → Rat) (schedule : List ι) :
    ((x.calls s notes).play schedule).store = s := by
  refine (Pool.play_invariant (P := fun pool => pool.store = s ∧
    ∀ i, pool.thread i = x.note (notes i) ∨ pool.thread i = pure ()) ?_ ⟨rfl, fun _ => .inl rfl⟩
    schedule).1
  intro pool i holds
  obtain ⟨rfl, threads⟩ := holds
  rcases threads i with waiting | finished
  · have request := waiting.trans (x.note_eq (notes i))
    refine ⟨Pool.store_move request, fun j => ?_⟩
    by_cases same : j = i
    · subst same
      rw [Pool.thread_move_self request, unreadable]
      exact .inr rfl
    · rw [Pool.thread_move_of_ne _ same]
      exact threads j
  · rw [Pool.move_done finished]
    exact ⟨rfl, threads⟩

end Steps

section Runs

variable {x : Rated} {s : Store} {before : Ratings} {notes : ι → Rat} {schedule : List ι}

/-- What holds after a whole schedule. -/
theorem RatingInvariant.run (read : x.docData s = some before) (schedule : List ι) :
    RatingInvariant x before notes
      (run (RatingScene.step notes) (.start x s before notes) schedule) :=
  all_reached (V := fun _ _ => True) (fun _ i invariant _ => invariant.step i) (.start read)
    (.trivial _ _) _ (.run _ schedule)

/-- The count is exact at the end exactly when every call is up to date. -/
theorem count_run_iff (read : x.docData s = some before) :
    (run (RatingScene.step notes) (.start x s before notes) schedule).cell.value.count =
        before.count +
          (run (RatingScene.step notes) (.start x s before notes) schedule).cell.writes ↔
      Along (RatingScene.step notes) RatingScene.UpToDate (.start x s before notes) schedule := by
  refine run_iff_along (I := RatingInvariant x before notes)
    (P := fun t => t.cell.value.count = before.count + t.cell.writes) (V := fun _ _ => True)
    (fun _ i invariant _ => invariant.step i) (fun t i invariant _ exact => ?_)
    (fun t i invariant _ inexact => ?_) (.start read) ?_ (.trivial _ _)
  · exact (invariant.count_step i).trans (and_iff_right exact)
  · exact fun total => inexact ((invariant.count_step i).mp total).1
  · change before.count = before.count + (0 : Nat)
    rw [Nat.cast_zero, add_zero]

theorem serial_run (read : x.docData s = some before)
    (current : Along (RatingScene.step notes) RatingScene.UpToDate (.start x s before notes)
      schedule) :
    (run (RatingScene.step notes) (.start x s before notes) schedule).cell.value =
      (run (RatingScene.step notes) (.start x s before notes) schedule).cell.serial :=
  (all_reached (P := fun t => RatingInvariant x before notes t ∧ t.cell.value = t.cell.serial)
    (fun _ i holds current => ⟨holds.1.step i, holds.1.serial_step holds.2 current⟩)
    ⟨.start read, rfl⟩ current _ (.run _ schedule)).2

variable [Fintype ι]

/-- When all calls have finished, all have written. -/
theorem RatingInvariant.rated_eq {t : RatingScene ι} (invariant : RatingInvariant x before notes t)
    (complete : ∀ i, ∃ outcome, t.pool.Finished i outcome) : t.rated = Finset.univ := by
  refine Finset.eq_univ_iff_forall.mpr fun i => ?_
  by_contra notRated
  obtain ⟨outcome, finished⟩ := complete i
  cases held : t.cell.held i with
  | none =>
      have waiting := (invariant.waiting i held).2
      rw [Rated.note_eq, finished] at waiting
      cases waiting
  | some pair =>
      have reading := invariant.reading i pair.1 pair.2 held notRated
      rw [finished] at reading
      cases reading

/-- **In every interleaving of any number of calls, the number, the sum and the mean of the
notes are exact at the end exactly when the document can be read and no rating was written
between the read and the write of another call.** Without calls, the stored mean must be right
already. -/
theorem ratings_kept_iff (found : x.ratings s = some before)
    (complete : ∀ i, ∃ outcome, ((x.calls s notes).play schedule).Finished i outcome) :
    (∃ after, x.ratings ((x.calls s notes).play schedule).store = some after ∧
        SumLaw before notes after) ↔
      (IsEmpty ι ∧ before.Averaged) ∨
        Nonempty ι ∧ (x.docData s).isSome ∧
          Along (RatingScene.step notes) RatingScene.UpToDate (.start x s before notes)
            schedule := by
  rcases isEmpty_or_nonempty ι with empty | nonempty
  · have untouched : ((x.calls s notes).play schedule).store = s := by
      cases schedule with
      | nil => rfl
      | cons i _ => exact empty.elim i
    rw [untouched, found, or_iff_left fun both => not_isEmpty_iff.mpr both.1 empty]
    simp only [Option.some.injEq, exists_eq_left', sumLaw_of_isEmpty, empty, true_and]
  rw [or_iff_right fun both => not_isEmpty_iff.mpr nonempty both.1, and_iff_right nonempty]
  cases read : x.docData s with
  | none =>
      rw [unreadable_play read, found]
      refine iff_of_false (fun exact => ?_) fun both => absurd both.1 Bool.false_ne_true
      obtain ⟨after, here, law⟩ := exact
      obtain rfl := Option.some.inj here
      have none : (Fintype.card ι : Rat) = 0 := by linarith [law.count]
      exact absurd (Nat.cast_eq_zero.mp none) Fintype.card_ne_zero
  | some docData =>
      obtain rfl : before = docData := by
        rw [Rated.ratings_of_docData read] at found
        exact (Option.some.inj found).symm
      have invariant : RatingInvariant x before notes _ := .run read schedule
      have pool := RatingScene.pool_run notes (.start x s before notes) schedule
      have stored := Rated.ratings_of_docData invariant.stored
      rw [pool] at stored
      have rated := invariant.rated_eq fun i => by
        rw [pool]
        exact complete i
      have writes := invariant.writes
      rw [rated, Finset.card_univ] at writes
      rw [and_iff_right Option.isSome_some, ← count_run_iff read, writes]
      constructor
      · intro exact
        obtain ⟨after, here, law⟩ := exact
        obtain rfl := Option.some.inj (here.symm.trans stored)
        exact law.count
      · intro count
        have current := (count_run_iff read).mp (by rw [writes]; exact count)
        have total := invariant.total
        rw [← serial_run read current, rated] at total
        refine ⟨_, stored, count, total, invariant.averaged ?_⟩
        rw [rated]
        exact Finset.univ_nonempty

end Runs

/-! ## Two ratings at once, and a fiesta with tags -/

/-- A user that nobody has rated yet, and a fiesta as the form creates it. -/
def unrated : Store :=
  { Store.ofUsers ⟨[("a", {})], by decide⟩ with
    fiestas :=
      ⟨[("f",
          { title := .value "", host := { id := "a" }, hostRef := "a", endAt := .epoch,
            isEnd := .value false, visibleAfter := .undefined, participants := [],
            tags := .value [] })], by decide⟩ }

def fourAndFive : Fin 2 → Rat
  | 0 => 4
  | 1 => 5

/-- The second of two calls that read the same ratings overwrites the first, and a fiesta with
tags is never rated. -/
theorem rating_lost :
    ((∀ i, ((Rated.user "a").calls unrated fourAndFive |>.play [0, 1, 0, 1]).Finished i (.ok ())) ∧
        ¬ ∃ after, (Rated.user "a").ratings
            ((Rated.user "a").calls unrated fourAndFive |>.play [0, 1, 0, 1]).store = some after ∧
          SumLaw {} fourAndFive after) ∧
      (∀ i, ((Rated.fiesta "f").calls unrated fourAndFive |>.play [0, 0, 1, 1]).Finished i
          (.ok ())) ∧
        ¬ ∃ after, (Rated.fiesta "f").ratings
            ((Rated.fiesta "f").calls unrated fourAndFive |>.play [0, 0, 1, 1]).store = some after ∧
          SumLaw {} fourAndFive after := by
  refine ⟨⟨fun i => ?_, fun exact => ?_⟩, fun i => ?_, fun exact => ?_⟩
  · obtain rfl | rfl : i = 0 ∨ i = 1 := by omega
    · rfl
    · rfl
  · obtain ⟨after, here, law⟩ := exact
    obtain rfl := Option.some.inj here
    have count : (0 + 1 : Rat) = 0 + (Fintype.card (Fin 2) : Nat) := law.count
    rw [Fintype.card_fin] at count
    norm_num at count
  · obtain rfl | rfl : i = 0 ∨ i = 1 := by omega
    · rfl
    · rfl
  · obtain ⟨after, here, law⟩ := exact
    obtain rfl := Option.some.inj here
    have count : (0 : Rat) = 0 + (Fintype.card (Fin 2) : Nat) := law.count
    rw [Fintype.card_fin] at count
    norm_num at count

/-- One after the other, both ratings count. -/
theorem oneByOne_rated :
    ∃ after, (Rated.user "a").ratings
        ((Rated.user "a").calls unrated fourAndFive |>.play [0, 0, 1, 1]).store = some after ∧
      SumLaw {} fourAndFive after := by
  refine (ratings_kept_iff rfl fun i => ⟨.ok (), ?_⟩).mpr (.inr ⟨⟨0⟩, rfl, by decide⟩)
  obtain rfl | rfl : i = 0 ∨ i = 1 := by omega
  · rfl
  · rfl

end TwoGather
