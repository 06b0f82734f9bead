import Mathlib.Data.Fintype.Basic
import Mathlib.Logic.Function.Basic
import TwoGather.Lib.Stages
import TwoGather.Store

/-!
# The level of a host

`create_fiesta_point.ts` counts the fiestas that a user has created. The count is an atomic
increment; the level is computed from a later read, by tests that begin with the smallest
threshold, and written if it is not the stored one. So a level above 2 is never written, and
a call that writes late may overwrite a newer level with an older one.

`level_iff`: over a run of overlapping calls the level follows the count at all moments
without a call in progress exactly when it did at the start, and at each of these moments the
count has not passed 20 and the last call has not written the level of an old count.
-/

namespace TwoGather

open Docs Requests

/-! ## `create_fiesta_point.ts` -/

def User.createFiesta (u : User) : User :=
  { u with numberCreatedFiesta := .value (Js.increment u.numberCreatedFiesta (some 1)) }

def User.setLevel (u : User) (level : Int) : User :=
  { u with level := .value (some level) }

/-- `data.numberCreatedFiesta > threshold`. -/
def exceeds (numberCreatedFiesta : Stored Js.Number) (threshold : Int) : Bool :=
  Js.Number.lt (some threshold) (Js.toNumber numberCreatedFiesta)

/-- The chain of tests, in the order of the source. -/
def levelFor (numberCreatedFiesta : Stored Js.Number) : Int :=
  if exceeds numberCreatedFiesta 10 then 2
  else if exceeds numberCreatedFiesta 20 then 3
  else if exceeds numberCreatedFiesta 30 then 4
  else if exceeds numberCreatedFiesta 40 then 5
  else 1

def createFiestaPoint (userId : UserId) : Firestore Unit := do
  updateUser userId (·.createFiesta)
  let data ← getUser userId
  let data ← member data
  let level := levelFor data.numberCreatedFiesta
  if data.level ≠ .value (some level) then
    updateUser userId (·.setLevel level)

/-! ## The level that a count should give -/

/-- The thresholds that the count has passed. -/
def thresholds (numberCreatedFiesta : Stored Js.Number) : List Int :=
  [10, 20, 30, 40].filter (exceeds numberCreatedFiesta)

/-- The stored level, where a missing one counts as 1. -/
def levelNumber : Stored Js.Number → Js.Number
  | .value level => level
  | _ => some 1

/-- The level is one more than the number of thresholds passed. -/
def User.LevelFits (u : User) : Prop :=
  levelNumber u.level = some (1 + ((thresholds u.numberCreatedFiesta).length : Int))

instance (u : User) : Decidable u.LevelFits :=
  inferInstanceAs (Decidable (_ = _))

section Counts

variable {n : Stored Js.Number} {a b : Int}

/-- A larger threshold is passed later. -/
theorem exceeds_anti (less : a ≤ b) (passed : exceeds n b = true) : exceeds n a = true := by
  unfold exceeds at passed ⊢
  cases number : Js.toNumber n with
  | none =>
      rw [number] at passed
      cases passed
  | some m =>
      rw [number, Js.Number.lt_some, decide_eq_true_iff] at passed
      rw [Js.Number.lt_some, decide_eq_true_iff]
      exact Int.lt_of_le_of_lt less passed

/-- The count keeps what it has passed. -/
theorem exceeds_increment (passed : exceeds n a = true) :
    exceeds (.value (Js.increment n (some 1))) a = true := by
  cases n with
  | undefined => cases passed
  | null =>
      have negative : a < 0 := by simpa [exceeds, Js.toNumber] using passed
      simp [exceeds, Js.increment]
      omega
  | value m =>
      cases m with
      | none => cases passed
      | some m =>
          have above : a < m := by simpa [exceeds] using passed
          simp [exceeds, Js.increment]
          omega

/-- The tests for more than the first threshold are never reached. -/
theorem levelFor_eq (n : Stored Js.Number) : levelFor n = if exceeds n 10 then 2 else 1 := by
  unfold levelFor
  cases ten : exceeds n 10 with
  | true => rfl
  | false =>
      have none (b : Int) (more : 10 ≤ b) : exceeds n b = false := by
        by_contra passed
        rw [exceeds_anti more (by simpa using passed)] at ten
        cases ten
      simp [none 20 (by decide), none 30 (by decide), none 40 (by decide)]

/-- The number of thresholds passed is 0 or 1 up to the second one. -/
theorem length_thresholds (n : Stored Js.Number) (few : exceeds n 20 = false) :
    (thresholds n).length = if exceeds n 10 then 1 else 0 := by
  have none (b : Int) (more : 20 ≤ b) : exceeds n b = false := by
    by_contra passed
    rw [exceeds_anti more (by simpa using passed)] at few
    cases few
  unfold thresholds
  cases ten : exceeds n 10 with
  | true => simp [ten, few, none 30 (by decide), none 40 (by decide)]
  | false => simp [ten, few, none 30 (by decide), none 40 (by decide)]

theorem two_le_thresholds (many : exceeds n 20 = true) : 2 ≤ (thresholds n).length := by
  unfold thresholds
  simp [exceeds_anti (show (10 : Int) ≤ 20 by decide) many, many]

/-- A level of the code is right exactly up to 20, for a count on the same side of 10. -/
theorem levelFor_fits (read now : Stored Js.Number) :
    levelFor read = 1 + ((thresholds now).length : Int) ↔
      exceeds now 20 = false ∧ (exceeds read 10 ↔ exceeds now 10) := by
  rw [levelFor_eq]
  cases many : exceeds now 20 with
  | true =>
      have two := two_le_thresholds many
      refine iff_of_false (fun same => ?_) fun both => by cases both.1
      split at same <;> omega
  | false =>
      rw [length_thresholds now many]
      cases exceeds read 10 <;> cases exceeds now 10 <;> simp

end Counts

/-! ## The stages of a call -/

/-- Where a call is: before its increment, before its read, before its write with the count
that it has read, or at its end. -/
inductive PointStage
  | starts
  | reads
  | writes (numberCreatedFiesta : Stored Js.Number)
  | ended

namespace PointStage

variable (userId : UserId)

def act : PointStage → Store → Store
  | .starts => (·.updateUser userId (·.createFiesta))
  | .writes n => (·.updateUser userId (·.setLevel (levelFor n)))
  | _ => id

def next : PointStage → Store → PointStage
  | .starts, _ => .reads
  | .reads, s =>
      match s.user userId with
      | some data =>
          if data.level ≠ .value (some (levelFor data.numberCreatedFiesta)) then
            .writes data.numberCreatedFiesta
          else .ended
      | none => .ended
  | _, _ => .ended

def machine : Stages Store PointStage := ⟨act userId, next userId⟩

/-- What is left of `createFiestaPoint`. -/
def program : PointStage → Firestore Unit
  | .starts => createFiestaPoint userId
  | .reads => do
      let data ← getUser userId
      let data ← member data
      let level := levelFor data.numberCreatedFiesta
      if data.level ≠ .value (some level) then
        updateUser userId (·.setLevel level)
  | .writes n => updateUser userId (·.setLevel (levelFor n))
  | .ended => pure ()

/-- A call goes through the stages as long as the user is there. -/
theorem runs (c : PointStage) :
    (machine userId).Runs (fun s => (s.user userId).isSome) (program userId) c := by
  cases c with
  | starts =>
      refine ⟨rfl, fun s exist => ?_⟩
      dsimp only
      rw [if_pos exist]
      rfl
  | reads =>
      refine ⟨rfl, fun s exist => ?_⟩
      obtain ⟨data, found⟩ := Option.isSome_iff_exists.mp exist
      change Program.bind (.done (.ok (s.user userId))) _ = program userId (next userId .reads s)
      simp only [next, found]
      change (if data.level ≠ .value (some (levelFor data.numberCreatedFiesta)) then _ else _) = _
      split
      · rfl
      · rfl
  | writes n =>
      refine ⟨rfl, fun s exist => ?_⟩
      dsimp only
      rw [if_pos exist]
      rfl
  | ended => exact fun s => ⟨rfl, rfl⟩

/-- What the request makes of the user. -/
def onUser : PointStage → User → User
  | .starts => User.createFiesta
  | .writes n => (·.setLevel (levelFor n))
  | _ => id

variable {userId} in
theorem user_act {s : Store} {data : User} (found : s.user userId = some data) (c : PointStage) :
    (act userId c s).user userId = some (c.onUser data) := by
  cases c with
  | starts => simp [act, onUser, found]
  | writes n => simp [act, onUser, found]
  | _ => exact found

/-- The call has begun and not ended. -/
def inProgress : PointStage → Bool
  | .reads | .writes _ => true
  | _ => false

/-- What a call must find when it moves as the last one in progress: it does not end above 20,
and does not write the level of a count on the other side of 10. -/
def EndsWell (data : User) : PointStage → Prop
  | .starts => True
  | .reads =>
      data.level = .value (some (levelFor data.numberCreatedFiesta)) →
        exceeds data.numberCreatedFiesta 20 = false
  | .writes n =>
      exceeds data.numberCreatedFiesta 20 = false ∧
        (exceeds n 10 ↔ exceeds data.numberCreatedFiesta 10)
  | .ended => exceeds data.numberCreatedFiesta 20 = false

instance (data : User) : (c : PointStage) → Decidable (c.EndsWell data)
  | .starts => .isTrue trivial
  | .reads => inferInstanceAs (Decidable (_ → _))
  | .writes _ => inferInstanceAs (Decidable (_ ∧ _))
  | .ended => inferInstanceAs (Decidable (_ = _))

end PointStage

/-! ## Overlapping calls -/

section Calls

open PointStage

variable {ι : Type} [DecidableEq ι] {u : UserId}

/-- No call has begun. -/
def beforeCalls (s : Store) : Staged ι Store PointStage where
  store := s
  stage _ := .starts

/-- Calls for the user `u`, each of which may begin at any time. -/
def pointCalls (s : Store) (u : UserId) : Pool ι Store Err Unit where
  store := s
  thread _ := createFiestaPoint u

/-- The calls in any interleaving go through the stores of the machine. -/
theorem pointCalls_follow {s : Store} (exist : (s.user u).isSome) (schedule : List ι) :
    Stages.Follows (fun s => (s.user u).isSome) (fun _ => program u)
      ((pointCalls s u).play schedule)
      (run (machine u).move (beforeCalls s) schedule) := by
  apply Stages.Follows.play (fun _ => runs u)
  · intro c s exist
    cases c with
    | starts => exact (Store.isSome_updateUser ..).trans exist
    | writes n => exact (Store.isSome_updateUser ..).trans exist
    | _ => exact exist
  · exact ⟨rfl, fun _ => rfl, exist⟩

/-- No call is in progress. -/
def AtRest (t : Staged ι Store PointStage) : Prop :=
  ∀ i, (t.stage i).inProgress = false

instance [Fintype ι] (t : Staged ι Store PointStage) : Decidable (AtRest t) :=
  inferInstanceAs (Decidable (∀ _, _))

/-- The last call in progress moves, and if it ends, it leaves the right level. -/
def LastMove (u : UserId) (t : Staged ι Store PointStage) (i : ι) : Prop :=
  (∀ j, j ≠ i → (t.stage j).inProgress = false) →
    ∀ data ∈ t.store.user u, (t.stage i).EndsWell data

instance [Fintype ι] (u : UserId) (t : Staged ι Store PointStage) (i : ι) :
    Decidable (LastMove u t i) :=
  inferInstanceAs (Decidable (_ → _))

/-- The user is there, with a level of at most 2. -/
def Modest (u : UserId) (t : Staged ι Store PointStage) : Prop :=
  ∃ data, t.store.user u = some data ∧ ∀ level, levelNumber data.level = some level → level ≤ 2

/-- At every moment the level is modest, and it is right if no call is in progress. -/
structure PointInvariant (u : UserId) (t : Staged ι Store PointStage) : Prop where
  modest : Modest u t
  fits : AtRest t → ∀ data ∈ t.store.user u, data.LevelFits

theorem levelFor_le (n : Stored Js.Number) : levelFor n ≤ 2 := by
  rw [levelFor_eq]
  split <;> decide

theorem atRest_move {t : Staged ι Store PointStage} {i : ι} :
    AtRest ((machine u).move t i) ↔
      (∀ j, j ≠ i → (t.stage j).inProgress = false) ∧
        (next u (t.stage i) t.store).inProgress = false := by
  constructor
  · intro quiet
    refine ⟨fun j other => ?_, ?_⟩
    · have here := quiet j
      change (Function.update t.stage i _ j).inProgress = false at here
      rwa [Function.update_of_ne other] at here
    · have here := quiet i
      change (Function.update t.stage i _ i).inProgress = false at here
      rwa [Function.update_self] at here
  · intro both j
    change (Function.update t.stage i _ j).inProgress = false
    by_cases same : j = i
    · subst same
      rw [Function.update_self]
      exact both.2
    · rw [Function.update_of_ne same]
      exact both.1 j same

theorem modest_onUser {data : User}
    (modest : ∀ level, levelNumber data.level = some level → level ≤ 2) (c : PointStage) :
    ∀ level, levelNumber (c.onUser data).level = some level → level ≤ 2 := by
  cases c with
  | writes n =>
      intro level written
      cases written
      exact levelFor_le n
  | _ => exact modest

/-- A right level is 1 or 2 up to a count of 20 only. -/
theorem few_of_fits {data : User}
    (modest : ∀ level, levelNumber data.level = some level → level ≤ 2) (fits : data.LevelFits) :
    exceeds data.numberCreatedFiesta 20 = false := by
  by_contra many
  have two := two_le_thresholds (Bool.not_eq_false _ ▸ many)
  have small := modest _ fits
  omega

variable {t : Staged ι Store PointStage} {i : ι}

theorem Modest.move (modest : Modest u t) (i : ι) : Modest u ((machine u).move t i) := by
  obtain ⟨data, found, small⟩ := modest
  exact ⟨_, user_act found _, modest_onUser small _⟩

/-- When the last call in progress ends, the level is right exactly under the condition. -/
theorem fits_iff {data : User} (found : t.store.user u = some data)
    (modest : ∀ level, levelNumber data.level = some level → level ≤ 2)
    (fits : AtRest t → data.LevelFits) (others : ∀ j, j ≠ i → (t.stage j).inProgress = false) :
    ((next u (t.stage i) t.store).inProgress = false → ((t.stage i).onUser data).LevelFits) ↔
      LastMove u t i := by
  unfold LastMove
  rw [forall_prop_of_true others, found]
  simp only [Option.mem_def, Option.some.injEq, forall_eq']
  unfold EndsWell
  cases stage : t.stage i with
  | starts => exact iff_of_true (fun ends => by cases ends) trivial
  | reads =>
      simp only [next, found]
      by_cases same : data.level = .value (some (levelFor data.numberCreatedFiesta))
      · have ends : (PointStage.ended).inProgress = false := rfl
        simp only [same, ne_eq, not_true_eq_false, if_false, ends, forall_true_left]
        change data.LevelFits ↔ _
        unfold User.LevelFits
        rw [same, ← and_iff_left (a := exceeds data.numberCreatedFiesta 20 = false) Iff.rfl,
          ← levelFor_fits]
        exact Option.some_inj
      · simp [same, inProgress]
  | writes n =>
      have ends : (next u (.writes n) t.store).inProgress = false := rfl
      rw [forall_prop_of_true ends]
      dsimp only
      rw [← levelFor_fits]
      exact Option.some_inj
  | ended =>
      have quiet : AtRest t := by
        intro j
        by_cases same : j = i
        · rw [same, stage]
          rfl
        · exact others j same
      exact iff_of_true (fun _ => fits quiet) (few_of_fits modest (fits quiet))

theorem pointInvariant_move (invariant : PointInvariant u t) :
    PointInvariant u ((machine u).move t i) ↔ LastMove u t i := by
  obtain ⟨data, found, small⟩ := invariant.modest
  have fits : AtRest t → data.LevelFits := fun quiet => invariant.fits quiet data found
  have after : ((machine u).move t i).store.user u = some ((t.stage i).onUser data) :=
    user_act found _
  constructor
  · intro kept others
    apply (fits_iff found small fits others).mp ?_ others
    intro ends
    exact kept.fits (atRest_move.mpr ⟨others, ends⟩) _ after
  · intro last
    refine ⟨invariant.modest.move i, fun quiet changed read => ?_⟩
    rw [after] at read
    cases read
    obtain ⟨others, ends⟩ := atRest_move.mp quiet
    exact (fits_iff found small fits others).mpr last ends

/-! ## Whole runs -/

/-- In every state of the run without a call in progress the level fits the count, and between
two of them it has not gone down. -/
structure LevelFollows (u : UserId) (t : Staged ι Store PointStage) (schedule : List ι) :
    Prop where
  fits : ∀ t', Reached (machine u).move t schedule t' → AtRest t' →
    ∀ data ∈ t'.store.user u, data.LevelFits
  rises : ∀ before between, before ++ between <+: schedule →
    AtRest (run (machine u).move t before) → AtRest (run (machine u).move t (before ++ between)) →
    ∀ data ∈ (run (machine u).move t before).store.user u,
      ∀ later ∈ (run (machine u).move t (before ++ between)).store.user u,
        Js.Number.lt (levelNumber later.level) (levelNumber data.level) = false

/-- The count of the user is zero, or missing. -/
def User.StartsAtZero (data : User) : Prop :=
  data.numberCreatedFiesta = .undefined ∨ data.numberCreatedFiesta = .null ∨
    data.numberCreatedFiesta = .value (some 0)

instance (data : User) : Decidable data.StartsAtZero :=
  inferInstanceAs (Decidable (_ ∨ _ ∨ _))

theorem thresholds_zero {data : User} (zero : data.StartsAtZero) :
    thresholds data.numberCreatedFiesta = [] := by
  rcases zero with missing | null | zero
  · rw [missing]
    rfl
  · rw [null]
    rfl
  · rw [zero]
    rfl

/-- The count passes more and more. -/
theorem exceeds_run {data : User} (found : t.store.user u = some data) (schedule : List ι) :
    ∃ later, (run (machine u).move t schedule).store.user u = some later ∧
      ∀ k, exceeds data.numberCreatedFiesta k = true →
        exceeds later.numberCreatedFiesta k = true := by
  induction schedule generalizing t data with
  | nil => exact ⟨data, found, fun _ passed => passed⟩
  | cons i schedule ih =>
      have after : ((machine u).move t i).store.user u = some ((t.stage i).onUser data) :=
        user_act found _
      obtain ⟨later, foundLater, more⟩ := ih after
      refine ⟨later, foundLater, fun k passed => more k ?_⟩
      cases t.stage i with
      | starts => exact exceeds_increment passed
      | _ => exact passed

/-- Right levels never go down. -/
theorem rises_of_fits {data later : User} (fits : data.LevelFits) (fitsLater : later.LevelFits)
    (more : ∀ k, exceeds data.numberCreatedFiesta k = true →
      exceeds later.numberCreatedFiesta k = true) :
    Js.Number.lt (levelNumber later.level) (levelNumber data.level) = false := by
  have longer : (thresholds data.numberCreatedFiesta).length ≤
      (thresholds later.numberCreatedFiesta).length :=
    (List.monotone_filter_right _ more).length_le
  rw [fits, fitsLater, Js.Number.lt_some, decide_eq_false_iff_not]
  omega

/-- **Over any run of overlapping calls for a user who begins without fiestas, the level is right
whenever no call is in progress exactly when it was at the start, and whenever the last call in
progress ends, the count has not passed 20 and a level that this call writes is that of a count on
the same side of 10 as the stored one.** -/
theorem level_iff {s : Store} {data : User} (found : s.user u = some data)
    (zero : data.StartsAtZero) (schedule : List ι) :
    LevelFollows u (beforeCalls s) schedule ↔
      levelNumber data.level = some 1 ∧
        Along (machine u).move (LastMove u) (beforeCalls s) schedule := by
  have quiet : AtRest (beforeCalls s : Staged ι Store PointStage) := fun _ => rfl
  have first : data.LevelFits ↔ levelNumber data.level = some 1 := by
    unfold User.LevelFits
    rw [thresholds_zero zero]
    rfl
  have whole (one : levelNumber data.level = some 1) :
      (∀ t, Reached (machine u).move (beforeCalls s) schedule t → AtRest t →
        ∀ data ∈ t.store.user u, data.LevelFits) ↔
        Along (machine u).move (LastMove u) (beforeCalls s) schedule := by
    have small : ∀ level, levelNumber data.level = some level → level ≤ 2 := by
      intro level same
      rw [one] at same
      cases same
      decide
    have modest : Modest u (beforeCalls s : Staged ι Store PointStage) := ⟨data, found, small⟩
    have start : PointInvariant u (beforeCalls s : Staged ι Store PointStage) := by
      refine ⟨modest, fun _ data' read => ?_⟩
      cases found.symm.trans read
      exact first.mpr one
    have always : ∀ t, Reached (machine u).move (beforeCalls s) schedule t → Modest u t :=
      all_reached (fun t i modest _ => modest.move i) modest (Along.trivial _ _)
    rw [← all_reached_iff_along (P := PointInvariant u)
      (fun t i invariant _ => pointInvariant_move invariant) start (Along.trivial _ _)]
    constructor
    · exact fun all t reached => ⟨always t reached, all t reached⟩
    · exact fun all t reached => (all t reached).fits
  constructor
  · intro follows
    have one := first.mp (follows.fits _ (.start _ _) quiet data found)
    exact ⟨one, (whole one).mp follows.fits⟩
  · intro both
    have fits := (whole both.1).mpr both.2
    refine ⟨fits, fun before between isPrefix quietFirst quietLater early foundEarly => ?_⟩
    intro later foundLater
    have shorter : before <+: schedule := (List.prefix_append before between).trans isPrefix
    obtain ⟨same, foundSame, more⟩ := exceeds_run foundEarly between
    rw [← run_append, foundLater] at foundSame
    cases foundSame
    exact rises_of_fits (fits _ ⟨before, shorter, rfl⟩ quietFirst early foundEarly)
      (fits _ ⟨_, isPrefix, rfl⟩ quietLater later foundLater) more

end Calls

/-! ## Twenty-one fiestas -/

open PointStage

/-- A host without fiestas and without a level. -/
def newHost : Store :=
  Store.ofUsers ⟨[("u", { numberCreatedFiesta := .value (some 0) })], by decide⟩

/-- Every call makes its requests before the next one begins. -/
def fiestasInTurn (calls : Nat) : List (Fin calls) :=
  (List.finRange calls).flatMap fun i => [i, i, i]

/-- The eleventh fiesta brings the level to 2. -/
theorem newHost_eleven :
    LevelFollows "u" (beforeCalls newHost) (fiestasInTurn 11) := by
  exact (level_iff (u := "u") (s := newHost) rfl (.inr (.inr rfl)) (fiestasInTurn 11)).mpr
    ⟨rfl, by decide +kernel⟩

/-- After the twenty-first fiesta the level is still 2. -/
theorem newHost_twentyOne : ¬ LevelFollows "u" (beforeCalls newHost) (fiestasInTurn 21) := by
  intro follows
  have quiet : AtRest (run (machine "u").move (beforeCalls newHost) (fiestasInTurn 21)) := by
    decide +kernel
  have fits := follows.fits _ (.run _ _) quiet
  revert fits
  decide +kernel

end TwoGather
