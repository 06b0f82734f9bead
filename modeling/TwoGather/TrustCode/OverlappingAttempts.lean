import Mathlib
import TwoGather.Lib.Stages
import TwoGather.TrustCode.Submission

/-!
# Overlapping submissions of wrong codes

`TrustCodePage` does not wait for `onSubmit`, so a user may submit again while submissions are
under way. Between the check of the limiter and the record of the failure lies the lookup of
the code, and the record itself reads the list in one request and writes it in another.

A submission of a wrong code is always at one of a few stages (`Stage`), which says how many
attempts have been allowed and not been recorded yet.
-/

namespace TwoGather

open Docs Requests Windows TrustCodeRateLimiter

/-! ## The stages of a submission -/

/-- Where `canAttemptValidation` is. -/
inductive Check
  | starts
  | compares (blockedUntil : Int)
  | clears
  | counts

/-- Where `getRemainingBlockTimeMinutes` is. -/
inductive Wait
  | starts
  | compares (blockedUntil : Int)
  | clears

/-- Where a submission is: in the check of the limiter, in the answer to a refused attempt, at
the lookup of the code, in the record of the failure, or in what follows it. -/
inductive Stage
  | admits (check : Check)
  | waits (wait : Wait)
  | looksUp
  | reads
  | saves (failedAttempts : List Int)
  | blocks
  | rechecks (check : Check)
  | recounts
  | fails
  | failsAgain
  | ended (outcome : Except Err Unit)

namespace Check

def act : Check → Phone → Phone
  | .starts => id
  | .compares _ => Phone.read
  | .clears => fun d => { d with prefs := {} }
  | .counts => saveRecent

/-- Where it goes on, or its answer. -/
def next : Check → Phone → Check ⊕ Bool
  | .starts, d =>
      match d.prefs.blockedUntil with
      | none => .inl .counts
      | some blockedUntil => .inl (.compares blockedUntil)
  | .compares blockedUntil, d => if d.now < blockedUntil then .inr false else .inl .clears
  | .clears, _ => .inl .counts
  | .counts, d => .inr (decide ((recentAttempts d).length < maxAttemptsPerHour))

/-- What is left of `canAttemptValidation`. -/
def program : Check → App Bool
  | .starts => canAttemptValidation
  | .compares blockedUntil => do
      if (← dateTimeNow) < blockedUntil then return false
      else
        clearBlockage
        fewRecentAttempts
  | .clears => do
      clearBlockage
      fewRecentAttempts
  | .counts => fewRecentAttempts

/-- A check is its next request, and then the rest of the check. -/
theorem program_eq (c : Check) :
    c.program = .step c.act fun d => (c.next d).elim program pure := by
  cases c with
  | starts =>
      refine congrArg (Program.step id) (funext fun d => ?_)
      change Program.bind (.done (.ok d.prefs.blockedUntil)) _ = _
      simp only [next]
      cases d.prefs.blockedUntil with
      | none => rfl
      | some blockedUntil => rfl
  | compares blockedUntil =>
      refine congrArg (Program.step Phone.read) (funext fun d => ?_)
      change (if d.now < blockedUntil then _ else _) = _
      simp only [next]
      split
      · rfl
      · rfl
  | clears => rfl
  | counts => rfl

end Check

namespace Wait

def act : Wait → Phone → Phone
  | .starts => id
  | .compares _ => Phone.read
  | .clears => fun d => { d with prefs := {} }

/-- Where it goes on, if it does. -/
def next : Wait → Phone → Option Wait
  | .starts, d => d.prefs.blockedUntil.map .compares
  | .compares blockedUntil, d => if d.now < blockedUntil then none else some .clears
  | .clears, _ => none

/-- What is left of `getRemainingBlockTimeMinutes`, whose answer is only shown. -/
def program : Wait → App Unit
  | .starts => do
      let _ ← getRemainingBlockTimeMinutes
      return ()
  | .compares blockedUntil => do
      if (← dateTimeNow) < blockedUntil then return ()
      else clearBlockage
  | .clears => clearBlockage

/-- The same for a wait. -/
theorem program_eq (w : Wait) :
    w.program = .step w.act fun d => (w.next d).elim (pure ()) program := by
  cases w with
  | starts =>
      refine congrArg (Program.step id) (funext fun d => ?_)
      change Program.bind (Program.bind (.done (.ok d.prefs.blockedUntil)) _) _ = _
      simp only [next]
      cases d.prefs.blockedUntil with
      | none => rfl
      | some blockedUntil =>
          refine congrArg (Program.step Phone.read) (funext fun d => ?_)
          change Program.bind (if d.now < blockedUntil then _ else _) _ =
            if d.now < blockedUntil then _ else _
          split
          · rfl
          · rfl
  | compares blockedUntil =>
      refine congrArg (Program.step Phone.read) (funext fun d => ?_)
      change (if d.now < blockedUntil then _ else _) = _
      simp only [next]
      split
      · rfl
      · rfl
  | clears => rfl

end Wait

/-- The `catch` of both pages. -/
def caught (uid : UserId) (p : App Unit) : App Unit :=
  tryCatch p fun _ => firestore (updateStatus uid (.value "error"))

/-- What `failAttempt` does once the failure is recorded. -/
def afterRecord (uid : UserId) : App Unit := do
  let _ ← canAttemptValidation
  let _ ← getRecentFailedAttemptsCount
  firestore (updateStatus uid (.value "error"))

namespace Stage

variable (uid : UserId)

def act : Stage → Phone → Phone
  | .admits check => check.act
  | .waits wait => wait.act
  | .looksUp => fun d => d.looked d.store
  | .reads => saveRecent
  | .saves failedAttempts => fun d =>
      { d.read with prefs := { d.prefs with failedAttempts := some (failedAttempts ++ [d.now]) } }
  | .blocks => fun d =>
      { d.read with
        prefs := { d.prefs with blockedUntil := some (d.now + hours blockDurationHours) } }
  | .rechecks check => check.act
  | .recounts => saveRecent
  | .fails | .failsAgain => fun d =>
      d.withStore (d.store.updateUser uid ({ · with completeProfilStatus := .value "error" }))
  | .ended _ => id

/-- The stage after the request, if the code is wrong. -/
def next : Stage → Phone → Stage
  | .admits check, d =>
      match check.next d with
      | .inl check => .admits check
      | .inr canAttempt => if canAttempt then .looksUp else .waits .starts
  | .waits wait, d => (wait.next d).elim (.ended (.ok ())) .waits
  | .looksUp, _ => .reads
  | .reads, d => .saves (recentAttempts d)
  | .saves failedAttempts, _ =>
      if maxAttemptsPerHour ≤ failedAttempts.length + 1 then .blocks else .rechecks .starts
  | .blocks, _ => .rechecks .starts
  | .rechecks check, d =>
      match check.next d with
      | .inl check => .rechecks check
      | .inr _ => .recounts
  | .recounts, _ => .fails
  | .fails, d => if (d.store.user uid).isSome then .ended (.ok ()) else .failsAgain
  | .failsAgain, d =>
      .ended (if (d.store.user uid).isSome then .ok () else .error .notFound)
  | .ended outcome, _ => .ended outcome

/-- The submissions of one user as stages. -/
def machine : Stages Phone Stage where
  act := act uid
  next := next uid

/-- What is left of `_reopenTrustCode` with a code. -/
def program (code : String) : Stage → App Unit
  | .admits check =>
      caught uid do
        let canAttempt ← check.program
        if canAttempt then
          tryCode uid
            (fun code =>
              ({ · with trustCode := .value code, completeProfilStatus := .value "waiting" }))
            (some code)
        else do
          let _ ← getRemainingBlockTimeMinutes
          return ()
  | .waits wait => caught uid wait.program
  | .looksUp =>
      caught uid
        (tryCode uid
          (fun code =>
            ({ · with trustCode := .value code, completeProfilStatus := .value "waiting" }))
          (some code))
  | .reads => caught uid (failAttempt uid)
  | .saves failedAttempts =>
      caught uid do
        let failedAttempts ← saveAttempt failedAttempts
        (if maxAttemptsPerHour ≤ failedAttempts.length then blockUser else pure ())
        afterRecord uid
  | .blocks =>
      caught uid do
        blockUser
        afterRecord uid
  | .rechecks check =>
      caught uid do
        let _ ← check.program
        let _ ← getRecentFailedAttemptsCount
        firestore (updateStatus uid (.value "error"))
  | .recounts =>
      caught uid do
        let _ ← getRecentFailedAttemptsCount
        firestore (updateStatus uid (.value "error"))
  | .fails => caught uid (firestore (updateStatus uid (.value "error")))
  | .failsAgain => firestore (updateStatus uid (.value "error"))
  | .ended outcome => .done outcome

/-- The code is not in the collection. -/
def Wrong (code : String) (d : Phone) : Prop :=
  ∀ doc ∈ d.store.codes.docs, doc.2.code ≠ code

variable {uid} {code : String}

/-- A submission that is being admitted goes on with the check. -/
theorem runs_admits (check : Check) :
    (machine uid).Runs (Wrong code) (program uid code) (.admits check) := by
  unfold Stages.Runs program
  dsimp only
  rw [check.program_eq]
  refine ⟨rfl, fun d _ => ?_⟩
  change Program.handle (Program.bind ((check.next d).elim _ _) _) _ =
    program uid code (next uid (.admits check) d)
  simp only [next]
  cases check.next d with
  | inl check => rfl
  | inr canAttempt =>
      cases canAttempt with
      | true => rfl
      | false => rfl

/-- One that is refused reads how long it has to wait. -/
theorem runs_waits (wait : Wait) :
    (machine uid).Runs (Wrong code) (program uid code) (.waits wait) := by
  unfold Stages.Runs program
  dsimp only
  rw [wait.program_eq]
  refine ⟨rfl, fun d _ => ?_⟩
  change Program.handle ((wait.next d).elim _ _) _ = program uid code (next uid (.waits wait) d)
  simp only [next]
  cases wait.next d with
  | none => rfl
  | some wait => rfl

/-- One that is admitted looks up the code, which is wrong. -/
theorem runs_looksUp : (machine uid).Runs (Wrong code) (program uid code) .looksUp := by
  refine ⟨rfl, fun d wrong => ?_⟩
  have none : (d.store.codes.docs.filter fun doc => doc.2.code = code) = [] := by
    apply List.filter_eq_nil_iff.mpr
    intro doc listed same
    exact wrong doc listed (of_decide_eq_true same)
  change caught uid (if !(d.store.codes.docs.filter fun doc => doc.2.code = code).isEmpty then _
    else failAttempt uid) = program uid code .reads
  rw [none]
  rfl

/-- After the look-up it saves the list with one more failed attempt. -/
theorem runs_saves (failedAttempts : List Int) :
    (machine uid).Runs (Wrong code) (program uid code) (.saves failedAttempts) := by
  refine ⟨rfl, fun d _ => ?_⟩
  change caught uid (Program.bind
    (if maxAttemptsPerHour ≤ (failedAttempts ++ [d.now]).length then blockUser else pure ())
      fun _ => afterRecord uid) = program uid code (next uid (.saves failedAttempts) d)
  rw [List.length_append, List.length_singleton]
  simp only [next]
  split
  · rfl
  · rfl

/-- Then it checks again whether an attempt is allowed. -/
theorem runs_rechecks (check : Check) :
    (machine uid).Runs (Wrong code) (program uid code) (.rechecks check) := by
  unfold Stages.Runs program
  dsimp only
  rw [check.program_eq]
  refine ⟨rfl, fun d _ => ?_⟩
  change Program.handle (Program.bind ((check.next d).elim _ _) _) _ =
    program uid code (next uid (.rechecks check) d)
  simp only [next]
  cases check.next d with
  | inl check => rfl
  | inr canAttempt => rfl

/-- At the end the status becomes `error`. -/
theorem runs_fails : (machine uid).Runs (Wrong code) (program uid code) .fails := by
  refine ⟨rfl, fun d _ => ?_⟩
  change caught uid (firestore (if (d.store.user uid).isSome then pure () else throw .notFound)) =
    program uid code (next uid .fails d)
  simp only [next]
  split
  · rfl
  · rfl

/-- It is written once more. -/
theorem runs_failsAgain : (machine uid).Runs (Wrong code) (program uid code) .failsAgain := by
  refine ⟨rfl, fun d _ => ?_⟩
  change firestore (if (d.store.user uid).isSome then pure () else throw .notFound) =
    program uid code (next uid .failsAgain d)
  simp only [next]
  split
  · rfl
  · rfl

/-- A submission of a wrong code goes through the stages. -/
theorem runs (c : Stage) : (machine uid).Runs (Wrong code) (program uid code) c := by
  cases c with
  | admits check => exact runs_admits check
  | waits wait => exact runs_waits wait
  | looksUp => exact runs_looksUp
  | reads => exact ⟨rfl, fun d _ => rfl⟩
  | saves failedAttempts => exact runs_saves failedAttempts
  | blocks => exact ⟨rfl, fun d _ => rfl⟩
  | rechecks check => exact runs_rechecks check
  | recounts => exact ⟨rfl, fun d _ => rfl⟩
  | fails => exact runs_fails
  | failsAgain => exact runs_failsAgain
  | ended outcome => exact fun d => ⟨rfl, rfl⟩

/-- No stage writes a code. -/
theorem codes_act (c : Stage) (d : Phone) : (act uid c d).store.codes = d.store.codes := by
  have saved : (saveRecent d).store.codes = d.store.codes := by
    unfold saveRecent
    split
    · rfl
    · rfl
  cases c with
  | admits check =>
      cases check with
      | counts => exact saved
      | _ => rfl
  | waits wait => cases wait with | _ => rfl
  | rechecks check =>
      cases check with
      | counts => exact saved
      | _ => rfl
  | reads => exact saved
  | recounts => exact saved
  | _ => rfl

end Stage

/-! ## Attempts that are allowed and not recorded -/

namespace Stage

/-- The attempt has been allowed, and its failure is not recorded yet. -/
def inFlight : Stage → Bool
  | .looksUp | .reads | .saves _ => true
  | _ => false

/-- Its code has been looked up already. -/
def lookedUp : Stage → Bool
  | .reads | .saves _ => true
  | _ => false

/-- What a submission must find when it moves: an attempt is allowed only if the limiter, which
counts the recorded ones, would also allow it if those in flight were recorded; the list that is
saved still holds every failure of the last hour; and the end of a block forgets none. -/
def Careful (d : Phone) (inFlight : Nat) : Stage → Prop
  | .admits .counts =>
      (recentAttempts d).length < maxAttemptsPerHour →
        (recentAttempts d).length + inFlight < maxAttemptsPerHour
  | .saves failedAttempts => (recentAttempts d).Sublist failedAttempts
  | .admits .clears | .waits .clears | .rechecks .clears => recentAttempts d = []
  | _ => True

instance (d : Phone) (inFlight : Nat) : (c : Stage) → Decidable (c.Careful d inFlight)
  | .admits .counts => inferInstanceAs (Decidable (_ → _))
  | .saves _ => inferInstanceAs (Decidable (List.Sublist _ _))
  | .admits .clears | .waits .clears | .rechecks .clears => inferInstanceAs (Decidable (_ = _))
  | .admits .starts | .admits (.compares _) | .waits .starts | .waits (.compares _)
  | .rechecks .starts | .rechecks (.compares _) | .rechecks .counts | .looksUp | .reads
  | .blocks | .recounts | .fails | .failsAgain | .ended _ => .isTrue trivial

end Stage

section Runs

variable {ι : Type} [DecidableEq ι] [Fintype ι] {uid : UserId}

/-- The next move of client `i` is a careful one. -/
def CarefulMove (t : Staged ι Phone Stage) (i : ι) : Prop :=
  (t.stage i).Careful t.store (Staged.clients (·.inFlight) t.stage).card

instance (t : Staged ι Phone Stage) (i : ι) : Decidable (CarefulMove t i) :=
  inferInstanceAs (Decidable (Stage.Careful ..))

/-- Nothing of the last hour changes in the list, and nothing is looked up. -/
structure Aged (d d' : Phone) : Prop where
  clock : d'.clock = d.clock
  readings : d.readings ≤ d'.readings
  lookups : d'.lookups = d.lookups
  stored : ∀ c, d'.now - hours 1 ≤ c → after c d'.stored = after c d.stored

/-- What holds between two moves. -/
structure AttemptsInvariant (t : Staged ι Phone Stage) : Prop where
  clock : Monotone t.store.clock
  past : ∀ time ∈ t.store.lookups, time ≤ t.store.now
  sparse : Sparse (hours 1) 5 t.store.lookups
  /-- Each lookup of the last hour is recorded or in flight. -/
  covered : ∀ c, t.store.now - hours 1 ≤ c → (after c t.store.lookups).length ≤
    (after c t.store.stored).length + (Staged.clients (·.lookedUp) t.stage).card
  budget : 0 < (Staged.clients (·.inFlight) t.stage).card →
    (recentAttempts t.store).length + (Staged.clients (·.inFlight) t.stage).card ≤ 5
  /-- No list that was read holds more failures of the last hour than the stored one. -/
  lists : ∀ i failedAttempts, t.stage i = .saves failedAttempts → ∀ c, t.store.now - hours 1 ≤ c →
    (after c failedAttempts).length ≤ (after c t.store.stored).length

section Aged

variable {d d' : Phone}

/-- Time does not go back while a phone ages. -/
theorem Aged.now_le (monotone : Monotone d.clock) (aged : Aged d d') : d.now ≤ d'.now := by
  unfold Phone.now
  rw [aged.clock]
  exact monotone aged.readings

theorem aged_refl (d : Phone) : Aged d d :=
  ⟨rfl, le_rfl, rfl, fun _ _ => rfl⟩

theorem aged_read (d : Phone) : Aged d d.read :=
  ⟨rfl, Nat.le_succ _, rfl, fun _ _ => rfl⟩

/-- To save what is recent lets a phone age. -/
theorem aged_saveRecent (monotone : Monotone d.clock) : Aged d (saveRecent d) := by
  have later : d.now ≤ (saveRecent d).now := by
    unfold Phone.now
    rw [clock_saveRecent, readings_saveRecent]
    exact monotone (Nat.le_succ _)
  refine ⟨clock_saveRecent d, by rw [readings_saveRecent]; omega, ?_, fun c le => ?_⟩
  · unfold saveRecent
    split
    · rfl
    · rfl
  · rw [stored_saveRecent]
    exact after_after (by unfold attemptWindowHours; omega) d.stored

/-- What is forgotten at the end of a block is not of the last hour. -/
theorem aged_clear (old : recentAttempts d = []) : Aged d { d with prefs := {} } := by
  refine ⟨rfl, le_rfl, rfl, fun c le => ?_⟩
  have none : after c (after (d.now - hours 1) d.stored) = [] := by
    change after c (recentAttempts d) = []
    rw [old]
    rfl
  rw [after_after (by exact le)] at none
  exact none.symm

/-- A check that clears only what is empty lets a phone age. -/
theorem aged_check {check : Check} (monotone : Monotone d.clock)
    (careful : check = .clears → recentAttempts d = []) : Aged d (check.act d) := by
  cases check with
  | starts => exact aged_refl d
  | compares blockedUntil => exact aged_read d
  | clears => exact aged_clear (careful rfl)
  | counts => exact aged_saveRecent monotone

/-- So does a wait. -/
theorem aged_wait {wait : Wait} (careful : wait = .clears → recentAttempts d = []) :
    Aged d (wait.act d) := by
  cases wait with
  | starts => exact aged_refl d
  | compares blockedUntil => exact aged_read d
  | clears => exact aged_clear (careful rfl)

/-- Only submissions in flight look up codes and record failures. -/
theorem Stage.aged {c : Stage} {inFlight : Nat} (monotone : Monotone d.clock)
    (careful : c.Careful d inFlight) (before : c.inFlight = false) : Aged d (c.act uid d) := by
  cases c with
  | admits check =>
      apply aged_check monotone
      intro clears
      rw [clears] at careful
      exact careful
  | waits wait =>
      apply aged_wait
      intro clears
      rw [clears] at careful
      exact careful
  | rechecks check =>
      apply aged_check monotone
      intro clears
      rw [clears] at careful
      exact careful
  | looksUp => cases before
  | reads => cases before
  | saves failedAttempts => cases before
  | blocks => exact ⟨rfl, Nat.le_succ _, rfl, fun _ _ => rfl⟩
  | recounts => exact aged_saveRecent monotone
  | fails => exact ⟨rfl, le_rfl, rfl, fun _ _ => rfl⟩
  | failsAgain => exact ⟨rfl, le_rfl, rfl, fun _ _ => rfl⟩
  | ended outcome => exact aged_refl d

/-- An attempt is allowed at the end of the check only. -/
theorem Stage.next_inFlight {c : Stage} (before : c.inFlight = false) (d : Phone)
    (allowed : c = .admits .counts → ¬ (recentAttempts d).length < maxAttemptsPerHour) :
    (c.next uid d).inFlight = false := by
  cases c with
  | admits check =>
      cases check with
      | starts =>
          simp only [Stage.next, Check.next]
          cases d.prefs.blockedUntil with
          | none => rfl
          | some blockedUntil => rfl
      | compares blockedUntil =>
          simp only [Stage.next, Check.next]
          split
          case _ eq => rfl
          case _ eq =>
            split at eq
            · cases eq
              rfl
            · cases eq
      | clears => rfl
      | counts =>
          simp only [Stage.next, Check.next, decide_eq_true_eq, if_neg (allowed rfl)]
          rfl
  | waits wait =>
      simp only [Stage.next]
      cases wait.next d with
      | none => rfl
      | some wait => rfl
  | rechecks check =>
      simp only [Stage.next]
      cases check.next d with
      | inl check => rfl
      | inr canAttempt => rfl
  | looksUp => cases before
  | reads => cases before
  | saves failedAttempts => cases before
  | blocks => rfl
  | recounts => rfl
  | fails =>
      simp only [Stage.next]
      split
      · rfl
      · rfl
  | failsAgain => rfl
  | ended outcome => rfl

/-- A submission that is not in flight has not looked up its code. -/
theorem Stage.lookedUp_of_inFlight {c : Stage} (not : c.inFlight = false) :
    c.lookedUp = false := by
  cases c with
  | reads => cases not
  | saves failedAttempts => cases not
  | _ => rfl

/-- An attempt that has looked up its code is in flight. -/
theorem card_lookedUp_le (stage : ι → Stage) :
    (Staged.clients (·.lookedUp) stage).card ≤ (Staged.clients (·.inFlight) stage).card := by
  apply Finset.card_le_card
  intro j member
  rw [Staged.mem_clients] at member ⊢
  by_contra not
  have away := Stage.lookedUp_of_inFlight (Bool.eq_false_iff.mpr not)
  rw [away] at member
  cases member

/-- A submission that is not in flight is not about to save. -/
theorem Stage.ne_saves {c : Stage} (not : c.inFlight = false) (failedAttempts : List Int) :
    c ≠ .saves failedAttempts := by
  intro saves
  rw [saves] at not
  cases not

end Aged

section Move

variable {t : Staged ι Phone Stage} {i : ι} {c : Stage} {d : Phone}
  (invariant : AttemptsInvariant t)

include invariant

/-- The lists that other clients have read. -/
theorem AttemptsInvariant.lists_update
    (grown : ∀ b, d.now - hours 1 ≤ b → t.store.now - hours 1 ≤ b ∧
      (after b t.store.stored).length ≤ (after b d.stored).length)
    (own : ∀ failedAttempts, c = .saves failedAttempts → ∀ b, d.now - hours 1 ≤ b →
      (after b failedAttempts).length ≤ (after b d.stored).length) (j : ι)
    (failedAttempts : List Int) (saves : Function.update t.stage i c j = .saves failedAttempts)
    (b : Int) (recent : d.now - hours 1 ≤ b) :
    (after b failedAttempts).length ≤ (after b d.stored).length := by
  by_cases same : j = i
  · subst same
    rw [Function.update_self] at saves
    exact own failedAttempts saves b recent
  · rw [Function.update_of_ne same] at saves
    obtain ⟨before, le⟩ := grown b recent
    exact (invariant.lists j failedAttempts saves b before).trans le

/-- A move that changes nothing of the last hour, if the budget still covers what is in
flight. -/
theorem AttemptsInvariant.aged (aged : Aged t.store d)
    (lookedUp : c.lookedUp = (t.stage i).lookedUp)
    (budget : 0 < (Staged.clients (·.inFlight) (Function.update t.stage i c)).card →
      (recentAttempts t.store).length +
        (Staged.clients (·.inFlight) (Function.update t.stage i c)).card ≤ 5)
    (own : ∀ failedAttempts, c = .saves failedAttempts → ∀ b, d.now - hours 1 ≤ b →
      (after b failedAttempts).length ≤ (after b d.stored).length) :
    AttemptsInvariant ⟨d, Function.update t.stage i c⟩ := by
  have now_le := aged.now_le invariant.clock
  have looked : Staged.clients (·.lookedUp) (Function.update t.stage i c) =
      Staged.clients (·.lookedUp) t.stage := Staged.clients_stay (by rw [lookedUp])
  constructor
  case clock =>
    change Monotone d.clock
    rw [aged.clock]
    exact invariant.clock
  case past =>
    intro time (listed : time ∈ d.lookups)
    rw [aged.lookups] at listed
    exact (invariant.past time listed).trans now_le
  case sparse =>
    change Sparse (hours 1) 5 d.lookups
    rw [aged.lookups]
    exact invariant.sparse
  case covered =>
    intro b (le : d.now - hours 1 ≤ b)
    have covered := invariant.covered b (by omega)
    rw [← aged.lookups, ← aged.stored b le, ← looked] at covered
    exact covered
  case budget =>
    intro some
    have fewer : (recentAttempts d).length ≤ (recentAttempts t.store).length := by
      unfold recentAttempts attemptWindowHours
      rw [aged.stored _ le_rfl]
      exact length_after_le (by omega) _
    exact (Nat.add_le_add_right fewer _).trans (budget some)
  case lists =>
    refine invariant.lists_update (fun b (le : d.now - hours 1 ≤ b) => ⟨by omega, ?_⟩) own
    rw [aged.stored b le]

/-- A move that keeps the number of attempts in flight. -/
theorem AttemptsInvariant.quiet (aged : Aged t.store d)
    (inFlight : c.inFlight = (t.stage i).inFlight) (lookedUp : c.lookedUp = (t.stage i).lookedUp)
    (own : ∀ failedAttempts, c = .saves failedAttempts → ∀ b, d.now - hours 1 ≤ b →
      (after b failedAttempts).length ≤ (after b d.stored).length) :
    AttemptsInvariant ⟨d, Function.update t.stage i c⟩ := by
  refine invariant.aged aged lookedUp (fun some => ?_) own
  rw [Staged.clients_stay (by rw [inFlight])] at some ⊢
  exact invariant.budget some

/-- An attempt is allowed. -/
theorem AttemptsInvariant.allow (before : (t.stage i).inFlight = false)
    (careful : (recentAttempts t.store).length + (Staged.clients (·.inFlight) t.stage).card < 5) :
    AttemptsInvariant ⟨saveRecent t.store, Function.update t.stage i .looksUp⟩ := by
  apply invariant.aged (aged_saveRecent invariant.clock)
  · rw [Stage.lookedUp_of_inFlight before]
    rfl
  · intro _
    have entered : (Staged.clients (·.inFlight) (Function.update t.stage i .looksUp)).card =
        (Staged.clients (·.inFlight) t.stage).card + 1 :=
      Staged.card_enter (by rw [before]; exact Bool.false_ne_true) rfl
    omega
  · exact fun _ saves => nomatch saves

/-- A code is looked up. -/
theorem AttemptsInvariant.lookUp (here : t.stage i = .looksUp) :
    AttemptsInvariant
      ⟨t.store.looked t.store.store, Function.update t.stage i .reads⟩ := by
  have now_le : t.store.now ≤ (t.store.looked t.store.store).now :=
    invariant.clock (Nat.le_succ _)
  have flying : Staged.clients (·.inFlight) (Function.update t.stage i .reads) =
      Staged.clients (·.inFlight) t.stage := Staged.clients_stay (by rw [here]; rfl)
  have looked : (Staged.clients (·.lookedUp) (Function.update t.stage i .reads)).card =
      (Staged.clients (·.lookedUp) t.stage).card + 1 :=
    Staged.card_enter (by rw [here]; exact Bool.false_ne_true) rfl
  -- the client that looks up now is in flight and has not been counted among the lookups
  have room : (Staged.clients (·.lookedUp) t.stage).card + 1 ≤
      (Staged.clients (·.inFlight) t.stage).card := by
    rw [← looked, ← flying]
    exact card_lookedUp_le _
  constructor
  case clock => exact invariant.clock
  case past =>
    intro time listed
    rcases List.mem_append.mp listed with before | new
    · exact (invariant.past time before).trans now_le
    · rw [List.mem_singleton.mp new]
      exact now_le
  case sparse =>
    refine each_concat.mpr ⟨invariant.sparse, ?_⟩
    have covered := invariant.covered _ le_rfl
    have budget := invariant.budget (by omega)
    change _ ≤ (recentAttempts t.store).length + _ at covered
    omega
  case covered =>
    intro b (le : (t.store.looked t.store.store).now - hours 1 ≤ b)
    have covered := invariant.covered b (by omega)
    change (after b (t.store.lookups ++ [t.store.now])).length ≤ (after b t.store.stored).length +
      (Staged.clients (·.lookedUp) (Function.update t.stage i .reads)).card
    have one := length_after_concat_le b t.store.now t.store.lookups
    rw [looked]
    omega
  case budget =>
    intro some
    rw [flying] at some ⊢
    have budget := invariant.budget some
    have fewer : (recentAttempts (t.store.looked t.store.store)).length ≤
        (recentAttempts t.store).length := length_after_le (by omega) _
    exact (Nat.add_le_add_right fewer _).trans budget
  case lists =>
    refine invariant.lists_update (fun b le => ⟨?_, le_rfl⟩) fun _ saves => nomatch saves
    exact (Int.sub_le_sub_right now_le _).trans le

/-- A failure is recorded, by a client that has read all others of the last hour. -/
theorem AttemptsInvariant.save {failedAttempts : List Int}
    (here : t.stage i = .saves failedAttempts)
    (careful : (recentAttempts t.store).Sublist failedAttempts) (inFlight : c.inFlight = false) :
    AttemptsInvariant
      ⟨Stage.act uid (.saves failedAttempts) t.store, Function.update t.stage i c⟩ := by
  have lookedUp := Stage.lookedUp_of_inFlight inFlight
  have now_le : t.store.now ≤ (Stage.act uid (.saves failedAttempts) t.store).now :=
    invariant.clock (Nat.le_succ _)
  have flying : (Staged.clients (·.inFlight) (Function.update t.stage i c)).card + 1 =
      (Staged.clients (·.inFlight) t.stage).card :=
    Staged.card_leave (by rw [here]; rfl) (by rw [inFlight]; exact Bool.false_ne_true)
  have looked : (Staged.clients (·.lookedUp) (Function.update t.stage i c)).card + 1 =
      (Staged.clients (·.lookedUp) t.stage).card :=
    Staged.card_leave (by rw [here]; rfl) (by rw [lookedUp]; exact Bool.false_ne_true)
  have stored : (Stage.act uid (.saves failedAttempts) t.store).stored =
      failedAttempts ++ [t.store.now] := rfl
  have read : ∀ b, t.store.now - hours 1 ≤ b →
      (after b t.store.stored).length ≤ (after b failedAttempts).length := by
    intro b le
    have same : after b (recentAttempts t.store) = after b t.store.stored :=
      after_after (by exact le) t.store.stored
    rw [← same]
    exact (careful.filter _).length_le
  constructor
  case clock => exact invariant.clock
  case past =>
    intro time listed
    exact (invariant.past time listed).trans now_le
  case sparse => exact invariant.sparse
  case covered =>
    intro b (le : (Stage.act uid (.saves failedAttempts) t.store).now - hours 1 ≤ b)
    have covered := invariant.covered b (by omega)
    have read := read b (by omega)
    change (after b t.store.lookups).length ≤ (after b (failedAttempts ++ [t.store.now])).length +
      (Staged.clients (·.lookedUp) (Function.update t.stage i c)).card
    by_cases later : b < t.store.now
    · rw [after_concat _ later, List.length_append, List.length_singleton]
      omega
    · rw [after_eq_nil fun time listed => (invariant.past time listed).trans (not_lt.mp later)]
      exact Nat.zero_le _
  case budget =>
    intro _
    have budget := invariant.budget (by omega)
    have fewer : (recentAttempts (Stage.act uid (.saves failedAttempts) t.store)).length ≤
        (after (t.store.now - hours 1) (failedAttempts ++ [t.store.now])).length :=
      length_after_le (Int.sub_le_sub_right now_le _) _
    have lists : (after (t.store.now - hours 1) failedAttempts).length ≤
        (recentAttempts t.store).length := invariant.lists i failedAttempts here _ le_rfl
    have one := length_after_concat_le (t.store.now - hours 1) t.store.now failedAttempts
    change (recentAttempts (Stage.act uid (.saves failedAttempts) t.store)).length +
      (Staged.clients (·.inFlight) (Function.update t.stage i c)).card ≤ 5
    omega
  case lists =>
    refine invariant.lists_update (fun b le => ?_) fun later saves =>
      absurd saves (Stage.ne_saves inFlight later)
    have before : t.store.now - hours 1 ≤ b := (Int.sub_le_sub_right now_le _).trans le
    exact ⟨before, (read b before).trans (length_after_le_concat b t.store.now failedAttempts)⟩

/-- A careful move preserves the invariant. -/
theorem AttemptsInvariant.move (careful : CarefulMove t i) :
    AttemptsInvariant ((Stage.machine uid).move t i) := by
  change AttemptsInvariant ⟨Stage.act uid (t.stage i) t.store,
    Function.update t.stage i (Stage.next uid (t.stage i) t.store)⟩
  unfold CarefulMove at careful
  cases before : (t.stage i).inFlight with
  | false =>
      by_cases allowed : t.stage i = .admits .counts ∧
        (recentAttempts t.store).length < maxAttemptsPerHour
      · obtain ⟨here, few⟩ := allowed
        rw [here] at careful ⊢
        have next : Stage.next uid (.admits .counts) t.store = .looksUp := by
          simp only [Stage.next, Check.next, decide_eq_true_eq, if_pos few]
        rw [next]
        exact invariant.allow before (careful few)
      · have after : (Stage.next uid (t.stage i) t.store).inFlight = false :=
          Stage.next_inFlight before t.store fun here few => allowed ⟨here, few⟩
        apply invariant.quiet (Stage.aged invariant.clock careful before)
        · rw [before, after]
        · rw [Stage.lookedUp_of_inFlight before, Stage.lookedUp_of_inFlight after]
        · exact fun later saves => absurd saves (Stage.ne_saves after later)
  | true =>
      cases here : t.stage i with
      | looksUp => exact invariant.lookUp here
      | reads =>
          have aged := aged_saveRecent invariant.clock
          refine invariant.quiet aged (by rw [here]; rfl) (by rw [here]; rfl) ?_
          intro failedAttempts saves b _
          obtain rfl := Stage.saves.inj saves
          change _ ≤ (after b (saveRecent t.store).stored).length
          rw [stored_saveRecent]
      | saves failedAttempts =>
          rw [here] at careful
          refine invariant.save here careful ?_
          simp only [Stage.next]
          split
          · rfl
          · rfl
      | _ => rw [here] at before; cases before

end Move

/-- Submissions of codes by one user, none of which has begun. -/
def submissions (uid : UserId) (code : ι → String) (d : Phone) : Pool ι Phone Err Unit where
  store := d
  thread i := reopenTrustCode uid (code i)

/-- The same, as stages. -/
def submissionStages (ι : Type) (d : Phone) : Staged ι Phone Stage where
  store := d
  stage _ := .admits .starts

omit [Fintype ι] in
/-- The submissions of wrong codes go through the stages. -/
theorem submissions_follow {code : ι → String} {d : Phone} (wrong : ∀ i, Stage.Wrong (code i) d)
    (schedule : List ι) :
    ((submissions uid code d).play schedule).store =
      (run (Stage.machine uid).move (submissionStages ι d) schedule).store := by
  have start : Stages.Follows (fun d => ∀ i, Stage.Wrong (code i) d)
      (fun i => Stage.program uid (code i)) (submissions uid code d) (submissionStages ι d) :=
    ⟨rfl, fun _ => rfl, wrong⟩
  refine (start.play (fun i c => ?_) (fun c d wrong i doc listed => ?_) schedule).store
  · exact (Stage.runs c).mono fun d wrong => wrong i
  · rw [Stage.machine, Stage.codes_act] at listed
    exact wrong i doc listed

omit [DecidableEq ι] in
/-- Before anything is looked up the invariant holds. -/
theorem attemptsInvariant_start {d : Phone} (monotone : Monotone d.clock)
    (fresh : d.lookups = []) : AttemptsInvariant (submissionStages ι d) := by
  constructor
  case clock => exact monotone
  case past =>
    intro time (listed : time ∈ d.lookups)
    rw [fresh] at listed
    cases listed
  case sparse =>
    change Sparse (hours 1) 5 d.lookups
    rw [fresh]
    exact each_nil
  case covered =>
    intro b _
    change (after b d.lookups).length ≤ _
    rw [fresh]
    exact Nat.zero_le _
  case budget =>
    intro some
    obtain ⟨i, member⟩ := Finset.card_pos.mp some
    cases Staged.mem_clients.mp member
  case lists => exact fun _ _ saves => nomatch saves

/-- **However many submissions of wrong codes overlap, no half-open hour sees more than five
codes looked up, if every move is a careful one.** -/
theorem lookups_limited {code : ι → String} {d : Phone} (monotone : Monotone d.clock)
    (fresh : d.lookups = []) (wrong : ∀ i, Stage.Wrong (code i) d) {schedule : List ι}
    (careful : Along (Stage.machine uid).move CarefulMove (submissionStages ι d) schedule)
    (w : Int) :
    (((submissions uid code d).play schedule).store.lookups.countP
      fun time => w ≤ time ∧ time < w + hours 1) ≤ 5 := by
  rw [submissions_follow wrong]
  have invariant := all_reached (fun _ _ => AttemptsInvariant.move)
    (attemptsInvariant_start (ι := ι) monotone fresh) careful _ (.run _ _)
  exact invariant.sparse.countP_Ico_le w

end Runs

/-- A phone whose clock shows the number of its readings, in microseconds. -/
def tickingPhone : Phone where
  store := .ofUsers ⟨[], List.nodup_nil⟩
  prefs := {}
  clock reading := reading
  readings := 0
  lookups := []

theorem tickingPhone_monotone : Monotone tickingPhone.clock :=
  fun _ _ le => Int.ofNat_le.mpr le

theorem tickingPhone_wrong : Stage.Wrong "z" tickingPhone :=
  fun _ listed => nomatch listed

/-- Two submissions are allowed, both codes are looked up, and then the failures are recorded. -/
theorem twoAtOnce_limited :
    (((submissions "u" (fun _ : Fin 2 => "z") tickingPhone).play
        [0, 0, 1, 1, 0, 1, 0, 0, 1, 1]).store.lookups.countP
      fun time => 0 ≤ time ∧ time < 0 + hours 1) ≤ 5 :=
  lookups_limited tickingPhone_monotone rfl (fun _ => tickingPhone_wrong) (by decide) 0

/-- Six submissions are allowed before any failure is recorded. -/
theorem sixAtOnce_notLimited :
    Monotone tickingPhone.clock ∧ Stage.Wrong "z" tickingPhone ∧
      ¬ (((submissions "u" (fun _ : Fin 6 => "z") tickingPhone).play
          [0, 0, 1, 1, 2, 2, 3, 3, 4, 4, 5, 5, 0, 1, 2, 3, 4, 5]).store.lookups.countP
        fun time => 0 ≤ time ∧ time < 0 + hours 1) ≤ 5 :=
  ⟨tickingPhone_monotone, tickingPhone_wrong, by decide⟩

end TwoGather
