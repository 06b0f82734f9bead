import TwoGather.Fiesta.FormErrors

/-!
# What the two functions store

The collection of the fiestas after `createNewFiesta` and after `updateFiesta`: one document
more, one document changed, or as before. What fails later does not matter for it.
-/

namespace TwoGather

open Docs Dynamic Requests

variable {s : FormStore} {fails : FormOp → Bool} {user : Option UserId} {uid : UserId}
  {fiestaData fiestaUserData : Fields}

theorem Form.exec_answered_store (body : Form Bool) :
    ((Form.answered body).exec s).2 = (body.exec s).2 := by
  rw [Form.exec_answered]
  rcases body.exec s with ⟨outcome, t⟩
  cases outcome with
  | ok answer => rfl
  | error e => cases e <;> rfl

/-- The handler makes no success out of an error. -/
theorem Form.exec_answered_success (body : Form Bool) :
    ((Form.answered body).exec s).1 = .ok false ↔ (body.exec s).1 = .ok false := by
  rw [Form.exec_answered]
  rcases body.exec s with ⟨outcome, t⟩
  cases outcome with
  | ok answer => rfl
  | error e => cases e <;> simp

/-! ## A new fiesta -/

/-- A creation gets to its first write, and that is made. -/
structure FormStore.Stores (s : FormStore) (fails : FormOp → Bool) (uid : UserId)
    (fiestaData : Fields) : Prop where
  passes : PassesChecks fiestaData
  dates : ∃ startAt endAt, fiestaData.read "startAt" = .dateTime startAt ∧
    fiestaData.read "endAt" = .dateTime endAt ∧ startAt ≤ endAt ∧ s.now ≤ startAt
  fits : (FormController.enrichedFiestaData uid fiestaData).supported = true
  added : fails .addFiesta = false

/-- The document that it stores. -/
def FormStore.created (s : FormStore) (uid : UserId) (fiestaData : Fields) : Fields :=
  (FormController.enrichedFiestaData uid fiestaData).stored s.now

theorem storeFiesta_fiesta
    (fits : (FormController.enrichedFiestaData uid fiestaData).supported = true)
    (added : fails .addFiesta = false) :
    ((FormController.storeFiesta fails uid fiestaData fiestaUserData).exec s).2.fiesta =
      s.fiesta.add (s.created uid fiestaData) := by
  rw [exec_storeFiesta fits added]
  split
  · split
    · rfl
    · rfl
  · rfl

theorem storeFiesta_refused
    (refused : ¬ ((FormController.enrichedFiestaData uid fiestaData).supported = true ∧
      fails .addFiesta = false)) :
    ∃ e, (FormController.storeFiesta fails uid fiestaData fiestaUserData).exec s =
      (.error e, s) := by
  cases fits : (FormController.enrichedFiestaData uid fiestaData).supported with
  | false =>
      refine ⟨.argumentError, ?_⟩
      simp [FormController.storeFiesta, Form.addFiesta, Form.encoded, fits]
  | true =>
      cases added : fails .addFiesta with
      | false => exact absurd ⟨fits, added⟩ refused
      | true =>
          refine ⟨.firebaseException, ?_⟩
          simp [FormController.storeFiesta, Form.addFiesta, Form.encoded, fits, added]

/-- A creation stores the fiesta, or changes nothing and is no success. -/
theorem createNewFiesta_stores_or (fails : FormOp → Bool) (uid : UserId)
    (fiestaData fiestaUserData : Fields) :
    (s.Stores fails uid fiestaData ∧
      ((FormController.createNewFiesta fails (some uid) fiestaData fiestaUserData).exec s
        ).2.fiesta = s.fiesta.add (s.created uid fiestaData)) ∨
    ¬ s.Stores fails uid fiestaData ∧
      ((FormController.createNewFiesta fails (some uid) fiestaData fiestaUserData).exec s
        ).2 = s ∧
      ((FormController.createNewFiesta fails (some uid) fiestaData fiestaUserData).exec s
        ).1 ≠ .ok false := by
  by_cases passes : PassesChecks fiestaData
  · rcases createNewFiesta_dates (s := s) passes with
      ⟨startAt, endAt, start, finish, run⟩ | ⟨noDates, run⟩
    · rw [run, Form.exec_answered_store, Ne, Form.exec_answered_success]
      simp only [FormController.createAt, Program.exec_bind, Program.exec_ite, Program.exec_pure,
        Program.exec_read]
      by_cases order : endAt < startAt
      · refine .inr ⟨fun stores => ?_, ?_⟩
        · obtain ⟨start', end', same, same', ordered, -⟩ := stores.dates
          cases start.symm.trans same
          cases finish.symm.trans same'
          exact absurd order (Int.not_lt.mpr ordered)
        · simp [order]
      · by_cases past : startAt < s.now
        · refine .inr ⟨fun stores => ?_, ?_⟩
          · obtain ⟨start', end', same, -, -, coming⟩ := stores.dates
            cases start.symm.trans same
            exact absurd past (Int.not_lt.mpr coming)
          · simp [order, past]
        · rw [if_neg order, if_neg past]
          by_cases both : (FormController.enrichedFiestaData uid fiestaData).supported = true ∧
              fails .addFiesta = false
          · refine .inl ⟨⟨passes, ⟨startAt, endAt, start, finish, Int.not_lt.mp order,
              Int.not_lt.mp past⟩, both.1, both.2⟩, ?_⟩
            exact storeFiesta_fiesta both.1 both.2
          · have refused : ∃ e, (FormController.storeFiesta fails uid fiestaData
                fiestaUserData).exec s = (.error e, s) := storeFiesta_refused both
            obtain ⟨e, run⟩ := refused
            rw [run]
            exact .inr ⟨fun stores => both ⟨stores.fits, stores.added⟩, rfl, by simp⟩
    · rw [run]
      refine .inr ⟨fun stores => ?_, rfl, by simp⟩
      obtain ⟨startAt, endAt, start, finish, -⟩ := stores.dates
      exact noDates ⟨startAt, endAt, start, finish⟩
  · rw [exec_createNewFiesta_refused passes]
    exact .inr ⟨fun stores => passes stores.passes, rfl, by simp⟩

/-! ## An update -/

/-- The update of the fiesta is made. -/
def Updates (fails : FormOp → Bool) (changes : List (Path × Value)) : Prop :=
  Form.supportedChanges changes = true ∧ fails .updateFiesta = false

theorem updateCreated_fiesta (id : Nat) (userChanges : List (Path × Value)) :
    ((FormController.updateCreated fails user id userChanges).exec s).2.fiesta = s.fiesta := by
  unfold FormController.updateCreated
  cases user with
  | none => rfl
  | some uid =>
      dsimp only
      cases fails .findHistory with
      | true => rfl
      | false =>
          have read : (Form.findHistory false uid id).exec s = (.ok (s.history uid id), s) := rfl
          rw [Program.exec_bind, read]
          cases s.history uid id with
          | none => rfl
          | some key =>
              dsimp only
              unfold Form.updateHistory Form.encoded
              cases Form.supportedChanges userChanges with
              | false => rfl
              | true => cases fails .updateHistory <;> rfl

/-- An update changes the document of the fiesta, if there is one, or nothing. -/
theorem updateFiesta_fiesta (fails : FormOp → Bool) (user : Option UserId) (id : Nat)
    (changes userChanges : List (Path × Value)) :
    (Updates fails changes →
      ((FormController.updateFiesta fails user id changes userChanges).exec s).2.fiesta =
        s.fiesta.update id (s.changed changes)) ∧
    (¬ Updates fails changes →
      ((FormController.updateFiesta fails user id changes userChanges).exec s).2.fiesta =
        s.fiesta) := by
  cases fits : Form.supportedChanges changes with
  | false =>
      refine ⟨fun made => absurd (fits.symm.trans made.1) (by decide), fun _ => ?_⟩
      unfold FormController.updateFiesta
      rw [Form.exec_answered_store, Program.exec_bind]
      unfold Form.updateFiesta Form.encoded
      rw [fits]
      rfl
  | true =>
      cases found : s.fiesta.get? id with
      | none =>
          have run : (FormController.updateFiesta fails user id changes userChanges).exec s =
              (.ok true, s) := exec_updateFiesta_fails fits fun _ => found
          rw [run]
          refine ⟨fun _ => ?_, fun _ => rfl⟩
          symm
          apply AutoCollection.update_of_fixed
          rw [found]
          intro d there
          cases there
      | some data =>
          cases made : fails .updateFiesta with
          | true =>
              have run : (FormController.updateFiesta fails user id changes userChanges).exec s =
                  (.ok true, s) :=
                exec_updateFiesta_fails fits fun there => by cases made.symm.trans there
              rw [run]
              refine ⟨fun updates => ?_, fun _ => rfl⟩
              cases made.symm.trans updates.2
          | false =>
              refine ⟨fun _ => ?_, fun not => absurd ⟨fits, made⟩ not⟩
              rw [exec_updateFiesta_made fits made found, Form.exec_answered_store,
                updateCreated_fiesta]
              rfl

end TwoGather
