import TwoGather.Fiesta.FormController

/-!
# What the form is told about an error

`createNewFiesta` and `updateFiesta` write to two collections, one after the other. The second
write may fail when the first one is stored, and then the answer is an error although the
fiesta is there; and casts, a missing history document and values without a form for the
database raise errors that the handler does not take.

`formErrors_iff` says exactly when both functions answer with a boolean, and with an error
only when nothing has changed.
-/

namespace TwoGather

open Docs Dynamic Requests

/-! ## Faithful answers -/

/-- A run from `s` answers with a boolean, and if that is an error, the two collections are as
before. -/
structure ReportsFaithfully (s : FormStore) (currentUser : Option UserId)
    (result : Except FormErr Bool × FormStore) : Prop where
  returns : ∃ answer, result.1 = .ok answer
  unchanged : result.1 = .ok true → result.2.fiesta = s.fiesta ∧
    ∀ uid ∈ currentUser, result.2.createdFiesta uid = s.createdFiesta uid

section Answers

variable {s t : FormStore} {user : Option UserId}

theorem ReportsFaithfully.success : ReportsFaithfully s user (.ok false, t) where
  returns := ⟨false, rfl⟩
  unchanged error := by cases error

theorem ReportsFaithfully.nothing : ReportsFaithfully s user (.ok true, s) where
  returns := ⟨true, rfl⟩
  unchanged _ := ⟨rfl, fun _ _ => rfl⟩

theorem not_reportsFaithfully_error (e : FormErr) : ¬ ReportsFaithfully s user (.error e, t) := by
  intro faithful
  obtain ⟨answer, same⟩ := faithful.returns
  cases same

end Answers

/-- The handler answers `true` where the database has refused something. -/
theorem Form.exec_answered (body : Form Bool) (s : FormStore) :
    (Form.answered body).exec s =
      match body.exec s with
      | (.error .firebaseException, t) => (.ok true, t)
      | result => result := by
  unfold Form.answered
  rw [Program.exec_tryCatch]
  rcases body.exec s with ⟨outcome, t⟩
  cases outcome with
  | ok answer => rfl
  | error e => cases e <;> rfl

/-! ## A new fiesta -/

/-- The data pass the checks that come before the casts. -/
def PassesChecks (fiestaData : Fields) : Prop :=
  (∀ field ∈ FormController.requiredFields,
    FormController.isNull (fiestaData.read field) = false) ∧
  FormController.isEmptyList (fiestaData.read "pictures") = false

/-- The writes of a new fiesta can be reported faithfully: its values have a form, and if the
first write is made, the second one is made too. -/
def WritesBoth (fails : FormOp → Bool) (uid : UserId) (id : Nat)
    (fiestaData fiestaUserData : Fields) : Prop :=
  (FormController.enrichedFiestaData uid fiestaData).supported = true ∧
    (fails .addFiesta = false →
      (FormController.enrichedUserData id fiestaUserData).supported = true ∧
        fails .addHistory = false)

section Create

variable {s : FormStore} {fails : FormOp → Bool} {uid : UserId} {fiestaData fiestaUserData : Fields}

/-- The store with the new fiesta. -/
def FormStore.withFiesta (s : FormStore) (data : Fields) : FormStore :=
  { s with fiesta := s.fiesta.add (data.stored s.now) }

theorem withFiesta_ne (data : Fields) : (s.withFiesta data).fiesta ≠ s.fiesta := by
  intro same
  have longer := congrArg AutoCollection.next same
  exact absurd longer (Nat.succ_ne_self _)

/-- The points and the salon leave the two collections alone, whatever becomes of them. -/
theorem exec_bestEffort :
    (do
      Program.unawaited (Form.attempt (fails .points) (pure ()))
      Program.unawaited
        (do
          let _ ← Form.asString (FormController.salonName fiestaData)
          Form.attempt (fails .addSalon) (pure ()))
      return false : Form Bool).exec s = (.ok false, s) := by
  have points : ((Form.attempt (fails .points) (pure ()) : Form Unit).exec s).2 = s := by
    cases fails .points with
    | true => rfl
    | false => rfl
  have salon : ((do
      let _ ← Form.asString (FormController.salonName fiestaData)
      Form.attempt (fails .addSalon) (pure ()) : Form Unit).exec s).2 = s := by
    cases fails .addSalon with
    | true => cases FormController.salonName fiestaData <;> rfl
    | false => cases FormController.salonName fiestaData <;> rfl
  rw [Program.exec_bind, Program.exec_unawaited, points]
  dsimp only
  rw [Program.exec_bind, Program.exec_unawaited, salon]
  rfl

theorem exec_storeFiesta (fits : (FormController.enrichedFiestaData uid fiestaData).supported)
    (added : fails .addFiesta = false) :
    (FormController.storeFiesta fails uid fiestaData fiestaUserData).exec s =
      if (FormController.enrichedUserData s.fiesta.next fiestaUserData).supported then
        if fails .addHistory then
          (.error .firebaseException,
            s.withFiesta (FormController.enrichedFiestaData uid fiestaData))
        else
          (.ok false,
            { s.withFiesta (FormController.enrichedFiestaData uid fiestaData) with
              createdFiesta := Function.update s.createdFiesta uid ((s.createdFiesta uid).add
                ((FormController.enrichedUserData s.fiesta.next fiestaUserData).stored s.now)) })
      else
        (.error .argumentError,
          s.withFiesta (FormController.enrichedFiestaData uid fiestaData)) := by
  have first : (Form.addFiesta (fails .addFiesta)
      (FormController.enrichedFiestaData uid fiestaData)).exec s =
      (.ok s.fiesta.next, s.withFiesta (FormController.enrichedFiestaData uid fiestaData)) := by
    simp [Form.addFiesta, Form.encoded, fits, added, FormStore.withFiesta]
  unfold FormController.storeFiesta
  rw [Program.exec_bind, first]
  dsimp only
  rw [Program.exec_bind]
  unfold Form.addHistory Form.encoded
  cases (FormController.enrichedUserData s.fiesta.next fiestaUserData).supported with
  | false => rfl
  | true =>
      cases fails .addHistory with
      | true => rfl
      | false => exact exec_bestEffort

theorem storeFiesta_faithful_iff :
    ReportsFaithfully s (some uid)
      ((Form.answered
        (FormController.storeFiesta fails uid fiestaData fiestaUserData)).exec s) ↔
      WritesBoth fails uid s.fiesta.next fiestaData fiestaUserData := by
  unfold WritesBoth
  rw [Form.exec_answered]
  cases fits : (FormController.enrichedFiestaData uid fiestaData).supported with
  | false =>
      have run : (FormController.storeFiesta fails uid fiestaData fiestaUserData).exec s =
          (.error .argumentError, s) := by
        simp [FormController.storeFiesta, Form.addFiesta, Form.encoded, fits]
      rw [run]
      exact iff_of_false (not_reportsFaithfully_error _) fun both => by cases both.1
  | true =>
      cases added : fails .addFiesta with
      | true =>
          have run : (FormController.storeFiesta fails uid fiestaData fiestaUserData).exec s =
              (.error .firebaseException, s) := by
            simp [FormController.storeFiesta, Form.addFiesta, Form.encoded, fits, added]
          rw [run]
          exact iff_of_true .nothing ⟨rfl, fun none => by cases none⟩
      | false =>
          rw [exec_storeFiesta fits added]
          cases (FormController.enrichedUserData s.fiesta.next fiestaUserData).supported with
          | false =>
              refine iff_of_false (not_reportsFaithfully_error _) fun both => ?_
              cases (both.2 rfl).1
          | true =>
              cases fails .addHistory with
              | true =>
                  refine iff_of_false (fun faithful => ?_) fun both => by cases (both.2 rfl).2
                  exact withFiesta_ne _ (faithful.unchanged rfl).1
              | false => exact iff_of_true .success ⟨rfl, fun _ => ⟨rfl, rfl⟩⟩

/-- A creation is reported faithfully: data that pass the checks have two dates, and where these
pass too, the writes can be reported. -/
def FormStore.CreatesFaithfully (s : FormStore) (fails : FormOp → Bool)
    (currentUser : Option UserId) (fiestaData fiestaUserData : Fields) : Prop :=
  ∀ uid ∈ currentUser, PassesChecks fiestaData →
    ∃ startAt endAt, fiestaData.read "startAt" = .dateTime startAt ∧
      fiestaData.read "endAt" = .dateTime endAt ∧
      (startAt ≤ endAt → s.now ≤ startAt →
        WritesBoth fails uid s.fiesta.next fiestaData fiestaUserData)

theorem exec_asDateTime (v : Value) :
    (∃ micros, v = .dateTime micros ∧ (Form.asDateTime v).exec s = (.ok micros, s)) ∨
      (∀ micros, v ≠ .dateTime micros) ∧ (Form.asDateTime v).exec s = (.error .typeError, s) := by
  cases v with
  | dateTime micros => exact .inl ⟨micros, rfl, rfl⟩
  | _ => exact .inr ⟨(fun _ same => by cases same), rfl⟩

/-- A creation that is refused by a check. -/
theorem exec_createNewFiesta_refused (refused : ¬ PassesChecks fiestaData) :
    (FormController.createNewFiesta fails (some uid) fiestaData fiestaUserData).exec s =
      (.ok true, s) := by
  unfold FormController.createNewFiesta
  rw [Form.exec_answered]
  dsimp only
  cases missing : FormController.requiredFields.any fun field =>
      FormController.isNull (fiestaData.read field) with
  | true => simp
  | false =>
      cases empty : FormController.isEmptyList (fiestaData.read "pictures") with
      | true => simp
      | false =>
          refine absurd ⟨fun field listed => ?_, empty⟩ refused
          simpa using List.any_eq_false.mp missing field listed

/-- One that passes them goes on with the dates. -/
theorem createNewFiesta_passes (passes : PassesChecks fiestaData) :
    FormController.createNewFiesta fails (some uid) fiestaData fiestaUserData =
      Form.answered (do
        let startAt ← Form.asDateTime (fiestaData.read "startAt")
        let endAt ← Form.asDateTime (fiestaData.read "endAt")
        FormController.createAt fails uid fiestaData fiestaUserData startAt endAt) := by
  have present : (FormController.requiredFields.any fun field =>
      FormController.isNull (fiestaData.read field)) = false := by
    rw [List.any_eq_false]
    intro field listed
    simp [passes.1 field listed]
  unfold FormController.createNewFiesta
  dsimp only
  rw [present, passes.2]
  rfl

/-- It goes on with two dates, or ends with a cast that fails. -/
theorem createNewFiesta_dates (passes : PassesChecks fiestaData) :
    (∃ startAt endAt, fiestaData.read "startAt" = .dateTime startAt ∧
      fiestaData.read "endAt" = .dateTime endAt ∧
      (FormController.createNewFiesta fails (some uid) fiestaData fiestaUserData).exec s =
        (Form.answered (FormController.createAt fails uid fiestaData fiestaUserData startAt
          endAt)).exec s) ∨
    (¬ ∃ startAt endAt, fiestaData.read "startAt" = .dateTime startAt ∧
      fiestaData.read "endAt" = .dateTime endAt) ∧
      (FormController.createNewFiesta fails (some uid) fiestaData fiestaUserData).exec s =
        (.error .typeError, s) := by
  rw [createNewFiesta_passes passes, Form.exec_answered]
  rcases exec_asDateTime (s := s) (fiestaData.read "startAt") with
    ⟨startAt, start, readStart⟩ | ⟨noStart, error⟩
  · rcases exec_asDateTime (s := s) (fiestaData.read "endAt") with
      ⟨endAt, finish, readEnd⟩ | ⟨noEnd, error⟩
    · refine .inl ⟨startAt, endAt, start, finish, ?_⟩
      simp only [Program.exec_bind, readStart, readEnd]
      rw [Form.exec_answered]
    · simp only [Program.exec_bind, readStart, error]
      refine .inr ⟨?_, trivial⟩
      rintro ⟨_, endAt, -, finish⟩
      exact noEnd endAt finish
  · simp only [Program.exec_bind, error]
    refine .inr ⟨?_, trivial⟩
    rintro ⟨startAt, _, start, -⟩
    exact noStart startAt start

theorem createAt_faithful_iff (startAt endAt : Int) :
    ReportsFaithfully s (some uid)
      ((Form.answered
        (FormController.createAt fails uid fiestaData fiestaUserData startAt endAt)).exec s) ↔
      (startAt ≤ endAt → s.now ≤ startAt →
        WritesBoth fails uid s.fiesta.next fiestaData fiestaUserData) := by
  rw [Form.exec_answered]
  unfold FormController.createAt
  simp only [Program.exec_bind, Program.exec_ite, Program.exec_pure, Program.exec_read]
  by_cases order : endAt < startAt
  · rw [if_pos order]
    exact iff_of_true .nothing fun ordered => absurd order (Int.not_lt.mpr ordered)
  · rw [if_neg order, forall_prop_of_true (Int.not_lt.mp order)]
    by_cases past : startAt < s.now
    · rw [if_pos past]
      exact iff_of_true .nothing fun coming => absurd past (Int.not_lt.mpr coming)
    · rw [if_neg past, forall_prop_of_true (Int.not_lt.mp past), ← storeFiesta_faithful_iff,
        Form.exec_answered]

theorem createNewFiesta_faithful_iff (user : Option UserId) :
    ReportsFaithfully s user
      ((FormController.createNewFiesta fails user fiestaData fiestaUserData).exec s) ↔
      s.CreatesFaithfully fails user fiestaData fiestaUserData := by
  unfold FormStore.CreatesFaithfully
  cases user with
  | none => exact iff_of_true .nothing fun _ none => by cases none
  | some uid =>
      simp only [Option.mem_def, Option.some.injEq, forall_eq']
      by_cases passes : PassesChecks fiestaData
      · rw [forall_prop_of_true passes]
        rcases createNewFiesta_dates (s := s) passes with
          ⟨startAt, endAt, start, finish, run⟩ | ⟨noDates, run⟩
        · rw [run, createAt_faithful_iff]
          simp [start, finish]
        · rw [run]
          refine iff_of_false (not_reportsFaithfully_error _) ?_
          rintro ⟨startAt, endAt, start, finish, -⟩
          exact noDates ⟨startAt, endAt, start, finish⟩
      · rw [exec_createNewFiesta_refused passes]
        exact iff_of_true .nothing fun passed => absurd passed passes

end Create

/-! ## An update -/

section Update

variable {s : FormStore} {fails : FormOp → Bool} {user : Option UserId} {id : Nat}
  {changes userChanges : List (Path × Value)} {data : Fields}

/-- The history document that is found. -/
def FormStore.history (s : FormStore) (uid : UserId) (id : Nat) : Option Nat :=
  ((s.createdFiesta uid).docs.find? fun doc => Form.hasId id doc.2).map Prod.fst

/-- The document of the fiesta after the update. -/
def FormStore.changed (s : FormStore) (changes : List (Path × Value)) (data : Fields) : Fields :=
  data.change (Form.storedChanges s.now changes)

/-- An update is reported faithfully: its values have a form, and if the first update is made, the
user is known, a history document is found, its values have a form too, and an error of the
database after that comes when the first update has changed nothing. -/
def FormStore.UpdatesFaithfully (s : FormStore) (fails : FormOp → Bool) (user : Option UserId)
    (id : Nat) (changes userChanges : List (Path × Value)) : Prop :=
  Form.supportedChanges changes = true ∧
    ∀ data, fails .updateFiesta = false → s.fiesta.get? id = some data → ∃ uid, user = some uid ∧
      if fails .findHistory then s.changed changes data = data
      else (s.history uid id).isSome ∧ Form.supportedChanges userChanges = true ∧
        (fails .updateHistory = true → s.changed changes data = data)

/-- The store after the first update. -/
def FormStore.updated (s : FormStore) (id : Nat) (changes : List (Path × Value)) : FormStore :=
  { s with fiesta := s.fiesta.update id (s.changed changes) }

theorem updated_fiesta_iff (found : s.fiesta.get? id = some data) :
    (s.updated id changes).fiesta = s.fiesta ↔ s.changed changes data = data := by
  constructor
  · intro same
    have read := congrArg (fun c : AutoCollection Fields => c.get? id) same
    simp only [FormStore.updated, AutoCollection.get?_update, if_true, found, Option.map_some,
      Option.some.injEq] at read
    exact read
  · intro fixed
    apply AutoCollection.update_of_fixed
    intro other foundOther
    cases found.symm.trans foundOther
    exact fixed

/-- An error after the first update is faithful if that has changed nothing. -/
theorem updated_faithful_iff (found : s.fiesta.get? id = some data) :
    ReportsFaithfully s user (.ok true, s.updated id changes) ↔ s.changed changes data = data := by
  rw [← updated_fiesta_iff found]
  constructor
  · exact fun faithful => (faithful.unchanged rfl).1
  · exact fun same => ⟨⟨true, rfl⟩, fun _ => ⟨same, fun _ _ => rfl⟩⟩

theorem exec_updateFiesta_made (fits : Form.supportedChanges changes = true)
    (made : fails .updateFiesta = false) (found : s.fiesta.get? id = some data) :
    (FormController.updateFiesta fails user id changes userChanges).exec s =
      (Form.answered (FormController.updateCreated fails user id userChanges)).exec
        (s.updated id changes) := by
  have first : (Form.updateFiesta (fails .updateFiesta) id changes).exec s =
      (.ok (), s.updated id changes) := by
    simp only [Form.updateFiesta, Form.encoded, fits, made, if_true, Program.exec_bind,
      Program.exec_pure, Program.attempt_false, Program.exec_step, found, Option.isSome_some]
    rfl
  unfold FormController.updateFiesta
  rw [Form.exec_answered, Form.exec_answered, Program.exec_bind, first]

/-- An update that is not made changes nothing. -/
theorem exec_updateFiesta_fails (fits : Form.supportedChanges changes = true)
    (stays : fails .updateFiesta = false → s.fiesta.get? id = none) :
    (FormController.updateFiesta fails user id changes userChanges).exec s = (.ok true, s) := by
  unfold FormController.updateFiesta
  rw [Form.exec_answered, Program.exec_bind]
  cases made : fails .updateFiesta with
  | true => simp [Form.updateFiesta, Form.encoded, fits]
  | false =>
      have missing := stays made
      have same : s.fiesta.update id (fun x => x.change (Form.storedChanges s.now changes)) =
          s.fiesta := by
        apply AutoCollection.update_of_fixed
        rw [missing]
        intro d found
        cases found
      simp [Form.updateFiesta, Form.encoded, fits, missing, same]

theorem updateCreated_faithful_iff (found : s.fiesta.get? id = some data) :
    ReportsFaithfully s user
      ((Form.answered (FormController.updateCreated fails user id userChanges)).exec
        (s.updated id changes)) ↔
      ∃ uid, user = some uid ∧
        if fails .findHistory then s.changed changes data = data
        else (s.history uid id).isSome ∧ Form.supportedChanges userChanges = true ∧
          (fails .updateHistory = true → s.changed changes data = data) := by
  unfold FormController.updateCreated
  rw [Form.exec_answered]
  cases user with
  | none =>
      refine iff_of_false (not_reportsFaithfully_error _) fun both => ?_
      obtain ⟨uid, none, -⟩ := both
      cases none
  | some uid =>
      simp only [Option.some.injEq, exists_eq_left']
      cases find : fails .findHistory with
      | true => exact updated_faithful_iff found
      | false =>
          have read : (Form.findHistory false uid id).exec (s.updated id changes) =
              (.ok (s.history uid id), s.updated id changes) := rfl
          rw [Program.exec_bind, read]
          cases s.history uid id with
          | none => exact iff_of_false (not_reportsFaithfully_error _) fun both => by cases both.1
          | some key =>
              dsimp only
              unfold Form.updateHistory Form.encoded
              cases Form.supportedChanges userChanges with
              | false =>
                  exact iff_of_false (not_reportsFaithfully_error _) fun both => by cases both.2.1
              | true =>
                  cases fails .updateHistory with
                  | true =>
                      refine (updated_faithful_iff found).trans ⟨fun same => ?_, fun both => ?_⟩
                      · exact ⟨rfl, rfl, fun _ => same⟩
                      · exact both.2.2 rfl
                  | false => exact iff_of_true .success ⟨rfl, rfl, fun none => by cases none⟩

theorem updateFiesta_faithful_iff :
    ReportsFaithfully s user
      ((FormController.updateFiesta fails user id changes userChanges).exec s) ↔
      s.UpdatesFaithfully fails user id changes userChanges := by
  unfold FormStore.UpdatesFaithfully
  cases fits : Form.supportedChanges changes with
  | false =>
      have run : (FormController.updateFiesta fails user id changes userChanges).exec s =
          (.error .argumentError, s) := by
        simp [FormController.updateFiesta, Form.exec_answered, Form.updateFiesta, Form.encoded,
          fits]
      rw [run]
      exact iff_of_false (not_reportsFaithfully_error _) fun both => by cases both.1
  | true =>
      rw [eq_self_iff_true, true_and]
      by_cases stays : fails .updateFiesta = false → s.fiesta.get? id = none
      · rw [exec_updateFiesta_fails fits stays]
        refine iff_of_true .nothing fun data made found => ?_
        rw [stays made] at found
        cases found
      · obtain ⟨made, there⟩ := Classical.not_imp.mp stays
        obtain ⟨data, found⟩ := Option.ne_none_iff_exists'.mp there
        rw [exec_updateFiesta_made fits made found, updateCreated_faithful_iff found]
        constructor
        · intro condition other _ foundOther
          cases found.symm.trans foundOther
          exact condition
        · exact fun all => all data made found

end Update

/-! ## Both functions -/

/-- **Both functions answer with a boolean, and with an error only when the two collections are
as before, exactly if the data have two dates and supported values, and no error comes after a
first write that has changed something.** -/
theorem formErrors_iff (s : FormStore) (fails : FormOp → Bool) (user : Option UserId) :
    (∀ fiestaData fiestaUserData,
      ReportsFaithfully s user
        ((FormController.createNewFiesta fails user fiestaData fiestaUserData).exec s) ↔
        s.CreatesFaithfully fails user fiestaData fiestaUserData) ∧
    ∀ id changes userChanges,
      ReportsFaithfully s user
        ((FormController.updateFiesta fails user id changes userChanges).exec s) ↔
        s.UpdatesFaithfully fails user id changes userChanges :=
  ⟨fun _ _ => createNewFiesta_faithful_iff user, fun _ _ _ => updateFiesta_faithful_iff⟩

/-! ## A history that is not written -/

def noForms : FormStore where
  fiesta := .empty
  createdFiesta _ := .empty
  now := 0

/-- A fiesta from the first to the second minute of the epoch. -/
def plainFiesta : Fields :=
  [("title", .string "t"), ("category", .string "chill"), ("soundLevel", .double 1),
    ("description", .string "d"), ("visibleAfter", .bool true),
    ("pictures", .list [.string "p.png"]), ("address", .map []), ("startAt", .dateTime 60000000),
    ("endAt", .dateTime 120000000), ("numberOfParticipant", .int 2), ("logistic", .string "l"),
    ("visibilityRadius", .int 50)]

/-- The fiesta is stored and the answer is an error; and the update of a fiesta without a history
document raises one. -/
theorem plainFiesta_unfaithful :
    ¬ ReportsFaithfully noForms (some "u")
      ((FormController.createNewFiesta (· = .addHistory) (some "u") plainFiesta []).exec
        noForms) ∧
    ¬ ReportsFaithfully (noForms.withFiesta plainFiesta) (some "u")
      ((FormController.updateFiesta (fun _ => false) (some "u") 0 [] []).exec
        (noForms.withFiesta plainFiesta)) := by
  refine ⟨fun faithful => ?_, fun faithful => ?_⟩
  · have same := (faithful.unchanged rfl).1
    have length := congrArg AutoCollection.next same
    cases length
  · obtain ⟨answer, same⟩ := faithful.returns
    cases same

end TwoGather
