import TwoGather.Report.Points

/-!
# How long a report lives

`ReportModel.toJson` writes the duration of a report in microseconds, and the cleaning job
subtracts what it reads as seconds. The job also takes the field `point` of the report,
which `reportUser` never writes, so it settles only where the SDK takes `NaN`.
`livesItsDuration_iff` says for which times a report that is alone in its collection lives
as long as its duration says all the same.
-/

namespace TwoGather

open Docs Requests

/-- Seconds since the epoch. -/
def Timestamp.wholeSeconds (t : Timestamp) : Int :=
  t.micros / 1000000

/-- A report set at `setAt` with the duration `d`, in microseconds, has had its time at `t`,
to the second. -/
def TimeOver (setAt : Timestamp) (d : Nat) (t : Timestamp) : Prop :=
  (setAt.micros + d) / 1000000 < t.wholeSeconds

instance (setAt : Timestamp) (d : Nat) (t : Timestamp) : Decidable (TimeOver setAt d t) :=
  inferInstanceAs (Decidable (_ < _))

/-- The cleaning run deletes the report under `k` if and only if it has had its time. -/
def Store.LivesItsDuration (s : Store) (k : Nat) (setAt : Timestamp) (d : Nat) : Prop :=
  s.Deletes k ↔ TimeOver setAt d s.clock

/-- The job can settle a report of this call: `NaN` will do, and its users exist. -/
def ReportCall.Settles (call : ReportCall) (s : Store) : Prop :=
  s.takesNaN ∧ (s.user call.id).isSome ∧ ∀ subId ∈ call.subId, (s.user subId).isSome

/-- The report is past the cut-off of the job, a million times its duration after `setAt`. -/
def Store.PastCutOff (s : Store) (setAt : Timestamp) (d : Nat) : Prop :=
  setAt.millis + 1000 * d < s.runTime

instance (call : ReportCall) (s : Store) : Decidable (call.Settles s) :=
  inferInstanceAs (Decidable (_ ∧ _ ∧ _))

instance (s : Store) (setAt : Timestamp) (d : Nat) : Decidable (s.PastCutOff setAt d) :=
  inferInstanceAs (Decidable (_ < _))

/-! ## One report -/

/-- A report that is the only one is deleted if and only if it is past its cut-off and can
be settled. -/
theorem deletes_only_iff {s : Store} {k d : Nat} {r : Report} (only : s.reports.docs = [(k, r)])
    (duration : r.duration = .value (some d)) :
    s.Deletes k ↔ s.PastCutOff r.setAt d ∧ s.CanClear r := by
  have found : s.reports.get? k = some r :=
    Collection.mem_docs.mp (only ▸ List.mem_singleton_self _)
  have late : s.runTime - 1000 * 0 ≤ Js.maxTime := by
    have := s.clock.late
    unfold Store.runTime Js.maxTime
    omega
  have seconds : r.seconds = d := by
    rw [Report.seconds, duration]
    rfl
  have cutOff : r.setAt.millis < s.runTime - 1000 * (0 + r.seconds) ↔ s.PastCutOff r.setAt d := by
    rw [seconds, Store.PastCutOff]
    omega
  rw [deletes_iff, only, afterLoop_cons late d duration]
  simp only [cutOff]
  split
  case isTrue past =>
      by_cases can : s.CanClear r
      · obtain ⟨u, run, deleted, -⟩ := @settleReport_ok s (k, r) can
        have gone : u.reports.get? k = none := by
          rw [deleted, AutoCollection.get?_delete, if_pos rfl]
        simp [run, Store.afterLoop, cleanLoop, gone, past, can]
      · obtain ⟨e, u, run, kept⟩ := @settleReport_error s (k, r) can
        simp [run, kept, found, can]
  case isFalse past =>
      simp [Store.afterLoop, cleanLoop, found, past]

/-- No number can be taken from the field `point`, which a stored report does not have. -/
theorem canSettle_undefined (s : Store) (u : UserId) :
    s.CanSettle u .undefined ↔ s.takesNaN ∧ (s.user u).isSome := by
  constructor
  · rintro ⟨data, found, any | ⟨-, number⟩⟩
    · exact ⟨any, Option.isSome_of_mem found⟩
    · cases number
  · rintro ⟨any, exist⟩
    obtain ⟨data, found⟩ := Option.isSome_iff_exists.mp exist
    exact ⟨data, found, .inl any⟩

theorem canClear_storedReport (call : ReportCall) (s : Store) (setAt : Timestamp)
    (image : Stored String) :
    s.CanClear (storedReport call.sender call.id call.subId call.report call.message setAt image) ↔
      call.Settles s := by
  unfold Store.CanClear ReportCall.Settles
  have second : ∀ subId, Stored.ofOption call.subId = .value subId ↔ subId ∈ call.subId := by
    intro subId
    rw [← Stored.get?_eq_some, Stored.get?_ofOption, Option.mem_def]
  simp only [storedReport, canSettle_undefined, second]
  constructor
  · rintro ⟨⟨any, first⟩, others⟩
    exact ⟨any, first, fun subId is => (others subId is).2⟩
  · rintro ⟨any, first, others⟩
    exact ⟨⟨any, first⟩, fun subId is => ⟨any, others subId is⟩⟩

/-- Past a cut-off that is later than the end of its duration, the report has had its time. -/
theorem due_of_pastCutOff {s : Store} {setAt : Timestamp} {d : Nat} (some : 0 < d)
    (past : s.PastCutOff setAt d) : TimeOver setAt d s.clock := by
  unfold Store.PastCutOff Store.runTime Timestamp.millis at past
  unfold TimeOver Timestamp.wholeSeconds
  omega

/-! ## The report of a call -/

/-- **Where the report that a call filed is the only one, a cleaning run deletes it exactly
when it has had its time if and only if: it has, the job can settle it, and a million times
its duration has passed; or it has not, and it is no settled report without any duration
that was set earlier in the same second.** -/
theorem livesItsDuration_iff (call : ReportCall) (d : Nat) (filed later : Store)
    (duration : call.report.duration = some (d : Int)) (empty : filed.reports.docs = [])
    (stores : call.Stores filed)
    (only : later.reports = (call.program.exec filed).2.reports) :
    later.LivesItsDuration filed.reports.next filed.clock d ↔
      if TimeOver filed.clock d later.clock then
        call.Settles later ∧ later.PastCutOff filed.clock d
      else ¬ (d = 0 ∧ call.Settles later ∧ later.PastCutOff filed.clock 0) := by
  obtain ⟨-, image, reports⟩ := call.effect filed
  rw [if_pos stores] at reports
  have docs : later.reports.docs = [(filed.reports.next, storedReport call.sender call.id
      call.subId call.report call.message filed.clock image)] := by
    rw [only, reports, AutoCollection.docs_add, empty, List.nil_append]
  have stored : (storedReport call.sender call.id call.subId call.report call.message filed.clock
      image).duration = .value (some (d : Int)) := by
    simp only [storedReport, duration]
    rfl
  have deletes := deletes_only_iff docs stored
  rw [canClear_storedReport] at deletes
  rw [Store.LivesItsDuration, deletes]
  split
  case isTrue due =>
      rw [iff_true_right due, and_comm]
      rfl
  case isFalse early =>
      rw [iff_false_right early, not_iff_not]
      constructor
      · rintro ⟨past, settles⟩
        have none : d = 0 := by
          by_contra more
          exact early (due_of_pastCutOff (Nat.pos_of_ne_zero more) past)
        subst none
        exact ⟨rfl, settles, past⟩
      · rintro ⟨rfl, settles, past⟩
        exact ⟨past, settles⟩

/-- The store with the report of one minute, at a later time; the SDK takes `NaN`. -/
def minuteReported (time : Timestamp) : Store :=
  { (threePoints.program.exec unreported).2 with clock := time, takesNaN := true }

/-- Two minutes later. -/
def minutesLater : Timestamp := ⟨120000000, by omega, by omega⟩

/-- After two minutes a report of one minute is still there. -/
theorem minute_report_outlives :
    threePoints.report.duration = some 60000000 ∧
      TimeOver unreported.clock 60000000 (minuteReported minutesLater).clock ∧
      ¬ (minuteReported minutesLater).Deletes 0 ∧
      ¬ (minuteReported minutesLater).LivesItsDuration 0 unreported.clock 60000000 := by
  have due : TimeOver unreported.clock 60000000 (minuteReported minutesLater).clock := by decide
  have stays : ¬ (minuteReported minutesLater).Deletes 0 := by
    unfold Store.Deletes
    decide
  exact ⟨rfl, due, stays, fun lives => stays (lives.mpr due)⟩

/-- Three years later it is gone. -/
theorem minute_report_lives :
    (minuteReported yearsLater).LivesItsDuration 0 unreported.clock 60000000 :=
  (livesItsDuration_iff threePoints 60000000 unreported (minuteReported yearsLater) rfl rfl
    (by decide) rfl).mpr (by decide)

end TwoGather
