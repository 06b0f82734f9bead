import TwoGather.Report.CleanJob

/-!
# Which reports a cleaning run deletes

A report is meant to be deleted when its own duration has passed. Since the loop
moves one date further back with every report, a run deletes exactly these reports
only if each of them is also before the cut-off that the durations in front of it
leave, and can be settled (`expiry_exact`).
-/

namespace TwoGather

open Docs Requests

/-- The duration in seconds, as the job takes it. -/
def Report.seconds (r : Report) : Int :=
  (Js.toNumber r.duration).getD 0

/-- The time value of a run. -/
def Store.runTime (s : Store) : Int :=
  s.clock.micros / 1000

/-- The duration of the report has passed at the time `t`. -/
def Report.ExpiredAt (r : Report) (t : Int) : Prop :=
  r.setAt.millis < t - 1000 * r.seconds

/-- A field that arithmetic takes as a number. -/
def isNumber (f : Stored Js.Number) : Prop :=
  (Js.toNumber f).isSome

/-- A settlement with the user ends well: the user exists, and the points are numbers
unless `NaN` will do. -/
def Store.CanSettle (s : Store) (u : UserId) (point : Stored Js.Number) : Prop :=
  ∃ data, s.user u = some data ∧ (s.takesNaN ∨ isNumber data.reportPoint ∧ isNumber point)

/-- A report can be settled with both its users. -/
def Store.CanClear (s : Store) (r : Report) : Prop :=
  s.CanSettle r.toId r.point ∧ ∀ subId, r.subId = .value subId → s.CanSettle subId r.point

instance (s : Store) (u : UserId) (point : Stored Js.Number) : Decidable (s.CanSettle u point) :=
  inferInstanceAs (Decidable (∃ data ∈ s.user u,
    (s.takesNaN : Prop) ∨ (Js.toNumber data.reportPoint).isSome ∧ (Js.toNumber point).isSome))

instance (s : Store) (r : Report) : Decidable (s.CanClear r) :=
  decidable_of_iff
    (s.CanSettle r.toId r.point ∧ ∀ subId ∈ r.subId.get?, s.CanSettle subId r.point) <| by
      simp only [Option.mem_def, Stored.get?_eq_some]
      rfl

/-! ## Settling one report -/

section Settle

variable {s : Store} {u v : UserId} {point : Stored Js.Number} {n : Js.Number}

theorem isSome_finalPoint (a b : Stored Js.Number) :
    (finalPoint a b).isSome ↔ isNumber a ∧ isNumber b := by
  have same : (finalPoint a b).isSome = ((Js.toNumber a).sub (Js.toNumber b)).isSome := by
    unfold finalPoint
    cases (Js.toNumber a).sub (Js.toNumber b) with
    | none => rfl
    | some n =>
        by_cases negative : n < 0
        · simp [negative]
        · simp [negative]
  rw [same, Js.Number.isSome_sub, Bool.and_eq_true, isNumber, isNumber]

theorem settle_ok (can : s.CanSettle u point) :
    ∃ n, (n.isSome ∨ s.takesNaN) ∧
      (settle u point).exec s = (.ok (), s.updateUser u (·.incrementPoint n)) := by
  obtain ⟨data, found, numbers⟩ := can
  have accepted : (finalPoint data.reportPoint point).isSome ∨ s.takesNaN := by
    rw [isSome_finalPoint]
    exact numbers.symm
  refine ⟨finalPoint data.reportPoint point, accepted, ?_⟩
  unfold settle incrementPoint
  simp [found, accepted]

theorem settle_error (cannot : ¬ s.CanSettle u point) :
    ∃ e, (settle u point).exec s = (.error e, s) := by
  unfold settle incrementPoint
  cases found : s.user u with
  | none => exact ⟨.typeError, by simp [found]⟩
  | some data =>
      have refused : ¬ ((finalPoint data.reportPoint point).isSome ∨ s.takesNaN) := by
        rw [isSome_finalPoint]
        exact fun numbers => cannot ⟨data, found, numbers.symm⟩
      exact ⟨.invalidArgument, by simp [found, refused]⟩

/-- Settling with a user leaves open what could be settled and what could not. -/
theorem canSettle_updateUser (settled : s.CanSettle u point) (accepted : n.isSome ∨ s.takesNaN)
    (v : UserId) (other : Stored Js.Number) :
    (s.updateUser u (·.incrementPoint n)).CanSettle v other ↔ s.CanSettle v other := by
  obtain ⟨data, found, numbers⟩ := settled
  unfold Store.CanSettle
  rw [Store.user_updateUser]
  by_cases same : v = u
  · subst same
    -- the points of the user are a number before and after
    have kept : s.takesNaN ∨ isNumber (data.incrementPoint n).reportPoint := by
      rcases numbers with any | ⟨number, -⟩
      · exact .inl any
      · refine accepted.symm.imp_right fun given => ?_
        simp only [isNumber, User.incrementPoint, Js.toNumber_value]
        cases points : data.reportPoint with
        | undefined => exact given
        | null => exact given
        | value m =>
            rw [points] at number
            exact Js.Number.isSome_add.trans (by simpa [isNumber, given] using number)
    have before := numbers.imp_right And.left
    rw [if_pos rfl, found]
    simp only [Option.map_some, Option.some.injEq, exists_eq_left']
    change s.takesNaN ∨ _ ↔ _
    tauto
  · rw [if_neg same]
    rfl

/-- A report that can be settled is settled and deleted. -/
theorem settleReport_ok {report : Nat × Report} (can : s.CanClear report.2) :
    ∃ t, (settleReport report).exec s = (.ok (), t) ∧
      t.reports = s.reports.delete report.1 ∧
        ∀ v other, t.CanSettle v other ↔ s.CanSettle v other := by
  obtain ⟨first, second⟩ := can
  obtain ⟨n, accepted, run⟩ := settle_ok first
  have same := canSettle_updateUser first accepted
  unfold settleReport
  rw [Program.exec_bind, run]
  cases sub : report.2.subId with
  | value subId =>
      have first' := (same subId report.2.point).mpr (second subId sub)
      obtain ⟨m, accepted', run'⟩ := settle_ok first'
      simp only [Program.exec_bind, run']
      refine ⟨_, rfl, rfl, fun v other => ?_⟩
      exact (canSettle_updateUser first' accepted' v other).trans (same v other)
  | undefined => exact ⟨_, rfl, rfl, same⟩
  | null => exact ⟨_, rfl, rfl, same⟩

/-- A report that cannot be settled ends the job, and no report is deleted. -/
theorem settleReport_error {report : Nat × Report} (cannot : ¬ s.CanClear report.2) :
    ∃ e t, (settleReport report).exec s = (.error e, t) ∧ t.reports = s.reports := by
  unfold settleReport
  by_cases first : s.CanSettle report.2.toId report.2.point
  · obtain ⟨n, accepted, run⟩ := settle_ok first
    have same := canSettle_updateUser first accepted
    rw [Program.exec_bind, run]
    cases sub : report.2.subId with
    | value subId =>
        have second : ¬ s.CanSettle subId report.2.point := by
          intro second
          refine cannot ⟨first, fun other is => ?_⟩
          obtain rfl := Stored.value.inj (sub.symm.trans is)
          exact second
        obtain ⟨e, run'⟩ := settle_error ((same subId report.2.point).not.mpr second)
        simp only [Program.exec_bind, run']
        exact ⟨e, _, rfl, rfl⟩
    | undefined => exact absurd ⟨first, by simp [sub]⟩ cannot
    | null => exact absurd ⟨first, by simp [sub]⟩ cannot
  · obtain ⟨e, run⟩ := settle_error first
    rw [Program.exec_bind, run]
    exact ⟨e, s, rfl, rfl⟩

end Settle

/-! ## The loop -/

/-- The store after the loop. -/
def Store.afterLoop (s : Store) (reports : List (Nat × Report)) (now : Js.Date) : Store :=
  ((cleanLoop reports now).exec s).2

/-- The request keeps the report under `k`, if it is there. -/
def SameReport (k : Nat) (s t : Store) : Prop :=
  t.reports.get? k = s.reports.get? k

/-- The loop deletes reports of its list only. -/
theorem afterLoop_other {s : Store} {reports : List (Nat × Report)} {now : Js.Date} {k : Nat}
    (other : k ∉ reports.map Prod.fst) : SameReport k s (s.afterLoop reports now) := by
  have keeps : (cleanLoop reports now).Keeps (SameReport k) := by
    refine cleanLoop_keeps (R := SameReport k) (fun _ => rfl) (fun _ _ _ => rfl) reports
      (fun report member s => ?_) now
    have differ : k ≠ report.1 := fun same => other (same ▸ List.mem_map_of_mem member)
    simp [SameReport, differ]
  exact Program.Keeps.exec (R := SameReport k) (fun _ => rfl)
    (fun first second => Eq.trans second first) keeps s

/-- Whether the reports of the list, met when the durations before them add up to
`elapsed`, are cleared as soon as they have expired. -/
def Store.InTime (s : Store) (t : Int) : Int → List (Nat × Report) → Prop
  | _, [] => True
  | elapsed, report :: reports =>
      (report.2.ExpiredAt t →
        report.2.setAt.millis < t - 1000 * (elapsed + report.2.seconds) ∧ s.CanClear report.2) ∧
        s.InTime t (elapsed + report.2.seconds) reports

theorem inTime_congr {s s' : Store} (same : ∀ u p, s'.CanSettle u p ↔ s.CanSettle u p) (t : Int)
    (elapsed : Int) (reports : List (Nat × Report)) :
    s'.InTime t elapsed reports ↔ s.InTime t elapsed reports := by
  induction reports generalizing elapsed with
  | nil => rfl
  | cons report reports ih =>
      simp only [Store.InTime, ih, Store.CanClear, same]

theorem afterLoop_cons {s : Store} {report : Nat × Report} {reports : List (Nat × Report)}
    {t elapsed : Int} (high : t - 1000 * elapsed ≤ Js.maxTime) (d : Nat)
    (duration : report.2.duration = .value (some d)) :
    s.afterLoop (report :: reports) (Js.timeClip (t - 1000 * elapsed)) =
      if report.2.setAt.millis < t - 1000 * (elapsed + report.2.seconds) then
        match (settleReport report).exec s with
        | (.ok (), u) => u.afterLoop reports (Js.timeClip (t - 1000 * (elapsed + report.2.seconds)))
        | (.error _, u) => u
      else s.afterLoop reports (Js.timeClip (t - 1000 * (elapsed + report.2.seconds))) := by
  have seconds : report.2.seconds = d := by
    rw [Report.seconds, duration]
    rfl
  have cutOff : subtractSeconds (Js.toNumber report.2.duration)
      (Js.timeClip (t - 1000 * elapsed)) =
        Js.timeClip (t - 1000 * (elapsed + report.2.seconds)) := by
    rw [duration, seconds, subtractSeconds, Js.toNumber_value,
      Js.Date.setSeconds_sub high (Int.natCast_nonneg d)]
    congr 1
    ring
  have early : -Js.maxTime ≤ report.2.setAt.millis := by
    have := report.2.setAt.early
    unfold Timestamp.millis Js.maxTime
    omega
  have notLate : t - 1000 * (elapsed + report.2.seconds) ≤ Js.maxTime := by omega
  unfold Store.afterLoop
  simp only [cleanLoop, cutOff, Timestamp.toDate, Js.Date.lt_timeClip early notLate,
    decide_eq_true_eq]
  split
  · rw [Program.exec_bind]
    rcases (settleReport report).exec s with ⟨outcome, u⟩
    cases outcome with
    | ok _ => rfl
    | error _ => rfl
  · rfl

/-- The reports of the list that the loop deletes are the expired ones exactly when the
list is in time. -/
theorem afterLoop_exact {s : Store} {t elapsed : Int} {reports : List (Nat × Report)}
    (late : t ≤ Js.maxTime) (forward : 0 ≤ elapsed)
    (durations : ∀ report ∈ reports, ∃ d : Nat, report.2.duration = .value (some d))
    (stored : ∀ report ∈ reports, s.reports.get? report.1 = some report.2)
    (nodup : (reports.map Prod.fst).Nodup) :
    (∀ report ∈ reports,
      ((s.afterLoop reports (Js.timeClip (t - 1000 * elapsed))).reports.get? report.1 = none ↔
        report.2.ExpiredAt t)) ↔ s.InTime t elapsed reports := by
  induction reports generalizing s elapsed with
  | nil => simp [Store.InTime]
  | cons report reports ih =>
      obtain ⟨d, duration⟩ := durations report List.mem_cons_self
      have seconds : report.2.seconds = d := by
        rw [Report.seconds, duration]
        rfl
      have durations' : ∀ other ∈ reports, ∃ d : Nat, other.2.duration = .value (some d) :=
        fun other member => durations other (List.mem_cons_of_mem report member)
      have stored' : ∀ other ∈ reports, s.reports.get? other.1 = some other.2 :=
        fun other member => stored other (List.mem_cons_of_mem report member)
      have here := stored report List.mem_cons_self
      rw [List.map_cons, List.nodup_cons] at nodup
      obtain ⟨notLater, nodup'⟩ := nodup
      have forward' : 0 ≤ elapsed + report.2.seconds := by omega
      rw [List.forall_mem_cons, Store.InTime, afterLoop_cons (by omega) d duration]
      by_cases past : report.2.setAt.millis < t - 1000 * (elapsed + report.2.seconds)
      · have expired : report.2.ExpiredAt t := by
          unfold Report.ExpiredAt
          omega
        rw [if_pos past]
        by_cases can : s.CanClear report.2
        · obtain ⟨u, run, deleted, same⟩ := settleReport_ok can
          have stored'' : ∀ other ∈ reports, u.reports.get? other.1 = some other.2 := by
            intro other member
            have differ : other.1 ≠ report.1 := fun eq =>
              notLater (eq ▸ List.mem_map_of_mem member)
            rw [deleted, AutoCollection.get?_delete, if_neg differ]
            exact stored' other member
          have gone : u.reports.get? report.1 = none := by
            rw [deleted, AutoCollection.get?_delete, if_pos rfl]
          rw [run]
          simp only [ih forward' durations' stored'' nodup', inTime_congr same,
            (afterLoop_other notLater).trans gone, expired, past, can, and_self, implies_true,
            true_and]
        · obtain ⟨e, u, run, kept⟩ := settleReport_error can
          simp [run, kept, here, expired, can]
      · have unexpired : (report.2.ExpiredAt t →
            report.2.setAt.millis < t - 1000 * (elapsed + report.2.seconds) ∧
              s.CanClear report.2) ↔ ¬ report.2.ExpiredAt t := by
          simp [past]
        rw [if_neg past, ih forward' durations' stored' nodup', unexpired,
          afterLoop_other notLater, here]
        simp

instance (s : Store) (t : Int) : (elapsed : Int) → (reports : List (Nat × Report)) →
    Decidable (s.InTime t elapsed reports)
  | _, [] => .isTrue trivial
  | elapsed, report :: reports =>
      have := instDecidableInTime s t (elapsed + report.2.seconds) reports
      inferInstanceAs (Decidable ((report.2.setAt.millis < t - 1000 * report.2.seconds →
        report.2.setAt.millis < t - 1000 * (elapsed + report.2.seconds) ∧ s.CanClear report.2) ∧
          s.InTime t (elapsed + report.2.seconds) reports))

/-! ## Whole runs -/

/-- The cleaning run deletes the report under `k`. -/
def Store.Deletes (s : Store) (k : Nat) : Prop :=
  (cleanReportAfterDuration.exec s).2.reports.get? k = none

/-- The run deletes exactly the reports whose own duration has passed. -/
def Store.ExpiresAlone (s : Store) : Prop :=
  ∀ k r, s.reports.get? k = some r → (s.Deletes k ↔ r.ExpiredAt s.runTime)

/-- The durations of these reports, in seconds. -/
def totalSeconds (reports : List (Nat × Report)) : Int :=
  (reports.map (·.2.seconds)).sum

/-- Every report whose own duration has passed is still before the run when the durations
of all reports in front of it are added, and can be settled with its users. -/
def Store.EachInTime (s : Store) : Prop :=
  ∀ before report after, s.reports.docs = before ++ report :: after →
    report.2.ExpiredAt s.runTime →
      report.2.setAt.millis < s.runTime - 1000 * (totalSeconds before + report.2.seconds) ∧
        s.CanClear report.2

theorem inTime_iff {s : Store} {t elapsed : Int} {reports : List (Nat × Report)} :
    s.InTime t elapsed reports ↔
      ∀ before report after, reports = before ++ report :: after → report.2.ExpiredAt t →
        report.2.setAt.millis < t - 1000 * (elapsed + totalSeconds before + report.2.seconds) ∧
          s.CanClear report.2 := by
  induction reports generalizing elapsed with
  | nil => simp [Store.InTime]
  | cons first reports ih =>
      rw [Store.InTime, ih]
      constructor
      · intro both before report after split expired
        rcases both with ⟨now, later⟩
        cases before with
        | nil =>
            obtain ⟨rfl, -⟩ := List.cons.inj split
            simpa [totalSeconds] using now expired
        | cons _ before =>
            obtain ⟨rfl, rest⟩ := List.cons.inj split
            have inTime := later before report after rest expired
            simpa [totalSeconds, add_assoc] using inTime
      · intro all
        refine ⟨fun expired => ?_, fun before report after split expired => ?_⟩
        · simpa [totalSeconds] using all [] first reports rfl expired
        · have inTime := all (first :: before) report after (by rw [split]; rfl) expired
          simpa [totalSeconds, add_assoc] using inTime

theorem eachInTime_iff (s : Store) :
    s.EachInTime ↔ s.InTime s.runTime 0 s.reports.docs := by
  rw [inTime_iff]
  simp only [zero_add]
  rfl

instance (s : Store) : Decidable s.EachInTime :=
  decidable_of_iff _ (eachInTime_iff s).symm

theorem deletes_iff (s : Store) (k : Nat) :
    s.Deletes k ↔
      (s.afterLoop s.reports.docs (Js.timeClip (s.runTime - 1000 * 0))).reports.get? k = none := by
  have inRange : Js.timeClip (s.runTime - 1000 * 0) = some (s.clock.micros / 1000) := by
    have early := s.clock.early
    have late := s.clock.late
    unfold Store.runTime
    rw [Js.timeClip_of_range]
    · simp
    · unfold Js.maxTime
      omega
    · unfold Js.maxTime
      omega
  rw [inRange]
  rfl

theorem expiresAlone_iff {s : Store}
    (durations : ∀ report ∈ s.reports.docs, ∃ d : Nat, report.2.duration = .value (some d)) :
    s.ExpiresAlone ↔ s.EachInTime := by
  have late : s.runTime ≤ Js.maxTime := by
    have := s.clock.late
    unfold Store.runTime Js.maxTime
    omega
  have loop := afterLoop_exact (s := s) late le_rfl durations
    (fun report member => Collection.mem_docs.mp member) s.reports.nodup
  have all : s.ExpiresAlone ↔ ∀ report ∈ s.reports.docs,
      (s.Deletes report.1 ↔ report.2.ExpiredAt s.runTime) := by
    constructor
    · intro alone report member
      exact alone report.1 report.2 (Collection.mem_docs.mp member)
    · intro each k r found
      exact each (k, r) (Collection.mem_docs.mpr found)
  simp only [deletes_iff] at all
  rw [all, loop, eachInTime_iff]

/-- **A run deletes exactly the reports whose own duration has passed if and only if every
one of these is still before the shared cut-off and can be settled; two such runs at one
time agree on every report they share.** -/
theorem expiry_exact {s s' : Store}
    (durations : ∀ report ∈ s.reports.docs, ∃ d : Nat, report.2.duration = .value (some d))
    (durations' : ∀ report ∈ s'.reports.docs, ∃ d : Nat, report.2.duration = .value (some d)) :
    (s.ExpiresAlone ↔ s.EachInTime) ∧
      (s.EachInTime → s'.EachInTime → s'.runTime = s.runTime →
        ∀ k k' r, s.reports.get? k = some r → s'.reports.get? k' = some r →
          (s.Deletes k ↔ s'.Deletes k')) := by
  refine ⟨expiresAlone_iff durations, fun inTime inTime' sameTime k k' r found found' => ?_⟩
  rw [(expiresAlone_iff durations).mpr inTime k r found,
    (expiresAlone_iff durations').mpr inTime' k' r found', sameTime]

/-! ## Two reports of one minute, after 200 seconds -/

/-- A report of these seconds. -/
def reportOf (setAt : Timestamp) (seconds : Nat) : Report where
  setAt
  sender := "a"
  toId := "b"
  subId := .null
  message := .null
  image := .null
  duration := .value (some seconds)
  point := .value (some 1)

/-- The user that they are about, and some reports. -/
def reportedAt (clock : Timestamp) (reports : AutoCollection Report) : Store :=
  { Store.ofUsers ⟨[("b", { reportPoint := .value (some 5) })], by decide⟩ with
    reports := reports
    clock := clock }

theorem reportOf_durations {setAt setAt' : Timestamp} {seconds seconds' : Nat}
    {report : Nat × Report}
    (member : report ∈ [(0, reportOf setAt seconds), (1, reportOf setAt' seconds')]) :
    ∃ d : Nat, report.2.duration = .value (some d) := by
  rcases List.mem_pair.mp member with rfl | rfl
  · exact ⟨seconds, rfl⟩
  · exact ⟨seconds', rfl⟩

/-- One minute, from the epoch on. -/
def minuteReport : Report := reportOf .epoch 60

/-- 200 seconds after the epoch: the second of two reports of a minute has expired in time. -/
def bothExpired : Store :=
  reportedAt ⟨200000000, by decide, by decide⟩ (.add (.add .empty minuteReport) minuteReport)

/-- At the same time it stands behind a report that has not expired. -/
def secondExpired : Store :=
  reportedAt ⟨200000000, by decide, by decide⟩
    (.add (.add .empty (reportOf ⟨150000000, by decide, by decide⟩ 100)) minuteReport)

/-- Whichever report is in front of it, it is deleted. -/
theorem bothExpired_alone :
    bothExpired.ExpiresAlone ∧ bothExpired.Deletes 1 ∧
      (bothExpired.Deletes 1 ↔ secondExpired.Deletes 1) := by
  have durations : ∀ report ∈ bothExpired.reports.docs,
      ∃ d : Nat, report.2.duration = .value (some d) := fun _ => reportOf_durations
  have durations' : ∀ report ∈ secondExpired.reports.docs,
      ∃ d : Nat, report.2.duration = .value (some d) := fun _ => reportOf_durations
  have exact := expiry_exact durations durations'
  have alone : bothExpired.ExpiresAlone := exact.1.mpr (by decide)
  have expired : minuteReport.ExpiredAt bothExpired.runTime := by
    unfold Report.ExpiredAt
    decide
  refine ⟨alone, (alone 1 minuteReport rfl).mpr expired, ?_⟩
  exact exact.2 (by decide) (by decide) rfl 1 1 minuteReport rfl rfl

/-! ## Two reports of one minute, after 100 seconds -/

def oneReport : Store :=
  reportedAt ⟨100000000, by decide, by decide⟩ (.add .empty minuteReport)

def twoReports : Store :=
  reportedAt ⟨100000000, by decide, by decide⟩ (.add (.add .empty minuteReport) minuteReport)

/-- The second report has expired and stays, though alone it is deleted. -/
theorem second_report_stays :
    minuteReport.ExpiredAt twoReports.runTime ∧ twoReports.reports.get? 1 = some minuteReport ∧
      ¬ twoReports.Deletes 1 ∧ ¬ twoReports.ExpiresAlone ∧
      twoReports.runTime = oneReport.runTime ∧ oneReport.reports.get? 0 = some minuteReport ∧
      oneReport.Deletes 0 := by
  have expired : minuteReport.ExpiredAt twoReports.runTime := by
    unfold Report.ExpiredAt
    decide
  have stays : ¬ twoReports.Deletes 1 := by
    unfold Store.Deletes
    decide
  refine ⟨expired, rfl, stays, fun alone => ?_, rfl, rfl, rfl⟩
  exact stays ((alone 1 minuteReport rfl).mpr expired)

end TwoGather
