import TwoGather.Lib.Runs
import TwoGather.Report.Controller
import TwoGather.Report.Expiry

/-!
# Report points over whole runs

`reportUser` credits the value of a report, and the cleaning job is to take it back
once the report has expired. The books balance (`Conserved`) when the points of each
user are its initial points and the values of the stored reports against it.

The job reads a field `point` that no report has, so it settles nothing: where the SDK
refuses `NaN` it stops, and where it does not it leaves `NaN`. `points_conserved_iff`
says for which runs the books balance and expired reports are settled all the same.
-/

namespace TwoGather

open Docs Requests

/-! ## The books -/

/-- The points of a user, `0` for one that has none yet. -/
def User.points (u : User) : Js.Number :=
  match u.reportPoint with
  | .value n => n
  | _ => some 0

/-- The report is against `u`, as its first or its second user. -/
def Report.Against (r : Report) (u : UserId) : Prop :=
  r.toId = u ∨ r.subId = .value u

instance (r : Report) (u : UserId) : Decidable (r.Against u) :=
  inferInstanceAs (Decidable (_ ∨ _))

/-- The value of a report; one without has none. -/
def Report.worth (r : Report) : Int :=
  r.value.get?.getD 0

/-- The values of the stored reports against `u`. -/
def Store.reported (s : Store) (u : UserId) : Int :=
  (s.reports.docs.map fun doc => if doc.2.Against u then doc.2.worth else 0).sum

/-- The points of each user are its initial points and the values of the stored reports
against it. -/
def Conserved (initial : UserId → Int) (s : Store) : Prop :=
  ∀ u data, s.user u = some data → data.points = some (initial u + s.reported u)

theorem points_incrementPoint (u : User) (n : Js.Number) :
    (u.incrementPoint n).points = u.points.add n := by
  unfold User.incrementPoint User.points Js.increment
  cases u.reportPoint with
  | value m => rfl
  | undefined => cases n with
    | none => rfl
    | some n => simp
  | null => cases n with
    | none => rfl
    | some n => simp

theorem reported_add (s : Store) (r : Report) (u : UserId) :
    ({ s with reports := s.reports.add r } : Store).reported u =
      s.reported u + if r.Against u then r.worth else 0 := by
  simp [Store.reported]

/-! ## Reporting a user -/

/-- The arguments of a call of `reportUser`. -/
structure ReportCall where
  sender : UserId
  id : UserId
  subId : Option UserId
  report : ReportModel
  message : Option String
  image : Option String

namespace ReportCall

def program (call : ReportCall) : Firestore Unit :=
  reportUser call.sender call.id call.subId call.report call.message call.image

/-- What the call credits to `u`: once as the reported user, once as the second one. -/
def credit (call : ReportCall) (s : Store) (u : UserId) : Int :=
  (if u = call.id then call.report.points else 0) +
    if (s.user call.id).isSome ∧ call.subId = some u then call.report.points else 0

/-- The call gets as far as storing its report. -/
def Stores (call : ReportCall) (s : Store) : Prop :=
  (s.user call.id).isSome ∧ (∀ subId ∈ call.subId, (s.user subId).isSome) ∧
    ∀ file ∈ call.image, (s.upload file).isSome

instance (call : ReportCall) (s : Store) : Decidable (call.Stores s) :=
  inferInstanceAs (Decidable (_ ∧ _ ∧ _))

end ReportCall

/-- `t` is `s` where the points of each user are credited, and other users' fields and the
collections may differ. -/
structure CreditedBy (credit : UserId → Int) (s t : Store) : Prop where
  points : ∀ u, (t.user u).map User.points =
    (s.user u).map fun data => data.points.add (some (credit u))

theorem CreditedBy.isSome {credit : UserId → Int} {s t : Store} (credited : CreditedBy credit s t)
    (u : UserId) : (t.user u).isSome = (s.user u).isSome := by
  have same := congrArg Option.isSome (credited.points u)
  simpa using same

theorem CreditedBy.trans {first second : UserId → Int} {s t u : Store}
    (before : CreditedBy first s t) (after : CreditedBy second t u) :
    CreditedBy (fun v => first v + second v) s u where
  points v := by
    have map : ∀ o : Option User, (o.map fun data => data.points.add (some (second v))) =
        (o.map User.points).map (·.add (some (second v))) := fun o => by
      rw [Option.map_map]
      rfl
    rw [after.points, map, before.points, Option.map_map]
    congr 1
    funext data
    exact Js.Number.add_add ..

theorem creditReport_exec (sender u : UserId) (report : ReportModel) (message : Option String)
    (s : Store) :
    ∃ t, (creditReport sender u report message).exec s =
        (if (s.user u).isSome then .ok () else .error .notFound, t) ∧
      CreditedBy (fun v => if v = u then report.points else 0) s t ∧
      t.reports = s.reports ∧ t.upload = s.upload ∧ t.clock = s.clock := by
  have credited : CreditedBy (fun v => if v = u then report.points else 0) s
      (s.updateUser u (·.incrementPoint (some report.points))) := by
    refine ⟨fun v => ?_⟩
    rw [Store.user_updateUser]
    split
    · simp [Function.comp_def, points_incrementPoint]
    · simp
  unfold creditReport
  by_cases exist : (s.user u).isSome
  · refine ⟨_, by simp only [Program.exec_bind, exec_updateUser, exist, ↓reduceIte]; rfl, ?_⟩
    exact ⟨⟨credited.points⟩, rfl, rfl, rfl⟩
  · refine ⟨_, by simp only [Program.exec_bind, exec_updateUser, exist]; rfl, ?_⟩
    exact ⟨credited, rfl, rfl, rfl⟩

/-- The end of `reportUser` stores the report if there is no image or its upload succeeds. -/
theorem storeReport_effect (call : ReportCall) (s : Store) :
    let t := ((storeReport call.sender call.id call.subId call.report call.message
      call.image).exec s).2
    t.user = s.user ∧
      ∃ image, t.reports =
        if ∀ file ∈ call.image, (s.upload file).isSome then
          s.reports.add (storedReport call.sender call.id call.subId call.report call.message
            s.clock image)
        else s.reports := by
  obtain ⟨sender, id, subId, report, message, image⟩ := call
  unfold storeReport uploadImage uploadToStorage
  cases image with
  | none => exact ⟨rfl, .null, by simp [addReport]⟩
  | some file =>
      cases uploaded : s.upload file with
      | some url =>
          refine ⟨?_, .value url, by simp [uploaded, addReport]⟩
          simp only [Program.exec_bind, exec_now, Program.exec_read, uploaded, Program.exec_pure]
          rfl
      | none => exact ⟨by simp [uploaded], .null, by simp [uploaded]⟩

/-- What a call does to the points and to the stored reports. -/
theorem ReportCall.effect (call : ReportCall) (s : Store) :
    CreditedBy (call.credit s) s (call.program.exec s).2 ∧
      ∃ image, (call.program.exec s).2.reports =
        if call.Stores s then
          s.reports.add (storedReport call.sender call.id call.subId call.report call.message
            s.clock image)
        else s.reports := by
  obtain ⟨t, run, credited, reports, upload, clock⟩ :=
    creditReport_exec call.sender call.id call.report call.message s
  unfold program reportUser
  rw [Program.exec_bind, run]
  by_cases exist : (s.user call.id).isSome
  · rw [if_pos exist]
    cases second : call.subId with
    | none =>
        obtain ⟨users, image, stored⟩ := storeReport_effect call t
        rw [second] at users stored
        refine ⟨⟨fun u => ?_⟩, image, ?_⟩
        · simp only
          rw [users, credited.points]
          simp [credit, second]
        · simp only
          rw [stored, reports, upload, clock]
          simp [Stores, exist, second]
    | some subId =>
        obtain ⟨t', run', credited', reports', upload', clock'⟩ :=
          creditReport_exec call.sender subId call.report call.message t
        have both : ∀ u, call.credit s u = (if u = call.id then call.report.points else 0) +
            if u = subId then call.report.points else 0 := by
          intro u
          simp [credit, exist, second, eq_comm]
        have total := credited.trans credited'
        simp only [Program.exec_bind, run']
        by_cases exist' : (t.user subId).isSome
        · obtain ⟨users, image, stored⟩ := storeReport_effect call t'
          rw [second] at users stored
          have here : (s.user subId).isSome := (credited.isSome subId).symm.trans exist'
          rw [if_pos exist']
          refine ⟨⟨fun u => ?_⟩, image, ?_⟩
          · simp only
            rw [users, total.points, both]
          · simp only
            rw [stored, reports', reports, upload', upload, clock', clock]
            simp [Stores, exist, second, here]
        · have missing : ¬ (s.user subId).isSome := by rwa [credited.isSome] at exist'
          rw [if_neg exist']
          refine ⟨⟨fun u => ?_⟩, .null, ?_⟩
          · simp only
            rw [total.points, both]
          · simp only
            rw [reports', reports]
            simp [Stores, second, missing]
  · rw [if_neg exist]
    constructor
    · refine ⟨fun u => ?_⟩
      rw [credited.points]
      simp [credit, exist]
    · exact ⟨.null, by simp [reports, Stores, exist]⟩

/-- What the stored report of the call adds to the reports against `u`. -/
def ReportCall.added (call : ReportCall) (s : Store) (u : UserId) : Int :=
  if call.Stores s ∧ (call.id = u ∨ call.subId = some u) then call.report.points else 0

theorem ReportCall.reported (call : ReportCall) (s : Store) (u : UserId) :
    (call.program.exec s).2.reported u = s.reported u + call.added s u := by
  obtain ⟨-, image, stored⟩ := call.effect s
  have against : ∀ setAt, (storedReport call.sender call.id call.subId call.report call.message
      setAt image).Against u ↔ call.id = u ∨ call.subId = some u := by
    intro setAt
    simp only [Report.Against, storedReport]
    cases call.subId with
    | none => simp [Stored.ofOption]
    | some subId => simp [Stored.ofOption]
  have worth : ∀ setAt, (storedReport call.sender call.id call.subId call.report call.message
      setAt image).worth = call.report.points := by
    intro setAt
    simp [Report.worth, storedReport, ReportModel.points]
  unfold added
  by_cases stores : call.Stores s
  · rw [if_pos stores] at stored
    have sum := reported_add s (storedReport call.sender call.id call.subId call.report
      call.message s.clock image) u
    simp only [Store.reported, stored] at sum ⊢
    rw [sum, worth]
    simp only [against, stores, true_and]
  · rw [if_neg stores] at stored
    simp [Store.reported, stored, stores]

/-- The condition under which a call keeps the books: it has no points to credit, or its
user does not exist, or it gets to its end with two different users. -/
def ReportCall.Balanced (call : ReportCall) (s : Store) : Prop :=
  call.report.points = 0 ∨ (s.user call.id).isSome = false ∨
    (∀ subId ∈ call.subId, (s.user subId).isSome ∧ subId ≠ call.id) ∧
      ∀ file ∈ call.image, (s.upload file).isSome

/-- A call keeps the books exactly when what it credits to each user is what it adds to the
reports against it. -/
theorem ReportCall.conserved_iff {initial : UserId → Int} {s : Store} (call : ReportCall)
    (conserved : Conserved initial s) :
    Conserved initial (call.program.exec s).2 ↔
      ∀ u, (s.user u).isSome → call.credit s u = call.added s u := by
  obtain ⟨credited, -⟩ := call.effect s
  constructor
  · intro after u exist
    obtain ⟨data, found⟩ := Option.isSome_iff_exists.mp exist
    have same := credited.points u
    rw [found, Option.map_some, conserved u data found] at same
    obtain ⟨data', found', points⟩ := Option.map_eq_some_iff.mp same
    rw [after u data' found', call.reported, Js.Number.add_some, Option.some.injEq] at points
    omega
  · intro equal u data' found'
    have same := credited.points u
    rw [found', Option.map_some] at same
    obtain ⟨data, found, points⟩ := Option.map_eq_some_iff.mp same.symm
    rw [← points, conserved u data found, call.reported, Js.Number.add_some,
      equal u (by rw [found]; rfl), Int.add_assoc]

/-- The books of the first user alone tell all that can go wrong. -/
theorem ReportCall.balanced_of_equal {s : Store} (call : ReportCall)
    (equal : ∀ u, (s.user u).isSome → call.credit s u = call.added s u) : call.Balanced s := by
  by_cases none : call.report.points = 0
  · exact .inl none
  by_cases exist : (s.user call.id).isSome
  · right; right
    have first := equal call.id exist
    have stores : call.Stores s := by
      by_contra fails
      simp only [credit, added, fails, false_and, ↓reduceIte, exist, true_and] at first
      split at first <;> omega
    have different : call.subId ≠ some call.id := by
      intro same
      simp only [credit, added, stores, same, ↓reduceIte, exist, true_and, true_or] at first
      omega
    refine ⟨fun subId second => ⟨stores.2.1 subId second, ?_⟩, stores.2.2⟩
    intro eq
    subst eq
    exact different second
  · exact .inr (.inl (by simpa using exist))

/-- A balanced call credits to every existing user what it adds to the reports against it. -/
theorem ReportCall.Balanced.equal {s : Store} {call : ReportCall} (balanced : call.Balanced s)
    {u : UserId} (exist : (s.user u).isSome) : call.credit s u = call.added s u := by
  rcases balanced with none | missing | ⟨second, uploads⟩
  · simp [credit, added, none]
  · have differ : u ≠ call.id := by
      intro eq
      subst eq
      rw [missing] at exist
      cases exist
    simp [credit, added, Stores, missing, differ]
  · by_cases here : (s.user call.id).isSome
    · have stores : call.Stores s := ⟨here, fun subId is => (second subId is).1, uploads⟩
      have different : call.subId ≠ some call.id := fun same => (second call.id same).2 rfl
      by_cases same : u = call.id
      · subst same
        simp [credit, added, stores, different]
      · have same' : call.id ≠ u := fun eq => same eq.symm
        simp [credit, added, stores, here, same, same']
    · have differ : u ≠ call.id := by
        intro eq
        subst eq
        exact here exist
      simp [credit, added, Stores, here, differ]

theorem ReportCall.balanced_iff {initial : UserId → Int} {s : Store} (call : ReportCall)
    (conserved : Conserved initial s) :
    Conserved initial (call.program.exec s).2 ↔ call.Balanced s := by
  rw [call.conserved_iff conserved]
  constructor
  · exact call.balanced_of_equal
  · intro balanced u exist
    exact balanced.equal exist

/-! ## Cleaning reports that have no points -/

/-- Every stored report was written by `reportUser`: it has no field `point`, and its user
exists. -/
def FromApp (s : Store) : Prop :=
  ∀ doc ∈ s.reports.docs, doc.2.point = .undefined ∧ (s.user doc.2.toId).isSome

/-- Some report of the list is past the cut-off at which the loop comes to it. -/
def AnyPast : List (Nat × Report) → Js.Date → Prop
  | [], _ => False
  | report :: reports, now =>
      report.2.setAt.toDate.lt (subtractSeconds (Js.toNumber report.2.duration) now) ∨
        AnyPast reports (subtractSeconds (Js.toNumber report.2.duration) now)

instance : (reports : List (Nat × Report)) → (now : Js.Date) → Decidable (AnyPast reports now)
  | [], _ => .isFalse id
  | report :: reports, now =>
      have := instDecidableAnyPast reports
        (subtractSeconds (Js.toNumber report.2.duration) now)
      inferInstanceAs (Decidable (_ ∨ AnyPast reports _))

/-- Some user's points are `NaN`. -/
def HasNaN (s : Store) : Prop :=
  ∃ u data, s.user u = some data ∧ data.points = none

theorem not_conserved_of_hasNaN {initial : UserId → Int} {s : Store} (nan : HasNaN s) :
    ¬ Conserved initial s := by
  obtain ⟨u, data, found, points⟩ := nan
  intro conserved
  rw [conserved u data found] at points
  cases points

/-- The request leaves `NaN` where it is. -/
def KeepsNaN (s t : Store) : Prop :=
  HasNaN s → HasNaN t

/-- `NaN` stays. -/
theorem HasNaN.incrementPoint {s : Store} (nan : HasNaN s) (u : UserId) (n : Js.Number) :
    HasNaN (s.updateUser u (·.incrementPoint n)) := by
  obtain ⟨v, data, found, points⟩ := nan
  by_cases same : v = u
  · subst same
    refine ⟨v, data.incrementPoint n, by simp [found], ?_⟩
    rw [points_incrementPoint, points]
    rfl
  · exact ⟨v, data, by simpa [same] using found, points⟩

theorem cleanLoop_keepsNaN (reports : List (Nat × Report)) (now : Js.Date) (s : Store) :
    KeepsNaN s ((cleanLoop reports now).exec s).2 := by
  have keeps := cleanLoop_keeps (R := KeepsNaN) (fun _ nan => nan)
    (fun _ u n nan => nan.incrementPoint u n) reports (fun _ _ _ nan => nan) now
  exact keeps.exec (fun _ nan => nan) (fun first second nan => second (first nan)) s

/-- The rest of a settlement whose first user was left with `NaN`. -/
theorem settleReport_nan {report : Nat × Report} {s t : Store}
    (first : (settle report.2.toId report.2.point).exec s = (.ok (), t)) (nan : HasNaN t) :
    HasNaN ((settleReport report).exec s).2 := by
  have settled : ∀ u, (settle u report.2.point).Keeps KeepsNaN := fun u =>
    settle_keeps (fun _ nan => nan) (fun _ n nan => nan.incrementPoint u n) _
  have deleted : (deleteReport report.1).Keeps KeepsNaN := fun _ => ⟨fun nan => nan, .pure ()⟩
  have rest : ∀ p : Firestore Unit, p.Keeps KeepsNaN → HasNaN (p.exec t).2 := fun p keeps =>
    keeps.exec (fun _ nan => nan) (fun before after nan => after (before nan)) t nan
  unfold settleReport
  rw [Program.exec_bind, first]
  cases report.2.subId with
  | value subId => exact rest _ (.bind (settled subId) fun _ => deleted)
  | undefined => exact rest _ deleted
  | null => exact rest _ deleted

@[simp] theorem finalPoint_undefined (a : Stored Js.Number) : finalPoint a .undefined = none := by
  simp [finalPoint]

/-- A loop that comes to no report past its cut-off does nothing. -/
theorem cleanLoop_calm {reports : List (Nat × Report)} {now : Js.Date}
    (calm : ¬ AnyPast reports now) (s : Store) : (cleanLoop reports now).exec s = (.ok (), s) := by
  induction reports generalizing now with
  | nil => rfl
  | cons report reports ih =>
      obtain ⟨notPast, later⟩ := not_or.mp calm
      rw [cleanLoop]
      simp only [notPast, Bool.false_eq_true, ↓reduceIte]
      exact ih later

/-- A loop whose reports cannot be settled does nothing: the first one ends it. -/
theorem cleanLoop_blocked {reports : List (Nat × Report)} {now : Js.Date} {s : Store}
    (blocked : ∀ report ∈ reports, ¬ s.CanSettle report.2.toId report.2.point) :
    ((cleanLoop reports now).exec s).2 = s := by
  induction reports generalizing now with
  | nil => rfl
  | cons report reports ih =>
      have rest := fun other member => blocked other (List.mem_cons_of_mem report member)
      obtain ⟨e, stops⟩ := settle_error (blocked report List.mem_cons_self)
      rw [cleanLoop]
      simp only
      split
      · have stopped : (settleReport report).exec s = (.error e, s) := by
          rw [settleReport, Program.exec_bind, stops]
        rw [Program.exec_bind, stopped]
      · exact ih rest

/-- Where the SDK takes `NaN`, the first report past the cut-off leaves it with its user. -/
theorem cleanLoop_nan {reports : List (Nat × Report)} {now : Js.Date} {s : Store}
    (takes : s.takesNaN = true)
    (fromApp : ∀ report ∈ reports, report.2.point = .undefined ∧ (s.user report.2.toId).isSome)
    (past : AnyPast reports now) : HasNaN ((cleanLoop reports now).exec s).2 := by
  induction reports generalizing now with
  | nil => cases past
  | cons report reports ih =>
      obtain ⟨noPoint, exist⟩ := fromApp report List.mem_cons_self
      obtain ⟨data, found⟩ := Option.isSome_iff_exists.mp exist
      rw [cleanLoop]
      simp only
      split
      case isTrue here =>
        let settled := s.updateUser report.2.toId (·.incrementPoint none)
        have first : (settle report.2.toId report.2.point).exec s = (.ok (), settled) := by
          simp [settle, incrementPoint, found, noPoint, takes, settled]
        have nan : HasNaN settled :=
          ⟨report.2.toId, data.incrementPoint none, by simp [settled, found],
            by rw [points_incrementPoint, Js.Number.add_none]⟩
        have after := settleReport_nan first nan
        rcases Program.exec_bind_store (settleReport report) (fun _ => cleanLoop reports
          (subtractSeconds (Js.toNumber report.2.duration) now)) s with stops | ⟨_, t, run, goes⟩
        · rw [stops]
          exact after
        · rw [run] at after
          rw [goes]
          exact cleanLoop_keepsNaN reports _ t after
      case isFalse notHere =>
        exact ih (fun other member => fromApp other (List.mem_cons_of_mem report member))
          (past.resolve_left notHere)

/-! ## Runs of reports and cleanings -/

/-- The time of a cleaning run, as its loop starts with it. -/
def runDate (time : Timestamp) : Js.Date :=
  some (time.micros / 1000)

/-- The duration that its sender gave the report has passed. -/
def Report.Lapsed (r : Report) (time : Timestamp) : Prop :=
  ∃ d, r.duration = .value (some d) ∧ r.setAt.micros + d < time.micros

inductive ReportStep
  | report (time : Timestamp) (call : ReportCall)
  | clean (time : Timestamp)

namespace ReportStep

/-- The store after the call or the cleaning run. -/
def step (s : Store) : ReportStep → Store
  | .report time call => (call.program.exec { s with clock := time }).2
  | .clean time => (cleanReportAfterDuration.exec { s with clock := time }).2

/-- Every stored report against `u` has lapsed. -/
def AllLapsed (s : Store) (u : UserId) (time : Timestamp) : Prop :=
  ∀ doc ∈ s.reports.docs, doc.2.Against u → doc.2.Lapsed time

/-- A cleaning run brings users whose reports have all lapsed back to their initial points,
and gives nobody points. -/
def CleansUp (initial : UserId → Int) (s : Store) : ReportStep → Prop
  | .report _ _ => True
  | .clean time =>
      (∀ u data, (step s (.clean time)).user u = some data → AllLapsed s u time →
        data.points = some (initial u)) ∧
      ∀ u data data', s.user u = some data → (step s (.clean time)).user u = some data' →
        ∀ n, data.points = some n → ∃ m, data'.points = some m ∧ m ≤ n

/-- The call keeps the books; the cleaning run leaves no `NaN`, and users whose reports
have all lapsed have reports of no value. -/
def Sound (s : Store) : ReportStep → Prop
  | .report _ call => call.Balanced s
  | .clean time =>
      (s.takesNaN = true → ¬ AnyPast s.reports.docs (runDate time)) ∧
        ∀ u, (s.user u).isSome → AllLapsed s u time → s.reported u = 0

/-- A cleaning run changes nothing, or leaves `NaN`. -/
theorem step_clean {s : Store} (time : Timestamp) (fromApp : FromApp s) :
    if s.takesNaN = true ∧ AnyPast s.reports.docs (runDate time) then
      HasNaN (step s (.clean time))
    else step s (.clean time) = { s with clock := time } := by
  have run : step s (.clean time) =
      ((cleanLoop s.reports.docs (runDate time)).exec { s with clock := time }).2 := rfl
  split
  case isTrue spoils =>
    rw [run]
    exact cleanLoop_nan spoils.1 fromApp spoils.2
  case isFalse spared =>
    rw [run]
    by_cases takes : s.takesNaN = true
    · rw [cleanLoop_calm fun past => spared ⟨takes, past⟩]
    · refine cleanLoop_blocked fun report member can => ?_
      obtain ⟨data, -, any | numbers⟩ := can
      · exact takes any
      · rw [(fromApp report member).1] at numbers
        cases numbers.2

theorem step_report_fromApp {s : Store} {time : Timestamp} {call : ReportCall}
    (fromApp : FromApp s) : FromApp (step s (.report time call)) := by
  obtain ⟨credited, image, stored⟩ := call.effect { s with clock := time }
  intro doc member
  have exist : ((step s (.report time call)).user doc.2.toId).isSome =
      (s.user doc.2.toId).isSome := credited.isSome _
  rw [exist]
  simp only [step] at member
  rw [stored] at member
  split at member
  case isTrue stores =>
    rcases List.mem_append.mp member with old | new
    · exact fromApp doc old
    · rw [List.mem_singleton.mp new]
      exact ⟨rfl, stores.1⟩
  case isFalse => exact fromApp doc member

/-- What every step is judged by. -/
def Good (initial : UserId → Int) (s : Store) (c : ReportStep) : Prop :=
  Conserved initial (step s c) ∧ CleansUp initial s c

/-- With balanced books, a step is good exactly when it is sound. -/
theorem good_iff {initial : UserId → Int} {s : Store} (conserved : Conserved initial s)
    (fromApp : FromApp s) (c : ReportStep) : Good initial s c ↔ Sound s c := by
  cases c with
  | report time call =>
      have balanced := call.balanced_iff (s := { s with clock := time }) conserved
      exact (and_iff_left trivial).trans balanced
  | clean time =>
      have run := step_clean time fromApp
      split at run
      case isTrue spoils =>
        constructor
        · intro both
          rcases both with ⟨after, -⟩
          exact absurd after (not_conserved_of_hasNaN run)
        · intro both
          rcases both with ⟨calm, -⟩
          exact absurd spoils.2 (calm spoils.1)
      case isFalse spared =>
        have same : (step s (.clean time)).user = s.user := by
          rw [run]
          rfl
        have after : Conserved initial (step s (.clean time)) := by
          rw [run]
          exact conserved
        constructor
        · intro both
          rcases both with ⟨-, settled, -⟩
          refine ⟨fun takes past => spared ⟨takes, past⟩, fun u exist lapsed => ?_⟩
          obtain ⟨data, found⟩ := Option.isSome_iff_exists.mp exist
          have back := settled u data (by rw [same, found]) lapsed
          rw [conserved u data found, Option.some.injEq] at back
          omega
        · intro both
          rcases both with ⟨-, nothing⟩
          refine ⟨after, fun u data found lapsed => ?_, fun u data data' found found' n points => ?_⟩
          · rw [same] at found
            rw [conserved u data found, nothing u (by rw [found]; rfl) lapsed, Int.add_zero]
          · rw [same, found] at found'
            obtain rfl := Option.some.inj found'
            exact ⟨n, points, le_rfl⟩

end ReportStep

/-- **The books balance in every store of a run, and every cleaning run settles the
reports that have lapsed, exactly when every step is sound.** -/
theorem points_conserved_iff {s : Store} {initial : UserId → Int} (fresh : s.reports.docs = [])
    (start : ∀ u data, s.user u = some data → data.points = some (initial u))
    (steps : List ReportStep) :
    (∀ t, Reached ReportStep.step s steps t → Conserved initial t) ∧
        Along ReportStep.step (ReportStep.CleansUp initial) s steps ↔
      Along ReportStep.step ReportStep.Sound s steps := by
  have conserved : Conserved initial s := by
    intro u data found
    rw [start u data found, Store.reported, fresh]
    simp
  have fromApp : FromApp s := by
    intro doc member
    rw [fresh] at member
    cases member
  have preserve : ∀ t c, Conserved initial t ∧ FromApp t → ReportStep.Good initial t c →
      Conserved initial (ReportStep.step t c) ∧ FromApp (ReportStep.step t c) := by
    intro t c both both'
    rcases both with ⟨-, app⟩
    rcases both' with ⟨after, -⟩
    refine ⟨after, ?_⟩
    cases c with
    | report time call => exact ReportStep.step_report_fromApp app
    | clean time =>
        have run := ReportStep.step_clean time app
        split at run
        · exact absurd after (not_conserved_of_hasNaN run)
        · rw [run]
          exact app
  rw [all_reached_iff, and_iff_right conserved, ← Along.and_iff]
  exact along_iff_along preserve (fun t c ready => ReportStep.good_iff ready.1 ready.2 c)
    ⟨conserved, fromApp⟩

/-! ## A report of three points -/

/-- A report of three points for one minute, against `b`. -/
def threePoints : ReportCall where
  sender := "a"
  id := "b"
  subId := none
  report := { tag := none, desc := none, value := some 3, duration := some 60000000 }
  message := none
  image := none

/-- Three years later. -/
def yearsLater : Timestamp := ⟨100000000000000, by omega, by omega⟩

/-- Half a minute later. -/
def secondsLater : Timestamp := ⟨30000000, by omega, by omega⟩

/-- Two users without points. -/
def unreported : Store := .ofUsers ⟨[("a", {}), ("b", {})], by decide⟩

theorem unreported_points :
    ∀ u data, unreported.user u = some data → data.points = some 0 :=
  Store.forall_user.mpr (by decide)

/-- Years after the report has lapsed, a cleaning run leaves its points and the report; where
the SDK takes `NaN`, the points are `NaN`. -/
theorem lapsed_report_stays :
    let reported := ReportStep.step unreported (.report .epoch threePoints)
    let cleaned := ReportStep.step reported (.clean yearsLater)
    let spoiled := ReportStep.step { reported with takesNaN := true } (.clean yearsLater)
    ReportStep.AllLapsed reported "b" yearsLater ∧
      (cleaned.user "b").map User.points = some (some 3) ∧ (cleaned.reports.get? 0).isSome ∧
      (spoiled.user "b").map User.points = some none ∧
      ¬ ReportStep.CleansUp (fun _ => 0) reported (.clean yearsLater) := by
  intro reported cleaned spoiled
  have lapsed : ReportStep.AllLapsed reported "b" yearsLater := by
    intro doc member against
    obtain rfl := List.mem_singleton.mp member
    exact ⟨60000000, rfl, by decide⟩
  have points : (cleaned.user "b").map User.points = some (some 3) := by decide
  refine ⟨lapsed, points, by decide, by decide, fun cleans => ?_⟩
  obtain ⟨data, found, three⟩ := Option.map_eq_some_iff.mp points
  have zero := cleans.1 "b" data found lapsed
  rw [three] at zero
  exact absurd zero (by decide)

/-- The books balance while the report is young. -/
theorem young_report_conserved :
    (∀ t, Reached ReportStep.step unreported [.report .epoch threePoints, .clean secondsLater] t →
        Conserved (fun _ => 0) t) ∧
      Along ReportStep.step (ReportStep.CleansUp fun _ => 0) unreported
        [.report .epoch threePoints, .clean secondsLater] := by
  refine (points_conserved_iff rfl unreported_points _).mpr ⟨?_, ⟨nofun, ?_⟩, trivial⟩
  · exact .inr (.inr ⟨by simp [threePoints], by simp [threePoints]⟩)
  · intro u exist lapsed
    by_cases against : u = "b"
    · subst against
      obtain ⟨d, duration, early⟩ := lapsed _ (List.mem_singleton_self _) (.inl rfl)
      cases duration
      exact absurd early (by decide)
    · have notAgainst : ¬ Report.Against (storedReport "a" "b" none threePoints.report none .epoch
          .null) u := by
        intro either
        rcases either with same | same
        · exact against same.symm
        · cases same
      have docs : (ReportStep.step unreported (.report .epoch threePoints)).reports.docs =
          [(0, storedReport "a" "b" none threePoints.report none .epoch .null)] := rfl
      rw [Store.reported, docs]
      simp [notAgainst]

end TwoGather
