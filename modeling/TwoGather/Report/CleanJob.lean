import TwoGather.Store

/-!
# The cleaning job

`clean_report_after_duration.ts`: a scheduled function that settles and deletes the
reports whose duration has passed. Its loop holds one `Date` and moves it back by the
duration of every report it comes to, so the cut-off of a report depends on the
reports before it. Settling reads the field `point` of the report.
-/

namespace TwoGather

open Docs Requests

/-- `subtractSeconds`, which also moves the date that is passed in. -/
def subtractSeconds (numOfSeconds : Js.Number) (date : Js.Date) : Js.Date :=
  date.setSeconds (date.getSeconds.sub numOfSeconds)

/-- The points written back for one user: `finalPoint < 0 ? 0 : finalPoint`. -/
def finalPoint (reportPoint point : Stored Js.Number) : Js.Number :=
  let finalPoint := (Js.toNumber reportPoint).sub (Js.toNumber point)
  if finalPoint.lt (some 0) then some 0 else finalPoint

def User.incrementPoint (u : User) (n : Js.Number) : User :=
  { u with reportPoint := .value (Js.increment u.reportPoint n) }

/-- `users.doc(u).update({reportPoint: FieldValue.increment(n)})`: the SDK may refuse
`NaN` before it sends anything. -/
def incrementPoint (u : UserId) (n : Js.Number) : Firestore Unit := do
  let takesNaN ← Program.read Store.takesNaN
  if n.isSome || takesNaN then
    updateUser u (·.incrementPoint n)
  else
    throw .invalidArgument

/-- The settlement of one report with one of its two users. -/
def settle (u : UserId) (point : Stored Js.Number) : Firestore Unit := do
  let data ← getUser u
  let toData ← member data
  incrementPoint u (finalPoint toData.reportPoint point)

def deleteReport (k : Nat) : Firestore Unit :=
  .step (fun s => { s with reports := s.reports.delete k }) fun _ => pure ()

/-- The body of the loop for a report past the cut-off. -/
def settleReport (report : Nat × Report) : Firestore Unit := do
  settle report.2.toId report.2.point
  if let .value subId := report.2.subId then
    settle subId report.2.point
  deleteReport report.1

/-- The loop over the reports, with the date as the last iteration left it. -/
def cleanLoop : List (Nat × Report) → Js.Date → Firestore Unit
  | [], _ => pure ()
  | report :: reports, now => do
      let now := subtractSeconds (Js.toNumber report.2.duration) now
      if report.2.setAt.toDate.lt now then
        settleReport report
      cleanLoop reports now

def cleanReportAfterDuration : Firestore Unit := do
  let reports ← Program.read fun s => s.reports.docs
  let now ← newDate
  cleanLoop reports now

/-! ## What the requests of the job do -/

section Keeps

variable {R : Store → Store → Prop}

theorem settle_keeps (refl : ∀ s, R s s) {u : UserId}
    (users : ∀ s n, R s (s.updateUser u (·.incrementPoint n))) (point : Stored Js.Number) :
    (settle u point).Keeps R := by
  refine .bind (.read refl _) fun data => .bind ?_ fun toData => .bind (.read refl _) fun _ => ?_
  · cases data with
    | none => exact .throw _
    | some data => exact .pure data
  · split
    · exact keeps_updateUser fun s => users s _
    · exact .throw _

theorem settleReport_keeps (refl : ∀ s, R s s) {report : Nat × Report}
    (users : ∀ s u n, R s (s.updateUser u (·.incrementPoint n)))
    (delete : ∀ s : Store, R s { s with reports := s.reports.delete report.1 }) :
    (settleReport report).Keeps R := by
  have deleted : (deleteReport report.1).Keeps R := fun s => ⟨delete s, .pure ()⟩
  refine .bind (settle_keeps refl (fun s n => users s _ n) _) fun _ => ?_
  cases report.2.subId with
  | value subId =>
      exact .bind (settle_keeps refl (fun s n => users s _ n) _) fun _ => deleted
  | undefined => exact deleted
  | null => exact deleted

/-- The loop does to the store what settlements and deletions of its reports do. -/
theorem cleanLoop_keeps (refl : ∀ s, R s s)
    (users : ∀ s u n, R s (s.updateUser u (·.incrementPoint n))) (reports : List (Nat × Report))
    (delete : ∀ report ∈ reports, ∀ s : Store,
      R s { s with reports := s.reports.delete report.1 }) (now : Js.Date) :
    (cleanLoop reports now).Keeps R := by
  induction reports generalizing now with
  | nil => exact .pure ()
  | cons report reports ih =>
      have rest := ih fun other member => delete other (List.mem_cons_of_mem report member)
      rw [cleanLoop]
      split
      · exact .bind (settleReport_keeps refl users (delete report List.mem_cons_self))
          fun _ => rest _
      · exact .bind (.pure _) fun _ => rest _

end Keeps

end TwoGather
