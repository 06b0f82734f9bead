import TwoGather.Report.CleanJob

/-!
# Reporting a user

`report_controller.dart`: `reportUser` credits the value of the report to the reported
user, and to a second one if there is one, and then stores the report. The writes are
separate, so a failure in between leaves points without a report.
-/

namespace TwoGather

open Docs Requests

/-- `ReportModel`; the duration is in microseconds. -/
structure ReportModel where
  tag : Option String
  desc : Option String
  value : Option Int
  duration : Option Int

/-- The points of one report. -/
def ReportModel.points (report : ReportModel) : Int :=
  report.value.getD 0

def addUserReport (u : UserId) (report : Timestamp → UserReport) : Firestore Unit :=
  .step
    (fun s =>
      { s with
        userReports := Function.update s.userReports u ((s.userReports u).add (report s.clock)) })
    fun _ => pure ()

def addReport (report : Report) : Firestore Unit :=
  .step (fun s => { s with reports := s.reports.add report }) fun _ => pure ()

/-- `StorageController.uploadToStorage`, which throws when the upload fails. -/
def uploadToStorage (file : String) : Firestore String := do
  let url ← Program.read fun s => s.upload file
  match url with
  | some url => return url
  | none => throw .upload

/-- The two writes of `reportUser` for one user: the points and a copy of the report. -/
def creditReport (sender u : UserId) (report : ReportModel) (message : Option String) :
    Firestore Unit := do
  updateUser u (·.incrementPoint (some report.points))
  addUserReport u fun setAt =>
    { setAt
      sender
      message := .ofOption message
      tag := .ofOptional report.tag
      desc := .ofOptional report.desc
      value := .ofOptional report.value
      duration := .ofOptional (report.duration.map some) }

/-- `image != null ? await uploadToStorage(image, "reports/") : null`. -/
def uploadImage : Option String → Firestore (Stored String)
  | some file => do
      let url ← uploadToStorage file
      return .value url
  | none => return .null

/-- The document stored at the end, whose fields the map of the report follows. -/
def storedReport (sender id : UserId) (subId : Option UserId) (report : ReportModel)
    (message : Option String) (setAt : Timestamp) (image : Stored String) : Report where
  setAt
  sender
  toId := id
  subId := .ofOption subId
  message := .ofOption message
  image
  tag := .ofOptional report.tag
  desc := .ofOptional report.desc
  value := .ofOptional report.value
  duration := .ofOptional (report.duration.map some)

/-- The end of `reportUser`: the report itself. -/
def storeReport (sender id : UserId) (subId : Option UserId) (report : ReportModel)
    (message image : Option String) : Firestore Unit := do
  let setAt ← now
  let image ← uploadImage image
  addReport (storedReport sender id subId report message setAt image)

/-- `reportUser`, called by the signed-in user `sender`. -/
def reportUser (sender id : UserId) (subId : Option UserId) (report : ReportModel)
    (message image : Option String) : Firestore Unit := do
  creditReport sender id report message
  if let some subId := subId then
    creditReport sender subId report message
  storeReport sender id subId report message image

end TwoGather
