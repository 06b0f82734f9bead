import TwoGather.Backend.Documents
import TwoGather.Lib.Edits

/-!
# Requests to sponsors, codes, reports and histories

The smaller collections of the database. Each request of a call edits at most one document of
such a collection, and `Part.edit` says how. So for each collection the causes of a new
document, of a changed one and of one that has vanished are read off the table of effects:
`sponsorship_life`, `code_life`, `report_life`, `userReport_life` and `history_life`.
-/

namespace TwoGather

open Docs Requests

/-! ## A part of the database -/

/-- A collection with drawn keys, and what each effect does to it. -/
structure Part (δ : Type) where
  docs : Store → AutoCollection δ
  edit : Elsewhere → DocEdit δ
  docs_of_elsewhere : ∀ {x s t}, x.Does s t → docs t = (docs s).edit (edit x)
  docs_of_other : ∀ {e : Effect} {s t}, (∀ x, e ≠ .elsewhere x) → e.Does s t → docs t = docs s

namespace Part

variable {ι : Type} [DecidableEq ι] {s t : Store} {calls : ι → Call} {schedule : List ι} {δ : Type}
  {k : Nat} {d : δ} {e : Effect}

/-- An effect leaves the collection alone, or edits it as the part says. -/
theorem docs_of_does (part : Part δ) (does : e.Does s t) :
    part.docs t = part.docs s ∨
      ∃ x, e = .elsewhere x ∧ part.docs t = (part.docs s).edit (part.edit x) := by
  by_cases elsewhere : ∃ x, e = .elsewhere x
  · rcases elsewhere with ⟨x, rfl⟩
    exact .inr ⟨x, rfl, part.docs_of_elsewhere does⟩
  · exact .inl (part.docs_of_other (not_exists.mp elsewhere) does)

/-- Where nothing changes, the collection is as it was. -/
theorem docs_of_idle (part : Part δ) (idle : s.Idle t) : part.docs t = part.docs s :=
  part.docs_of_other (e := .nothing) (fun _ => nofun) idle

/-- A document under an old key is what the updates have made of the old document. -/
theorem back (part : Part δ) {F : δ → δ → Prop} (refl : ∀ d, F d d)
    (trans : ∀ d d' d'', F d d' → F d' d'' → F d d'')
    (updates : ∀ x k f, part.edit x = .update k f → ∀ d, F d (f d))
    (drawn : k < (part.docs s).next)
    (found : (part.docs (s.after calls schedule)).get? k = some d) :
    ∃ old, (part.docs s).get? k = some old ∧ F old d := by
  let R : Store → Store → Prop := fun s t => (part.docs s).next ≤ (part.docs t).next ∧
    ∀ k < (part.docs s).next, ∀ d', (part.docs t).get? k = some d' →
      ∃ d, (part.docs s).get? k = some d ∧ F d d'
  have step : ∀ (e : Effect) (s t : Store), e.Does s t → R s t := by
    intro e s t does
    rcases part.docs_of_does does with same | ⟨x, -, edited⟩
    · refine ⟨Nat.le_of_eq (congrArg AutoCollection.next same.symm), fun k _ d' found => ?_⟩
      rw [same] at found
      exact ⟨d', found, refl d'⟩
    · refine ⟨?_, fun k drawn d' found => ?_⟩
      · rw [edited]
        exact AutoCollection.next_le_edit _ _
      · rw [edited] at found
        exact AutoCollection.back_of_edit refl (updates x) drawn found
  have later : R s (s.after calls schedule) := by
    refine serve_effects (fun s => ⟨Nat.le_refl _, fun k _ d found => ⟨d, found, refl d⟩⟩) ?_
      (step .nothing) fun _ _ e s t _ => step e s t
    rintro s t r ⟨le, back⟩ ⟨le', back'⟩
    refine ⟨Nat.le_trans le le', fun k drawn d'' found => ?_⟩
    rcases back' k (Nat.lt_of_lt_of_le drawn le) d'' found with ⟨d', found', kept'⟩
    rcases back k drawn d' found' with ⟨d, found, kept⟩
    exact ⟨d, found, trans d d' d'' kept kept'⟩
  exact later.2 k drawn d found

/-- A document that is gone stays away. -/
theorem away (part : Part δ) (gone : (part.docs s).get? k = none)
    (drawn : k < (part.docs s).next) :
    (part.docs (s.after calls schedule)).get? k = none := by
  rw [Option.eq_none_iff_forall_ne_some]
  intro d found
  rcases part.back (F := fun _ _ => True) (fun _ => trivial) (fun _ _ _ _ => id)
    (fun _ _ _ _ _ => trivial) drawn found with ⟨old, there, -⟩
  cases gone.symm.trans there

/-- A document that has become what it was not was added so, or turned into it. -/
theorem cause (part : Part δ) {Q : δ → Prop}
    (before : ∀ d, (part.docs s).get? k = some d → ¬ Q d)
    (found : (part.docs (s.after calls schedule)).get? k = some d) (holds : Q d) :
    ∃ i ∈ schedule, ∃ x : Elsewhere, x.By (calls i) ∧
      ((∃ d, part.edit x = .add d ∧ Q d) ∨
        ∃ f, part.edit x = .update k f ∧ ∃ d, ¬ Q d ∧ Q (f d)) := by
  have idle (s t : Store) (still : s.Idle t) :
      (part.docs t).get? k = (part.docs s).get? k := by
    rw [part.docs_of_idle still]
  rcases doc_cause (fun s => (part.docs s).get? k) idle before found holds with
    ⟨i, listed, e, s', t', may, does, was, d', now, holds'⟩
  rcases part.docs_of_does does with same | ⟨x, rfl, edited⟩
  · rw [same] at now
    exact absurd holds' (was d' now)
  · rw [edited] at now
    refine ⟨i, listed, x, by_of_may may, ?_⟩
    exact AutoCollection.turned_by_edit was now holds'

/-- A document under an old key that has become what it was not was turned into it. -/
theorem change (part : Part δ) {Q : δ → Prop} (drawn : k < (part.docs s).next)
    (before : ∀ d, (part.docs s).get? k = some d → ¬ Q d)
    (found : (part.docs (s.after calls schedule)).get? k = some d) (holds : Q d) :
    ∃ i ∈ schedule, ∃ x : Elsewhere, x.By (calls i) ∧
      ∃ f, part.edit x = .update k f ∧ ∃ d, ¬ Q d ∧ Q (f d) := by
  -- a key that has not been drawn yet counts as fulfilled, so that the cause is not an addition
  let P : Store → Prop := fun s =>
    (part.docs s).next ≤ k ∨ ∃ d, (part.docs s).get? k = some d ∧ Q d
  have idle : ∀ s t : Store, s.Idle t → P t → P s := by
    intro s t idle held
    change (part.docs t).next ≤ k ∨ ∃ d, (part.docs t).get? k = some d ∧ Q d at held
    rw [part.docs_of_idle idle] at held
    exact held
  have notYet : ¬ P s := by
    rintro (late | ⟨d, found, holds⟩)
    · exact Nat.not_le_of_lt drawn late
    · exact before d found holds
  rcases serve_cause idle notYet (.inr ⟨d, found, holds⟩) with
    ⟨i, listed, e, s', t', may, does, was, now⟩
  rcases not_or.mp was with ⟨early, was⟩
  rcases part.docs_of_does does with same | ⟨x, rfl, edited⟩
  · change (part.docs t').next ≤ k ∨ ∃ d, (part.docs t').get? k = some d ∧ Q d at now
    rw [same] at now
    exact absurd now (not_or.mpr ⟨early, was⟩)
  · refine ⟨i, listed, x, by_of_may may, ?_⟩
    have drawn' := Nat.lt_of_not_le early
    rcases now with late | ⟨d', found', holds'⟩
    · rw [edited] at late
      exact absurd (Nat.le_trans (AutoCollection.next_le_edit _ _) late) early
    · rw [edited] at found'
      exact AutoCollection.changed_by_edit drawn' (fun d found holds => was ⟨d, found, holds⟩)
        found' holds'

/-- A document that has vanished was deleted. -/
theorem deletion (part : Part δ) (before : (part.docs s).get? k = some d)
    (gone : (part.docs (s.after calls schedule)).get? k = none) :
    ∃ i ∈ schedule, ∃ x : Elsewhere, x.By (calls i) ∧ part.edit x = .delete k := by
  let P : Store → Prop := fun s => (part.docs s).get? k = none
  have idle : ∀ s t : Store, s.Idle t → P t → P s := fun s t idle =>
    (congrArg (·.get? k) (part.docs_of_idle idle)).symm.trans
  have there : ¬ P s := fun absent => nomatch before.symm.trans absent
  rcases serve_cause idle there gone with ⟨i, listed, e, s', t', may, does, was, now⟩
  rcases part.docs_of_does does with same | ⟨x, rfl, edited⟩
  · exact absurd ((congrArg (·.get? k) same).symm.trans now) was
  · refine ⟨i, listed, x, by_of_may may, ?_⟩
    exact AutoCollection.deleted_by_edit (Option.isSome_iff_ne_none.mpr was)
      ((congrArg (·.get? k) edited).symm.trans now)

end Part

/-- The same documents in these collections. -/
structure Store.SameRecords (s t : Store) : Prop where
  sponsorship : t.sponsorship = s.sponsorship
  codes : t.codes = s.codes
  reports : t.reports = s.reports
  userReports : t.userReports = s.userReports
  createdFiesta : t.createdFiesta = s.createdFiesta

/-- The other effects leave these collections alone. -/
theorem records_of_other {e : Effect} {s t : Store} (other : ∀ x, e ≠ .elsewhere x)
    (does : e.Does s t) : s.SameRecords t := by
  cases e with
  | nothing =>
      rcases does with ⟨clock, -, rfl⟩
      exact ⟨rfl, rfl, rfl, rfl, rfl⟩
  | elsewhere x => exact absurd rfl (other x)
  | _ =>
      cases does
      exact ⟨rfl, rfl, rfl, rfl, rfl⟩

/-- An edit of the collection of one user, seen from each user. -/
theorem edit_update {δ : Type} (c : UserId → AutoCollection δ) (v u : UserId) (x : DocEdit δ) :
    Function.update c v ((c v).edit x) u = (c u).edit (if v = u then x else .keep) := by
  by_cases same : v = u
  · subst same
    rw [Function.update_self, if_pos rfl]
  · rw [Function.update_of_ne (Ne.symm same), if_neg same]
    rfl

/-! ## Requests to sponsors -/

section Sponsorships

variable {ι : Type} [DecidableEq ι] {s : Store} {calls : ι → Call} {schedule : List ι}
  {u : UserId} {r : Nat} {request request' : Sponsorship}

/-- The effects on the requests to a sponsor. -/
def sponsorshipEdit (u : UserId) : Elsewhere → DocEdit Sponsorship
  | .sponsor v request => if v = u then .add request else .keep
  | .sponsorship v r w => if v = u then .update r w.write else .keep
  | .dismissSponsorship v r => if v = u then .delete r else .keep
  | _ => .keep

def sponsorshipPart (u : UserId) : Part Sponsorship where
  docs s := s.sponsorship u
  edit := sponsorshipEdit u
  docs_of_elsewhere {x s t} does := by
    cases x with
    | sponsor v request =>
        cases does
        exact edit_update s.sponsorship v u (.add request)
    | sponsorship v r w =>
        cases does
        exact edit_update s.sponsorship v u (.update r w.write)
    | dismissSponsorship v r =>
        cases does
        exact edit_update s.sponsorship v u (.delete r)
    | _ =>
        cases does
        rfl
  docs_of_other other does := congrFun (records_of_other other does).sponsorship u

/-- What an effect does to the requests of a user, in cases. -/
theorem sponsorshipEdit_cases (u : UserId) (x : Elsewhere) :
    sponsorshipEdit u x = .keep ∨
      (∃ request, x = .sponsor u request ∧ sponsorshipEdit u x = .add request) ∨
      (∃ r w, x = .sponsorship u r w ∧ sponsorshipEdit u x = .update r w.write) ∨
      ∃ r, x = .dismissSponsorship u r ∧ sponsorshipEdit u x = .delete r := by
  cases x with
  | sponsor v request =>
      by_cases same : v = u
      · subst same
        exact .inr (.inl ⟨request, rfl, if_pos rfl⟩)
      · exact .inl (if_neg same)
  | sponsorship v r w =>
      by_cases same : v = u
      · subst same
        exact .inr (.inr (.inl ⟨r, w, rfl, if_pos rfl⟩))
      · exact .inl (if_neg same)
  | dismissSponsorship v r =>
      by_cases same : v = u
      · subst same
        exact .inr (.inr (.inr ⟨r, rfl, if_pos rfl⟩))
      · exact .inl (if_neg same)
  | _ => exact .inl rfl

/-- A request that has become what it was not was sent so, or answered. -/
theorem sponsorship_cause {Q : Sponsorship → Prop}
    (before : ∀ request, (s.sponsorship u).get? r = some request → ¬ Q request)
    (found : ((s.after calls schedule).sponsorship u).get? r = some request) (holds : Q request) :
    ∃ i ∈ schedule,
      (∃ request, request.isAccepted = false ∧ Q request ∧
        calls i = .app (.createSponsorshipDirect request.user.id request.code)) ∨
      ∃ w : SponsorshipWrite, w.By u r (calls i) ∧ ∃ old, ¬ Q old ∧ Q (w.write old) := by
  rcases (sponsorshipPart u).cause before found holds with
    ⟨i, listed, x, writes, ⟨new, adds, holds'⟩ | ⟨g, updates, old, was, now⟩⟩
  · refine ⟨i, listed, .inl ?_⟩
    rcases sponsorshipEdit_cases u x with
      edit | ⟨new', rfl, edit⟩ | ⟨r', w, -, edit⟩ | ⟨r', -, edit⟩
    · cases edit.symm.trans adds
    · cases edit.symm.trans adds
      exact ⟨new, writes.1, holds', writes.2⟩
    · cases edit.symm.trans adds
    · cases edit.symm.trans adds
  · refine ⟨i, listed, .inr ?_⟩
    rcases sponsorshipEdit_cases u x with edit | ⟨new, -, edit⟩ | ⟨r', w, rfl, edit⟩ | ⟨r', -, edit⟩
    · cases edit.symm.trans updates
    · cases edit.symm.trans updates
    · cases edit.symm.trans updates
      exact ⟨w, writes, old, was, now⟩
    · cases edit.symm.trans updates

/-- What the new user wrote. -/
def Sponsorship.asked (request : Sponsorship) : SponsorshipUser × String × Int :=
  (request.user, request.code, request.createdAt)

theorem SponsorshipWrite.asked (w : SponsorshipWrite) (request : Sponsorship) :
    (w.write request).asked = request.asked := by
  cases w with
  | accept _ => rfl
  | process _ _ => rfl

/-- No update changes what a request asks. -/
theorem sponsorshipEdit_asked {x : Elsewhere} {g : Sponsorship → Sponsorship}
    (updates : sponsorshipEdit u x = .update r g) (request : Sponsorship) :
    (g request).asked = request.asked := by
  rcases sponsorshipEdit_cases u x with edit | ⟨new, -, edit⟩ | ⟨r', w, -, edit⟩ | ⟨r', -, edit⟩
  · cases edit.symm.trans updates
  · cases edit.symm.trans updates
  · cases edit.symm.trans updates
    exact w.asked request
  · cases edit.symm.trans updates

/-- What happens to a request to a sponsor, while any calls run in any order. -/
structure SponsorshipLife (s : Store) (calls : ι → Call) (schedule : List ι) (u : UserId)
    (r : Nat) : Prop where
  /-- A request that is gone stays away. -/
  away : (s.sponsorship u).get? r = none → r < (s.sponsorship u).next →
    ((s.after calls schedule).sponsorship u).get? r = none
  /-- A new request is from the user who has just given the code. -/
  came : (s.sponsorship u).get? r = none →
    ∀ request', ((s.after calls schedule).sponsorship u).get? r = some request' →
      ∃ i ∈ schedule,
        calls i = .app (.createSponsorshipDirect request'.user.id request'.code)
  /-- What it asks is left alone. -/
  asked : ∀ request request', (s.sponsorship u).get? r = some request →
    ((s.after calls schedule).sponsorship u).get? r = some request' →
      request'.asked = request.asked
  /-- It is accepted by its sponsor only, on the page of the requests or in a notification. -/
  accepted : (∀ request, (s.sponsorship u).get? r = some request → request.isAccepted = false) →
    ∀ request', ((s.after calls schedule).sponsorship u).get? r = some request' →
      request'.isAccepted = true →
        ∃ i ∈ schedule, (∃ v, calls i = .app (.acceptUser u v r)) ∨
          ∃ k, calls i = .app (.handleSponsorshipRequest u r k true)
  /-- An acceptance is taken back by a refusal in a notification only. -/
  takenBack : ∀ request, (s.sponsorship u).get? r = some request → request.isAccepted = true →
    ∀ request', ((s.after calls schedule).sponsorship u).get? r = some request' →
      request'.isAccepted = false →
        ∃ i ∈ schedule, ∃ k, calls i = .app (.handleSponsorshipRequest u r k false)
  /-- It is dismissed by a refusal on the page of the requests only. -/
  dismissed : ∀ request, (s.sponsorship u).get? r = some request →
    ((s.after calls schedule).sponsorship u).get? r = none →
      ∃ i ∈ schedule, ∃ v, calls i = .app (.refuseUser u v r)

/-- A request asks the same for good. -/
theorem asked_kept (there : (s.sponsorship u).get? r = some request)
    (found : ((s.after calls schedule).sponsorship u).get? r = some request') :
    request'.asked = request.asked := by
  rcases (sponsorshipPart u).back (F := fun old new => new.asked = old.asked) (fun _ => rfl)
    (fun _ _ _ first second => second.trans first) (fun _ _ _ => sponsorshipEdit_asked)
    (AutoCollection.lt_next there) found with ⟨old, held, asked⟩
  cases there.symm.trans held
  exact asked

/-- A new request was made by its user, with the code that it names. -/
theorem came_cause (before : (s.sponsorship u).get? r = none)
    (found : ((s.after calls schedule).sponsorship u).get? r = some request') :
    ∃ i ∈ schedule, calls i = .app (.createSponsorshipDirect request'.user.id request'.code) := by
  have absent : ∀ request, (s.sponsorship u).get? r = some request →
      ¬ request.asked = request'.asked := by
    intro request there
    cases before.symm.trans there
  rcases sponsorship_cause absent found rfl with
    ⟨i, listed, ⟨request, -, asked, call⟩ | ⟨w, -, old, was, now⟩⟩
  · refine ⟨i, listed, ?_⟩
    have user : request.user = request'.user := congrArg Prod.fst asked
    have code : request.code = request'.code := congrArg (·.2.1) asked
    rw [← user, ← code]
    exact call
  · exact absurd ((w.asked old).symm.trans now) was

/-- A request that is accepted now was accepted by its sponsor. -/
theorem accept_cause
    (before : ∀ request, (s.sponsorship u).get? r = some request → request.isAccepted = false)
    (found : ((s.after calls schedule).sponsorship u).get? r = some request')
    (accepted : request'.isAccepted = true) :
    ∃ i ∈ schedule, (∃ v, calls i = .app (.acceptUser u v r)) ∨
      ∃ k, calls i = .app (.handleSponsorshipRequest u r k true) := by
  rcases sponsorship_cause (fun request there => Bool.eq_false_iff.mp (before request there)) found
    accepted with ⟨i, listed, ⟨request, fresh, now, -⟩ | ⟨w, writes, old, was, now⟩⟩
  · cases fresh.symm.trans now
  · refine ⟨i, listed, ?_⟩
    cases w with
    | accept _ => exact .inl writes
    | process accepted _ =>
        cases now
        exact .inr writes

/-- An acceptance is taken back by a refusal in a notification. -/
theorem takenBack_cause (there : (s.sponsorship u).get? r = some request)
    (accepted : request.isAccepted = true)
    (found : ((s.after calls schedule).sponsorship u).get? r = some request')
    (refused : request'.isAccepted = false) :
    ∃ i ∈ schedule, ∃ k, calls i = .app (.handleSponsorshipRequest u r k false) := by
  have before : ∀ request, (s.sponsorship u).get? r = some request →
      ¬ request.isAccepted = false := by
    intro old held
    cases there.symm.trans held
    rw [accepted]
    rintro ⟨⟩
  rcases (sponsorshipPart u).change (AutoCollection.lt_next there) before found refused with
    ⟨i, listed, x, writes, g, updates, old, was, now⟩
  refine ⟨i, listed, ?_⟩
  rcases sponsorshipEdit_cases u x with edit | ⟨new, -, edit⟩ | ⟨r', w, rfl, edit⟩ | ⟨r', -, edit⟩
  · cases edit.symm.trans updates
  · cases edit.symm.trans updates
  · cases edit.symm.trans updates
    cases w with
    | accept _ => cases now
    | process accepted _ =>
        cases now
        exact writes
  · cases edit.symm.trans updates

/-- A request that is gone was refused on the page. -/
theorem dismissal_cause (there : (s.sponsorship u).get? r = some request)
    (gone : ((s.after calls schedule).sponsorship u).get? r = none) :
    ∃ i ∈ schedule, ∃ v, calls i = .app (.refuseUser u v r) := by
  rcases (sponsorshipPart u).deletion there gone with ⟨i, listed, x, writes, deletes⟩
  refine ⟨i, listed, ?_⟩
  rcases sponsorshipEdit_cases u x with edit | ⟨new, -, edit⟩ | ⟨r', w, -, edit⟩ | ⟨r', rfl, edit⟩
  · cases edit.symm.trans deletes
  · cases edit.symm.trans deletes
  · cases edit.symm.trans deletes
  · cases edit.symm.trans deletes
    exact writes

/-- **What happens to a request to a sponsor, whatever runs.** -/
theorem sponsorship_life (s : Store) (calls : ι → Call) (schedule : List ι) (u : UserId)
    (r : Nat) : SponsorshipLife s calls schedule u r where
  away := (sponsorshipPart u).away
  came before _ := came_cause before
  asked _ _ := asked_kept
  accepted before _ := accept_cause before
  takenBack _ there accepted _ := takenBack_cause there accepted
  dismissed _ := dismissal_cause

end Sponsorships

/-! ## Codes and reports

Their documents are never changed. -/

section Codes

variable {ι : Type} [DecidableEq ι] {s : Store} {calls : ι → Call} {schedule : List ι} {k : Nat}

def codeEdit : Elsewhere → DocEdit TrustCode
  | .addCode code => .add code
  | .deleteCode k => .delete k
  | _ => .keep

def codePart : Part TrustCode where
  docs := Store.codes
  edit := codeEdit
  docs_of_elsewhere {x s t} does := by
    cases x with
    | _ =>
        cases does
        rfl
  docs_of_other other does := (records_of_other other does).codes

def reportEdit : Elsewhere → DocEdit Report
  | .addReport report => .add report
  | .deleteReport k => .delete k
  | _ => .keep

def reportPart : Part Report where
  docs := Store.reports
  edit := reportEdit
  docs_of_elsewhere {x s t} does := by
    cases x with
    | _ =>
        cases does
        rfl
  docs_of_other other does := (records_of_other other does).reports

/-- The effects on the reports that a user has got. -/
def userReportEdit (u : UserId) : Elsewhere → DocEdit UserReport
  | .addUserReport v report => if v = u then .add report else .keep
  | _ => .keep

def userReportPart (u : UserId) : Part UserReport where
  docs s := s.userReports u
  edit := userReportEdit u
  docs_of_elsewhere {x s t} does := by
    cases x with
    | addUserReport v report =>
        cases does
        exact edit_update s.userReports v u (.add report)
    | _ =>
        cases does
        rfl
  docs_of_other other does := congrFun (records_of_other other does).userReports u

/-- In a collection that nobody updates, a document stays what it is or is deleted, and a new
one was added. -/
structure PartLife {δ : Type} (part : Part δ) (s : Store) (calls : ι → Call) (schedule : List ι)
    (k : Nat) (adds : Call → δ → Prop) (deletes : Call → Prop) : Prop where
  away : (part.docs s).get? k = none → k < (part.docs s).next →
    (part.docs (s.after calls schedule)).get? k = none
  came : (part.docs s).get? k = none →
    ∀ d, (part.docs (s.after calls schedule)).get? k = some d → ∃ i ∈ schedule, adds (calls i) d
  stays : ∀ d, (part.docs s).get? k = some d →
    (part.docs (s.after calls schedule)).get? k = some d ∨
      (part.docs (s.after calls schedule)).get? k = none ∧ ∃ i ∈ schedule, deletes (calls i)

/-- The life of a document in a collection that nobody updates. -/
theorem partLife {δ : Type} {part : Part δ} {adds : Call → δ → Prop} {deletes : Call → Prop}
    (fixed : ∀ x k f, part.edit x ≠ .update k f)
    (added : ∀ x c d, x.By c → part.edit x = .add d → adds c d)
    (deleted : ∀ x c k, x.By c → part.edit x = .delete k → deletes c) :
    PartLife part s calls schedule k adds deletes where
  away := part.away
  came before d found := by
    have absent : ∀ old, (part.docs s).get? k = some old → ¬ old = d := by
      intro old there
      cases before.symm.trans there
    rcases part.cause absent found rfl with ⟨i, listed, x, writes, ⟨_, edit, rfl⟩ | ⟨f, edit, -⟩⟩
    · exact ⟨i, listed, added x _ _ writes edit⟩
    · exact absurd edit (fixed x k f)
  stays d there := by
    cases found : (part.docs (s.after calls schedule)).get? k with
    | none =>
        rcases part.deletion there found with ⟨i, listed, x, writes, edit⟩
        exact .inr ⟨rfl, i, listed, deleted x _ k writes edit⟩
    | some d' =>
        rcases part.back (F := Eq) (fun _ => rfl) (fun _ _ _ => Eq.trans)
          (fun x k f edit => absurd edit (fixed x k f)) (AutoCollection.lt_next there) found with
          ⟨old, held, rfl⟩
        cases there.symm.trans held
        exact .inl rfl

/-- A code comes with the sign-up of its user, and goes when some user is deleted. -/
theorem code_life (s : Store) (calls : ι → Call) (schedule : List ι) (k : Nat) :
    PartLife codePart s calls schedule k
      (fun c code => c = .triggered (.onUserCreated code.user code.code))
      (fun c => ∃ snap, c = .triggered (.onUserDeleted snap)) := by
  refine partLife ?_ ?_ ?_
  · intro x k f edit
    cases x with
    | _ => cases edit
  · intro x c code writes edit
    cases x with
    | addCode _ =>
        cases edit
        exact writes
    | _ => cases edit
  · intro x c k writes edit
    cases x with
    | deleteCode _ => exact writes
    | _ => cases edit

/-- A report is one that its sender has made of the user, and goes by the job only. -/
theorem report_life (s : Store) (calls : ι → Call) (schedule : List ι) (k : Nat) :
    PartLife reportPart s calls schedule k
      (fun c report => c.Reports report.sender report.toId)
      (fun c => c = .triggered .clearReportAfterDuration) := by
  refine partLife ?_ ?_ ?_
  · intro x k f edit
    cases x with
    | _ => cases edit
  · intro x c report writes edit
    cases x with
    | addReport _ =>
        cases edit
        exact writes
    | _ => cases edit
  · intro x c k writes edit
    cases x with
    | deleteReport _ => exact writes
    | _ => cases edit

/-- A report that a user has got is one that its sender has made, and stays for good. -/
theorem userReport_life (s : Store) (calls : ι → Call) (schedule : List ι) (u : UserId) (k : Nat) :
    PartLife (userReportPart u) s calls schedule k (fun c report => c.Reports report.sender u)
      (fun _ => False) := by
  have edits : ∀ x : Elsewhere, userReportEdit u x = .keep ∨
      ∃ report, x = .addUserReport u report ∧ userReportEdit u x = .add report := by
    intro x
    cases x with
    | addUserReport v report =>
        by_cases same : v = u
        · subst same
          exact .inr ⟨report, rfl, if_pos rfl⟩
        · exact .inl (if_neg same)
    | _ => exact .inl rfl
  refine partLife ?_ ?_ ?_
  · intro x k f edit
    rcases edits x with kept | ⟨report, -, adds⟩
    · cases kept.symm.trans edit
    · cases adds.symm.trans edit
  · intro x c report writes edit
    rcases edits x with kept | ⟨report', rfl, adds⟩
    · cases kept.symm.trans edit
    · cases adds.symm.trans edit
      exact writes
  · intro x c k _ edit
    rcases edits x with kept | ⟨report, -, adds⟩
    · cases kept.symm.trans edit
    · cases adds.symm.trans edit

end Codes

/-! ## Histories -/

section History

variable {ι : Type} [DecidableEq ι] {s : Store} {calls : ι → Call} {schedule : List ι}
  {u : UserId} {k : Nat} {data data' : CreatedFiesta}

/-- The effects on the fiestas that a user has created. -/
def historyEdit (u : UserId) : Elsewhere → DocEdit CreatedFiesta
  | .addCreated v data => if v = u then .add data else .keep
  | .saveCreated v k form => if v = u then .update k (·.saved form) else .keep
  | .deleteCreated v k => if v = u then .delete k else .keep
  | _ => .keep

def historyPart (u : UserId) : Part CreatedFiesta where
  docs s := s.createdFiesta u
  edit := historyEdit u
  docs_of_elsewhere {x s t} does := by
    cases x with
    | addCreated v data =>
        cases does
        exact edit_update s.createdFiesta v u (.add data)
    | saveCreated v k form =>
        cases does
        exact edit_update s.createdFiesta v u (.update k (·.saved form))
    | deleteCreated v k =>
        cases does
        exact edit_update s.createdFiesta v u (.delete k)
    | _ =>
        cases does
        rfl
  docs_of_other other does := congrFun (records_of_other other does).createdFiesta u

/-- What an effect does to the history of a user, in cases. -/
theorem historyEdit_cases (u : UserId) (x : Elsewhere) :
    historyEdit u x = .keep ∨
      (∃ data, x = .addCreated u data ∧ historyEdit u x = .add data) ∨
      (∃ k form, x = .saveCreated u k form ∧ historyEdit u x = .update k (·.saved form)) ∨
      ∃ k, x = .deleteCreated u k ∧ historyEdit u x = .delete k := by
  cases x with
  | addCreated v data =>
      by_cases same : v = u
      · subst same
        exact .inr (.inl ⟨data, rfl, if_pos rfl⟩)
      · exact .inl (if_neg same)
  | saveCreated v k form =>
      by_cases same : v = u
      · subst same
        exact .inr (.inr (.inl ⟨k, form, rfl, if_pos rfl⟩))
      · exact .inl (if_neg same)
  | deleteCreated v k =>
      by_cases same : v = u
      · subst same
        exact .inr (.inr (.inr ⟨k, rfl, if_pos rfl⟩))
      · exact .inl (if_neg same)
  | _ => exact .inl rfl

/-- What happens to an entry of a history, while any calls run in any order. -/
structure HistoryLife (s : Store) (calls : ι → Call) (schedule : List ι) (u : UserId) (k : Nat) :
    Prop where
  /-- An entry that is gone stays away. -/
  away : (s.createdFiesta u).get? k = none → k < (s.createdFiesta u).next →
    ((s.after calls schedule).createdFiesta u).get? k = none
  /-- A new entry names a fiesta that the user has created. -/
  came : (s.createdFiesta u).get? k = none →
    ∀ data', ((s.after calls schedule).createdFiesta u).get? k = some data' →
      ∃ i ∈ schedule, ∃ form, calls i = .app (.createNewFiesta u data'.fiestaId form)
  /-- The fiesta that an entry names stays the same. -/
  names : ∀ data, (s.createdFiesta u).get? k = some data →
    ∀ data', ((s.after calls schedule).createdFiesta u).get? k = some data' →
      data'.fiestaId = data.fiestaId
  /-- An entry that has changed shows a form that the user has saved. -/
  changed : ∀ data, (s.createdFiesta u).get? k = some data →
    ∀ data', ((s.after calls schedule).createdFiesta u).get? k = some data' → data' ≠ data →
      ∃ i ∈ schedule, ∃ f form,
        calls i = .app (.updateFiesta u f form) ∧ data' = form.created data.fiestaId
  /-- An entry goes with a deletion of a fiesta in the name of the user. -/
  deleted : ∀ data, (s.createdFiesta u).get? k = some data →
    ((s.after calls schedule).createdFiesta u).get? k = none →
      ∃ i ∈ schedule, ∃ f, calls i = .callable (.deleteFiesta u f)

/-- A new entry was made by a creation of the user. -/
theorem entry_cause (before : (s.createdFiesta u).get? k = none)
    (found : ((s.after calls schedule).createdFiesta u).get? k = some data') :
    ∃ i ∈ schedule, ∃ form, calls i = .app (.createNewFiesta u data'.fiestaId form) := by
  have absent : ∀ data, (s.createdFiesta u).get? k = some data →
      ¬ data.fiestaId = data'.fiestaId := by
    intro data there
    cases before.symm.trans there
  rcases (historyPart u).cause absent found rfl with
    ⟨i, listed, x, writes, ⟨new, adds, named⟩ | ⟨g, updates, old, was, now⟩⟩
  · refine ⟨i, listed, ?_⟩
    rcases historyEdit_cases u x with
      edit | ⟨new', rfl, edit⟩ | ⟨k', form, -, edit⟩ | ⟨k', -, edit⟩
    · cases edit.symm.trans adds
    · cases edit.symm.trans adds
      rw [← named]
      exact writes
    · cases edit.symm.trans adds
    · cases edit.symm.trans adds
  · rcases historyEdit_cases u x with edit | ⟨new, -, edit⟩ | ⟨k', form, -, edit⟩ | ⟨k', -, edit⟩
    · cases edit.symm.trans updates
    · cases edit.symm.trans updates
    · cases edit.symm.trans updates
      exact absurd now was
    · cases edit.symm.trans updates

/-- An entry names the same fiesta for good. -/
theorem name_kept (there : (s.createdFiesta u).get? k = some data)
    (found : ((s.after calls schedule).createdFiesta u).get? k = some data') :
    data'.fiestaId = data.fiestaId := by
  have kept : ∀ (x : Elsewhere) k g, historyEdit u x = .update k g →
      ∀ data : CreatedFiesta, (g data).fiestaId = data.fiestaId := by
    intro x k g updates data
    rcases historyEdit_cases u x with edit | ⟨new, -, edit⟩ | ⟨k', form, -, edit⟩ | ⟨k', -, edit⟩
    · cases edit.symm.trans updates
    · cases edit.symm.trans updates
    · cases edit.symm.trans updates
      rfl
    · cases edit.symm.trans updates
  rcases (historyPart u).back (F := fun old new => new.fiestaId = old.fiestaId) (fun _ => rfl)
    (fun _ _ _ first second => second.trans first) kept (AutoCollection.lt_next there) found with
    ⟨old, held, same⟩
  cases there.symm.trans held
  exact same

/-- An entry that has changed shows a form that the user has saved. -/
theorem save_cause (there : (s.createdFiesta u).get? k = some data)
    (found : ((s.after calls schedule).createdFiesta u).get? k = some data')
    (differs : data' ≠ data) :
    ∃ i ∈ schedule, ∃ f form,
      calls i = .app (.updateFiesta u f form) ∧ data' = form.created data.fiestaId := by
  have before : ∀ old, (s.createdFiesta u).get? k = some old → ¬ old = data' := by
    intro old held
    cases there.symm.trans held
    exact differs.symm
  rcases (historyPart u).change (AutoCollection.lt_next there) before found rfl with
    ⟨i, listed, x, writes, g, updates, old, -, now⟩
  rcases historyEdit_cases u x with edit | ⟨new, -, edit⟩ | ⟨k', form, rfl, edit⟩ | ⟨k', -, edit⟩
  · cases edit.symm.trans updates
  · cases edit.symm.trans updates
  · cases edit.symm.trans updates
    rcases writes with ⟨f, call⟩
    refine ⟨i, listed, f, form, call, ?_⟩
    -- the write leaves the name of the fiesta, which is the one at the start
    have name : old.fiestaId = data.fiestaId :=
      (congrArg CreatedFiesta.fiestaId now).trans (name_kept there found)
    rw [← name]
    exact now.symm
  · cases edit.symm.trans updates

/-- An entry that is gone was deleted with a fiesta of the user. -/
theorem entry_deletion (there : (s.createdFiesta u).get? k = some data)
    (gone : ((s.after calls schedule).createdFiesta u).get? k = none) :
    ∃ i ∈ schedule, ∃ f, calls i = .callable (.deleteFiesta u f) := by
  rcases (historyPart u).deletion there gone with ⟨i, listed, x, writes, deletes⟩
  refine ⟨i, listed, ?_⟩
  rcases historyEdit_cases u x with edit | ⟨new, -, edit⟩ | ⟨k', form, -, edit⟩ | ⟨k', rfl, edit⟩
  · cases edit.symm.trans deletes
  · cases edit.symm.trans deletes
  · cases edit.symm.trans deletes
  · exact writes

/-- The history of a user has the fiestas that this user has created, as it has saved them last,
up to deletions of fiestas in the name of this user. -/
theorem history_life (s : Store) (calls : ι → Call) (schedule : List ι) (u : UserId) (k : Nat) :
    HistoryLife s calls schedule u k where
  away := (historyPart u).away
  came before _ := entry_cause before
  names _ there _ := name_kept there
  changed _ there _ := save_cause there
  deleted _ there := entry_deletion there

end History

end TwoGather
