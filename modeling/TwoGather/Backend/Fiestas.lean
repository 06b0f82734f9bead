import TwoGather.Backend.Documents
import TwoGather.Lib.Rely

/-!
# The life of a fiesta

While any calls run in any order, an entry of a fiesta comes from a call that asks for exactly
this entry or accepts exactly these persons, and goes through one that takes out this entry
(`entry_life`). A fiesta comes with a form of its host and goes through `deleteFiesta` only; what
its form has set is changed by the form of the update only, and it is ended by the job only
(`fiesta_life`), never before its end date, if the host does not move that (`endedPast_after`).
-/

namespace TwoGather

open Docs Requests

/-! ## Entries -/

section Entries

variable {ι : Type} [DecidableEq ι] {s : Store} {calls : ι → Call} {schedule : List ι}
  {f : FiestaId} {e : Participant} {data : Fiesta}

/-- The call creates a fiesta, and draws this id for it. -/
def Call.Creates (f : FiestaId) (c : Call) : Prop :=
  ∃ uid form, c = .app (.createNewFiesta uid f form)

/-- A call that creates such a fiesta creates the fiesta. -/
theorem Call.CreatesFiesta.creates {c : Call} {Q : Fiesta → Prop} (creates : c.CreatesFiesta f Q) :
    c.Creates f := by
  rcases creates with ⟨uid, form, call, -⟩
  exact ⟨uid, form, call⟩

/-- A new entry was asked for, or comes from an acceptance. -/
theorem entry_gained (before : ∀ data, s.fiesta f = some data → e ∉ data.participants)
    (found : (s.after calls schedule).fiesta f = some data) (listed : e ∈ data.participants) :
    ∃ i ∈ schedule, (calls i).Enters f e ∨
      e.status = .accepted ∧ (calls i).Accepts f e.fiestaRef e.duoRef := by
  rcases fiesta_cause before found listed with
    ⟨i, moves, ⟨w, writes, old, was, now⟩ | ⟨uid, form, -, none⟩⟩
  · refine ⟨i, moves, ?_⟩
    cases w with
    | union new =>
        rcases mem_arrayUnion.mp now with already | rfl
        · exact absurd already was
        · exact writes
    | remove new => exact absurd (mem_arrayRemove.mp now).1 was
    | _ => exact absurd now was
  · cases none

/-- An entry that is gone was removed, or went with a fiesta created anew. -/
theorem entry_lost (before : ∀ data, s.fiesta f = some data → e ∈ data.participants)
    (found : (s.after calls schedule).fiesta f = some data) (absent : e ∉ data.participants) :
    ∃ i ∈ schedule, (calls i).Removes f e ∨ (calls i).Creates f := by
  rcases fiesta_cause (Q := fun data => e ∉ data.participants)
    (fun data found => not_not.mpr (before data found)) found absent with
    ⟨i, moves, ⟨w, writes, old, was, now⟩ | creates⟩
  · refine ⟨i, moves, .inl ?_⟩
    cases w with
    | union new => exact absurd (mem_arrayUnion.mpr (.inl (not_not.mp was))) now
    | remove new =>
        by_cases same : e = new
        · subst same
          exact writes
        · exact absurd (mem_arrayRemove.mpr ⟨not_not.mp was, same⟩) now
    | _ => exact absurd (not_not.mp was) now
  · exact ⟨i, moves, .inr creates.creates⟩

/-- What happens to the place of an entry in a fiesta, while any calls run in any order. -/
structure EntryLife (s : Store) (calls : ι → Call) (schedule : List ι) (f : FiestaId)
    (e : Participant) : Prop where
  gained : (∀ data, s.fiesta f = some data → e ∉ data.participants) →
    ∀ data, (s.after calls schedule).fiesta f = some data → e ∈ data.participants →
      ∃ i ∈ schedule, (calls i).Enters f e ∨
        e.status = .accepted ∧ (calls i).Accepts f e.fiestaRef e.duoRef
  /-- If no call takes it out, the fiesta is another one for which the id was drawn again. -/
  lost : (∀ data, s.fiesta f = some data → e ∈ data.participants) →
    ∀ data, (s.after calls schedule).fiesta f = some data → e ∉ data.participants →
      ∃ i ∈ schedule, (calls i).Removes f e ∨ (calls i).Creates f
  /-- No entry comes twice. -/
  nodup : (∀ data, s.fiesta f = some data → data.participants.Nodup) →
    ∀ data, (s.after calls schedule).fiesta f = some data → data.participants.Nodup

/-- A list without duplicates gets none. -/
theorem nodup_after (before : ∀ data, s.fiesta f = some data → data.participants.Nodup)
    (found : (s.after calls schedule).fiesta f = some data) : data.participants.Nodup := by
  by_contra twice
  rcases fiesta_cause (Q := fun data => ¬ data.participants.Nodup)
    (fun data found => not_not.mpr (before data found)) found twice with
    ⟨i, moves, ⟨w, writes, old, was, now⟩ | ⟨uid, form, -, empty⟩⟩
  · have nodup := not_not.mp was
    cases w with
    | union new => exact now (nodup_arrayUnion nodup new)
    | remove new => exact now (nodup.filter _)
    | _ => exact now nodup
  · exact empty List.nodup_nil

/-- **What happens to an entry of a fiesta, whatever runs.** -/
theorem entry_life (s : Store) (calls : ι → Call) (schedule : List ι) (f : FiestaId)
    (e : Participant) : EntryLife s calls schedule f e where
  gained := fun before _ => entry_gained before
  lost := fun before _ => entry_lost before
  nodup := fun before _ => nodup_after before

end Entries

/-! ## The document -/

/-- What the form of the host has set. -/
def Fiesta.settings (f : Fiesta) : Fiesta :=
  { f with participants := [], isEnd := .undefined, ratings := {} }

section Document

variable {ι : Type} [DecidableEq ι] {s : Store} {calls : ι → Call} {schedule : List ι}
  {f : FiestaId}

/-- Only a call that draws its id brings a fiesta. -/
theorem creation_cause (gone : s.fiesta f = none)
    (found : ((s.after calls schedule).fiesta f).isSome = true) :
    ∃ i ∈ schedule, (calls i).Creates f := by
  rcases Option.isSome_iff_exists.mp found with ⟨data, there⟩
  have absent : ∀ data, s.fiesta f = some data → ¬ True := by
    intro data there
    cases gone.symm.trans there
  rcases fiesta_cause absent there trivial with ⟨i, listed, ⟨w, -, old, was, -⟩ | creates⟩
  · exact absurd trivial was
  · exact ⟨i, listed, creates.creates⟩

/-- Only the deletion of this very fiesta takes it away. -/
theorem deletion_cause {data : Fiesta} (found : s.fiesta f = some data)
    (gone : (s.after calls schedule).fiesta f = none) :
    ∃ i ∈ schedule, ∃ host, calls i = .callable (.deleteFiesta host f) := by
  have idle : ∀ s t : Store, s.Idle t → t.fiesta f = none → s.fiesta f = none :=
    fun s t idle => (Store.fiesta_of_fiestas idle.sameShown.fiestas f).symm.trans
  have before : ¬ s.fiesta f = none := by
    rw [found]
    rintro ⟨⟩
  rcases serve_cause (P := fun s => s.fiesta f = none) idle before gone with
    ⟨i, listed, e, s', t', may, does, was, now⟩
  rcases e.fiestas_of_does does with
    same | ⟨g, new, -, rfl⟩ | ⟨g, w, -, rfl⟩ | ⟨g, rfl, rfl⟩
  · exact absurd ((Store.fiesta_of_fiestas same f).symm.trans now) was
  · rw [Store.fiesta_createFiesta] at now
    split at now
    case isTrue => cases now
    case isFalse => exact absurd now was
  · rw [Store.fiesta_updateFiesta] at now
    split at now
    case isTrue => exact absurd (Option.map_eq_none_iff.mp now) was
    case isFalse => exact absurd now was
  · rw [Store.fiesta_deleteFiesta] at now
    split at now
    case isTrue same =>
      subst same
      exact ⟨i, listed, by_of_may may⟩
    case isFalse => exact absurd now was

/-- A field that differs was changed by one write of one call, or the fiesta was created anew. -/
theorem fiesta_field_cause {β : Type} {field : Fiesta → β} {data data' : Fiesta}
    (found : s.fiesta f = some data) (found' : (s.after calls schedule).fiesta f = some data')
    (differs : field data' ≠ field data) :
    ∃ i ∈ schedule, (calls i).Creates f ∨ ∃ w : FiestaWrite, w.By f (calls i) ∧
      ∃ old, field (w.write old) ≠ field old := by
  have before : ∀ old, s.fiesta f = some old → ¬ field old ≠ field data := by
    intro old there
    cases there.symm.trans found
    exact not_not.mpr rfl
  rcases fiesta_cause before found' differs with
    ⟨i, listed, ⟨w, writes, old, was, now⟩ | creates⟩
  · exact ⟨i, listed, .inr ⟨w, writes, old, fun same => now (same.trans (not_not.mp was))⟩⟩
  · exact ⟨i, listed, .inl creates.creates⟩

/-- What happens to a fiesta, while any calls run in any order. A call that draws its id does so
when the fiesta is not there, or not there any more. -/
structure FiestaLife (s : Store) (calls : ι → Call) (schedule : List ι) (f : FiestaId) : Prop where
  created : s.fiesta f = none → ((s.after calls schedule).fiesta f).isSome = true →
    ∃ i ∈ schedule, (calls i).Creates f
  /-- It goes through its deletion. -/
  deleted : ∀ data, s.fiesta f = some data → (s.after calls schedule).fiesta f = none →
    ∃ i ∈ schedule, ∃ host, calls i = .callable (.deleteFiesta host f)
  /-- Its settings are those of a form for it. -/
  settings : ∀ data data', s.fiesta f = some data →
    (s.after calls schedule).fiesta f = some data' → data'.settings ≠ data.settings →
      ∃ i ∈ schedule, (calls i).Creates f ∨ ∃ uid form, calls i = .app (.updateFiesta uid f form)
  /-- It is ended by the job, and never begins again. -/
  isEnd : ∀ data data', s.fiesta f = some data →
    (s.after calls schedule).fiesta f = some data' → data'.isEnd ≠ data.isEnd →
      (∃ i ∈ schedule, (calls i).Creates f) ∨
        data'.isEnd = .value true ∧ ∃ i ∈ schedule, calls i = .triggered .checkEndFiesta
  /-- Its ratings are changed by ratings of it. -/
  ratings : ∀ data data', s.fiesta f = some data →
    (s.after calls schedule).fiesta f = some data' → data'.ratings ≠ data.ratings →
      ∃ i ∈ schedule, (calls i).Creates f ∨ ∃ note, calls i = .app (.noteFiesta f note)

/-- `isEnd` becomes `true` only. -/
theorem ended_for_good {data data' : Fiesta} (found : s.fiesta f = some data)
    (found' : (s.after calls schedule).fiesta f = some data') (differs : data'.isEnd ≠ data.isEnd) :
    (∃ i ∈ schedule, (calls i).Creates f) ∨ data'.isEnd = .value true := by
  by_cases ended : data'.isEnd = .value true
  · exact .inr ended
  · have before : ∀ old, s.fiesta f = some old →
        ¬ (old.isEnd ≠ data.isEnd ∧ old.isEnd ≠ .value true) := by
      rintro old there ⟨changed, -⟩
      cases there.symm.trans found
      exact changed rfl
    rcases fiesta_cause before found' ⟨differs, ended⟩ with
      ⟨i, listed, ⟨w, -, old, was, now⟩ | creates⟩
    · cases w with
      | markEnded => exact absurd rfl now.2
      | _ => exact absurd now was
    · exact .inl ⟨i, listed, creates.creates⟩

/-- **What happens to a fiesta, whatever runs.** -/
theorem fiesta_life (s : Store) (calls : ι → Call) (schedule : List ι) (f : FiestaId) :
    FiestaLife s calls schedule f where
  created := creation_cause
  deleted _ := deletion_cause
  settings data data' found found' differs := by
    rcases fiesta_field_cause found found' differs with
      ⟨i, listed, creates | ⟨w, writes, old, changed⟩⟩
    · exact ⟨i, listed, .inl creates⟩
    · cases w with
      | save form =>
          rcases writes with ⟨uid, call⟩
          exact ⟨i, listed, .inr ⟨uid, form, call⟩⟩
      | _ => exact absurd rfl changed
  isEnd data data' found found' differs := by
    rcases fiesta_field_cause found found' differs with
      ⟨i, listed, creates | ⟨w, writes, old, changed⟩⟩
    · exact .inl ⟨i, listed, creates⟩
    · cases w with
      | markEnded =>
          rcases ended_for_good found found' differs with creates | ended
          · exact .inl creates
          · exact .inr ⟨ended, i, listed, writes⟩
      | _ => exact absurd rfl changed
  ratings data data' found found' differs := by
    rcases fiesta_field_cause found found' differs with
      ⟨i, listed, creates | ⟨w, writes, old, changed⟩⟩
    · exact ⟨i, listed, .inl creates⟩
    · cases w with
      | rate r => exact ⟨i, listed, .inr writes⟩
      | _ => exact absurd rfl changed

end Document

/-! ## The end date

The job looks at the end date of a document that it has read, and writes later. As long as the
host saves no other end date, the date that the job has read is that of the fiesta, and time only
passes, so the date is over when the write is made. A fiesta that is both created and deleted
meanwhile is left out: its id could be drawn again. -/

/-- If the fiesta is ended, it is past its end date. -/
def Store.EndedPast (s : Store) (f : FiestaId) : Prop :=
  ∀ data, s.fiesta f = some data → data.isEnd = .value true → s.expired data = true

/-- The end date of the fiesta is one of these. -/
def Store.EndsIn (s : Store) (f : FiestaId) (ends : Timestamp → Prop) : Prop :=
  ∀ data, s.fiesta f = some data → ends data.endAt

/-- The end date of the fiesta does not move: a fiesta that may be created stays once it is
there, and another one does not come. -/
structure Store.Later (f : FiestaId) (drawn : Prop) (s t : Store) : Prop where
  clock : s.clock.micros ≤ t.clock.micros
  stays : drawn → ∀ data, s.fiesta f = some data →
    ∃ data', t.fiesta f = some data' ∧ data'.endAt = data.endAt
  before : ¬ drawn → ∀ data', t.fiesta f = some data' →
    ∃ data, s.fiesta f = some data ∧ data'.endAt = data.endAt
  endedPast : s.EndedPast f → t.EndedPast f

/-- The relation between two stores that every request keeps. -/
structure Store.Onward (f : FiestaId) (drawn : Prop) (ends : Timestamp → Prop) (s t : Store) :
    Prop where
  ends : t.EndsIn f ends
  later : s.Later f drawn t

section EndDate

variable {s t : Store} {f : FiestaId} {drawn : Prop} {ends : Timestamp → Prop}

/-- What is past stays past. -/
theorem Store.expired_mono {data : Fiesta} (later : s.clock.micros ≤ t.clock.micros)
    (expired : s.expired data = true) : t.expired data = true := by
  unfold Store.expired Timestamp.toDate at *
  rw [Js.Date.lt_some, decide_eq_true_iff] at *
  omega

/-- Whether a fiesta is past depends on its end date only. -/
theorem Store.expired_of_endAt {data data' : Fiesta} (same : data'.endAt = data.endAt) :
    s.expired data' = s.expired data := by
  unfold Store.expired
  rw [same]

theorem Store.Later.refl (s : Store) : s.Later f drawn s where
  clock := Int.le_refl _
  stays _ data found := ⟨data, found, rfl⟩
  before _ data found := ⟨data, found, rfl⟩
  endedPast := id

theorem Store.Later.trans {r : Store} (first : s.Later f drawn t) (second : t.Later f drawn r) :
    s.Later f drawn r where
  clock := Int.le_trans first.clock second.clock
  stays isDrawn data found := by
    rcases first.stays isDrawn data found with ⟨data', found', same⟩
    rcases second.stays isDrawn data' found' with ⟨data'', found'', same'⟩
    exact ⟨data'', found'', same'.trans same⟩
  before other data'' found := by
    rcases second.before other data'' found with ⟨data', found', same⟩
    rcases first.before other data' found' with ⟨data, found'', same'⟩
    exact ⟨data, found'', same.trans same'⟩
  endedPast := second.endedPast ∘ first.endedPast

/-- A request that leaves the end date of the fiesta alone, and ends it after that date only. -/
theorem onward_of_map (start : s.EndsIn f ends) (clock : s.clock.micros ≤ t.clock.micros)
    {g : Fiesta → Fiesta} (maps : t.fiesta f = (s.fiesta f).map g)
    (keeps : ∀ data, s.fiesta f = some data → (g data).endAt = data.endAt ∧
      ((g data).isEnd = .value true → data.isEnd = .value true ∨ s.expired data = true)) :
    s.Onward f drawn ends t where
  ends data' found := by
    rcases Option.map_eq_some_iff.mp (maps.symm.trans found) with ⟨data, there, rfl⟩
    rw [(keeps data there).1]
    exact start data there
  later :=
    { clock := clock
      stays := by
        intro _ data found
        refine ⟨g data, ?_, (keeps data found).1⟩
        rw [maps, found]
        rfl
      before := by
        intro _ data' found
        rcases Option.map_eq_some_iff.mp (maps.symm.trans found) with ⟨data, there, rfl⟩
        exact ⟨data, there, (keeps data there).1⟩
      endedPast := by
        intro past data' found ended
        rcases Option.map_eq_some_iff.mp (maps.symm.trans found) with ⟨data, there, rfl⟩
        rw [Store.expired_of_endAt (keeps data there).1]
        apply Store.expired_mono clock
        rcases (keeps data there).2 ended with was | expired
        · exact past data there was
        · exact expired }

/-- A request that leaves the fiesta alone. -/
theorem onward_of_same (start : s.EndsIn f ends) (clock : s.clock.micros ≤ t.clock.micros)
    (same : t.fiesta f = s.fiesta f) : s.Onward f drawn ends t := by
  apply onward_of_map (g := id) start clock
  · rw [same, Option.map_id_fun, id]
  · exact fun data _ => ⟨rfl, .inl⟩

/-- The effect does not end the fiesta, saves no other end date than it has, and is in keeping
with whether it may be created, and until when. -/
def Effect.Spares (f : FiestaId) (drawn : Prop) (ends : Timestamp → Prop) : Effect → Prop
  | .fiesta g .markEnded => g ≠ f
  | .fiesta g (.save form) => g = f → ∀ endAt, ends endAt → form.endAt = endAt
  | .createFiesta g data => g = f → drawn ∧ data.isEnd = .value false ∧ ends data.endAt
  | .deleteFiesta g => g = f → ¬ drawn
  | _ => True

/-- An update that does not move the end. -/
theorem onward_updateFiesta {w : FiestaWrite} {g : FiestaId} (start : s.EndsIn f ends)
    (spares : (Effect.fiesta g w).Spares f drawn ends) :
    s.Onward f drawn ends (s.updateFiesta g w.write) := by
  by_cases same : f = g
  · subst same
    refine onward_of_map (g := w.write) start (Int.le_refl _) ?_ fun data found => ?_
    · rw [Store.fiesta_updateFiesta, if_pos rfl]
    · cases w with
      | markEnded => exact absurd rfl spares
      | save form => exact ⟨spares rfl data.endAt (start data found), .inl⟩
      | _ => exact ⟨rfl, .inl⟩
  · refine onward_of_same start (Int.le_refl _) ?_
    rw [Store.fiesta_updateFiesta, if_neg same]

/-- A new fiesta, with an end that is known. -/
theorem onward_createFiesta {data : Fiesta} {g : FiestaId} (start : s.EndsIn f ends)
    (spares : (Effect.createFiesta g data).Spares f drawn ends) :
    s.Onward f drawn ends (s.createFiesta g data) := by
  by_cases same : f = g
  · subst same
    rcases spares rfl with ⟨isDrawn, isOpen, ends⟩
    cases there : s.fiesta f with
    | some old =>
        refine onward_of_same start (Int.le_refl _) ?_
        rw [Store.fiesta_createFiesta, if_pos rfl, there, Option.getD_some]
    | none =>
        have now : (s.createFiesta f data).fiesta f = some data := by
          rw [Store.fiesta_createFiesta, if_pos rfl, there, Option.getD_none]
        refine ⟨?_, Int.le_refl _, ?_, fun other => absurd isDrawn other, ?_⟩
        · intro data' found
          cases now.symm.trans found
          exact ends
        · intro _ old found
          cases there.symm.trans found
        · intro _ data' found ended
          cases now.symm.trans found
          cases isOpen.symm.trans ended
  · refine onward_of_same start (Int.le_refl _) ?_
    rw [Store.fiesta_createFiesta, if_neg same]

/-- A deletion. -/
theorem onward_deleteFiesta {g : FiestaId} (start : s.EndsIn f ends)
    (spares : (Effect.deleteFiesta g).Spares f drawn ends) :
    s.Onward f drawn ends (s.deleteFiesta g) := by
  by_cases same : f = g
  · subst same
    have gone : (s.deleteFiesta f).fiesta f = none := by
      rw [Store.fiesta_deleteFiesta, if_pos rfl]
    refine ⟨?_, Int.le_refl _, fun isDrawn => absurd isDrawn (spares rfl), ?_, ?_⟩
    · intro data' found
      cases gone.symm.trans found
    · intro _ data' found
      cases gone.symm.trans found
    · intro _ data' found
      cases gone.symm.trans found
  · refine onward_of_same start (Int.le_refl _) ?_
    rw [Store.fiesta_deleteFiesta, if_neg same]

/-- Each effect that spares the fiesta leads onward. -/
theorem onward_of_does {e : Effect} (does : e.Does s t) (start : s.EndsIn f ends)
    (spares : e.Spares f drawn ends) : s.Onward f drawn ends t := by
  rcases e.fiestas_of_does does with
    same | ⟨g, data, rfl, rfl⟩ | ⟨g, w, rfl, rfl⟩ | ⟨g, rfl, rfl⟩
  · exact onward_of_same start (e.clock_of_does does) (Store.fiesta_of_fiestas same f)
  · exact onward_createFiesta start spares
  · exact onward_updateFiesta start spares
  · exact onward_deleteFiesta start spares

/-- What the job knows of a fiesta of its query, whatever happens to the rest: its end date, and
that it is still there if it may have been created. -/
structure Store.EndsAt (s : Store) (f : FiestaId) (drawn : Prop) (endAt : Timestamp) : Prop where
  there : drawn → ∃ data, s.fiesta f = some data
  endAt : ∀ data, s.fiesta f = some data → data.endAt = endAt

/-- An end date that is known stays the end date. -/
theorem Store.EndsAt.later {endAt : Timestamp} (known : s.EndsAt f drawn endAt)
    (later : s.Later f drawn t) : t.EndsAt f drawn endAt where
  there isDrawn := by
    rcases known.there isDrawn with ⟨data, found⟩
    rcases later.stays isDrawn data found with ⟨data', found', -⟩
    exact ⟨data', found'⟩
  endAt data' found' := by
    by_cases isDrawn : drawn
    · rcases known.there isDrawn with ⟨data, found⟩
      rcases later.stays isDrawn data found with ⟨data'', found'', same⟩
      cases found'.symm.trans found''
      exact same.trans (known.endAt data found)
    · rcases later.before isDrawn data' found' with ⟨data, found, same⟩
      exact same.trans (known.endAt data found)

/-- From a store with such an end date, everybody moves `Onward`. -/
def Store.Moves (f : FiestaId) (drawn : Prop) (ends : Timestamp → Prop) (s t : Store) : Prop :=
  s.EndsIn f ends → s.Onward f drawn ends t

theorem Store.Moves.refl (s : Store) : s.Moves f drawn ends s :=
  fun start => ⟨start, .refl s⟩

theorem Store.Moves.trans {r : Store} (first : s.Moves f drawn ends t)
    (second : t.Moves f drawn ends r) : s.Moves f drawn ends r := by
  intro start
  have between := first start
  have after := second between.ends
  exact ⟨after.ends, between.later.trans after.later⟩

/-- Each request of the program keeps `Moves`, as long as the others do. -/
abbrev Ages (f : FiestaId) (drawn : Prop) (ends : Timestamp → Prop) {α : Type} (p : Firestore α)
    (s : Store) : Prop :=
  p.Under (Store.Moves f drawn ends) (fun s act => s.Moves f drawn ends (act s)) s

/-- A call all of whose effects spare the fiesta. -/
theorem ages_of_makes {W : Effect → Prop} {α : Type} {p : Firestore α} (makes : p.Makes (Effects W))
    (spares : ∀ e, W e → e.Spares f drawn ends) (s : Store) : Ages f drawn ends p s := by
  refine Program.Under.of_makes ?_ makes s
  intro s act acts start
  rcases acts s with ⟨e, may, does⟩
  apply onward_of_does does start
  rcases may with rfl | may
  · trivial
  · exact spares e may

/-- The work on a fiesta marks it only if the date of the query is over. -/
theorem endFiesta_ages {e : FiestaId × Fiesta} (start : s.EndsIn f ends)
    (known : e.1 = f → s.EndsAt f drawn e.2.endAt) :
    Ages f drawn ends (endFiesta e.1 e.2) s := by
  intro t moves
  have later := moves start
  refine ⟨.refl t, ?_⟩
  change Ages f drawn ends
    (if e.2.endAt.toDate.lt (some (t.clock.micros / 1000)) = true then _ else _) t
  split
  case isFalse => trivial
  case isTrue ended =>
    intro r moves'
    have later' := moves' later.ends
    refine ⟨fun start' => ?_, ?_⟩
    · by_cases same : f = e.1
      · subst same
        have known' := ((known rfl).later later.later).later later'.later
        refine onward_of_map (g := (·.markEnded)) start' (Int.le_refl _) ?_ fun data found => ?_
        · rw [Store.fiesta_updateFiesta, if_pos rfl]
        · refine ⟨rfl, fun _ => .inr (Store.expired_mono later'.later.clock ?_)⟩
          rw [Store.expired_of_endAt (known'.endAt data found)]
          exact ended
      · refine onward_of_same start' (Int.le_refl _) ?_
        rw [Store.fiesta_updateFiesta, if_neg same]
    · have rest : Ages f drawn ends (do
          addNotification e.2.hostRef (hostNotification e.1 e.2)
          Program.forEach e.2.participants (noteMember e.1 e.2))
          (r.updateFiesta e.1 (·.markEnded)) := by
        refine ages_of_makes (W := Effect.Tells e.2.hostRef (.note e.1 e.2.host.id)) ?_ ?_ _
        · apply Program.Makes.bind (makes_notify fun _ => ⟨rfl, ⟨rfl, rfl⟩, rfl⟩)
          intro _
          apply Program.Makes.forEach
          exact fun member _ => makes_noteMember e.1 e.2 member
        · intro effect told
          cases effect with
          | notify _ _ => trivial
          | _ => cases told
      dsimp only
      split
      · exact rest
      · trivial

/-- The job marks only what it has seen to be past, and that is past later on. -/
theorem checkEndFiesta_ages (start : s.EndsIn f ends) : Ages f drawn ends checkEndFiesta s := by
  intro t moves
  refine ⟨.refl t, ?_⟩
  let K : Store → Prop := fun s =>
    s.EndsIn f ends ∧ ∀ e ∈ t.fiestas.docs, e.1 = f → s.EndsAt f drawn e.2.endAt
  have known : K t := by
    refine ⟨(moves start).ends, ?_⟩
    rintro e listed rfl
    have same : t.fiesta e.1 = some e.2 := Collection.mem_docs.mp listed
    refine ⟨fun _ => ⟨e.2, same⟩, fun data found => ?_⟩
    cases found.symm.trans same
    rfl
  have stable : ∀ s t, K s → s.Moves f drawn ends t → K t := by
    rintro s t ⟨start, known⟩ moves
    have later := moves start
    exact ⟨later.ends, fun e listed same => (known e listed same).later later.later⟩
  refine Program.Under.forEach_known stable (fun _ _ moves => moves) known ?_
  intro e listed r known
  exact endFiesta_ages known.1 (known.2 e (List.mem_filter.mp listed).1)

end EndDate

section EndDateRun

variable {ι : Type} [DecidableEq ι] {s : Store} {calls : ι → Call} {schedule : List ι}
  {f : FiestaId}

/-- The end dates that the fiesta has before the schedule, or may be created with. -/
def EndDate (s : Store) (calls : ι → Call) (schedule : List ι) (f : FiestaId)
    (endAt : Timestamp) : Prop :=
  (∃ data, s.fiesta f = some data ∧ data.endAt = endAt) ∨
    ∃ i ∈ schedule, ∃ uid form,
      calls i = .app (.createNewFiesta uid f form) ∧ form.endAt = endAt

/-- The schedule saves no other end date of the fiesta, and does not both create and delete
it. -/
structure Unmoved (s : Store) (calls : ι → Call) (schedule : List ι) (f : FiestaId) :
    Prop where
  saved : ∀ i ∈ schedule, ∀ uid form, calls i = .app (.updateFiesta uid f form) →
    ∀ endAt, EndDate s calls schedule f endAt → form.endAt = endAt
  once : (∃ i ∈ schedule, (calls i).Creates f) →
    ∀ i ∈ schedule, ∀ host, calls i ≠ .callable (.deleteFiesta host f)

/-- So every call of such a schedule leads onward. -/
theorem call_ages (unmoved : Unmoved s calls schedule f) {i : ι} (listed : i ∈ schedule) :
    Ages f (∃ i ∈ schedule, (calls i).Creates f) (EndDate s calls schedule f) (calls i).program
      s := by
  by_cases job : calls i = .triggered .checkEndFiesta
  · rw [job]
    exact checkEndFiesta_ages fun data found => .inl ⟨data, found, rfl⟩
  · refine ages_of_makes (calls i).makes_program ?_ s
    intro e may
    have writes := by_of_may may
    cases e with
    | fiesta g w =>
        cases w with
        | markEnded => exact absurd writes job
        | save form =>
            rcases writes with ⟨uid, call⟩
            rintro rfl
            exact unmoved.saved i listed uid form call
        | _ => trivial
    | createFiesta g data =>
        rcases writes with ⟨uid, form, rfl, call⟩
        rintro rfl
        exact ⟨⟨i, listed, uid, form, call⟩, rfl, .inr ⟨i, listed, uid, form, call, rfl⟩⟩
    | deleteFiesta g =>
        rcases writes with ⟨host, call⟩
        rintro rfl drawn
        exact unmoved.once drawn i listed host call
    | _ => trivial

/-- No fiesta is marked as ended before its end date, whatever runs while time passes. -/
theorem endedPast_after (unmoved : Unmoved s calls schedule f) (past : s.EndedPast f) :
    (s.after calls schedule).EndedPast f := by
  let R := Store.Moves f (∃ i ∈ schedule, (calls i).Creates f) (EndDate s calls schedule f)
  have ages : ∀ i, i ∈ schedule → ((s.serve calls).thread i).Under R
      (fun s act => R s (act s)) (s.serve calls).store :=
    fun i listed => call_ages unmoved listed
  have moves := Pool.under_play (R := R) (G := fun s act => R s (act s)) Store.Moves.trans
    (fun _ _ => id) Store.Moves.refl ages fun _ listed => listed
  have start : s.EndsIn f (EndDate s calls schedule f) := fun data found => .inl ⟨data, found, rfl⟩
  exact (moves.1 start).later.endedPast past

def fiveSeconds : Timestamp := ⟨5000000, by omega, by omega⟩

def tenSeconds : Timestamp := ⟨10000000, by omega, by omega⟩

/-- A fiesta that ends five seconds after the epoch. -/
def endsSoon : Fiesta where
  title := .value "fiesta"
  host := { id := "h" }
  hostRef := "h"
  endAt := fiveSeconds
  isEnd := .value false
  visibleAfter := .value true
  participants := []

def endsSoonOnly : Store :=
  { Store.ofUsers ⟨[("h", {})], List.nodup_singleton _⟩ with
    fiestas := ⟨[("f", endsSoon)], List.nodup_singleton _⟩ }

/-- Its host gives it another title. -/
def newTitle : FiestaForm where
  host := { id := "h" }
  hostRef := "h"
  title := .value "soirée"
  visibleAfter := .value true
  startAt := .epoch
  endAt := fiveSeconds

inductive JobOrSave
  | job
  | clock
  | save
  deriving DecidableEq

/-- The job, the clock when ten seconds have passed, and the host's form. -/
def jobAndSave : JobOrSave → Call
  | .job => .triggered .checkEndFiesta
  | .clock => .time tenSeconds
  | .save => .app (.updateFiesta "h" "f" newTitle)

/-- The query comes before the end date, and the look at the clock after it; in between, the host
saves the form. -/
theorem jobAndSave_endedPast :
    (endsSoonOnly.after jobAndSave [.job, .save, .clock, .job, .job]).EndedPast "f" ∧
      (endsSoonOnly.after jobAndSave [.job, .save, .clock, .job, .job]).fiesta "f" =
        some (endsSoon.saved newTitle).markEnded := by
  have there : endsSoonOnly.fiesta "f" = some endsSoon := rfl
  refine ⟨endedPast_after ⟨?_, ?_⟩ ?_, rfl⟩
  · intro call _ uid form saves endAt ends
    cases call with
    | save =>
        cases saves
        rcases ends with ⟨data, found, rfl⟩ | ⟨call, -, uid, form, creates, -⟩
        · cases there.symm.trans found
          rfl
        · cases call with
          | _ => cases creates
    | _ => cases saves
  · intro _ call _ host
    cases call with
    | _ => rintro ⟨⟩
  · intro data found ended
    cases there.symm.trans found
    cases ended

end EndDateRun

end TwoGather
