import TwoGather.Lib.Replicas
import TwoGather.Sponsorship.TwoAnswers

/-!
# The list of sponsorship requests

`SponsorshipProvider` keeps the models of the requests of a user, and pushes a page for each
new one that is not accepted. When the context is no longer mounted, the callback returns at
the first such request, and the rest of the snapshot is lost: `requests_mirror_iff` says for
which snapshots the list follows the collection all the same. The pages are right in every
run.
-/

namespace TwoGather

open Docs Replicas Requests Snapshots

/-- The model of a document. -/
def readRequest (id : Nat) (docData : Sponsorship) : Option SponsorshipModel :=
  some (.fromJson id docData)

/-- The request that a change adds, if it is not accepted. -/
def openRequest : Change Nat Sponsorship → Option SponsorshipModel
  | .added id docData => if docData.isAccepted then none else some (.fromJson id docData)
  | _ => none

/-- The changes up to the first one that adds an open request. -/
def upToOpen : List (Change Nat Sponsorship) → List (Change Nat Sponsorship)
  | [] => []
  | change :: changes =>
      if (openRequest change).isSome then [change] else change :: upToOpen changes

/-- The changes that the callback handles. -/
def handledChanges (mounted : Bool) (changes : List (Change Nat Sponsorship)) :
    List (Change Nat Sponsorship) :=
  if mounted then changes else upToOpen changes

/-- Two collections have the same requests. -/
def SameRequests (c c' : Collection Nat Sponsorship) : Prop :=
  (c.docs.map fun doc => readRequest doc.1 doc.2).Perm
    (c'.docs.map fun doc => readRequest doc.1 doc.2)

/-! ## Snapshots of the collection -/

/-- The provider, and the open requests that were delivered as new while the context was
mounted. -/
structure RequestScene where
  provider : SponsorshipProvider := {}
  offered : List SponsorshipModel := []

/-- The documents as of the last snapshot. -/
def RequestScene.collection (s : RequestScene) : Collection Nat Sponsorship :=
  s.provider.subscription.getD noDocs

inductive RequestEvent
  | init
  | snapshot (mounted : Bool) (docChanges : List (Change Nat Sponsorship))
  | clear

namespace RequestEvent

def step (s : RequestScene) : RequestEvent → RequestScene
  | .init => { s with provider := s.provider.init }
  | .snapshot mounted docChanges =>
      match s.provider.subscription with
      | none => s
      | some last =>
          { provider :=
              { s.provider.listen mounted docChanges with
                subscription := some (run applied last docChanges) }
            offered := s.offered ++ if mounted then docChanges.filterMap openRequest else [] }
  | .clear => { s with provider := s.provider.clear }

/-- The changes of a snapshot are changes of the collection. -/
def Valid (s : RequestScene) : RequestEvent → Prop
  | .snapshot _ docChanges => Along applied Reportable s.collection docChanges
  | _ => True

/-- A snapshot that comes while the context is not mounted has the same requests already after
the first change that adds an open one. -/
def LosesNothing (s : RequestScene) : RequestEvent → Prop
  | .snapshot mounted docChanges =>
      s.provider.subscription.isSome → mounted = false →
        SameRequests (run applied s.collection (upToOpen docChanges))
          (run applied s.collection docChanges)
  | _ => True

end RequestEvent

/-- The list has one model for each document, with its latest data, and a page was pushed for
each open request that was delivered as new while mounted, once and in this order, and for
no other. -/
structure RequestScene.Mirrored (s : RequestScene) : Prop where
  mirrors : Mirrors readRequest s.collection s.provider.demand
  prompted : s.provider.pushed = s.offered

/-! ## One snapshot -/

namespace SponsorshipProvider

variable {p : SponsorshipProvider} {c : Collection Nat Sponsorship}

theorem keyed_readRequest : Keyed readRequest fun model => some model.id := by
  rintro id docData _ ⟨⟩
  rfl

/-- One change of the list is one of the collection. -/
theorem amend_mirrors {demand : List SponsorshipModel} (mirrors : Mirrors readRequest c demand)
    {change : Change Nat Sponsorship} (reportable : Reportable c change) :
    Mirrors readRequest (applied c change) (amend demand change) := by
  cases change with
  | added id docData => exact mirrors.added reportable rfl
  | modified id docData =>
      obtain ⟨old, found⟩ := Option.isSome_iff_exists.mp reportable
      obtain ⟨l', replaced, mirrors'⟩ := mirrors.replace (d := docData) keyed_readRequest found
        rfl rfl
      obtain ⟨index, place, rfl⟩ := Option.map_eq_some_iff.mp replaced
      simp only [Option.some.injEq] at place
      obtain ⟨-, is⟩ := List.findIdx?_eq_some_iff_findIdx_eq.mp place
      rw [amend, is]
      exact mirrors'
  | removed id =>
      have removed := mirrors.removed (k := id) keyed_readRequest fun _ _ => rfl
      simp only [removeWhere, ne_eq, Option.some.injEq] at removed
      exact removed

theorem amend_all_mirrors {demand : List SponsorshipModel} {changes : List (Change Nat Sponsorship)}
    (mirrors : Mirrors readRequest c demand) (reportable : Along applied Reportable c changes) :
    Mirrors readRequest (run applied c changes) (changes.foldl amend demand) := by
  induction changes generalizing c demand with
  | nil => exact mirrors
  | cons change changes ih => exact ih (amend_mirrors mirrors reportable.1) reportable.2

theorem upToOpen_prefix (changes : List (Change Nat Sponsorship)) :
    upToOpen changes <+: changes := by
  induction changes with
  | nil => exact List.prefix_rfl
  | cons change changes ih =>
      unfold upToOpen
      split
      · exact List.prefix_cons_inj change |>.mpr List.nil_prefix
      · exact List.prefix_cons_inj change |>.mpr ih

/-- What the loop handles reaches the list. -/
theorem demand_listen_handled (mounted : Bool) (p : SponsorshipProvider)
    (changes : List (Change Nat Sponsorship)) :
    (listen mounted p changes).demand = (handledChanges mounted changes).foldl amend p.demand := by
  cases mounted with
  | true => exact demand_listen p changes
  | false =>
      unfold handledChanges
      rw [if_neg Bool.false_ne_true]
      induction changes generalizing p with
      | nil => rfl
      | cons change changes ih =>
          cases change with
          | added id docData =>
              let next := { p with demand := p.demand ++ [SponsorshipModel.fromJson id docData] }
              by_cases accepted : docData.isAccepted = false
              · have openOne : openRequest (.added id docData) = some (.fromJson id docData) :=
                  if_neg (by simp [accepted])
                have stops : listen false p (.added id docData :: changes) = next := if_pos accepted
                rw [stops, upToOpen, openOne]
                rfl
              · have accepted' : docData.isAccepted = true := by simpa using accepted
                have answered : openRequest (.added id docData) = none := if_pos accepted'
                have goesOn : listen false p (.added id docData :: changes) =
                    listen false next changes := if_neg accepted
                rw [goesOn, upToOpen, answered]
                exact ih next
          | modified id docData => exact ih _
          | removed id => exact ih _

/-- The pages of a snapshot are those of its open requests, while mounted. -/
theorem pushed_listen_eq (mounted : Bool) (p : SponsorshipProvider)
    (changes : List (Change Nat Sponsorship)) :
    (listen mounted p changes).pushed =
      p.pushed ++ if mounted then changes.filterMap openRequest else [] := by
  induction changes generalizing p with
  | nil => simp [listen]
  | cons change changes ih =>
      cases change with
      | added id docData =>
          unfold listen
          rw [List.filterMap_cons]
          cases accepted : docData.isAccepted with
          | true => simpa [openRequest, SponsorshipModel.fromJson, accepted] using ih _
          | false =>
              cases mounted with
              | true => simp [openRequest, SponsorshipModel.fromJson, accepted, ih]
              | false => simp [SponsorshipModel.fromJson, accepted]
      | modified id docData => exact ih _
      | removed id => exact ih _

/-- After a snapshot the list follows the changes that were handled. -/
theorem listen_mirrors (mounted : Bool) {changes : List (Change Nat Sponsorship)}
    (mirrors : Mirrors readRequest c p.demand) (reportable : Along applied Reportable c changes) :
    Mirrors readRequest (run applied c (handledChanges mounted changes))
      (listen mounted p changes).demand := by
  have starts : handledChanges mounted changes <+: changes := by
    unfold handledChanges
    split
    · exact List.prefix_rfl
    · exact upToOpen_prefix changes
  obtain ⟨rest, eq⟩ := starts
  rw [← eq, along_append] at reportable
  rw [demand_listen_handled]
  exact amend_all_mirrors mirrors reportable.1

end SponsorshipProvider

/-! ## Runs -/

namespace RequestScene

variable {s : RequestScene} {event : RequestEvent}

/-- Every page was pushed for an open request delivered while mounted, and the other way
round. -/
theorem prompted_step (prompted : s.provider.pushed = s.offered) :
    (event.step s).provider.pushed = (event.step s).offered := by
  cases event with
  | init =>
      simp only [RequestEvent.step, SponsorshipProvider.init]
      split
      · exact prompted
      · exact prompted
  | snapshot mounted docChanges =>
      simp only [RequestEvent.step]
      split
      · exact prompted
      · rw [← prompted]
        exact SponsorshipProvider.pushed_listen_eq mounted s.provider docChanges
  | clear => exact prompted

/-- After an event the list follows the collection if and only if the event loses nothing. -/
theorem Mirrored.step_iff (mirrored : s.Mirrored) (valid : event.Valid s) :
    (event.step s).Mirrored ↔ event.LosesNothing s := by
  have prompted : (event.step s).provider.pushed = (event.step s).offered :=
    prompted_step mirrored.prompted
  have mirrors := mirrored.mirrors
  have pages : (event.step s).Mirrored ↔
      Mirrors readRequest (event.step s).collection (event.step s).provider.demand :=
    ⟨fun mirrored => mirrored.mirrors, fun mirrors => ⟨mirrors, prompted⟩⟩
  rw [pages]
  unfold collection at mirrors ⊢
  cases event with
  | init =>
      refine iff_of_true ?_ trivial
      simp only [RequestEvent.step, SponsorshipProvider.init]
      cases listens : s.provider.subscription with
      | none =>
          rw [listens] at mirrors
          exact mirrors
      | some last =>
          rw [listens] at mirrors ⊢
          exact mirrors
  | snapshot mounted docChanges =>
      simp only [RequestEvent.step, RequestEvent.LosesNothing, collection]
      simp only [RequestEvent.Valid, collection] at valid
      cases listens : s.provider.subscription with
      | none =>
          simp only [listens] at mirrors ⊢
          exact iff_of_true mirrors fun isSome _ => absurd isSome Bool.false_ne_true
      | some last =>
          simp only [listens, Option.getD_some] at mirrors valid ⊢
          have follows := SponsorshipProvider.listen_mirrors mounted mirrors valid
          cases mounted with
          | true => exact iff_of_true follows fun _ gone => absurd gone.symm Bool.false_ne_true
          | false =>
              constructor
              · exact fun after _ _ => follows.symm.trans after
              · exact fun same => follows.trans (same rfl rfl)
  | clear => exact iff_of_true mirrors_nil trivial

end RequestScene

/-- **In every run of snapshots the pages are those of the open requests delivered while
mounted. The list follows the collection after each snapshot as well if and only if every
one that comes while the context is not mounted has the same requests already after the
first change that adds an open one.** -/
theorem requests_mirror_iff (events : List RequestEvent)
    (valid : Along RequestEvent.step (fun s event => event.Valid s) {} events) :
    (∀ s, Reached RequestEvent.step {} events s → s.provider.pushed = s.offered) ∧
      ((∀ s, Reached RequestEvent.step {} events s → s.Mirrored) ↔
        Along RequestEvent.step (fun s event => event.LosesNothing s) {} events) := by
  have start : RequestScene.Mirrored {} := ⟨mirrors_nil, rfl⟩
  have prompted := all_reached (P := fun s : RequestScene => s.provider.pushed = s.offered)
    (fun s event prompted _ => RequestScene.prompted_step prompted) rfl valid
  refine ⟨prompted, ?_⟩
  exact all_reached_iff_along (fun s event mirrored valid => mirrored.step_iff valid) start valid

/-! ## Two requests while the context is gone -/

/-- A request of the user `"v"`. -/
def plainRequest (isAccepted : Bool) : Sponsorship where
  user := { id := "v", lastname := .null, firstname := .null, birthday := .null }
  code := "AB"
  isAccepted
  createdAt := 0

/-- Two open requests in the first snapshot. -/
def twoOpenRequests (mounted : Bool) : List RequestEvent :=
  [.init, .snapshot mounted [.added 0 (plainRequest false), .added 1 (plainRequest false)]]

theorem twoOpenRequests_valid (mounted : Bool) :
    Along RequestEvent.step (fun s event => event.Valid s) {} (twoOpenRequests mounted) := by
  have reportable : Along applied Reportable (noDocs : Collection Nat Sponsorship)
      [.added 0 (plainRequest false), .added 1 (plainRequest false)] := by decide
  exact ⟨trivial, reportable, trivial⟩

/-- While the context is not mounted, the second one does not come into the list. -/
theorem second_request_lost :
    let s := run RequestEvent.step {} (twoOpenRequests false)
    Along RequestEvent.step (fun s event => event.Valid s) {} (twoOpenRequests false) ∧
      (s.collection.get? 1).isSome ∧ s.provider.demand.map (·.id) = [0] ∧
      ¬ ∀ s, Reached RequestEvent.step {} (twoOpenRequests false) s → s.Mirrored := by
  intro s
  refine ⟨twoOpenRequests_valid false, rfl, rfl, fun all => ?_⟩
  have length := (all s (.run _ _)).mirrors.length_eq
  exact absurd length (by decide)

/-- While it is mounted, both do. -/
theorem two_requests_mirrored :
    (run RequestEvent.step {} (twoOpenRequests true)).Mirrored :=
  (requests_mirror_iff _ (twoOpenRequests_valid true)).2.mpr ⟨trivial, fun _ => nofun, trivial⟩ _
    (.run _ _)

end TwoGather
