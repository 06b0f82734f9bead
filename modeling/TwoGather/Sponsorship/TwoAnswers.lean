import TwoGather.Friend.Controller
import TwoGather.Lib.Runs
import TwoGather.Lib.Snapshots
import TwoGather.Sponsorship.Controller

/-!
# Two ways to answer a sponsorship request

A sponsor answers a request on the page that `SponsorshipProvider` pushes, or on the
notification of the request. The page writes the answer to the request and to the profile of
the user who asks; the notification writes `isAccepted` of the request alone. So the two agree
on an acceptance that changes nothing in the profile, and on no refusal, which through the
notification leaves a request that is pushed again at the next login (`two_answers_iff`).
-/

namespace TwoGather

open Docs Requests Snapshots

/-- `handleSponsorshipRequest` of `notification_controller.dart`, for the signed-in user. -/
def handleSponsorshipRequest (userId : UserId) (sponsorshipId notifId : Nat) (accepted : Bool) :
    Firestore Unit :=
  tryCatch
    (do
      setNotificationAsComplete userId notifId
      updateSponsorship userId sponsorshipId fun processedAt request =>
        { request with isAccepted := accepted, processedAt := .value processedAt })
    fun _ => pure ()

/-! ## `sponsoship_provider.dart` -/

structure SponsorshipModel where
  id : Nat
  user : SponsorshipUser
  code : String
  isAccepted : Bool
  deriving DecidableEq

/-- `SponsorshipModel.fromJson(..).copyWith(id: ..)`. -/
def SponsorshipModel.fromJson (id : Nat) (docData : Sponsorship) : SponsorshipModel where
  id
  user := docData.user
  code := docData.code
  isAccepted := docData.isAccepted

/-- The listener, if there is one, with the snapshot it has last got, the list of requests, and
the pages pushed so far. -/
structure SponsorshipProvider where
  subscription : Option (Collection Nat Sponsorship) := none
  demand : List SponsorshipModel := []
  pushed : List SponsorshipModel := []

namespace SponsorshipProvider

/-- `init`: a second listener is not set up. -/
def init (p : SponsorshipProvider) : SponsorshipProvider :=
  match p.subscription with
  | some _ => p
  | none => { p with subscription := some ⟨[], List.nodup_nil⟩ }

def clear (p : SponsorshipProvider) : SponsorshipProvider :=
  { p with subscription := none, demand := [] }

/-- The loop of the listener. A request that is not accepted pushes its page, or ends the loop
if the context is gone. -/
def listen (mounted : Bool) (p : SponsorshipProvider) :
    List (Change Nat Sponsorship) → SponsorshipProvider
  | [] => p
  | .added id docData :: docChanges =>
      let model := SponsorshipModel.fromJson id docData
      let p := { p with demand := p.demand ++ [model] }
      if model.isAccepted = false then
        if mounted then listen mounted { p with pushed := p.pushed ++ [model] } docChanges else p
      else listen mounted p docChanges
  | .modified id docData :: docChanges =>
      let index := p.demand.findIdx (·.id = id)
      listen mounted { p with demand := p.demand.set index (.fromJson id docData) } docChanges
  | .removed id :: docChanges =>
      listen mounted { p with demand := p.demand.filter (·.id ≠ id) } docChanges

/-- The next snapshot of the collection, for a listener. -/
def deliver (mounted : Bool) (docs : Collection Nat Sponsorship) (p : SponsorshipProvider) :
    SponsorshipProvider :=
  match p.subscription with
  | none => p
  | some last => { listen mounted p (docChanges last docs) with subscription := some docs }

/-- Only new requests that are not accepted push a page. -/
theorem pushed_listen {mounted : Bool} {changes : List (Change Nat Sponsorship)}
    {p : SponsorshipProvider} {m : SponsorshipModel}
    (pushed : m ∈ (listen mounted p changes).pushed) :
    m ∈ p.pushed ∨ ∃ docData, .added m.id docData ∈ changes ∧ docData.isAccepted = false := by
  induction changes generalizing p with
  | nil => exact .inl pushed
  | cons c changes ih =>
      have later : (∃ docData, Change.added m.id docData ∈ changes ∧ docData.isAccepted = false) →
          ∃ docData, .added m.id docData ∈ c :: changes ∧ docData.isAccepted = false := by
        intro found
        obtain ⟨docData, listed, pending⟩ := found
        exact ⟨docData, List.mem_cons_of_mem _ listed, pending⟩
      cases c with
      | added id docData =>
          unfold listen at pushed
          dsimp only at pushed
          split at pushed
          case isTrue pending =>
            split at pushed
            case isTrue =>
              rcases ih pushed with before | found
              · rcases List.mem_append.mp before with before | new
                · exact .inl before
                · obtain rfl := List.mem_singleton.mp new
                  exact .inr ⟨docData, List.mem_cons_self, pending⟩
              · exact .inr (later found)
            case isFalse => exact .inl pushed
          case isFalse =>
            rcases ih pushed with before | found
            · exact .inl before
            · exact .inr (later found)
      | modified id docData =>
          rcases ih pushed with before | found
          · exact .inl before
          · exact .inr (later found)
      | removed id =>
          rcases ih pushed with before | found
          · exact .inl before
          · exact .inr (later found)

/-- While the context is there, every new request that is not accepted pushes its page. -/
theorem mem_pushed_listen {changes : List (Change Nat Sponsorship)} {p : SponsorshipProvider}
    {id : Nat} {docData : Sponsorship} (listed : .added id docData ∈ changes)
    (pending : docData.isAccepted = false) :
    .fromJson id docData ∈ (listen true p changes).pushed := by
  have kept : ∀ (changes : List (Change Nat Sponsorship)) (p : SponsorshipProvider) {m},
      m ∈ p.pushed → m ∈ (listen true p changes).pushed := by
    intro changes
    induction changes with
    | nil => exact fun p m before => before
    | cons c changes ih =>
        intro p m before
        cases c with
        | added id docData =>
            unfold listen
            dsimp only
            split
            · exact ih _ (List.mem_append_left _ before)
            · exact ih _ before
        | modified id docData => exact ih _ before
        | removed id => exact ih _ before
  induction changes generalizing p with
  | nil => cases listed
  | cons c changes ih =>
      rcases List.mem_cons.mp listed with rfl | later
      · unfold listen
        dsimp only
        rw [if_pos (by exact pending)]
        exact kept _ _ (List.mem_append_right _ (List.mem_singleton.mpr rfl))
      · cases c with
        | added id docData =>
            unfold listen
            dsimp only
            split
            · exact ih later
            · exact ih later
        | modified id docData => exact ih later
        | removed id => exact ih later

/-! ### What the list shows -/

/-- One change of the list. -/
def amend (demand : List SponsorshipModel) : Change Nat Sponsorship → List SponsorshipModel
  | .added id docData => demand ++ [.fromJson id docData]
  | .modified id docData => demand.set (demand.findIdx (·.id = id)) (.fromJson id docData)
  | .removed id => demand.filter (·.id ≠ id)

/-- While the context is there, all changes reach the list. -/
theorem demand_listen (p : SponsorshipProvider) (changes : List (Change Nat Sponsorship)) :
    (listen true p changes).demand = changes.foldl amend p.demand := by
  induction changes generalizing p with
  | nil => rfl
  | cons c changes ih =>
      rw [List.foldl_cons]
      cases c with
      | added id docData =>
          unfold listen
          dsimp only
          split
          · exact ih _
          · exact ih _
      | modified id docData => exact ih _
      | removed id => exact ih _

/-- The request with an id, as the list shows it. -/
def entry (demand : List SponsorshipModel) (id : Nat) : Option SponsorshipModel :=
  demand.find? (·.id = id)

/-- What a change makes of the request with its id. -/
def effect : Change Nat Sponsorship → Option SponsorshipModel → Option SponsorshipModel
  | .added id docData, before => before.or (some (.fromJson id docData))
  | .modified id docData, before => before.map fun _ => .fromJson id docData
  | .removed _, _ => none

theorem entry_set_findIdx (demand : List SponsorshipModel) {m : SponsorshipModel} (id : Nat) :
    entry (demand.set (demand.findIdx (·.id = m.id)) m) id =
      if m.id = id then (entry demand id).map fun _ => m else entry demand id := by
  unfold entry
  induction demand with
  | nil => simp
  | cons e demand ih =>
      by_cases first : e.id = m.id
      · by_cases same : m.id = id
        · simp [List.findIdx_cons, first, same]
        · simp [List.findIdx_cons, first, same]
      · by_cases same : m.id = id
        · have other : ¬ e.id = id := fun eq => first (eq.trans same.symm)
          simp only [List.findIdx_cons, first, decide_false, cond_false, List.set_cons_succ,
            List.find?_cons, other, ih]
        · simp only [List.findIdx_cons, first, decide_false, cond_false, List.set_cons_succ,
            List.find?_cons, ih, same, ↓reduceIte]

theorem entry_amend (demand : List SponsorshipModel) (c : Change Nat Sponsorship) (id : Nat) :
    entry (amend demand c) id =
      if c.key = id then effect c (entry demand id) else entry demand id := by
  cases c with
  | added k docData =>
      change (demand ++ [SponsorshipModel.fromJson k docData]).find? (·.id = id) =
        if k = id then (entry demand id).or (some (.fromJson k docData)) else entry demand id
      rw [List.find?_append]
      by_cases same : k = id
      · rw [if_pos same, List.find?_cons, decide_eq_true (by exact same)]
        rfl
      · rw [if_neg same, List.find?_cons, decide_eq_false (by exact same)]
        exact Option.or_none
  | modified k docData => exact entry_set_findIdx demand (m := .fromJson k docData) id
  | removed k =>
      change (demand.filter (·.id ≠ k)).find? (·.id = id) = if k = id then none else entry demand id
      by_cases same : k = id
      · rw [if_pos same, List.find?_eq_none.mpr]
        intro m kept eq
        have other := of_decide_eq_true (List.mem_filter.mp kept).2
        exact other ((of_decide_eq_true eq).trans same.symm)
      · rw [if_neg same, List.find?_filter]
        unfold entry
        congr 1
        funext m
        by_cases eq : m.id = id
        · simp [eq, Ne.symm same]
        · simp [eq]

end SponsorshipProvider

/-- The request as the provider shows it after a login. -/
def Store.shown (s : Store) (userId : UserId) (r : Nat) : Option SponsorshipModel :=
  (({} : SponsorshipProvider).init.deliver true (s.sponsorship userId).toCollection).demand.find?
    (·.id = r)

/-- The provider shows what is stored. -/
theorem Store.shown_eq (s : Store) (userId : UserId) (r : Nat) :
    s.shown userId r = ((s.sponsorship userId).get? r).map (.fromJson r) := by
  have entry := entry_docChanges SponsorshipProvider.entry_amend ⟨[], List.nodup_nil⟩
    (s.sponsorship userId).toCollection [] r
  change SponsorshipProvider.entry (SponsorshipProvider.listen true _ _).demand r = _
  rw [SponsorshipProvider.demand_listen]
  refine entry.trans ?_
  cases (s.sponsorship userId).get? r with
  | none => rfl
  | some docData => rfl

/-! ## Logins after an answer -/

structure LoginScene where
  store : Store
  provider : SponsorshipProvider

/-- A step of the sponsor's app, or a write of anybody. -/
inductive LoginMove
  | clear
  | init
  | deliver (mounted : Bool)
  | write (act : Store → Store)

namespace LoginMove

variable (userId : UserId) (r : Nat)

def step (t : LoginScene) : LoginMove → LoginScene
  | .clear => { t with provider := t.provider.clear }
  | .init => { t with provider := t.provider.init }
  | .deliver mounted =>
      { t with provider := t.provider.deliver mounted (t.store.sponsorship userId).toCollection }
  | .write act => { t with store := act t.store }

/-- The writes leave the request as it is. -/
def Valid (t : LoginScene) : LoginMove → Prop
  | .write act =>
      ((act t.store).sponsorship userId).get? r = (t.store.sponsorship userId).get? r
  | _ => True

end LoginMove

/-- The page of request `r` is not pushed, whatever the provider shows at first and however
often it is set up again. -/
def NeverPushed (s : Store) (userId : UserId) (r : Nat) : Prop :=
  ∀ (provider : SponsorshipProvider) (moves : List LoginMove), provider.pushed = [] →
    Along (LoginMove.step userId) (LoginMove.Valid userId r) ⟨s, provider⟩ moves →
      ∀ m ∈ (run (LoginMove.step userId) ⟨s, provider⟩ moves).provider.pushed, m.id ≠ r

/-- A request is never pushed again exactly when it is gone or accepted. -/
theorem neverPushed_iff {s : Store} {userId : UserId} {r : Nat} :
    NeverPushed s userId r ↔
      ∀ data, (s.sponsorship userId).get? r = some data → data.isAccepted = true := by
  constructor
  · intro never data found
    by_contra refused
    have pending : data.isAccepted = false := Bool.eq_false_of_not_eq_true refused
    refine never {} [.init, .deliver true] rfl ⟨trivial, trivial, trivial⟩ (.fromJson r data) ?_ rfl
    exact SponsorshipProvider.mem_pushed_listen (added_mem rfl found) pending
  · intro accepted provider moves none valid
    refine (all_reached (P := fun t =>
        (t.store.sponsorship userId).get? r = (s.sponsorship userId).get? r ∧
          ∀ m ∈ t.provider.pushed, m.id ≠ r)
      (fun t move holds valid => ?_) ⟨rfl, fun m pushed => ?_⟩ valid _ (.run _ moves)).2
    · obtain ⟨same, quiet⟩ := holds
      cases move with
      | clear => exact ⟨same, quiet⟩
      | init =>
          refine ⟨same, ?_⟩
          unfold LoginMove.step SponsorshipProvider.init
          dsimp only
          split
          · exact quiet
          · exact quiet
      | deliver mounted =>
          refine ⟨same, fun m pushed eq => ?_⟩
          unfold LoginMove.step SponsorshipProvider.deliver at pushed
          dsimp only at pushed
          split at pushed
          · exact quiet m pushed eq
          · rcases SponsorshipProvider.pushed_listen pushed with before | ⟨data, new, pending⟩
            · exact quiet m before eq
            · have found := get?_of_added new
              rw [eq] at found
              rw [accepted data (same.symm.trans found)] at pending
              cases pending
      | write act => exact ⟨Eq.trans valid same, quiet⟩
    · rw [none] at pushed
      cases pushed

/-! ## The two answers -/

/-- The database after an update of a request. -/
def Store.withRequest (s : Store) (u : UserId) (r : Nat) (g : Sponsorship → Sponsorship) : Store :=
  { s with
    sponsorship := Function.update s.sponsorship u ((s.sponsorship u).update r g) }

/-- The database without a request. -/
def Store.withoutRequest (s : Store) (u : UserId) (r : Nat) : Store :=
  { s with
    sponsorship := Function.update s.sponsorship u ((s.sponsorship u).delete r) }

@[simp] theorem Store.request_withRequest (s : Store) (u : UserId) (r : Nat)
    (g : Sponsorship → Sponsorship) :
    ((s.withRequest u r g).sponsorship u).get? r = ((s.sponsorship u).get? r).map g := by
  simp [withRequest]

@[simp] theorem Store.request_withoutRequest (s : Store) (u : UserId) (r : Nat) :
    ((s.withoutRequest u r).sponsorship u).get? r = none := by
  simp [withoutRequest]

@[simp] theorem Store.user_withRequest (s : Store) (u : UserId) (r : Nat)
    (g : Sponsorship → Sponsorship) : (s.withRequest u r g).user = s.user := rfl

@[simp] theorem Store.user_withoutRequest (s : Store) (u : UserId) (r : Nat) :
    (s.withoutRequest u r).user = s.user := rfl

theorem exec_updateSponsorship {s : Store} {u : UserId} {r : Nat} {data : Sponsorship}
    (found : (s.sponsorship u).get? r = some data) (g : Timestamp → Sponsorship → Sponsorship) :
    (updateSponsorship u r g).exec s = (.ok (), s.withRequest u r (g s.clock)) := by
  unfold updateSponsorship
  rw [Program.exec_step, found]
  rfl

inductive AnswerPath
  | page
  | notification
  deriving DecidableEq

/-- An answer of `userId` to request `r` of `requester`. -/
def AnswerPath.answer (userId requester : UserId) (r notifId : Nat) (accepted : Bool) :
    AnswerPath → Firestore Unit
  | .page => if accepted then acceptUser userId requester r else refuseUser userId requester r
  | .notification => handleSponsorshipRequest userId r notifId accepted

/-- The database after the answer. -/
def Store.answered (s : Store) (userId requester : UserId) (r notifId : Nat) (accepted : Bool)
    (path : AnswerPath) : Store :=
  ((path.answer userId requester r notifId accepted).exec s).2

/-- The two ways lead to the same profile and to the same request. -/
structure AnswersAgree (s : Store) (userId requester : UserId) (r notifId : Nat)
    (accepted : Bool) : Prop where
  profile : (s.answered userId requester r notifId accepted .page).completion requester =
    (s.answered userId requester r notifId accepted .notification).completion requester
  request : ((s.answered userId requester r notifId accepted .page).shown userId r).map
      (·.isAccepted) =
    ((s.answered userId requester r notifId accepted .notification).shown userId r).map
      (·.isAccepted)

section Answers

variable {s : Store} {userId : UserId} {r : Nat} {data : Sponsorship}

/-- An acceptance on the page. -/
theorem answered_accept (found : (s.sponsorship userId).get? r = some data) (requester : UserId)
    (notifId : Nat) :
    (s.answered userId requester r notifId true .page).user requester =
        (s.user requester).map (·.approve) ∧
      ((s.answered userId requester r notifId true .page).sponsorship userId).get? r =
        some { data with isAccepted := true, acceptedAt := .value s.clock } := by
  unfold Store.answered AnswerPath.answer
  simp only [↓reduceIte, acceptUser, Program.exec_bind, exec_updateSponsorship found,
    exec_updateUser, Store.user_updateUser, Store.user_withRequest, true_and]
  refine (Store.request_withRequest ..).trans ?_
  rw [found]
  rfl

/-- A refusal on the page. -/
theorem answered_refuse (s : Store) (userId requester : UserId) (r notifId : Nat) :
    (s.answered userId requester r notifId false .page).user requester =
        (s.user requester).map ({ · with completeProfilStatus := .value "error" }) ∧
      ((s.answered userId requester r notifId false .page).sponsorship userId).get? r = none := by
  unfold Store.answered AnswerPath.answer
  have removed : (refuseUser userId requester r).exec s =
      (updateUser requester ({ · with completeProfilStatus := .value "error" })).exec
        (s.withoutRequest userId r) := rfl
  rw [if_neg Bool.false_ne_true, removed, exec_updateUser]
  refine ⟨?_, Store.request_withoutRequest ..⟩
  rw [Store.user_updateUser, if_pos rfl, Store.user_withoutRequest]

/-- An answer on the notification. -/
theorem answered_notification (found : (s.sponsorship userId).get? r = some data)
    (requester : UserId) (notifId : Nat) (accepted : Bool) :
    (s.answered userId requester r notifId accepted .notification).user requester =
        s.user requester ∧
      ((s.answered userId requester r notifId accepted .notification).sponsorship userId).get? r =
        some { data with isAccepted := accepted, processedAt := .value s.clock } := by
  unfold Store.answered AnswerPath.answer
  simp only [handleSponsorshipRequest, Program.exec_tryCatch, Program.exec_bind,
    exec_setNotificationAsComplete]
  rw [exec_updateSponsorship (by exact found)]
  refine ⟨rfl, (Store.request_withRequest ..).trans ?_⟩
  change ((s.sponsorship userId).get? r).map _ = _
  rw [found]
  rfl

/-- The profile of the user, if it exists, is complete and approved. -/
def Store.Settled (s : Store) (u : UserId) : Prop :=
  ∀ data, s.user u = some data →
    data.profilCompleted = .value true ∧ data.completeProfilStatus = .value "approved"

/-- Approving a profile changes nothing of its completion exactly when it is approved. -/
theorem approve_same_iff (profile : Option User) :
    (profile.map (·.approve)).map (fun d => (d.profilCompleted, d.completeProfilStatus)) =
        profile.map (fun d => (d.profilCompleted, d.completeProfilStatus)) ↔
      ∀ d, profile = some d →
        d.profilCompleted = .value true ∧ d.completeProfilStatus = .value "approved" := by
  cases profile with
  | none =>
      refine iff_of_true rfl fun d here => ?_
      cases here
  | some d =>
      constructor
      · intro eq e here
        obtain rfl := Option.some.inj here
        have fields := Option.some.inj eq
        exact ⟨(congrArg Prod.fst fields).symm, (congrArg Prod.snd fields).symm⟩
      · intro settled
        obtain ⟨completed, approved⟩ := settled d rfl
        rw [Option.map_some, Option.map_some, Option.map_some, completed, approved]
        rfl

/-- Accepting agrees exactly when the page changes nothing in the profile. -/
theorem accept_agrees_iff (found : (s.sponsorship userId).get? r = some data)
    (requester : UserId) (notifId : Nat) :
    AnswersAgree s userId requester r notifId true ↔ s.Settled requester := by
  obtain ⟨pageUser, pageRequest⟩ := answered_accept found requester notifId
  obtain ⟨notifUser, notifRequest⟩ := answered_notification found requester notifId true
  have same := approve_same_iff (s.user requester)
  constructor
  · intro agree
    have profile := agree.profile
    unfold Store.completion at profile
    rw [pageUser, notifUser] at profile
    exact same.mp profile
  · intro settled
    refine ⟨?_, ?_⟩
    · unfold Store.completion
      rw [pageUser, notifUser]
      exact same.mpr settled
    · rw [Store.shown_eq, Store.shown_eq, pageRequest, notifRequest]
      rfl

/-- Refusing never agrees: only the page removes the request. -/
theorem refuse_disagrees (found : (s.sponsorship userId).get? r = some data)
    (requester : UserId) (notifId : Nat) :
    ¬ AnswersAgree s userId requester r notifId false := by
  intro agree
  have request := agree.request
  rw [Store.shown_eq, Store.shown_eq, (answered_refuse s userId requester r notifId).2,
    (answered_notification found requester notifId false).2] at request
  cases request

/-- **An answer to a request has one effect by either way, and its page is never pushed
again, exactly when the answer is an acceptance and the profile of the user, if there is one, is
complete and approved already.** -/
theorem two_answers_iff (found : (s.sponsorship userId).get? r = some data)
    (notifId : Nat) (accepted : Bool) :
    (AnswersAgree s userId data.user.id r notifId accepted ∧
        ∀ path, NeverPushed (s.answered userId data.user.id r notifId accepted path) userId r) ↔
      accepted = true ∧ s.Settled data.user.id := by
  cases accepted with
  | false =>
      refine iff_of_false (fun both => refuse_disagrees found _ notifId both.1) ?_
      exact fun both => absurd both.1 Bool.false_ne_true
  | true =>
      rw [accept_agrees_iff found _ notifId, and_iff_right rfl, and_iff_left_iff_imp]
      intro _ path
      refine neverPushed_iff.mpr fun after stored => ?_
      cases path with
      | page =>
          rw [(answered_accept found _ notifId).2] at stored
          cases stored
          rfl
      | notification =>
          rw [(answered_notification found _ notifId true).2] at stored
          cases stored
          rfl

end Answers

/-! ## A user who waits, and one who is approved already -/

/-- The request of a user with this profile, left with the sponsor `x`. -/
def oneRequest (profile : User) : Store :=
  let s := Store.ofUsers ⟨[("u", profile), ("x", {})], by simp⟩
  { s with
    sponsorship :=
      Function.update s.sponsorship "x" ((s.sponsorship "x").add
        { user := { id := "u", lastname := .value "", firstname := .value "", birthday := .null }
          code := "c"
          isAccepted := false
          createdAt := 0 }) }

def waitingUser : User where
  profilCompleted := .value false
  completeProfilStatus := .value "waiting"

/-- The notification leaves an accepted user waiting, and a refused one in the list of requests
that the next login pushes. -/
theorem notification_disagrees :
    ¬ AnswersAgree (oneRequest waitingUser) "x" "u" 0 0 true ∧
      ¬ AnswersAgree (oneRequest waitingUser) "x" "u" 0 0 false ∧
      ¬ NeverPushed ((oneRequest waitingUser).answered "x" "u" 0 0 false .notification) "x" 0 := by
  refine ⟨fun agree => ?_, fun agree => ?_, fun never => ?_⟩
  · exact absurd agree.profile (by decide)
  · exact absurd agree.request (by decide)
  · exact never {} [.init, .deliver true] rfl ⟨trivial, trivial, trivial⟩ _ List.mem_cons_self rfl

theorem approvedUser_agrees :
    AnswersAgree (oneRequest (User.approve {})) "x" "u" 0 0 true ∧
      ∀ path, NeverPushed ((oneRequest (User.approve {})).answered "x" "u" 0 0 true path) "x" 0 := by
  have found : ((oneRequest (User.approve {})).sponsorship "x").get? 0 = some
      { user := { id := "u", lastname := .value "", firstname := .value "", birthday := .null }
        code := "c"
        isAccepted := false
        createdAt := 0 } := rfl
  refine (two_answers_iff found 0 true).mpr ⟨rfl, ?_⟩
  intro data found
  cases found
  exact ⟨rfl, rfl⟩

end TwoGather
