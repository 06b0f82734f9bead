import TwoGather.Lib.Runs
import TwoGather.Lib.Vouching
import TwoGather.Sponsorship.Controller

/-!
# The chain of trust

Runs of the sponsorship functions, with a log of who accepted whom and whether the
sponsor's own profile was complete at that moment. Nothing in the code looks at who
owns a submitted code, so a user may sponsor itself (`own_code_accepted`). When every
submitted code is that of another user with a complete profile, every complete profile
goes back to a seed (`trust_chain`).

The invariant (`TrustInvariant`) is about requests as much as about profiles: a request
waits with another user whose profile is complete, and profiles stay complete.
-/

namespace TwoGather

open Docs Requests Vouching

/-! ## Runs -/

/-- The store, and who accepted whom so far. -/
structure Chain where
  store : Store
  accepted : List (Vouch UserId)

/-- The profile of the user is complete. -/
def Store.completed (s : Store) (u : UserId) : Bool :=
  optional User.profilCompleted (s.user u) = .value true

/-- The owner of the first document with this code. -/
def Store.codeOwner (s : Store) (code : String) : Option UserId :=
  (s.codes.docs.find? fun doc => doc.2.code = code).map fun doc => doc.2.user

inductive TrustCall
  | create (uid : UserId) (code : String)
  | accept (uid userId : UserId) (requestId : Nat)
  | refuse (uid userId : UserId) (requestId : Nat)
  | userCreated (id : UserId) (uniqueId : String)

namespace TrustCall

def step (t : Chain) : TrustCall → Chain
  | .create uid code => { t with store := ((createSponsorshipDirect uid code).exec t.store).2 }
  | .accept uid userId requestId =>
      match (acceptUser uid userId requestId).exec t.store with
      | (.ok _, store) =>
          { store
            accepted := t.accepted ++
              [{ sponsor := uid, member := userId, approved := t.store.completed uid }] }
      | (.error _, store) => { t with store }
  | .refuse uid userId requestId =>
      { t with store := ((refuseUser uid userId requestId).exec t.store).2 }
  | .userCreated id uniqueId => { t with store := ((onUserCreated id uniqueId).exec t.store).2 }

/-- An accepted request is stored with the one who accepts it, and is about the user. -/
def Valid (t : Chain) : TrustCall → Prop
  | .accept uid userId requestId =>
      ((t.store.sponsorship uid).get? requestId).map (fun request => request.user.id) = some userId
  | _ => True

instance (t : Chain) : (call : TrustCall) → Decidable (call.Valid t)
  | .accept _ _ _ => inferInstanceAs (Decidable (_ = _))
  | .create _ _ | .refuse _ _ _ | .userCreated _ _ => .isTrue trivial

/-- A submitted code belongs to another user, whose profile is complete. -/
def Honest (t : Chain) : TrustCall → Prop
  | .create uid code =>
      ∀ owner ∈ t.store.codeOwner code, owner ≠ uid ∧ t.store.completed owner
  | _ => True

instance (t : Chain) : (call : TrustCall) → Decidable (call.Honest t)
  | .create uid code => inferInstanceAs (Decidable (∀ owner ∈ t.store.codeOwner code,
      owner ≠ uid ∧ t.store.completed owner))
  | .accept _ _ _ | .refuse _ _ _ | .userCreated _ _ => .isTrue trivial

end TrustCall

/-- Every complete profile that is no seed was accepted by another user whose profile was
complete at that moment, going from sponsor to sponsor ends at a seed, and nobody is its
own sponsor. -/
structure Trusted (seeds : UserId → Prop) (t : Chain) : Prop where
  sponsored : ∀ u, t.store.completed u → ¬ seeds u →
    ∃ e ∈ t.accepted, e.member = u ∧ e.sponsor ≠ u ∧ e.approved
  rooted : ∀ u, t.store.completed u → Rooted seeds t.accepted u
  noSelf : ∀ e ∈ t.accepted, e.sponsor ≠ e.member

/-! ## The invariant -/

/-- Requests wait with other users whose profiles are complete, entries of the log come
from such users, their members are complete, and every complete profile is rooted. -/
structure TrustInvariant (seeds : UserId → Prop) (t : Chain) : Prop where
  requests : ∀ x r request, (t.store.sponsorship x).get? r = some request →
    request.user.id ≠ x ∧ t.store.completed x
  entries : ∀ e ∈ t.accepted, e.sponsor ≠ e.member ∧ e.approved ∧ t.store.completed e.member
  rooted : ∀ u, t.store.completed u → Rooted seeds t.accepted u

theorem TrustInvariant.trusted {seeds : UserId → Prop} {t : Chain}
    (invariant : TrustInvariant seeds t) : Trusted seeds t where
  sponsored u complete notSeed := by
    rcases (invariant.rooted u complete).seed_or_sponsored with seed | ⟨e, listed, same⟩
    · exact absurd seed notSeed
    · rcases invariant.entries e listed with ⟨other, approved, -⟩
      exact ⟨e, listed, same, same ▸ other, approved⟩
  rooted := invariant.rooted
  noSelf e listed := (invariant.entries e listed).1

/-- Profiles stay as they are, and requests that are there were there before, up to marks
on them. -/
structure Quiet (s s' : Store) : Prop where
  completed : s'.completed = s.completed
  requests : ∀ x r request', (s'.sponsorship x).get? r = some request' →
    ∃ request, (s.sponsorship x).get? r = some request ∧ request'.user = request.user

/-- A quiet change of the store keeps the invariant. -/
theorem TrustInvariant.quiet {seeds : UserId → Prop} {t : Chain}
    (invariant : TrustInvariant seeds t) {s : Store} (quiet : Quiet t.store s) :
    TrustInvariant seeds { t with store := s } where
  requests x r request' found := by
    rcases quiet.requests x r request' found with ⟨request, before, same⟩
    have known := invariant.requests x r request before
    rw [same, quiet.completed]
    exact known
  entries e listed := by
    rw [quiet.completed]
    exact invariant.entries e listed
  rooted u complete := by
    rw [quiet.completed] at complete
    exact invariant.rooted u complete

/-! ## What each function does -/

section Steps

variable {s s' : Store} {u : UserId}

theorem Quiet.refl (s : Store) : Quiet s s where
  completed := rfl
  requests _ _ request found := ⟨request, found, rfl⟩

theorem Quiet.trans {s'' : Store} (first : Quiet s s') (second : Quiet s' s'') : Quiet s s'' where
  completed := second.completed.trans first.completed
  requests x r request'' found := by
    rcases second.requests x r request'' found with ⟨request', before', same'⟩
    rcases first.requests x r request' before' with ⟨request, before, same⟩
    exact ⟨request, before, same'.trans same⟩

theorem completed_updateUser {g : User → User}
    (same : ∀ d, (g d).profilCompleted = d.profilCompleted) (s : Store) :
    (s.updateUser u g).completed = s.completed := by
  funext v
  unfold Store.completed
  rw [Store.user_updateUser]
  split
  · cases s.user v with
    | none => rfl
    | some d =>
        simp only [Option.map_some, optional, same]
        rfl
  · rfl

theorem quiet_updateUser {g : User → User}
    (same : ∀ d, (g d).profilCompleted = d.profilCompleted) (s : Store) :
    Quiet s (s.updateUser u g) where
  completed := completed_updateUser same s
  requests _ _ request found := ⟨request, found, rfl⟩

theorem updateUser_quiet {g : User → User}
    (same : ∀ d, (g d).profilCompleted = d.profilCompleted) : (updateUser u g).Keeps Quiet :=
  keeps_updateUser fun s => quiet_updateUser same s

/-- Whoever is approved is complete from then on, and nobody else changes. -/
theorem completed_approve (exist : (s.user u).isSome) (v : UserId) :
    (s.updateUser u (·.approve)).completed v ↔ v = u ∨ s.completed v := by
  rcases Option.isSome_iff_exists.mp exist with ⟨data, found⟩
  unfold Store.completed
  by_cases same : v = u
  · subst same
    simp [found, optional, User.approve]
  · simp [same]

/-- An update of a missing document changes nothing. -/
theorem completed_updateUser_missing (missing : s.user u = none) (g : User → User) :
    (s.updateUser u g).completed = s.completed := by
  funext v
  unfold Store.completed
  rw [Store.user_updateUser]
  split
  case isTrue same =>
    subst same
    rw [missing]
    rfl
  case isFalse => rfl

theorem deleteSponsorship_quiet (r : Nat) : (deleteSponsorship u r).Keeps Quiet := by
  intro s
  refine ⟨⟨rfl, fun x k request found => ⟨request, ?_, rfl⟩⟩, .pure ()⟩
  by_cases same : x = u
  · subst same
    simp only [Function.update_self, AutoCollection.get?_delete] at found
    split at found
    · cases found
    · exact found
  · simpa only [Function.update_of_ne same] using found

theorem updateSponsorship_quiet (r : Nat) {g : Timestamp → Sponsorship → Sponsorship}
    (same : ∀ time request, (g time request).user = request.user) :
    (updateSponsorship u r g).Keeps Quiet := by
  intro s
  refine ⟨⟨rfl, fun x k request' found => ?_⟩, ?_⟩
  · by_cases here : x = u
    · subst here
      simp only [Function.update_self, AutoCollection.get?_update] at found
      split at found
      · rcases Option.map_eq_some_iff.mp found with ⟨request, before, rfl⟩
        exact ⟨request, before, same s.clock request⟩
      · exact ⟨request', found, rfl⟩
    · simp only [Function.update_of_ne here] at found
      exact ⟨request', found, rfl⟩
  · dsimp only
    split
    · exact .pure ()
    · exact .throw _

theorem keeps_quiet {α : Type} {p : Firestore α} (keeps : p.Keeps Quiet) (s : Store) :
    Quiet s (p.exec s).2 :=
  Program.Keeps.exec (R := Quiet) Quiet.refl (fun first second => first.trans second) keeps s

theorem addCode_quiet (code : TrustCode) : (addCode code).Keeps Quiet :=
  fun _ => ⟨⟨rfl, fun _ _ request found => ⟨request, found, rfl⟩⟩, .pure ()⟩

theorem refuseUser_quiet (uid userId : UserId) (r : Nat) (s : Store) :
    Quiet s ((refuseUser uid userId r).exec s).2 := by
  apply keeps_quiet
  apply Program.Keeps.bind (deleteSponsorship_quiet r)
  intro _
  apply updateUser_quiet
  intro d
  rfl

theorem onUserCreated_quiet (id : UserId) (uniqueId : String) (s : Store) :
    Quiet s ((onUserCreated id uniqueId).exec s).2 := by
  apply keeps_quiet
  apply Program.Keeps.bind
  · apply updateUser_quiet
    intro d
    rfl
  · intro _
    exact addCode_quiet _

/-- A submission changes nothing but a status, or leaves one request with the owner of the
code. -/
theorem createSponsorshipDirect_store (uid : UserId) (code : String) (s : Store) :
    Quiet s ((createSponsorshipDirect uid code).exec s).2 ∨
      ∃ owner data, s.codeOwner code = some owner ∧
        ((createSponsorshipDirect uid code).exec s).2 =
          { s with
            sponsorship := Function.update s.sponsorship owner
              ((s.sponsorship owner).add (sponsorshipDoc uid data code s.clock)) } := by
  have failed : ∀ {e}, (createSponsorship uid code).exec s = (.error e, s) →
      Quiet s ((createSponsorshipDirect uid code).exec s).2 := by
    intro e fails
    unfold createSponsorshipDirect
    rw [Program.exec_tryCatch, fails]
    have marked := quiet_updateUser (u := uid)
      (g := ({ · with completeProfilStatus := .value "error" })) (fun _ => rfl) s
    by_cases exist : (s.user uid).isSome
    · simpa [exist] using marked
    · simpa [exist] using marked
  cases self : s.user uid with
  | none => exact .inl (failed (e := .exception) (by simp [createSponsorship, self]))
  | some data =>
      cases codes : s.codes.docs.filter fun doc => doc.2.code = code with
      | nil =>
          refine .inl (failed (e := .exception) ?_)
          simp [createSponsorship, self, codeQuery, codes]
      | cons first rest =>
          have owner : s.codeOwner code = some first.2.user := by
            rw [Store.codeOwner, ← List.head?_filter, codes]
            rfl
          refine .inr ⟨first.2.user, data, owner, ?_⟩
          simp [createSponsorshipDirect, createSponsorship, self, codeQuery, codes,
            addSponsorship]

/-- An accepted request completes the profile of its user, if the user exists. -/
theorem acceptUser_exec (uid userId : UserId) (r : Nat) (s : Store)
    (stored : ((s.sponsorship uid).get? r).isSome) :
    ∃ t, Quiet s t ∧ t.user = s.user ∧
      (acceptUser uid userId r).exec s =
        (if (s.user userId).isSome then .ok () else .error .notFound,
          t.updateUser userId (·.approve)) := by
  have quiet := keeps_quiet (updateSponsorship_quiet (u := uid) r
    (g := fun acceptedAt request =>
      { request with isAccepted := true, acceptedAt := .value acceptedAt })
    fun _ _ => rfl) s
  simp only [updateSponsorship, Program.exec_step, stored, ↓reduceIte, Program.exec_pure] at quiet
  refine ⟨_, quiet, rfl, ?_⟩
  unfold acceptUser
  simp only [Program.exec_bind, updateSponsorship, Program.exec_step, stored, ↓reduceIte,
    Program.exec_pure, exec_updateUser]
  rfl

end Steps

/-! ## The steps keep the invariant -/

section Keep

variable {seeds : UserId → Prop} {t : Chain} {uid userId : UserId}

/-- A new request waits with another user whose profile is complete. -/
theorem TrustInvariant.request (invariant : TrustInvariant seeds t) {owner : UserId}
    {doc : Sponsorship} (other : doc.user.id ≠ owner) (complete : t.store.completed owner) :
    TrustInvariant seeds
      { t with
        store :=
          { t.store with
            sponsorship := Function.update t.store.sponsorship owner
              ((t.store.sponsorship owner).add doc) } } where
  requests x r request found := by
    by_cases same : x = owner
    · subst same
      simp only [Function.update_self, AutoCollection.get?_add] at found
      split at found
      · cases Option.some.inj found
        exact ⟨other, complete⟩
      · exact invariant.requests x r request found
    · simp only [Function.update_of_ne same] at found
      exact invariant.requests x r request found
  entries := invariant.entries
  rooted := invariant.rooted

/-- A user who is not complete has no entry in the log. -/
theorem TrustInvariant.noEntry (invariant : TrustInvariant seeds t)
    (incomplete : ¬ t.store.completed userId) : firstSponsor t.accepted userId = none := by
  apply firstSponsor_eq_none.mpr
  intro e listed member
  apply incomplete
  rw [← member]
  exact (invariant.entries e listed).2.2

/-- A user whose profile is complete accepts another one. -/
theorem TrustInvariant.approve (invariant : TrustInvariant seeds t) {s : Store}
    (other : userId ≠ uid) (complete : t.store.completed uid)
    (approved : ∀ v, s.completed v ↔ v = userId ∨ t.store.completed v)
    (requests : ∀ x r request', (s.sponsorship x).get? r = some request' →
      ∃ request, (t.store.sponsorship x).get? r = some request ∧ request'.user = request.user) :
    TrustInvariant seeds
      { store := s
        accepted := t.accepted ++
          [{ sponsor := uid, member := userId, approved := t.store.completed uid }] } where
  requests x r request' found := by
    rcases requests x r request' found with ⟨request, before, same⟩
    have known := invariant.requests x r request before
    rw [same]
    exact ⟨known.1, (approved x).mpr (.inr known.2)⟩
  entries e listed := by
    rcases List.mem_append.mp listed with old | new
    · have known := invariant.entries e old
      exact ⟨known.1, known.2.1, (approved e.member).mpr (.inr known.2.2)⟩
    · rw [List.mem_singleton.mp new]
      exact ⟨other.symm, complete, (approved userId).mpr (.inl rfl)⟩
  rooted u complete' := by
    by_cases before : t.store.completed u
    · exact (invariant.rooted u before).append _
    · -- a user who completes now has no entry yet, so this sponsor is its first
      have same : u = userId := ((approved u).mp complete').resolve_right before
      subst same
      exact (invariant.rooted uid complete).vouch (invariant.noEntry before) _

/-- Every call keeps the invariant. -/
theorem TrustCall.step_invariant {call : TrustCall} (invariant : TrustInvariant seeds t)
    (valid : call.Valid t) (honest : call.Honest t) : TrustInvariant seeds (call.step t) := by
  cases call with
  | create uid code =>
      rcases createSponsorshipDirect_store uid code t.store with quiet |
        ⟨owner, data, owned, stored⟩
      · exact invariant.quiet quiet
      · rcases honest owner owned with ⟨other, complete⟩
        simp only [step, stored]
        exact invariant.request other.symm complete
  | accept uid userId requestId =>
      rcases Option.map_eq_some_iff.mp valid with ⟨request, found, about⟩
      rcases invariant.requests uid requestId request found with ⟨other, complete⟩
      rw [about] at other
      rcases acceptUser_exec uid userId requestId t.store (by rw [found]; rfl) with
        ⟨s, quiet, users, run⟩
      cases exist : t.store.user userId with
      | none =>
          have same : Quiet t.store (s.updateUser userId (·.approve)) :=
            quiet.trans {
              completed := completed_updateUser_missing (by rw [users, exist]) _
              requests := fun _ _ request found => ⟨request, found, rfl⟩ }
          simp only [step, run, exist]
          exact invariant.quiet same
      | some data =>
          have approved := completed_approve (s := s) (u := userId) (by rw [users, exist]; rfl)
          rw [quiet.completed] at approved
          simp only [step, run, exist]
          exact invariant.approve other complete approved quiet.requests
  | refuse uid userId requestId => exact invariant.quiet (refuseUser_quiet uid userId requestId _)
  | userCreated id uniqueId => exact invariant.quiet (onUserCreated_quiet id uniqueId _)

end Keep

/-- **When every submitted code is that of another user with a complete profile, every
complete profile goes back to a seed in every store of the run.** -/
theorem trust_chain {s : Store} {calls : List TrustCall}
    (noRequests : ∀ x, (s.sponsorship x).docs = [])
    (valid : Along TrustCall.step TrustCall.Valid { store := s, accepted := [] } calls)
    (honest : Along TrustCall.step TrustCall.Honest { store := s, accepted := [] } calls) :
    ∀ t, Reached TrustCall.step { store := s, accepted := [] } calls t →
      Trusted (fun u => s.completed u) t := by
  have start : TrustInvariant (fun u => s.completed u) { store := s, accepted := [] } := {
    requests := by
      intro x r request found
      have listed := Collection.mem_docs.mpr found
      rw [noRequests x] at listed
      cases listed
    entries := by
      intro e listed
      cases listed
    rooted := by
      intro u complete
      exact ⟨u, .refl, complete⟩ }
  intro t reached
  have both := Along.and_iff.mpr ⟨valid, honest⟩
  exact (all_reached (fun _ _ invariant ready =>
    TrustCall.step_invariant invariant ready.1 ready.2) start both t reached).trusted

/-! ## One's own code, and two users who approve each other -/

/-- A seed `s` and two new users, each with a code. -/
def seedAndTwo : Store :=
  { Store.ofUsers ⟨[("s", { profilCompleted := .value true }), ("a", {}), ("b", {})],
      by decide⟩ with
    codes := ((AutoCollection.empty.add { code := "1", user := "s" }).add
      { code := "2", user := "a" }).add { code := "3", user := "b" } }

def startChain : Chain := { store := seedAndTwo, accepted := [] }

/-- `a` gives its own code and accepts itself. -/
def ownCode : List TrustCall := [.create "a" "2", .accept "a" "a" 0]

/-- `a` and `b` give each other's code, and `b` accepts `a` before it is approved. -/
def eachOther : List TrustCall :=
  [.create "a" "3", .create "b" "2", .accept "b" "a" 0, .accept "a" "b" 0]

theorem own_code_accepted :
    (Along TrustCall.step TrustCall.Valid startChain ownCode ∧
        (run TrustCall.step startChain ownCode).store.completed "a" ∧
        (run TrustCall.step startChain ownCode).accepted = [⟨"a", "a", false⟩] ∧
        ¬ Trusted (fun u => seedAndTwo.completed u) (run TrustCall.step startChain ownCode)) ∧
      (Along TrustCall.step TrustCall.Valid startChain eachOther ∧
        (run TrustCall.step startChain eachOther).store.completed "a" ∧
        (run TrustCall.step startChain eachOther).accepted =
          [⟨"b", "a", false⟩, ⟨"a", "b", true⟩] ∧
        ¬ Trusted (fun u => seedAndTwo.completed u)
          (run TrustCall.step startChain eachOther)) := by
  have own : (run TrustCall.step startChain ownCode).accepted = [⟨"a", "a", false⟩] := by decide
  have each : (run TrustCall.step startChain eachOther).accepted =
      [⟨"b", "a", false⟩, ⟨"a", "b", true⟩] := by decide
  refine ⟨⟨by decide, by decide, own, fun trusted => ?_⟩,
    ⟨by decide, by decide, each, fun trusted => ?_⟩⟩
  · have self := trusted.noSelf ⟨"a", "a", false⟩ (by rw [own]; exact List.mem_singleton_self _)
    exact self rfl
  · rcases trusted.sponsored "a" (by decide) (by decide) with ⟨e, listed, member, -, approved⟩
    rw [each] at listed
    simp only [List.mem_cons, List.not_mem_nil, or_false] at listed
    rcases listed with rfl | rfl
    · exact absurd approved (by decide)
    · exact absurd member (by decide)

/-- `a` gives the code of the seed, and `b` that of `a` once `a` is approved. -/
def oneByOne : List TrustCall :=
  [.create "a" "1", .accept "s" "a" 0, .create "b" "2", .accept "a" "b" 0]

theorem oneByOne_trusted :
    (run TrustCall.step startChain oneByOne).store.completed "b" ∧
      ∀ t, Reached TrustCall.step startChain oneByOne t →
        Trusted (fun u => seedAndTwo.completed u) t :=
  ⟨by decide, trust_chain (fun _ => rfl) (by decide) (by decide)⟩

end TwoGather
