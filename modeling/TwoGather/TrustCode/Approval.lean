import TwoGather.Lib.Pool
import TwoGather.Lib.Runs
import TwoGather.TrustCode.Submission

/-!
# Approval is final

Four writers set `completeProfilStatus` of a user: the pages on which the user submits codes,
the answers of the sponsors, and the handling of a reconnection. Only the last one reads the
profile before it writes, in a request of its own. So in an interleaving of any number of them
a profile stays approved exactly when no such write comes after an acceptance
(`approval_final_iff`).
-/

namespace TwoGather

open Docs Requests TrustCodeRateLimiter

/-- What touches the profile of a user who waits for approval. -/
inductive ProfileCall
  | submit (code : Option String)
  | reopen (code : String)
  | accept (sponsor : UserId) (requestId : Nat)
  | refuse (sponsor : UserId) (requestId : Nat)
  | reconnect
  deriving DecidableEq

/-- What the call runs, for the user `u`. -/
def ProfileCall.program (u : UserId) : ProfileCall → App Unit
  | .submit code => fiestChartOnSubmit u code
  | .reopen code => reopenTrustCode u code
  | .accept sponsor requestId => firestore (acceptUser sponsor u requestId)
  | .refuse sponsor requestId => firestore (refuseUser sponsor u requestId)
  | .reconnect => firestore (handleUserReconnection u)

/-- The calls, none of which has begun. -/
def profileCalls {ι : Type} (u : UserId) (calls : ι → ProfileCall) (d : Phone) :
    Pool ι Phone Err Unit where
  store := d
  thread i := (calls i).program u

/-- The profile is complete, if it exists, exactly when it is approved. -/
def CompletionAgrees (u : UserId) (d : Phone) : Prop :=
  ∀ completed status, d.store.completion u = some (completed, status) →
    (completed = .value true ↔ status = .value "approved")

def IsApproved (u : UserId) (d : Phone) : Prop :=
  ∃ completed, d.store.completion u = some (completed, .value "approved")

def IsCompleted (u : UserId) (d : Phone) : Prop :=
  ∃ status, d.store.completion u = some (.value true, status)

/-- The move leaves an approved profile as it is. -/
def KeepsApproval {ι : Type} [DecidableEq ι] (u : UserId) (t : Pool ι Phone Err Unit) (i : ι) :
    Prop :=
  IsApproved u t.store → (t.move i).store.store.completion u = t.store.store.completion u

/-- The next request of the program writes a status other than `"approved"`. -/
def WritesStatus (u : UserId) : App Unit → Prop
  | .done _ => False
  | .step act _ => ∃ status, status ≠ .value "approved" ∧ ∀ d,
      (act d).store.completion u = (d.store.completion u).map fun c => (c.1, status)

/-! ## What each request does to the profile -/

/-- A request that does `g` to what a view shows of the state, if it shows anything. -/
def Amends {σ γ : Type} (view : σ → Option γ) (g : γ → γ) (act : σ → σ) : Prop :=
  ∀ s, view (act s) = (view s).map g

/-- The kinds of requests: on other data, an approval, and a write of another status. -/
def ProfileRequest {σ : Type} (view : σ → Option (Stored Bool × Stored String))
    (act : σ → σ) : Prop :=
  Amends view id act ∨ Amends view (fun _ => (.value true, .value "approved")) act ∨
    ∃ status, status ≠ .value "approved" ∧ Amends view (fun c => (c.1, status)) act

/-- What a user's profile says on a phone. -/
def shownOn (u : UserId) (d : Phone) : Option (Stored Bool × Stored String) :=
  d.store.completion u

/-- A request that leaves the database as it is. -/
def OnPhone (act : Phone → Phone) : Prop :=
  ∀ d, (act d).store = d.store

section Requests

variable {σ : Type} {view : σ → Option (Stored Bool × Stored String)} {act : σ → σ} {u : UserId}

/-- A request that does not touch what is shown. -/
theorem ProfileRequest.other (same : ∀ s, view (act s) = view s) : ProfileRequest view act := by
  refine .inl fun s => ?_
  rw [same, Option.map_id]
  rfl

/-- An update of the profile, by what it makes of the two fields. -/
theorem amends_updateUser {g : User → User} {h : Stored Bool × Stored String →
      Stored Bool × Stored String}
    (does : ∀ data : User, ((g data).profilCompleted, (g data).completeProfilStatus) =
      h (data.profilCompleted, data.completeProfilStatus)) :
    Amends (Store.completion · u) h (·.updateUser u g) := by
  intro s
  change Option.map _ ((s.updateUser u g).user u) = Option.map h (Option.map _ (s.user u))
  rw [Store.user_updateUser, if_pos rfl, Option.map_map, Option.map_map]
  exact congrArg (Option.map · (s.user u)) (funext does)

/-- The update of a user, as one request about its completion. -/
theorem completion_updateUser {g : User → User}
    (request : ProfileRequest (Store.completion · u) (·.updateUser u g)) :
    (updateUser u g).Makes (ProfileRequest (Store.completion · u)) := by
  refine .step request fun s => ?_
  split
  case isTrue => exact .pure ()
  case isFalse => exact .throw _

/-- A status other than an approval. -/
theorem completion_updateStatus {status : Stored String} (other : status ≠ .value "approved") :
    (updateStatus u status).Makes (ProfileRequest (Store.completion · u)) :=
  completion_updateUser (.inr (.inr ⟨status, other, amends_updateUser fun _ => rfl⟩))

/-- A read changes nothing. -/
theorem completion_read {α : Type} (f : Store → α) :
    (Program.read f : Firestore α).Makes (ProfileRequest (Store.completion · u)) :=
  .read (.other fun _ => rfl) f

/-- A new request to a sponsor leaves the completion alone. -/
theorem completion_createSponsorship (code : String) :
    (createSponsorship u code).Makes (ProfileRequest (Store.completion · u)) := by
  apply Program.Makes.bind (completion_read _)
  intro self
  cases self with
  | none => exact .throw _
  | some selfData =>
      apply Program.Makes.bind (completion_read _)
      intro docs
      cases docs with
      | nil => exact .throw _
      | cons first rest => exact .step (.other fun _ => rfl) fun _ => .pure true

/-- The direct creation sets the status `error` at most. -/
theorem completion_createSponsorshipDirect (code : String) :
    (createSponsorshipDirect u code).Makes (ProfileRequest (Store.completion · u)) := by
  apply Program.Makes.tryCatch (completion_createSponsorship code)
  intro _
  apply Program.Makes.bind
  · exact .tryCatch (completion_updateStatus (by simp)) fun _ => .pure ()
  · exact fun _ => .pure false

/-- The acceptance approves. -/
theorem completion_acceptUser (sponsor : UserId) (requestId : Nat) :
    (acceptUser sponsor u requestId).Makes (ProfileRequest (Store.completion · u)) := by
  apply Program.Makes.bind
  · refine .step (.other fun _ => rfl) fun s => ?_
    split
    case isTrue => exact .pure ()
    case isFalse => exact .throw _
  · exact fun _ => completion_updateUser (.inr (.inl (amends_updateUser fun _ => rfl)))

/-- The refusal sets the status `error`. -/
theorem completion_refuseUser (sponsor : UserId) (requestId : Nat) :
    (refuseUser sponsor u requestId).Makes (ProfileRequest (Store.completion · u)) := by
  apply Program.Makes.bind
  · exact .step (.other fun _ => rfl) fun _ => .pure ()
  · exact fun _ => completion_updateStatus (by simp)

/-- After a new login, an error may become the start of the flow. -/
theorem completion_handleUserReconnection :
    (handleUserReconnection u).Makes (ProfileRequest (Store.completion · u)) := by
  refine .tryCatch ?_ fun _ => .pure ()
  apply Program.Makes.bind (completion_read _)
  intro doc
  cases doc with
  | none => exact .pure ()
  | some userData =>
      dsimp only
      split
      case isTrue => exact .pure ()
      case isFalse =>
        split
        case isTrue => exact completion_updateStatus (by simp)
        case isFalse => exact .pure ()

/-! ### On the phone -/

/-- What a program does to the database it does on the phone. -/
theorem completion_firestore {α : Type} {p : Firestore α}
    (makes : p.Makes (ProfileRequest (Store.completion · u))) :
    (firestore p).Makes (ProfileRequest (shownOn u)) := by
  apply Program.Makes.zoom _ makes
  intro act request
  rcases request with other | approval | ⟨status, differs, write⟩
  · exact .inl fun d => other d.store
  · exact .inr (.inl fun d => approval d.store)
  · exact .inr (.inr ⟨status, differs, fun d => write d.store⟩)

/-- The search for a code reads only. -/
theorem completion_lookUp (code : String) : (lookUp code).Makes (ProfileRequest (shownOn u)) :=
  .step (.other fun _ => rfl) fun _ => .pure _

/-- What stays on the phone leaves the completion alone. -/
theorem completion_onPhone {α : Type} {p : App α} (makes : p.Makes OnPhone) :
    p.Makes (ProfileRequest (shownOn u)) := by
  apply makes.mono
  intro act onPhone
  exact .other fun d => congrArg (Store.completion · u) (onPhone d)

/-- The failed attempts are listed on the phone. -/
theorem onPhone_getRecentFailedAttempts : getRecentFailedAttempts.Makes OnPhone := by
  refine .step (fun d => ?_) fun _ => .pure _
  unfold saveRecent
  split
  case isTrue => rfl
  case isFalse => rfl

/-- They are counted on the phone. -/
theorem onPhone_fewRecentAttempts : fewRecentAttempts.Makes OnPhone :=
  .bind onPhone_getRecentFailedAttempts fun _ => .pure _

/-- Whether an attempt is allowed is decided on the phone. -/
theorem onPhone_canAttemptValidation : canAttemptValidation.Makes OnPhone := by
  apply Program.Makes.bind (.read (fun _ => rfl) _)
  intro blocked
  cases blocked with
  | none => exact onPhone_fewRecentAttempts
  | some blockedUntil =>
      apply Program.Makes.bind (.step (fun _ => rfl) fun _ => .pure _)
      intro now
      split
      case isTrue => exact .pure _
      case isFalse =>
        exact .bind (.step (fun _ => rfl) fun _ => .pure _) fun _ => onPhone_fewRecentAttempts

/-- A failed attempt is recorded on the phone. -/
theorem onPhone_recordFailedAttempt : recordFailedAttempt.Makes OnPhone := by
  apply Program.Makes.bind onPhone_getRecentFailedAttempts
  intro _
  apply Program.Makes.bind (.step (fun _ => rfl) fun _ => .pure _)
  intro failedAttempts
  split
  case isTrue => exact .step (fun _ => rfl) fun _ => .pure _
  case isFalse => exact .pure _

/-- The time that is left is read there too. -/
theorem onPhone_getRemainingBlockTimeMinutes : getRemainingBlockTimeMinutes.Makes OnPhone := by
  apply Program.Makes.bind (.read (fun _ => rfl) _)
  intro blocked
  cases blocked with
  | none => exact .pure _
  | some blockedUntil =>
      apply Program.Makes.bind (.step (fun _ => rfl) fun _ => .pure _)
      intro now
      split
      case isTrue => exact .pure _
      case isFalse => exact .bind (.step (fun _ => rfl) fun _ => .pure _) fun _ => .pure _

/-- A failed attempt sets the status `error`. -/
theorem completion_failAttempt : (failAttempt u).Makes (ProfileRequest (shownOn u)) := by
  apply Program.Makes.bind (completion_onPhone onPhone_recordFailedAttempt)
  intro _
  apply Program.Makes.bind (completion_onPhone onPhone_canAttemptValidation)
  intro _
  apply Program.Makes.bind
  · exact completion_onPhone (.bind onPhone_getRecentFailedAttempts fun _ => .pure _)
  · exact fun _ => completion_firestore (completion_updateStatus (by simp))

/-- A right code leads to a request and to the status `waiting`. -/
theorem completion_fileRequest (code : String) {waiting : User → User}
    (request : ProfileRequest (Store.completion · u) (·.updateUser u waiting)) :
    (fileRequest u code waiting).Makes (ProfileRequest (shownOn u)) := by
  apply Program.Makes.bind (.step (.other fun _ => rfl) fun _ => .pure _)
  intro _
  apply Program.Makes.bind (completion_firestore (completion_createSponsorshipDirect code))
  intro success
  split
  case isTrue => exact completion_firestore (completion_updateUser request)
  case isFalse => exact .throw _

/-- So a submission approves nobody. -/
theorem completion_submitTrustCode {waiting : String → User → User}
    (request : ∀ code, ProfileRequest (Store.completion · u) (·.updateUser u (waiting code)))
    (code : Option String) :
    (submitTrustCode u waiting code).Makes (ProfileRequest (shownOn u)) := by
  refine .tryCatch ?_ fun _ => completion_firestore (completion_updateStatus (by simp))
  apply Program.Makes.bind (completion_onPhone onPhone_canAttemptValidation)
  intro canAttempt
  split
  case isTrue =>
    cases code with
    | none => exact completion_failAttempt
    | some code =>
        apply Program.Makes.bind (completion_lookUp code)
        intro isValid
        split
        case isTrue => exact completion_fileRequest code (request code)
        case isFalse => exact completion_failAttempt
  case isFalse =>
    exact .bind (completion_onPhone onPhone_getRemainingBlockTimeMinutes) fun _ => .pure _

/-- Whatever a call does next, it does one of three things to the profile. -/
theorem completion_program (call : ProfileCall) :
    (call.program u).Makes (ProfileRequest (shownOn u)) := by
  have waits {g : User → User} (does : ∀ data : User,
      ((g data).profilCompleted, (g data).completeProfilStatus) =
        (data.profilCompleted, .value "waiting")) :
      ProfileRequest (Store.completion · u) (·.updateUser u g) :=
    .inr (.inr ⟨.value "waiting", by simp, amends_updateUser does⟩)
  cases call with
  | submit code => exact completion_submitTrustCode (fun _ => waits fun _ => rfl) code
  | reopen code => exact completion_submitTrustCode (fun _ => waits fun _ => rfl) (some code)
  | accept sponsor requestId => exact completion_firestore (completion_acceptUser sponsor requestId)
  | refuse sponsor requestId => exact completion_firestore (completion_refuseUser sponsor requestId)
  | reconnect => exact completion_firestore completion_handleUserReconnection

end Requests

/-! ## Runs -/

section Runs

variable {ι : Type} [DecidableEq ι] {u : UserId} {t : Pool ι Phone Err Unit}

/-- What a run is to keep: in every state the two fields agree, and no move changes them once
the user is approved. -/
structure ApprovalFinal (u : UserId) (t : Pool ι Phone Err Unit) (schedule : List ι) : Prop where
  agrees : ∀ t', Reached Pool.move t schedule t' → CompletionAgrees u t'.store
  final : Along Pool.move (KeepsApproval u) t schedule

/-- What holds between two moves. -/
structure ApprovalInvariant (u : UserId) (t : Pool ι Phone Err Unit) : Prop where
  requests : ∀ i, (t.thread i).Makes (ProfileRequest (shownOn u))
  agrees : CompletionAgrees u t.store

/-- Who is completed is approved, where the two agree. -/
theorem IsCompleted.approved {d : Phone} (agrees : CompletionAgrees u d)
    (completed : IsCompleted u d) :
    d.store.completion u = some (.value true, .value "approved") := by
  obtain ⟨status, profile⟩ := completed
  rw [profile, (agrees _ _ profile).mp rfl]

/-- Who is approved is completed, where the two agree. -/
theorem IsApproved.completed {d : Phone} (agrees : CompletionAgrees u d)
    (approved : IsApproved u d) : IsCompleted u d := by
  obtain ⟨completed, profile⟩ := approved
  exact ⟨.value "approved", by rw [profile, (agrees _ _ profile).mpr rfl]⟩

section Move

variable {i : ι} (agrees : CompletionAgrees u t.store)

include agrees

/-- A move that leaves the completion alone keeps an approval. -/
theorem keeps_of_same
    (same : (t.move i).store.store.completion u = t.store.store.completion u) :
    CompletionAgrees u (t.move i).store ∧ KeepsApproval u t i := by
  refine ⟨?_, fun _ => same⟩
  unfold CompletionAgrees
  rw [same]
  exact agrees

/-- So does an approval. -/
theorem keeps_of_approves
    (approves : (t.move i).store.store.completion u =
      (t.store.store.completion u).map fun _ => (.value true, .value "approved")) :
    CompletionAgrees u (t.move i).store ∧ KeepsApproval u t i := by
  unfold CompletionAgrees KeepsApproval
  rw [approves]
  constructor
  · intro completed status profile
    obtain ⟨c, -, eq⟩ := Option.map_eq_some_iff.mp profile
    cases eq
    exact iff_of_true rfl rfl
  · intro approved
    rw [(approved.completed agrees).approved agrees]
    rfl

/-- A late write of another status is harmless while the profile is not complete. -/
theorem keeps_of_write {status : Stored String} (other : status ≠ .value "approved")
    (write : (t.move i).store.store.completion u =
      (t.store.store.completion u).map fun c => (c.1, status))
    (incomplete : ¬ IsCompleted u t.store) :
    CompletionAgrees u (t.move i).store ∧ KeepsApproval u t i := by
  unfold CompletionAgrees KeepsApproval
  rw [write]
  constructor
  · intro completed _ profile
    obtain ⟨c, before, eq⟩ := Option.map_eq_some_iff.mp profile
    cases eq
    refine iff_of_false (fun eq => incomplete ⟨c.2, ?_⟩) other
    rw [← eq]
    exact before
  · exact fun approved => absurd (approved.completed agrees) incomplete

end Move

/-- Where the two fields agree, a move keeps that and the approval exactly when it does not write
another status into a complete profile. -/
theorem move_keeps_iff (invariant : ApprovalInvariant u t) (i : ι) :
    CompletionAgrees u (t.move i).store ∧ KeepsApproval u t i ↔
      (IsCompleted u t.store → ¬ WritesStatus u (t.thread i)) := by
  have agrees := invariant.agrees
  cases left : t.thread i with
  | done outcome =>
      have stays : t.move i = t := Pool.move_done left
      have kept := keeps_of_same agrees (i := i) (by rw [stays])
      exact iff_of_true kept fun _ writes => writes
  | step act next =>
      have moved := Pool.store_move left
      have kind := invariant.requests i
      rw [left] at kind
      constructor
      · intro both completed writes
        obtain ⟨status, other, write⟩ := writes
        have profile := completed.approved agrees
        have kept := both.2 ⟨_, profile⟩
        rw [moved, write, profile] at kept
        exact other (congrArg Prod.snd (Option.some.inj kept))
      · intro condition
        rcases kind.1 with same | approves | ⟨status, other, write⟩
        · apply keeps_of_same agrees
          rw [moved]
          exact (same t.store).trans (congrFun Option.map_id _)
        · apply keeps_of_approves agrees
          rw [moved]
          exact approves t.store
        · have incomplete : ¬ IsCompleted u t.store := fun completed =>
            condition completed ⟨status, other, write⟩
          apply keeps_of_write agrees other _ incomplete
          rw [moved]
          exact write t.store

/-- **In a run of any number of submissions, answers and reconnections of `u`, the profile is
complete exactly while it is approved, and stays so, exactly when no move on a complete profile
writes a status other than `"approved"`.** -/
theorem approval_final_iff (calls : ι → ProfileCall) {d : Phone} (agrees : CompletionAgrees u d)
    (schedule : List ι) :
    ApprovalFinal u (profileCalls u calls d) schedule ↔
      Along Pool.move (fun t i => IsCompleted u t.store → ¬ WritesStatus u (t.thread i))
        (profileCalls u calls d) schedule := by
  have start : ApprovalInvariant u (profileCalls u calls d) :=
    ⟨fun i => completion_program (calls i), agrees⟩
  have kept : Along Pool.move
        (fun t i => CompletionAgrees u (t.move i).store ∧ KeepsApproval u t i)
        (profileCalls u calls d) schedule ↔ _ :=
    along_iff_along (P := ApprovalInvariant u)
      (fun _ i holds kept => ⟨fun j => Pool.makes_move (holds.requests j) i, kept.1⟩)
      (fun _ i holds => move_keeps_iff holds i) start
  rw [← kept, Along.and_iff]
  constructor
  · intro final
    exact ⟨(all_reached_iff.mp final.agrees).2, final.final⟩
  · intro both
    exact ⟨all_reached_iff.mpr ⟨agrees, both.1⟩, both.2⟩

end Runs

/-- `"u"` has just signed up; `"x"` and `"y"` have the codes `"a"` and `"b"`. -/
def twoCodes : Phone where
  store :=
    { Store.ofUsers ⟨[("u", newUser)], by decide⟩ with
      codes := (AutoCollection.empty.add ⟨"a", "x"⟩).add ⟨"b", "y"⟩ }
  prefs := {}
  clock reading := reading
  readings := 0
  lookups := []

theorem twoCodes_agrees : CompletionAgrees "u" twoCodes := by
  intro completed status profile
  cases profile
  exact iff_of_false (by decide) (by decide)

/-- Both codes are submitted; one sponsor accepts. -/
def codeCalls : Nat → ProfileCall
  | 0 => .reopen "a"
  | 1 => .reopen "b"
  | 2 => .accept "x" 0
  | _ => .refuse "y" 0

theorem accepted_final :
    ApprovalFinal "u" (profileCalls "u" codeCalls twoCodes)
      (List.replicate 8 0 ++ List.replicate 8 1 ++ [2, 2]) := by
  refine (approval_final_iff codeCalls twoCodes_agrees _).mpr ?_
  have open_ : Along Pool.move
      (fun t _ => (t.store.store.completion "u").map (·.1) ≠ some (.value true))
      (profileCalls "u" codeCalls twoCodes)
      (List.replicate 8 0 ++ List.replicate 8 1 ++ [2, 2]) := by decide
  apply open_.mono
  intro t _ incomplete completed
  obtain ⟨status, profile⟩ := completed
  rw [profile] at incomplete
  exact absurd rfl incomplete

/-- The other sponsor refuses after that. -/
theorem lateRefusal_notFinal :
    ¬ ApprovalFinal "u" (profileCalls "u" codeCalls twoCodes)
      (List.replicate 8 0 ++ List.replicate 8 1 ++ [2, 2, 3, 3]) := by
  intro final
  have last := final.agrees _ (.run _ _) (.value true) (.value "error") (by decide)
  exact absurd (last.mp rfl) (by decide)

end TwoGather
