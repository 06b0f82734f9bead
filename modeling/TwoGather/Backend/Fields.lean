import TwoGather.Backend.Documents

/-!
# Who changes the fields of a user

While any calls run in any order, each field of a user is changed by its own few calls
(`user_fields`): the profile, the email and the push token by the pages of the user itself, the
lists of a user by calls made for this user, its ratings by ratings of it, the completion of its
profile by an answer of a sponsor. Friends and locks are in
`TwoGather/Backend/Friendships.lean` and `TwoGather/Backend/Locks.lean`.
-/

namespace TwoGather

open Docs Requests

/-- The fields that no call writes. -/
def User.account (u : User) : User where
  fiestaDismissed := u.fiestaDismissed
  wellTyped := u.wellTyped
  isAppUser := u.isAppUser

/-- The fields that only the pages of the profile and of the settings write. -/
def User.profile (u : User) : User where
  email := u.email
  fcmToken := u.fcmToken
  firstname := u.firstname
  lastname := u.lastname
  birthday := u.birthday
  profilImages := u.profilImages
  position := u.position
  trustCode := u.trustCode

/-- An accepted request changes the two lists of friends only. -/
theorem User.accept_other {β : Type} {field : User → β} {u : User} {v : UserId}
    (other : ∀ (u : User) friends friendsRequest,
      field { u with friends, friendsRequest } = field u) : field (u.accept v) = field u := by
  unfold User.accept
  split
  · exact other u _ _
  · exact other u _ _

section Fields

variable {ι : Type} [DecidableEq ι] {s : Store} {calls : ι → Call} {schedule : List ι}
  {u : UserId}

/-- The documents of a user before and after a schedule in which nobody signs up as this
user. -/
structure UserRun (s : Store) (calls : ι → Call) (schedule : List ι) (u : UserId)
    (data data' : User) : Prop where
  before : s.user u = some data
  after : (s.after calls schedule).user u = some data'
  noSignUp : ∀ i ∈ schedule, calls i ≠ .app (.signUp u)

/-- A field that differs was changed by one write of one call. -/
theorem field_cause {β : Type} {field : User → β} {data data' : User}
    (user : UserRun s calls schedule u data data') (differs : field data' ≠ field data) :
    ∃ i ∈ schedule, ∃ w : UserWrite, w.By u (calls i) ∧
      ∃ old, field (w.write old) ≠ field old := by
  have before : ∀ old, s.user u = some old → ¬ field old ≠ field data := by
    intro old found
    cases found.symm.trans user.before
    exact not_not.mpr rfl
  rcases user_cause before user.after differs with ⟨i, listed, turns | ⟨call, -⟩⟩
  · rcases turns with ⟨w, writes, old, was, now⟩
    refine ⟨i, listed, w, writes, old, fun same => now ?_⟩
    exact same.trans (not_not.mp was)
  · exact absurd call (user.noSignUp i listed)

/-- The fields of a user, with the calls that change them. -/
structure UserFields (calls : ι → Call) (schedule : List ι) (u : UserId) (data data' : User) :
    Prop where
  account : data'.account = data.account
  profile : data'.profile ≠ data.profile →
    ∃ i ∈ schedule, ∃ page, calls i = .app (.updateProfile u page)
  fiesta : data'.fiesta ≠ data.fiesta →
    ∃ i ∈ schedule, (∃ f, (calls i).BringsIn u f) ∨ (calls i).TakesOut u
  requestedFiesta : data'.requestedFiesta ≠ data.requestedFiesta →
    ∃ i ∈ schedule, ∃ f duo search, calls i = .app (.acceptFiesta u f duo search)
  dismissedFiesta : data'.dismissedFiesta ≠ data.dismissedFiesta →
    ∃ i ∈ schedule, ∃ f, calls i = .app (.dismissFiesta u f)
  friendsDismissed : data'.friendsDismissed ≠ data.friendsDismissed →
    ∃ i ∈ schedule, (∃ v, calls i = .callable (.dismissFriendWithSwipe u v)) ∨
      calls i = .triggered .clearDismissed
  bloquedUser : data'.bloquedUser ≠ data.bloquedUser →
    ∃ i ∈ schedule, ∃ v, calls i = .app (.bloqueUser u v) ∨ calls i = .app (.unnbloqueUser u v)
  friendsRequest : data'.friendsRequest ≠ data.friendsRequest →
    ∃ i ∈ schedule, ∃ v, (calls i).Asks u v ∨ (calls i).TakesBack u v ∨
      (calls i).Befriends u v ∨ ∃ held, calls i = .app (.cancelFriendRequest u held v)
  reportPoint : data'.reportPoint ≠ data.reportPoint → ∃ i ∈ schedule, (calls i).Credits u
  numberCreatedFiesta : data'.numberCreatedFiesta ≠ data.numberCreatedFiesta →
    ∃ i ∈ schedule, (calls i).CountsFiesta u
  level : data'.level ≠ data.level → ∃ i ∈ schedule, (calls i).CountsFiesta u
  ratings : data'.ratings ≠ data.ratings →
    ∃ i ∈ schedule, ∃ note, calls i = .app (.noteUser u note)
  profilCompleted : data'.profilCompleted ≠ data.profilCompleted →
    data'.profilCompleted = .value true ∧
      ∃ i ∈ schedule, ∃ sponsor requestId, calls i = .app (.acceptUser sponsor u requestId)
  completeProfilStatus : data'.completeProfilStatus ≠ data.completeProfilStatus →
    ∃ i ∈ schedule, (∃ sponsor requestId, calls i = .app (.acceptUser sponsor u requestId)) ∨
      ∃ status, (calls i).SetsStatus u status
  personnalTrustCode : data'.personnalTrustCode ≠ data.personnalTrustCode →
    ∃ i ∈ schedule, ∃ code, calls i = .triggered (.onUserCreated u code)

/-- The only value that is ever written is `true`. -/
theorem completed_for_good {data data' : User} (user : UserRun s calls schedule u data data')
    (differs : data'.profilCompleted ≠ data.profilCompleted) :
    data'.profilCompleted = .value true := by
  by_contra other
  have before : ∀ old, s.user u = some old →
      ¬ (old.profilCompleted ≠ data.profilCompleted ∧ old.profilCompleted ≠ .value true) := by
    rintro old found ⟨changed, -⟩
    cases found.symm.trans user.before
    exact changed rfl
  rcases user_cause before user.after ⟨differs, other⟩ with
    ⟨i, listed, ⟨w, -, old, was, now⟩ | ⟨call, -⟩⟩
  · cases w with
    | approve => exact now.2 rfl
    | accept v =>
        have same : (old.accept v).profilCompleted = old.profilCompleted :=
          User.accept_other fun _ _ _ => rfl
        exact was ⟨same ▸ now.1, same ▸ now.2⟩
    | _ => exact was now
  · exact absurd call (user.noSignUp i listed)

/-- Whatever runs, in whatever order, the fields of a user are changed by their own calls. -/
theorem user_fields {data data' : User} (user : UserRun s calls schedule u data data') :
    UserFields calls schedule u data data' where
  account := by
    by_contra differs
    rcases field_cause user differs with ⟨i, listed, w, writes, old, changed⟩
    cases w with
    | accept v => exact changed (User.accept_other fun _ _ _ => rfl)
    | _ => exact changed rfl
  profile differs := by
    rcases field_cause user differs with ⟨i, listed, w, writes, old, changed⟩
    cases w with
    | edit e =>
        rcases writes with ⟨page, -, call⟩
        exact ⟨i, listed, page, call⟩
    | accept v => exact absurd (User.accept_other fun _ _ _ => rfl) changed
    | _ => exact absurd rfl changed
  fiesta differs := by
    rcases field_cause user differs with ⟨i, listed, w, writes, old, changed⟩
    refine ⟨i, listed, ?_⟩
    cases w with
    | setFiesta fiesta =>
        cases fiesta with
        | undefined => cases writes
        | null => exact .inr writes
        | value f => exact .inl ⟨f, writes⟩
    | accept v => exact absurd (User.accept_other fun _ _ _ => rfl) changed
    | _ => exact absurd rfl changed
  requestedFiesta differs := by
    rcases field_cause user differs with ⟨i, listed, w, writes, old, changed⟩
    cases w with
    | requestFiesta f => exact ⟨i, listed, f, writes⟩
    | accept v => exact absurd (User.accept_other fun _ _ _ => rfl) changed
    | _ => exact absurd rfl changed
  dismissedFiesta differs := by
    rcases field_cause user differs with ⟨i, listed, w, writes, old, changed⟩
    cases w with
    | dismissFiesta f => exact ⟨i, listed, f, writes⟩
    | accept v => exact absurd (User.accept_other fun _ _ _ => rfl) changed
    | _ => exact absurd rfl changed
  friendsDismissed differs := by
    rcases field_cause user differs with ⟨i, listed, w, writes, old, changed⟩
    cases w with
    | clearDismissed => exact ⟨i, listed, .inr writes⟩
    | dismissFriend v => exact ⟨i, listed, .inl ⟨v, writes⟩⟩
    | accept v => exact absurd (User.accept_other fun _ _ _ => rfl) changed
    | _ => exact absurd rfl changed
  bloquedUser differs := by
    rcases field_cause user differs with ⟨i, listed, w, writes, old, changed⟩
    cases w with
    | block v => exact ⟨i, listed, v, .inl writes⟩
    | unblock v => exact ⟨i, listed, v, .inr writes⟩
    | accept v => exact absurd (User.accept_other fun _ _ _ => rfl) changed
    | _ => exact absurd rfl changed
  friendsRequest differs := by
    rcases field_cause user differs with ⟨i, listed, w, writes, old, changed⟩
    refine ⟨i, listed, ?_⟩
    cases w with
    | request v => exact ⟨v, .inl writes⟩
    | unrequest v => exact ⟨v, .inr (.inl writes)⟩
    | befriend v => exact ⟨v, .inr (.inr (.inl writes))⟩
    | accept v => exact ⟨v, .inr (.inr (.inl writes))⟩
    | setRequests requests =>
        rcases writes with ⟨held, v, call, -⟩
        exact ⟨v, .inr (.inr (.inr ⟨held, call⟩))⟩
    | _ => exact absurd rfl changed
  reportPoint differs := by
    rcases field_cause user differs with ⟨i, listed, w, writes, old, changed⟩
    cases w with
    | incrementPoint n => exact ⟨i, listed, writes⟩
    | accept v => exact absurd (User.accept_other fun _ _ _ => rfl) changed
    | _ => exact absurd rfl changed
  numberCreatedFiesta differs := by
    rcases field_cause user differs with ⟨i, listed, w, writes, old, changed⟩
    cases w with
    | createFiesta => exact ⟨i, listed, writes⟩
    | accept v => exact absurd (User.accept_other fun _ _ _ => rfl) changed
    | _ => exact absurd rfl changed
  level differs := by
    rcases field_cause user differs with ⟨i, listed, w, writes, old, changed⟩
    cases w with
    | setLevel level => exact ⟨i, listed, writes⟩
    | accept v => exact absurd (User.accept_other fun _ _ _ => rfl) changed
    | _ => exact absurd rfl changed
  ratings differs := by
    rcases field_cause user differs with ⟨i, listed, w, writes, old, changed⟩
    cases w with
    | rate ratings => exact ⟨i, listed, writes⟩
    | accept v => exact absurd (User.accept_other fun _ _ _ => rfl) changed
    | _ => exact absurd rfl changed
  profilCompleted differs := by
    rcases field_cause user differs with ⟨i, listed, w, writes, old, changed⟩
    cases w with
    | approve => exact ⟨completed_for_good user differs, i, listed, writes⟩
    | accept v => exact absurd (User.accept_other fun _ _ _ => rfl) changed
    | _ => exact absurd rfl changed
  completeProfilStatus differs := by
    rcases field_cause user differs with ⟨i, listed, w, writes, old, changed⟩
    cases w with
    | approve => exact ⟨i, listed, .inl writes⟩
    | setStatus status => exact ⟨i, listed, .inr ⟨status, writes⟩⟩
    | edit e =>
        rcases writes with ⟨page, rfl, call⟩
        refine ⟨i, listed, .inr ⟨page.edit.completeProfilStatus, ?_⟩⟩
        rw [call]
        refine ⟨rfl, fun kept => changed ?_, rfl⟩
        exact congrArg (Stored.updated old.completeProfilStatus) kept
    | accept v => exact absurd (User.accept_other fun _ _ _ => rfl) changed
    | _ => exact absurd rfl changed
  personnalTrustCode differs := by
    rcases field_cause user differs with ⟨i, listed, w, writes, old, changed⟩
    cases w with
    | setTrustCode code => exact ⟨i, listed, code, writes⟩
    | accept v => exact absurd (User.accept_other fun _ _ _ => rfl) changed
    | _ => exact absurd rfl changed

/-- Blocking somebody, and a rating of the one who blocks. -/
def blockAndRate (block : Bool) : Call :=
  if block then .app (.bloqueUser "a" "b") else .app (.noteUser "a" 4)

/-- The rating is read before the block and written after it. -/
theorem blockAndRate_fields :
    UserFields blockAndRate [false, true, false] "a" {}
      { bloquedUser := .value ["b"], ratings := ({} : Ratings).add 4 } :=
  user_fields (s := .ofUsers ⟨[("a", {})], List.nodup_singleton _⟩)
    { before := rfl
      after := rfl
      noSignUp := by
        intro block _
        cases block with
        | true => rintro ⟨⟩
        | false => rintro ⟨⟩ }

end Fields

end TwoGather
