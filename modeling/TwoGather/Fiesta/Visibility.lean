import TwoGather.Fiesta.FiestaService

/-!
# Who may see a fiesta, in the app and in the cloud

The app took the search over the friends of the host from the cloud function, and ends it at
the first entry of the user, whatever its type. So the two agree exactly when that entry
decides: when it has a type that may see the fiesta, or no entry of the user has
(`visibility_agrees_iff`).

What the list of fiestas lets through follows (`shows_iff`): of the entries of a fiesta it
looks at the second person only.
-/

namespace TwoGather

open Docs Requests

/-! ## `get_fiesta_list.js` -/

/-- The loop over the friends of the host. -/
def searchAllFriends (userId : UserId) (fiestaData : Fiesta) : List Friend → Bool
  | [] => false
  | friend :: friends =>
      if friend.user = userId then
        if fiestaData.opensTo friend.type then true else searchAllFriends userId fiestaData friends
      else searchAllFriends userId fiestaData friends

def fiestaVisibilityIsOkay (userId : UserId) (fiestaData : Fiesta) : Firestore Bool := do
  let hostData ← getUser fiestaData.host.id
  let hostData ← member hostData
  pure (searchAllFriends userId fiestaData hostData.friends.elems)

/-! ## The two searches -/

section Searches

variable {u : UserId} {fiesta : Fiesta} {friends : List Friend}

/-- Some entry of the user has a type that may see the fiesta. -/
def SomeEntryOpens (u : UserId) (fiesta : Fiesta) (friends : List Friend) : Prop :=
  ∃ e ∈ friends, e.user = u ∧ fiesta.opensTo e.type = true

instance (u : UserId) (fiesta : Fiesta) (friends : List Friend) :
    Decidable (SomeEntryOpens u fiesta friends) :=
  inferInstanceAs (Decidable (∃ e ∈ friends, _))

/-- The first one has. -/
def FirstEntryOpens (u : UserId) (fiesta : Fiesta) (friends : List Friend) : Prop :=
  ∃ e ∈ friends.find? (·.user = u), fiesta.opensTo e.type = true

instance (u : UserId) (fiesta : Fiesta) (friends : List Friend) :
    Decidable (FirstEntryOpens u fiesta friends) :=
  inferInstanceAs (Decidable (∃ e ∈ friends.find? _, _))

theorem searchFriends_iff :
    FiestaService.searchFriends u fiesta friends = true ↔ FirstEntryOpens u fiesta friends := by
  unfold FirstEntryOpens
  induction friends with
  | nil => simp [FiestaService.searchFriends]
  | cons friend friends ih =>
      unfold FiestaService.searchFriends
      split
      case isTrue here => simp [here]
      case isFalse elsewhere => rw [ih, List.find?_cons_of_neg (by simpa using elsewhere)]

theorem searchAllFriends_iff :
    searchAllFriends u fiesta friends = true ↔ SomeEntryOpens u fiesta friends := by
  unfold SomeEntryOpens
  induction friends with
  | nil => simp [searchAllFriends]
  | cons friend friends ih =>
      unfold searchAllFriends
      split
      case isTrue here =>
        split
        case isTrue opens => simp [here, opens]
        case isFalse closed => simp [here, closed, ih]
      case isFalse elsewhere => simp [elsewhere, ih]

theorem FirstEntryOpens.some (first : FirstEntryOpens u fiesta friends) :
    SomeEntryOpens u fiesta friends := by
  obtain ⟨e, found, opens⟩ := first
  have user : e.user = u := by simpa using List.find?_some found
  exact ⟨e, List.mem_of_find?_eq_some found, user, opens⟩

end Searches

/-! ## Agreement -/

/-- Both answer alike: whether some entry of the user may see the fiesta. -/
structure VisibilityAgrees (s : Store) (u : UserId) (fiesta : Fiesta) (host : User) : Prop where
  same : ((FiestaService.fiestaVisibilityIsOkay u fiesta).exec s).1 =
    ((fiestaVisibilityIsOkay u fiesta).exec s).1
  entry : ((FiestaService.fiestaVisibilityIsOkay u fiesta).exec s).1 = .ok true ↔
    SomeEntryOpens u fiesta host.friends.elems

section Agreement

variable {s : Store} {u : UserId} {fiesta : Fiesta} {host : User}

theorem exec_visibility_app (found : s.user fiesta.host.id = some host) :
    ((FiestaService.fiestaVisibilityIsOkay u fiesta).exec s).1 =
      .ok (FiestaService.searchFriends u fiesta host.friends.elems) := by
  rw [exec_fiestaVisibilityIsOkay, Store.opens, found]
  rfl

theorem exec_visibility_cloud (found : s.user fiesta.host.id = some host) :
    ((fiestaVisibilityIsOkay u fiesta).exec s).1 =
      .ok (searchAllFriends u fiesta host.friends.elems) := by
  unfold fiestaVisibilityIsOkay
  simp only [Program.exec_bind, exec_getUser, found, exec_member_some, Program.exec_pure]

/-- **The app and the cloud function answer alike exactly when the first entry of the user may
see the fiesta, or none may.** -/
theorem visibility_agrees_iff (found : s.user fiesta.host.id = some host) :
    VisibilityAgrees s u fiesta host ↔
      FirstEntryOpens u fiesta host.friends.elems ∨
        ¬ SomeEntryOpens u fiesta host.friends.elems := by
  have first : FiestaService.searchFriends u fiesta host.friends.elems = true ↔ _ :=
    searchFriends_iff
  have any : searchAllFriends u fiesta host.friends.elems = true ↔ _ := searchAllFriends_iff
  constructor
  · intro agrees
    have entry := agrees.entry
    rw [exec_visibility_app found, Except.ok.injEq, first] at entry
    by_cases opens : SomeEntryOpens u fiesta host.friends.elems
    · exact .inl (entry.mpr opens)
    · exact .inr opens
  · intro decides
    have same : FirstEntryOpens u fiesta host.friends.elems ↔
        SomeEntryOpens u fiesta host.friends.elems := by
      rcases decides with opens | none
      · exact iff_of_true opens opens.some
      · exact iff_of_false (fun opens => none opens.some) none
    constructor
    · rw [exec_visibility_app found, exec_visibility_cloud found]
      congr 1
      rw [Bool.eq_iff_iff, first, any, same]
    · rw [exec_visibility_app found, Except.ok.injEq, first, same]

end Agreement

/-! ## What the list lets through -/

/-- The second person of some entry is the user, or blocked by the user. -/
def Fiesta.DuoHides (fiesta : Fiesta) (u : UserId) (data : User) : Prop :=
  ∃ e ∈ fiesta.participants, ∃ d ∈ e.duoRef, d = u ∨ d ∈ data.bloquedUser.elems

instance (fiesta : Fiesta) (u : UserId) (data : User) : Decidable (fiesta.DuoHides u data) :=
  inferInstanceAs (Decidable (∃ e ∈ fiesta.participants, _))

/-- The fiesta is not over, not among the `fiestaDismissed` of the user, and of a host whose
first entry for the user may see it. -/
def Store.OpenTo (s : Store) (u : UserId) (data : User) (f : FiestaId) (fiesta : Fiesta) : Prop :=
  s.clock.micros < fiesta.endAt.micros ∧ f ∉ data.fiestaDismissed.elems ∧
    ∃ host ∈ s.user fiesta.host.id, FirstEntryOpens u fiesta host.friends.elems

instance (s : Store) (u : UserId) (data : User) (f : FiestaId) (fiesta : Fiesta) :
    Decidable (s.OpenTo u data f fiesta) :=
  inferInstanceAs (Decidable (_ ∧ _ ∧ ∃ host ∈ s.user fiesta.host.id, _))

section List

variable {s : Store} {u : UserId} {data : User}

theorem checkParticipants_iff {participants : List Participant} :
    FiestaService.checkParticipants u data participants = true ↔
      ¬ ∃ e ∈ participants, ∃ d ∈ e.duoRef, d = u ∨ d ∈ data.bloquedUser.elems := by
  induction participants with
  | nil => simp [FiestaService.checkParticipants]
  | cons e participants ih =>
      unfold FiestaService.checkParticipants
      rw [if_neg (by simp [Participant.userRef]), List.exists_mem_cons_iff, not_or, ← ih]
      cases duo : e.duoRef with
      | none => simp [Participant.userRef]
      | some d =>
          by_cases blocked : d ∈ data.bloquedUser.elems
          · simp [blocked]
          · simp [blocked, Participant.userRef]

theorem opens_iff {fiesta : Fiesta} :
    s.opens u fiesta = true ↔
      ∃ host ∈ s.user fiesta.host.id, FirstEntryOpens u fiesta host.friends.elems := by
  unfold Store.opens
  cases s.user fiesta.host.id with
  | none => simp
  | some host => simp [searchFriends_iff]

theorem shows_iff {f : FiestaId} {fiesta : Fiesta} :
    s.shows u data (f, fiesta) = true ↔ s.OpenTo u data f fiesta ∧ ¬ fiesta.DuoHides u data := by
  unfold Store.shows FiestaService.canShowFiestaForUser Store.OpenTo Fiesta.DuoHides
  rw [Bool.and_eq_true, Bool.and_eq_true, opens_iff, ← checkParticipants_iff, decide_eq_true_iff]
  split
  case isTrue dismissed => simp [dismissed]
  case isFalse shown =>
    constructor
    · intro all
      exact ⟨⟨all.1, shown, all.2.2⟩, all.2.1⟩
    · intro all
      exact ⟨all.1.1, all.2, all.1.2.2⟩

end List

/-! ## A friend with two entries -/

/-- A fiesta that connexions may not see. -/
def fiestarsOnly : Fiesta where
  title := .value "f"
  host := { id := "h" }
  hostRef := "h"
  endAt := .epoch
  isEnd := .value false
  visibleAfter := .undefined
  participants := []
  visibleByConnexion := .value false

/-- The host of the fiesta, with `v` as a connexion and as a fiestar in this order. -/
def friendTwice : User where
  friends := .value [⟨.connexion, "v"⟩, ⟨.fiestar, "v"⟩]

def hostOf (host : User) : Store :=
  .ofUsers ⟨[("h", host)], by simp⟩

/-- The app finds the connexion and ends its search. -/
theorem friendTwice_disagree :
    ¬ VisibilityAgrees (hostOf friendTwice) "v" fiestarsOnly friendTwice := by
  intro agrees
  exact absurd agrees.same (by decide)

/-- In the other order the two agree. -/
theorem fiestarFirst_agree :
    let host : User := { friends := .value [⟨.fiestar, "v"⟩, ⟨.connexion, "v"⟩] }
    VisibilityAgrees (hostOf host) "v" fiestarsOnly host :=
  (visibility_agrees_iff rfl).mpr (by decide)

end TwoGather
