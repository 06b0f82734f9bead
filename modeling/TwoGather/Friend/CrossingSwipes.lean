import TwoGather.Friend.Symmetry
import TwoGather.Lib.Pool

/-!
# Two swipes that cross

Two users swipe each other, and the reads and writes of the two calls interleave in
any order. A swipe reads the other's requests first and leaves its own afterwards, so
the two can miss each other: the friendship is made exactly when one call makes both
its requests before the other makes its first (`swipes_befriend_iff`).
-/

namespace TwoGather

open Docs Requests Adjacency

/-! ## The two callers -/

/-- Which of two crossing calls. -/
inductive Caller
  | first
  | second
  deriving DecidableEq

namespace Caller

def other : Caller → Caller
  | .first => .second
  | .second => .first

/-- The user who makes the call. -/
def me (a b : UserId) : Caller → UserId
  | .first => a
  | .second => b

theorem other_ne (c : Caller) : c.other ≠ c := by
  cases c with
  | first => decide
  | second => decide

theorem eq_other {c d : Caller} (differ : d ≠ c) : d = c.other := by
  cases c with
  | first => cases d with
    | first => exact absurd rfl differ
    | second => rfl
  | second => cases d with
    | first => rfl
    | second => exact absurd rfl differ

@[simp] theorem other_other (c : Caller) : c.other.other = c := by
  cases c with
  | first => rfl
  | second => rfl

end Caller

/-- Two existing users with no friends entry and no pending request between them. -/
structure Strangers (s : Store) (a b : UserId) : Prop where
  distinct : a ≠ b
  user : (s.user a).isSome
  friend : (s.user b).isSome
  noEntry : ∀ e ∈ s.friendsOf a, e.user ≠ b
  noEntryBack : ∀ e ∈ s.friendsOf b, e.user ≠ a
  noRequest : b ∉ s.requestsOf a
  noRequestBack : a ∉ s.requestsOf b

theorem Strangers.symm {s : Store} {a b : UserId} (strangers : Strangers s a b) :
    Strangers s b a where
  distinct := strangers.distinct.symm
  user := strangers.friend
  friend := strangers.user
  noEntry := strangers.noEntryBack
  noEntryBack := strangers.noEntry
  noRequest := strangers.noRequestBack
  noRequestBack := strangers.noRequest

/-- Either caller and the other one are strangers. -/
theorem Strangers.caller {s : Store} {a b : UserId} (strangers : Strangers s a b) (c : Caller) :
    Strangers s (c.me a b) (c.other.me a b) := by
  cases c with
  | first => exact strangers
  | second => exact strangers.symm

/-- Each lists the other as a friend, and neither has a request for the other. -/
structure Befriended (s : Store) (a b : UserId) : Prop where
  entry : ∃ e ∈ s.friendsOf a, e.user = b
  entryBack : ∃ e ∈ s.friendsOf b, e.user = a
  noRequest : b ∉ s.requestsOf a
  noRequestBack : a ∉ s.requestsOf b

theorem Befriended.symm {s : Store} {a b : UserId} (befriended : Befriended s a b) :
    Befriended s b a where
  entry := befriended.entryBack
  entryBack := befriended.entry
  noRequest := befriended.noRequestBack
  noRequestBack := befriended.noRequest

theorem Befriended.caller {s : Store} {a b : UserId} {c : Caller}
    (befriended : Befriended s (c.me a b) (c.other.me a b)) : Befriended s a b := by
  cases c with
  | first => exact befriended
  | second => exact befriended.symm

/-! ## Requests that a swipe leaves and finds -/

section Requests

variable {s : Store} {u v : UserId}

theorem requestsOf_request (exist : (s.user u).isSome) :
    (s.updateUser u (·.request v)).requestsOf =
      Function.update s.requestsOf u (arrayUnion (s.requestsOf u) v) :=
  Store.requestsOf_updateUser exist (arrayUnion · v) fun _ => rfl

theorem requestsOf_unrequest (exist : (s.user u).isSome) :
    (s.updateUser u (·.unrequest v)).requestsOf =
      Function.update s.requestsOf u (arrayRemove (s.requestsOf u) v) :=
  Store.requestsOf_updateUser exist (arrayRemove · v) fun _ => rfl

theorem requestsOf_addConnexion (exist : (s.user u).isSome) :
    (s.updateUser u (·.addConnexion v)).requestsOf = s.requestsOf := by
  have same := Store.requestsOf_updateUser (g := (·.addConnexion v)) exist id fun _ => rfl
  rwa [id, Function.update_eq_self] at same

/-- The store after the four writes of a match. -/
def Store.matchSwipe (s : Store) (u v : UserId) : Store :=
  (((s.updateUser u (·.unrequest v)).updateUser v (·.unrequest u)).updateUser u
    (·.addConnexion v)).updateUser v (·.addConnexion u)

theorem friendsOf_matchSwipe (distinct : u ≠ v) (user : (s.user u).isSome)
    (friend : (s.user v).isSome) : (s.matchSwipe u v).friendsOf = link connexion s.friendsOf u v := by
  unfold Store.matchSwipe
  rw [friendsOf_link distinct (by simpa [distinct] using user)
    (by simpa [distinct.symm] using friend) (fun _ => rfl) fun _ => rfl]
  simp only [friendsOf_unrequest]

theorem requestsOf_matchSwipe (distinct : u ≠ v) (user : (s.user u).isSome)
    (friend : (s.user v).isSome) :
    (s.matchSwipe u v).requestsOf =
      Function.update (Function.update s.requestsOf u (arrayRemove (s.requestsOf u) v)) v
        (arrayRemove (s.requestsOf v) u) := by
  have friend₁ : ((s.updateUser u (·.unrequest v)).user v).isSome := by
    rwa [Store.isSome_updateUser]
  unfold Store.matchSwipe
  rw [requestsOf_addConnexion (by simpa only [Store.isSome_updateUser] using friend),
    requestsOf_addConnexion (by simpa only [Store.isSome_updateUser] using user),
    requestsOf_unrequest friend₁, requestsOf_unrequest user, Function.update_of_ne distinct.symm]

/-- A match makes the friendship. -/
theorem befriended_matchSwipe (distinct : u ≠ v) (user : (s.user u).isSome)
    (friend : (s.user v).isSome) : Befriended (s.matchSwipe u v) u v := by
  have friends := friendsOf_matchSwipe distinct user friend
  have requests := requestsOf_matchSwipe distinct user friend
  refine ⟨⟨connexion v, ?_, rfl⟩, ⟨connexion u, ?_, rfl⟩, ?_, ?_⟩
  · rw [friends, link_apply distinct, if_pos rfl]
    simp
  · rw [friends, link_apply distinct, if_neg distinct.symm, if_pos rfl]
    simp
  · rw [requests, Function.update_of_ne distinct, Function.update_self]
    simp
  · rw [requests, Function.update_self]
    simp

/-- A swipe that ends well and finds a request makes the friendship. -/
theorem swipe_befriends {t : Store} (distinct : u ≠ v) (user : (s.user u).isSome)
    (friend : (s.user v).isSome) (asked : u ∈ s.requestsOf v)
    (completed : (addFriendWithSwipe u v).exec s = (.ok true, t)) : Befriended t u v := by
  obtain ⟨data, found⟩ := Option.isSome_iff_exists.mp friend
  have asked' : u ∈ data.friendsRequest.elems := by
    simpa only [Store.requestsOf, found, optional] using asked
  rw [addFriendWithSwipe_eq, Program.exec_step, id, found, swipeAfterRead, Program.exec_ite,
    decide_eq_true asked', answerSwipe_match user friend] at completed
  split at completed
  case isFalse => cases completed
  case isTrue =>
    cases completed
    exact befriended_matchSwipe distinct user friend

end Requests

/-! ## Interleavings -/

/-- `a` swipes `b` and `b` swipes `a`. -/
def swipes (s : Store) (a b : UserId) : Pool Caller Store Err Bool where
  store := s
  thread c := addFriendWithSwipe (c.me a b) (c.other.me a b)

/-- Both calls return `true`. -/
def Completed (pool : Pool Caller Store Err Bool) : Prop :=
  ∀ c, pool.Finished c (.ok true)

/-- A swipe that found no request has one write left, which leaves friends alone. -/
theorem answerSwipe_false_step (u v : UserId) :
    ∃ next, answerSwipe u v false = .step (·.updateUser u (·.request v)) next ∧
      ∀ s, (s.user u).isSome → next s = .done (.ok true) := by
  refine ⟨_, rfl, fun s exist => ?_⟩
  simp only [exist, ↓reduceIte]
  rfl

section Moves

variable {s : Store} {a b : UserId}

/-- The read of a caller. -/
theorem swipes_read {pool : Pool Caller Store Err Bool} {c : Caller} (unchanged : pool.store = s)
    (start : pool.thread c = (swipes s a b).thread c) :
    (pool.move c).store = s ∧
      (pool.move c).thread c =
        swipeAfterRead (c.me a b) (c.other.me a b) (s.user (c.other.me a b)) := by
  have request := start.trans (addFriendWithSwipe_eq (c.me a b) (c.other.me a b))
  refine ⟨(Pool.store_move request).trans unchanged, ?_⟩
  rw [Pool.thread_move_self request, unchanged]

/-- A caller that read no request either fails or is about to leave its own. -/
theorem Strangers.afterRead (strangers : Strangers s a b) (c : Caller) :
    swipeAfterRead (c.me a b) (c.other.me a b) (s.user (c.other.me a b)) =
        answerSwipe (c.me a b) (c.other.me a b) false ∨
      swipeAfterRead (c.me a b) (c.other.me a b) (s.user (c.other.me a b)) =
        .done (.error .typeError) := by
  have strange := strangers.caller c
  obtain ⟨data, found⟩ := Option.isSome_iff_exists.mp strange.friend
  have unasked : c.me a b ∉ data.friendsRequest.elems := by
    simpa only [Store.requestsOf, found, optional] using strange.noRequestBack
  rw [found, swipeAfterRead, decide_eq_false unasked]
  split
  case isTrue => exact .inl rfl
  case isFalse => exact .inr rfl

/-- One call makes both its requests first: the other one finds the request. -/
theorem befriended_of_together (strangers : Strangers s a b) {c : Caller} {rest : List Caller}
    (completed : Completed ((swipes s a b).play (c :: c :: rest))) :
    Befriended ((swipes s a b).play (c :: c :: rest)).store a b := by
  have strange := strangers.caller c
  obtain ⟨store₁, thread₁⟩ := swipes_read (c := c) (s := s) (a := a) (b := b) rfl rfl
  rcases strangers.afterRead c with writes | fails
  · obtain ⟨next, write, after⟩ := answerSwipe_false_step (c.me a b) (c.other.me a b)
    have request := thread₁.trans (writes.trans write)
    have store₂ := Pool.store_move request
    have finished := Pool.thread_move_self request
    rw [store₁] at store₂ finished
    rw [after s strange.user] at finished
    have others : ∀ d, d ≠ c.other → ∃ o, (((swipes s a b).move c).move c).Finished d o := by
      intro d differ
      obtain rfl : d = c := (Caller.eq_other differ).trans c.other_other
      exact ⟨_, finished⟩
    have thread : (((swipes s a b).move c).move c).thread c.other =
        addFriendWithSwipe (c.other.me a b) (c.me a b) := by
      rw [Pool.thread_move_of_ne _ c.other_ne, Pool.thread_move_of_ne _ c.other_ne]
      simp only [swipes, Caller.other_other]
    have alone := Pool.play_alone others (completed c.other)
    rw [store₂, thread] at alone
    refine (swipe_befriends strange.distinct.symm ?_ ?_ ?_ alone).symm.caller
    · rw [Store.isSome_updateUser]
      exact strange.friend
    · rw [Store.isSome_updateUser]
      exact strange.user
    · rw [requestsOf_request strange.user, Function.update_self]
      simp
  · have failed : ((swipes s a b).move c).Finished c (.error .typeError) := thread₁.trans fails
    have ended := ((failed.move c).play rest).symm.trans (completed c)
    cases ended

/-- A request that leaves all `friends` arrays alone. -/
def SameFriends (s t : Store) : Prop :=
  t.friendsOf = s.friendsOf

theorem answerSwipe_false_keeps (u v : UserId) : (answerSwipe u v false).Keeps SameFriends := by
  exact .bind (keeps_updateUser fun _ => friendsOf_request) fun _ => .pure true

/-- Both calls read first: neither finds a request, and nobody becomes a friend. -/
theorem not_befriended_of_apart (strangers : Strangers s a b) {c : Caller} {rest : List Caller} :
    ¬ Befriended ((swipes s a b).play (c :: c.other :: rest)).store a b := by
  have keeps : ∀ d : Caller, (swipeAfterRead (d.me a b) (d.other.me a b)
      (s.user (d.other.me a b))).Keeps SameFriends := by
    intro d
    rcases strangers.afterRead d with writes | fails
    · rw [writes]
      exact answerSwipe_false_keeps _ _
    · rw [fails]
      trivial
  obtain ⟨store₁, thread₁⟩ := swipes_read (c := c) (s := s) (a := a) (b := b) rfl rfl
  obtain ⟨store₂, thread₂⟩ := swipes_read (c := c.other) (a := a) (b := b) store₁
    (Pool.thread_move_of_ne _ c.other_ne)
  have unchanged : ((swipes s a b).play (c :: c.other :: rest)).store.friendsOf = s.friendsOf := by
    rw [Pool.play_cons, Pool.play_cons]
    refine Eq.trans ?_ (congrArg Store.friendsOf store₂)
    refine Pool.play_keeps (R := SameFriends) (fun _ => rfl)
      (fun first second => Eq.trans second first) (fun d => ?_) rest
    by_cases same : d = c.other
    · rw [same, thread₂]
      exact keeps c.other
    · obtain rfl : d = c := (Caller.eq_other same).trans c.other_other
      rw [Pool.thread_move_of_ne _ d.other_ne.symm, thread₁]
      exact keeps d
  intro befriended
  obtain ⟨e, member, entry⟩ := befriended.entry
  rw [unchanged] at member
  exact strangers.noEntry e member entry

/-- A call that has made no request has not completed. -/
theorem not_completed_of_unmoved {c : Caller} {pool : Pool Caller Store Err Bool}
    (start : pool.thread c = (swipes s a b).thread c) : ¬ Completed pool := by
  intro completed
  have ended := (completed c).symm.trans
    (start.trans (addFriendWithSwipe_eq (c.me a b) (c.other.me a b)))
  cases ended

end Moves

/-- **Two crossing swipes that complete make the friendship exactly when one of them makes
its first two requests before the other makes any.** -/
theorem swipes_befriend_iff {s : Store} {a b : UserId} (strangers : Strangers s a b)
    {schedule : List Caller} (completed : Completed ((swipes s a b).play schedule)) :
    Befriended ((swipes s a b).play schedule).store a b ↔ ∃ c rest, schedule = c :: c :: rest := by
  constructor
  · intro befriended
    cases schedule with
    | nil => exact absurd completed (not_completed_of_unmoved (c := .first) rfl)
    | cons c later =>
        cases later with
        | nil =>
            have start := Pool.thread_move_of_ne (swipes s a b) c.other_ne
            exact absurd completed (not_completed_of_unmoved start)
        | cons d rest =>
            by_cases same : d = c
            · exact ⟨c, rest, by rw [same]⟩
            · rw [Caller.eq_other same] at befriended
              exact absurd befriended (not_befriended_of_apart strangers)
  · intro both
    rcases both with ⟨c, rest, rfl⟩
    exact befriended_of_together strangers completed

theorem newcomers_strangers : Strangers newcomers "a" "b" where
  distinct := by decide
  user := by decide
  friend := by decide
  noEntry := by decide
  noEntryBack := by decide
  noRequest := by decide
  noRequestBack := by decide

/-- Both read, then both leave their request: two pending requests and no friendship. -/
theorem swipes_miss :
    let pool := (swipes newcomers "a" "b").play [.first, .second, .first, .second]
    Strangers newcomers "a" "b" ∧ Completed pool ∧ "b" ∈ pool.store.requestsOf "a" ∧
      "a" ∈ pool.store.requestsOf "b" ∧ ¬ Befriended pool.store "a" "b" := by
  refine ⟨newcomers_strangers, ?_, by decide, by decide, fun befriended => ?_⟩
  · intro either
    rcases either with _ | _
    · rfl
    · rfl
  · exact absurd befriended.noRequest (by decide)

/-- The first swipe leaves its request before the second starts. -/
theorem swipes_meet :
    Befriended ((swipes newcomers "a" "b").play
      [.first, .first, .second, .second, .second, .second, .second]).store "a" "b" := by
  refine (swipes_befriend_iff newcomers_strangers ?_).mpr ⟨_, _, rfl⟩
  intro either
  rcases either with _ | _
  · rfl
  · rfl

end TwoGather
