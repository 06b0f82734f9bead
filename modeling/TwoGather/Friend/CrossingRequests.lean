import TwoGather.Friend.CrossingSwipes

/-!
# Two requests that cross

Two users call `addFriend` for each other, and the reads and writes of the two calls
interleave in any order. Each call leaves its request before it reads the other's, so
at least one of them finds a request, and the friendship is made once
(`requests_befriend`).

The proof follows the two programs through their `Phase`s. `Ledger` says what the
documents hold for each pair of phases; every move of either call keeps it.
-/

namespace TwoGather

open Docs Requests Adjacency

/-! ## The phases of `addFriend` -/

/-- Where a call stands between two requests. -/
inductive Phase
  | start
  | requested
  | readSelf (userData : Option User)
  | matched
  | half
  | unmatched (userData : Option User)
  | done (befriended : Bool)

namespace Phase

/-- What is left of the call of `u` for `v`. -/
def program (u v : UserId) : Phase → Firestore Unit
  | .start => addFriend u v
  | .requested =>
      tryCatch
        (do
          let userData ← getUser u
          let friendData ← getUser v
          answerOrNotify u v userData friendData)
        fun _ => updateUser u (·.unrequest v)
  | .readSelf userData =>
      tryCatch
        (do
          let friendData ← getUser v
          answerOrNotify u v userData friendData)
        fun _ => updateUser u (·.unrequest v)
  | .matched =>
      tryCatch
        (do
          updateUser v (·.befriend u)
          updateUser u (·.befriend v))
        fun _ => updateUser u (·.unrequest v)
  | .half => tryCatch (updateUser u (·.befriend v)) fun _ => updateUser u (·.unrequest v)
  | .unmatched userData =>
      tryCatch (addNotification v (friendRequestNotification u userData)) fun _ =>
        updateUser u (·.unrequest v)
  | .done _ => .done (.ok ())

/-- What the next request does to the store. -/
def act (u v : UserId) : Phase → Store → Store
  | .start, s => s.updateUser u (·.request v)
  | .matched, s => s.updateUser v (·.befriend u)
  | .half, s => s.updateUser u (·.befriend v)
  | .unmatched userData, s => s.addNotification v (friendRequestNotification u userData s.clock)
  | _, s => s

/-- The phase after the next request. -/
def next (u v : UserId) : Phase → Store → Phase
  | .start, _ => .requested
  | .requested, s => .readSelf (s.user u)
  | .readSelf userData, s => if u ∈ s.requestsOf v then .matched else .unmatched userData
  | .matched, _ => .half
  | .half, _ => .done true
  | .unmatched _, _ => .done false
  | .done befriended, _ => .done befriended

/-- The request of `u` was written. -/
def asked : Phase → Bool
  | .start => false
  | _ => true

/-- The call found the request of the other. -/
def found : Phase → Bool
  | .matched | .half | .done true => true
  | _ => false

/-- The entry for `u` in the other's list was written. -/
def opened : Phase → Bool
  | .half | .done true => true
  | _ => false

/-- Both entries were written. -/
def closed : Phase → Bool
  | .done true => true
  | _ => false

/-- The call found no request. -/
def missed : Phase → Bool
  | .unmatched _ | .done false => true
  | _ => false

theorem found_of_opened {p : Phase} (opened : p.opened) : p.found := by
  cases p with
  | half => rfl
  | done befriended => cases befriended with
    | true => rfl
    | false => cases opened
  | _ => cases opened

/-- The next request of a call, in a store where both users exist. -/
theorem program_eq (u v : UserId) (p : Phase) :
    (∃ befriended, p = .done befriended) ∨
      ∃ after, p.program u v = .step (p.act u v) after ∧
        ∀ s, (s.user u).isSome → (s.user v).isSome → after s = (p.next u v s).program u v := by
  cases p with
  | start =>
      refine .inr ⟨_, rfl, fun s user friend => ?_⟩
      simp only [user, ↓reduceIte]
      rfl
  | requested => exact .inr ⟨_, rfl, fun s user friend => rfl⟩
  | readSelf userData =>
      refine .inr ⟨_, rfl, fun s user friend => ?_⟩
      change Program.handle (answerOrNotify u v userData (s.user v)) _ = _
      by_cases request : u ∈ s.requestsOf v
      · have after : (readSelf userData).next u v s = .matched := if_pos request
        have answer : answerOrNotify u v userData (s.user v) =
            (do
              updateUser v (·.befriend u)
              updateUser u (·.befriend v)) := if_pos request
        rw [after, answer]
        rfl
      · have after : (readSelf userData).next u v s = .unmatched userData := if_neg request
        have answer : answerOrNotify u v userData (s.user v) =
            addNotification v (friendRequestNotification u userData) := if_neg request
        rw [after, answer]
        rfl
  | matched =>
      refine .inr ⟨_, rfl, fun s user friend => ?_⟩
      simp only [friend, ↓reduceIte]
      rfl
  | half =>
      refine .inr ⟨_, rfl, fun s user friend => ?_⟩
      simp only [user, ↓reduceIte]
      rfl
  | unmatched userData => exact .inr ⟨_, rfl, fun s user friend => rfl⟩
  | done befriended => exact .inl ⟨befriended, rfl⟩

end Phase

/-! ## The ledger -/

section Effects

variable {s : Store} {u v : UserId}

theorem requestsOf_befriend (exist : (s.user u).isSome) :
    (s.updateUser u (·.befriend v)).requestsOf =
      Function.update s.requestsOf u (arrayRemove (s.requestsOf u) v) :=
  Store.requestsOf_updateUser exist (arrayRemove · v) fun _ => rfl

theorem friendsOf_befriend (exist : (s.user u).isSome) :
    (s.updateUser u (·.befriend v)).friendsOf =
      Function.update s.friendsOf u (arrayUnion (s.friendsOf u) (connexion v)) :=
  Store.friendsOf_updateUser exist (arrayUnion · (connexion v)) fun _ => rfl

/-- The entries of `u` for `v`. -/
def Store.entriesFor (s : Store) (u v : UserId) : List Friend :=
  (s.friendsOf u).filter (·.user = v)

/-- Whether or not the entry is there, it is there once after the update. -/
theorem entriesFor_befriend {once : Prop} [Decidable once] (exist : (s.user u).isSome)
    (entries : s.entriesFor u v = if once then [connexion v] else []) :
    (s.updateUser u (·.befriend v)).entriesFor u v = [connexion v] := by
  unfold Store.entriesFor at entries ⊢
  rw [friendsOf_befriend exist, Function.update_self]
  refine filter_arrayUnion_eq_singleton (decide_eq_true rfl) ?_
  rw [entries]
  split
  · exact .inr rfl
  · exact .inl rfl

end Effects

/-- What the documents say about `u` and `v` while the call of `u` stands at `p` and
the call of `v` at `q`. -/
structure Ledger (s : Store) (u v : UserId) (p q : Phase) : Prop where
  exist : (s.user u).isSome
  request : v ∈ s.requestsOf u ↔ p.asked ∧ !p.closed ∧ !q.opened
  entries : s.entriesFor u v = if p.closed || q.opened then [connexion v] else []
  found : p.found → q.asked
  missed : p.missed → !q.missed

/-- The ledger of both users. -/
def Ledgers (s : Store) (u v : UserId) (p q : Phase) : Prop :=
  Ledger s u v p q ∧ Ledger s v u q p

theorem Ledgers.symm {s : Store} {u v : UserId} {p q : Phase} (ledgers : Ledgers s u v p q) :
    Ledgers s v u q p :=
  ⟨ledgers.2, ledgers.1⟩

/-- A request that changes no list that the ledger is about. -/
theorem Ledgers.of_same {s t : Store} {u v : UserId} {p p' q : Phase}
    (ledgers : Ledgers s u v p q) (users : t.user = s.user) (asked : p'.asked = p.asked)
    (closed : p'.closed = p.closed) (opened : p'.opened = p.opened)
    (found : p'.found → q.asked) (missed : p'.missed → !q.missed) : Ledgers t u v p' q := by
  obtain ⟨mine, yours⟩ := ledgers
  have requests : t.requestsOf = s.requestsOf := by
    funext w
    rw [Store.requestsOf, users]
    rfl
  have friends : ∀ w x, t.entriesFor w x = s.entriesFor w x := by
    intro w x
    rw [Store.entriesFor, Store.friendsOf, users]
    rfl
  constructor
  · exact {
      exist := users ▸ mine.exist
      request := by rw [requests, asked, closed, mine.request]
      entries := by rw [friends, closed, mine.entries]
      found := found
      missed := missed }
  · exact {
      exist := users ▸ yours.exist
      request := by rw [requests, opened, yours.request]
      entries := by rw [friends, opened, yours.entries]
      found := by rw [asked]; exact yours.found
      missed := by
        intro other
        by_contra late
        have clash := missed (by simpa using late)
        rw [other] at clash
        cases clash }

/-- A call that has yet to leave its request has not been answered. -/
theorem Ledgers.start {s : Store} {u v : UserId} {q : Phase} (distinct : u ≠ v)
    (ledgers : Ledgers s u v .start q) :
    Ledgers (s.updateUser u (·.request v)) u v .requested q := by
  obtain ⟨mine, yours⟩ := ledgers
  have shut : q.opened = false := by
    by_contra opened
    cases yours.found (Phase.found_of_opened (by simpa using opened))
  have requests := requestsOf_request (v := v) mine.exist
  constructor
  · exact {
      exist := by rw [Store.isSome_updateUser]; exact mine.exist
      request := by simp [requests, Phase.asked, Phase.closed, shut]
      entries := by simpa [Store.entriesFor, Phase.closed] using mine.entries
      found := by simp [Phase.found]
      missed := by simp [Phase.missed] }
  · exact {
      exist := by rw [Store.isSome_updateUser]; exact yours.exist
      request := by simpa [requests, distinct.symm, Phase.opened] using yours.request
      entries := by simpa [Store.entriesFor, Phase.opened] using yours.entries
      found := by simp [Phase.asked]
      missed := by simp [Phase.missed] }

/-- The first update of a call that found a request, on the friend's document. -/
theorem Ledgers.matched {s : Store} {u v : UserId} {q : Phase} (distinct : u ≠ v)
    (ledgers : Ledgers s u v .matched q) :
    Ledgers (s.updateUser v (·.befriend u)) u v .half q := by
  obtain ⟨mine, yours⟩ := ledgers
  have requests := requestsOf_befriend (v := u) yours.exist
  have friends := friendsOf_befriend (v := u) yours.exist
  constructor
  · exact {
      exist := by rw [Store.isSome_updateUser]; exact mine.exist
      request := by
        rw [requests, Function.update_of_ne distinct]
        exact mine.request
      entries := by
        rw [Store.entriesFor, friends, Function.update_of_ne distinct]
        exact mine.entries
      found := fun _ => mine.found rfl
      missed := by simp [Phase.missed] }
  · exact {
      exist := by rw [Store.isSome_updateUser]; exact yours.exist
      request := by simp [requests, Phase.opened]
      entries := by simpa [Phase.opened] using entriesFor_befriend yours.exist yours.entries
      found := fun _ => rfl
      missed := by simp [Phase.missed] }

/-- The second update, on the document of the one who calls. -/
theorem Ledgers.half {s : Store} {u v : UserId} {q : Phase} (distinct : u ≠ v)
    (ledgers : Ledgers s u v .half q) :
    Ledgers (s.updateUser u (·.befriend v)) u v (.done true) q := by
  obtain ⟨mine, yours⟩ := ledgers
  have requests := requestsOf_befriend (v := v) mine.exist
  have friends := friendsOf_befriend (v := v) mine.exist
  constructor
  · exact {
      exist := by rw [Store.isSome_updateUser]; exact mine.exist
      request := by simp [requests, Phase.closed]
      entries := by simpa [Phase.closed] using entriesFor_befriend mine.exist mine.entries
      found := fun _ => mine.found rfl
      missed := by simp [Phase.missed] }
  · exact {
      exist := by rw [Store.isSome_updateUser]; exact yours.exist
      request := by
        rw [requests, Function.update_of_ne distinct.symm]
        exact yours.request
      entries := by
        rw [Store.entriesFor, friends, Function.update_of_ne distinct.symm]
        exact yours.entries
      found := fun _ => rfl
      missed := by simp [Phase.missed] }

/-- Every request of the call of `u` keeps the ledgers. -/
theorem Ledgers.move {s : Store} {u v : UserId} {p q : Phase} (distinct : u ≠ v)
    (ledgers : Ledgers s u v p q) : Ledgers (p.act u v s) u v (p.next u v s) q := by
  cases p with
  | start => exact ledgers.start distinct
  | requested => exact ledgers.of_same rfl rfl rfl rfl nofun nofun
  | readSelf userData =>
      rw [Phase.next]
      split
      case isTrue request =>
        have asked := (ledgers.2.request.mp request).1
        exact ledgers.of_same rfl rfl rfl rfl (fun _ => asked) nofun
      case isFalse none =>
        -- a call that has missed leaves its own request in place, so this one had found it
        refine ledgers.of_same rfl rfl rfl rfl nofun fun _ => ?_
        by_contra late
        refine none (ledgers.2.request.mpr ?_)
        cases q with
        | unmatched userData => exact ⟨rfl, rfl, rfl⟩
        | done befriended =>
            cases befriended with
            | true => exact absurd rfl late
            | false => exact ⟨rfl, rfl, rfl⟩
        | _ => exact absurd rfl late
  | matched => exact ledgers.matched distinct
  | half => exact ledgers.half distinct
  | unmatched userData => exact ledgers.of_same rfl rfl rfl rfl nofun fun _ => ledgers.1.missed rfl
  | done befriended => exact ledgers

/-- When both calls have ended, one of them had found the other's request. -/
theorem Ledgers.befriended {s : Store} {u v : UserId} {first second : Bool}
    (ledgers : Ledgers s u v (.done first) (.done second)) :
    s.entriesFor u v = [connexion v] ∧ v ∉ s.requestsOf u := by
  have answered : (Phase.done first).closed || (Phase.done second).opened := by
    cases first with
    | true => rfl
    | false =>
        cases second with
        | true => rfl
        | false => cases ledgers.1.missed rfl
  constructor
  · rw [ledgers.1.entries, if_pos answered]
  · intro left
    obtain ⟨-, notClosed, notOpened⟩ := ledgers.1.request.mp left
    rw [Bool.not_eq_true'] at notClosed notOpened
    rw [notClosed, notOpened] at answered
    cases answered

/-! ## Interleavings -/

/-- `a` calls `addFriend` for `b`, and `b` for `a`. -/
def requests (s : Store) (a b : UserId) : Pool Caller Store Err Unit where
  store := s
  thread c := addFriend (c.me a b) (c.other.me a b)

/-- Both calls stand at some phase, and the ledgers hold for these. -/
def Tracked (a b : UserId) (pool : Pool Caller Store Err Unit) : Prop :=
  ∃ phase : Caller → Phase,
    (∀ c, pool.thread c = (phase c).program (c.me a b) (c.other.me a b)) ∧
      ∀ c, Ledgers pool.store (c.me a b) (c.other.me a b) (phase c) (phase c.other)

theorem Strangers.tracked {s : Store} {a b : UserId} (strangers : Strangers s a b) :
    Tracked a b (requests s a b) := by
  have ledger : ∀ {u v}, Strangers s u v → Ledger s u v .start .start := fun strange =>
    { exist := strange.user
      request := by simpa [Phase.asked] using strange.noRequest
      entries := by simpa [Store.entriesFor, Phase.closed, Phase.opened] using strange.noEntry
      found := nofun
      missed := nofun }
  refine ⟨fun _ => .start, fun c => rfl, fun c => ?_⟩
  exact ⟨ledger (strangers.caller c), ledger (strangers.caller c).symm⟩

/-- Every move keeps the calls tracked. -/
theorem Tracked.move {a b : UserId} (distinct : a ≠ b) {pool : Pool Caller Store Err Unit}
    (c : Caller) (tracked : Tracked a b pool) : Tracked a b (pool.move c) := by
  obtain ⟨phase, thread, ledgers⟩ := tracked
  have differ : c.me a b ≠ c.other.me a b := by
    cases c with
    | first => exact distinct
    | second => exact distinct.symm
  rcases Phase.program_eq (c.me a b) (c.other.me a b) (phase c) with
    ⟨befriended, ended⟩ | ⟨after, request, next⟩
  · have finished : pool.Finished c (.ok ()) := by
      rw [Pool.Finished, thread, ended]
      rfl
    rw [Pool.move_done finished]
    exact ⟨phase, thread, ledgers⟩
  · have request' := (thread c).trans request
    have moved := (ledgers c).move differ
    refine ⟨Function.update phase c ((phase c).next (c.me a b) (c.other.me a b) pool.store),
      fun d => ?_, fun d => ?_⟩
    · by_cases same : d = c
      · subst same
        rw [Pool.thread_move_self request', Function.update_self]
        exact next _ (ledgers d).1.exist (ledgers d).2.exist
      · rw [Pool.thread_move_of_ne _ same, Function.update_of_ne same]
        exact thread d
    · rw [Pool.store_move request']
      by_cases same : d = c
      · subst same
        rw [Function.update_self, Function.update_of_ne d.other_ne]
        exact moved
      · obtain rfl := Caller.eq_other same
        rw [Caller.other_other, Function.update_self, Function.update_of_ne same]
        exact moved.symm

/-- A tracked call that has finished stands at its end. -/
theorem Tracked.done {u v : UserId} {p : Phase} {outcome : Except Err Unit}
    (finished : p.program u v = .done outcome) : ∃ befriended, p = .done befriended := by
  rcases Phase.program_eq u v p with ended | ⟨after, request, -⟩
  · exact ended
  · rw [request] at finished
    cases finished

/-- **Two crossing requests end, in every interleaving, with one entry on each side and no
request left.** -/
theorem requests_befriend {s : Store} {a b : UserId} (strangers : Strangers s a b)
    {schedule : List Caller} (finished : ∀ c, ∃ outcome,
      ((requests s a b).play schedule).Finished c outcome) :
    let t := ((requests s a b).play schedule).store
    t.entriesFor a b = [connexion b] ∧ t.entriesFor b a = [connexion a] ∧
      b ∉ t.requestsOf a ∧ a ∉ t.requestsOf b := by
  intro t
  obtain ⟨phase, thread, ledgers⟩ := Pool.play_invariant
    (fun _ c => Tracked.move strangers.distinct c) strangers.tracked schedule
  have ended : ∀ c, ∃ befriended, phase c = .done befriended := by
    intro c
    obtain ⟨outcome, last⟩ := finished c
    exact Tracked.done ((thread c).symm.trans last)
  obtain ⟨first, endFirst⟩ := ended .first
  obtain ⟨second, endSecond⟩ := ended .second
  have both := ledgers .first
  change Ledgers t a b (phase .first) (phase .second) at both
  rw [endFirst, endSecond] at both
  exact ⟨both.befriended.1, both.symm.befriended.1, both.befriended.2, both.symm.befriended.2⟩

/-- Each call leaves its request for the other one to find. -/
theorem requests_meet :
    let t := ((requests newcomers "a" "b").play
      [.first, .second, .first, .second, .first, .second, .first, .second, .first,
        .second]).store
    t.entriesFor "a" "b" = [connexion "b"] ∧ t.entriesFor "b" "a" = [connexion "a"] ∧
      "b" ∉ t.requestsOf "a" ∧ "a" ∉ t.requestsOf "b" := by
  refine requests_befriend newcomers_strangers ?_
  intro either
  rcases either with _ | _
  · exact ⟨.ok (), rfl⟩
  · exact ⟨.ok (), rfl⟩

end TwoGather
