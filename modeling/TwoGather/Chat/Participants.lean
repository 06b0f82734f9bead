import TwoGather.Backend.Calls
import TwoGather.Lib.Runs

/-!
# The participants of a chat

`SalonNotifier` loads the documents of the users of the open salon, and keeps those that have
arrived in the map `_participant`. Nothing tells a document that was asked for in one salon from
one of the next, and with anybody in the map no more are asked for. The two buttons of a lock
take the other user from the map: the first key that is not the current user. The snapshots are
those of the salon that was opened last: the listener that two openings at once leave behind
(`TwoGather/Chat/OneListener.lean`) is not in this model, nor is the page `AboutSalon`, which no
other page opens.

* `onlyMembers_iff`: all who are in the map are in the open salon, in every state of a session and
  whatever arrives next, exactly if no salon is opened, and the map is not cleared, while
  documents are loading.
* `partner_iff`: so the buttons in a salon of two are about the other one, whatever happens,
  exactly if nobody else was loading when it was opened; a wrong one stays (`partner_stays`).
-/

namespace TwoGather

open Requests

/-- The fields of `SalonNotifier` about the participants: the keys of `_participant`, in the order
in which they came, and the users whose documents were asked for and have not arrived yet. The
profiles in the map are left out. -/
structure Participants where
  participant : List UserId := []
  loading : List UserId := []
  deriving DecidableEq

/-- What happens to the participants: `init` up to its first await, a snapshot of the salon with
these users, the arrival of a document that is loading, if it exists, and `clear`. -/
inductive ParticipantEvent
  | init
  | salon (users : List (Option UserId))
  | arrival (i : Nat) (doc : Bool)
  | clear

/-- The event happens while a salon of these two is open. -/
def ParticipantEvent.InSalonOf (me other : UserId) : ParticipantEvent → Prop
  | .salon users => ∀ u, some u ∈ users → u = me ∨ u = other
  | .arrival _ _ => True
  | .init | .clear => False

namespace Participants

/-- A new map; what is loading goes on. -/
def init (n : Participants) : Participants :=
  { n with participant := [] }

def initSalonParticipant (n : Participants) (users : List (Option UserId)) : Participants :=
  if n.participant.isEmpty then { n with loading := n.loading ++ users.filterMap id } else n

/-- `_participant[doc.id] = ..`, where a key keeps its place. -/
def put (n : Participants) (u : UserId) : Participants :=
  if u ∈ n.participant then n else { n with participant := n.participant ++ [u] }

/-- The callback of a `get()`. -/
def arrive (n : Participants) (i : Nat) (doc : Bool) : Participants :=
  match n.loading[i]? with
  | none => n
  | some u =>
      let n := { n with loading := n.loading.eraseIdx i }
      if doc then n.put u else n

def step (n : Participants) : ParticipantEvent → Participants
  | .init => n.init
  | .salon users => n.initSalonParticipant users
  | .arrival i doc => n.arrive i doc
  | .clear => n.init

/-- `participant.keys.firstWhere((user) => user != uid)`, which throws when there is none. -/
def partner (n : Participants) (me : UserId) : Option UserId :=
  n.participant.find? (· ≠ me)

/-- "Proposer un Lock Duo". -/
def proposeLock (n : Participants) (me : UserId) (idSalon : SalonId) : Option AppCall :=
  (n.partner me).map fun otherUserId => .requestNewLockDuo me otherUserId (some idSalon)

/-- "Accepter le Lock Duo", on the message of a lock demand. -/
def acceptLock (n : Participants) (me : UserId) : Option AppCall :=
  (n.partner me).map fun otherUserId => .handleDuoRequest otherUserId me none true

/-! ## Who is in the map -/

/-- Those who are in the map or may come into it. -/
def Has (n : Participants) (u : UserId) : Prop :=
  u ∈ n.participant ∨ u ∈ n.loading

section Has

variable {n : Participants} {u v : UserId}

theorem has_put : (n.put v).Has u ↔ n.Has u ∨ u = v := by
  unfold Participants.put
  split
  case isTrue known =>
    refine ⟨.inl, ?_⟩
    rintro (has | rfl)
    · exact has
    · exact .inl known
  case isFalse =>
    unfold Participants.Has
    rw [List.mem_append, List.mem_singleton]
    exact or_right_comm

theorem mem_users {users : List (Option UserId)} : u ∈ users.filterMap id ↔ some u ∈ users := by
  simp

theorem has_init (has : n.init.Has u) : u ∈ n.loading :=
  has.resolve_left (List.not_mem_nil)

theorem has_initSalonParticipant {users : List (Option UserId)}
    (has : (n.initSalonParticipant users).Has u) : n.Has u ∨ some u ∈ users := by
  unfold initSalonParticipant at has
  split at has
  case isTrue =>
    rcases has with there | loading
    · exact .inl (.inl there)
    · rcases List.mem_append.mp loading with old | new
      · exact .inl (.inr old)
      · exact .inr (mem_users.mp new)
  case isFalse => exact .inl has

/-- Nobody new comes with an arrival. -/
theorem has_arrive {i : Nat} {doc : Bool} (has : (n.arrive i doc).Has u) : n.Has u := by
  unfold arrive at has
  split at has
  case h_1 => exact has
  case h_2 v there =>
    have loaded : v ∈ n.loading := List.mem_of_getElem? there
    have erased : ∀ w, Participants.Has { n with loading := n.loading.eraseIdx i } w → n.Has w := by
      intro w either
      exact either.imp_right List.mem_of_mem_eraseIdx
    cases doc with
    | true =>
        rcases has_put.mp has with old | rfl
        · exact erased u old
        · exact .inr loaded
    | false => exact erased u has

end Has

/-! ## One session -/

/-- A session, with the users of the open salon in any of its snapshots so far. -/
structure Session where
  notifier : Participants := {}
  members : List UserId := []

namespace Session

def step (t : Session) (e : ParticipantEvent) : Session where
  notifier := t.notifier.step e
  members :=
    match e with
    | .init | .clear => []
    | .salon users => t.members ++ users.filterMap id
    | .arrival _ _ => t.members

/-- All who are in the map are in the open salon, whatever documents arrive next. -/
def OnlyMembers (t : Session) : Prop :=
  ∀ arrivals : List (Nat × Bool),
    ∀ u ∈ (run step t (arrivals.map fun a => .arrival a.1 a.2)).notifier.participant, u ∈ t.members

/-- A salon is opened, and the map is cleared, only when nothing is loading. -/
def Clean (t : Session) : ParticipantEvent → Prop
  | .init | .clear => t.notifier.loading = []
  | _ => True

theorem has_arrivals {t : Session} {u : UserId} (arrivals : List (Nat × Bool))
    (has : (run step t (arrivals.map fun a => .arrival a.1 a.2)).notifier.Has u) :
    t.notifier.Has u := by
  induction arrivals generalizing t with
  | nil => exact has
  | cons a arrivals ih => exact has_arrive (ih has)

/-- Whoever is loading comes into the map if its document arrives first. -/
theorem onlyMembers_iff_has {t : Session} :
    t.OnlyMembers ↔ ∀ u, t.notifier.Has u → u ∈ t.members := by
  constructor
  · rintro only u (there | loading)
    · exact only [] u there
    · rcases List.getElem?_of_mem loading with ⟨i, there⟩
      have arrived : u ∈ (t.notifier.arrive i true).participant := by
        rw [arrive, there]
        dsimp only
        rw [if_pos rfl, put]
        split
        case isTrue known => exact known
        case isFalse => exact List.mem_append_right _ (List.mem_singleton_self u)
      exact only [(i, true)] u arrived
  · intro all arrivals u there
    exact all u (has_arrivals arrivals (.inl there))

theorem onlyMembers_step {t : Session} (only : t.OnlyMembers) (e : ParticipantEvent) :
    (t.step e).OnlyMembers ↔ t.Clean e := by
  rw [onlyMembers_iff_has] at only ⊢
  have emptied : (∀ u, t.notifier.init.Has u → u ∈ ([] : List UserId)) ↔
      t.notifier.loading = [] := by
    constructor
    · intro none
      exact List.eq_nil_iff_forall_not_mem.mpr fun u loading =>
        List.not_mem_nil (none u (.inr loading))
    · intro empty u has
      rw [← empty]
      exact has_init has
  cases e with
  | init => exact emptied
  | clear => exact emptied
  | salon users =>
      refine iff_of_true (fun u has => List.mem_append.mpr ?_) trivial
      exact (has_initSalonParticipant has).imp (only u) mem_users.mpr
  | arrival i doc => exact iff_of_true (fun u has => only u (has_arrive has)) trivial

/-- **Everybody in the map is in the open salon, in every state of a session and whatever arrives
next, exactly if no salon is opened, and the map is not cleared, while documents are loading.** -/
theorem onlyMembers_iff (events : List ParticipantEvent) :
    (∀ t, Reached step ({} : Session) events t → t.OnlyMembers) ↔
      Along step Clean ({} : Session) events := by
  refine all_reached_iff_along (V := fun _ _ => True) (fun t e only _ => onlyMembers_step only e)
    ?_ (Along.trivial _ _)
  rw [onlyMembers_iff_has]
  rintro u (there | loading)
  · cases there
  · cases loading

end Session

/-! ## The buttons of a salon of two -/

section Buttons

variable {n : Participants} {me other v : UserId} {e : ParticipantEvent}
  {events : List ParticipantEvent}

theorem two_step (two : ∀ u, n.Has u → u = me ∨ u = other) (inSalon : e.InSalonOf me other) :
    ∀ u, (n.step e).Has u → u = me ∨ u = other := by
  intro u has
  cases e with
  | salon users => exact (has_initSalonParticipant has).elim (two u) (inSalon u)
  | arrival i doc => exact two u (has_arrive has)
  | init => cases inSalon
  | clear => cases inSalon

theorem two_run (two : ∀ u, n.Has u → u = me ∨ u = other)
    (inSalon : ∀ e ∈ events, e.InSalonOf me other) :
    ∀ u, (run step n events).Has u → u = me ∨ u = other :=
  all_reached (P := fun n => ∀ u, n.Has u → u = me ∨ u = other)
    (V := fun _ e => e.InSalonOf me other) (fun _ _ => two_step) two (Along.of_forall inSalon) _
    (.run n events)

theorem mem_of_partner (found : n.partner me = some v) : v ∈ n.participant ∧ v ≠ me := by
  refine ⟨List.mem_of_find?_eq_some found, ?_⟩
  simpa using List.find?_some found

/-- The map only grows at its end while the salon is open, so the buttons keep to their user. -/
theorem partner_step (inSalon : e.InSalonOf me other) (found : n.partner me = some v) :
    (n.step e).partner me = some v := by
  have put : ∀ (n : Participants) u, n.partner me = some v → (n.put u).partner me = some v := by
    intro n u found
    unfold Participants.put
    split
    case isTrue => exact found
    case isFalse =>
      unfold partner at found ⊢
      rw [List.find?_append, found]
      rfl
  cases e with
  | salon users =>
      have same : (n.initSalonParticipant users).participant = n.participant := by
        unfold initSalonParticipant
        split
        · rfl
        · rfl
      unfold partner at found ⊢
      rw [step, same]
      exact found
  | arrival i doc =>
      rw [step, arrive]
      split
      case h_1 => exact found
      case h_2 u there =>
        cases doc with
        | true => exact put _ u found
        | false => exact found
  | init => cases inSalon
  | clear => cases inSalon

theorem partner_stays (inSalon : ∀ e ∈ events, e.InSalonOf me other)
    (found : n.partner me = some v) : (run step n events).partner me = some v :=
  all_reached (P := fun n => n.partner me = some v) (V := fun _ e => e.InSalonOf me other)
    (fun _ _ found inSalon => partner_step inSalon found) found (Along.of_forall inSalon) _
    (.run n events)

/-- **In a salon of two the buttons of a lock are about the other one, whatever happens, exactly
if nobody else was loading when the salon was opened.** -/
theorem partner_iff (n : Participants) (me other : UserId) (idSalon : SalonId) :
    (∀ events : List ParticipantEvent, (∀ e ∈ events, e.InSalonOf me other) → ∀ call,
        (run step n.init events).proposeLock me idSalon = some call ∨
          (run step n.init events).acceptLock me = some call →
        call = .requestNewLockDuo me other (some idSalon) ∨
          call = .handleDuoRequest other me none true) ↔
      ∀ u ∈ n.loading, u = me ∨ u = other := by
  constructor
  · intro right u loading
    by_cases self : u = me
    · exact .inl self
    · rcases List.getElem?_of_mem loading with ⟨i, there⟩
      -- the document of a user of an earlier salon is the first to arrive
      have arrived : run step n.init [.arrival i true] =
          { participant := [u], loading := n.loading.eraseIdx i } := by
        have same : n.init.loading[i]? = some u := there
        simp only [run_cons, run_nil, step, arrive, same, put]
        rfl
      have pressed : (run step n.init [.arrival i true]).proposeLock me idSalon =
          some (.requestNewLockDuo me u (some idSalon)) := by
        rw [arrived, proposeLock, partner, List.find?_cons_of_pos (by simpa using self)]
        rfl
      have inSalon : ∀ e ∈ [ParticipantEvent.arrival i true], e.InSalonOf me other := by
        intro e listed
        rw [List.mem_singleton.mp listed]
        trivial
      rcases right _ inSalon _ (.inl pressed) with same | same
      · cases same
        exact .inr rfl
      · cases same
  · intro two events inSalon call pressed
    have known := two_run (fun u has => two u (has_init has)) inSalon
    have other_of : ∀ v, (run step n.init events).partner me = some v → v = other := by
      intro v found
      rcases mem_of_partner found with ⟨there, notMe⟩
      exact (known v (.inl there)).resolve_left notMe
    rcases pressed with asked | accepted
    · rcases Option.map_eq_some_iff.mp asked with ⟨v, found, rfl⟩
      rw [other_of v found]
      exact .inl rfl
    · rcases Option.map_eq_some_iff.mp accepted with ⟨v, found, rfl⟩
      rw [other_of v found]
      exact .inr rfl

end Buttons

end Participants

end TwoGather
