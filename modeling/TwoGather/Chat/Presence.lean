import TwoGather.Documents
import TwoGather.Lib.Runs

/-!
# Who is online, and who types

The page of a chat writes to the realtime database whether its user is online and whether it
types; `getStateOfContactRow` reads what the others have written.

* A page that has been closed writes "online" again, every minute and for good, exactly if it was
  resumed once while its timer ran: the field of the timer is overwritten then, and `dispose`
  cancels the timer in the field only (`offline_iff`).
* An action is to count for 113 minutes, but the difference of its date and of now is negative
  and stays below that: an action that a row of the repertoire shows is shown at every later time
  (`contactRow_later`). The row shows a recording exactly if all who record come before all who
  type, since the list of those who record starts from the list of those who type
  (`contactRow_iff`).
-/

namespace TwoGather

open Requests

/-! ## The page -/

inductive StateOfUser
  | online
  | offline
  deriving DecidableEq

inductive UserAction
  | typing
  | recording
  | normal
  deriving DecidableEq

/-- The node `Salons/{idSalon}/{idUser}` of the realtime database: `state` and `action`, each with
its time as the clock of the user showed it. -/
structure Presence where
  state : Option (StateOfUser × Int) := none
  action : Option (UserAction × Int) := none
  deriving DecidableEq

inductive AppLifecycleState
  | detached
  | resumed
  | inactive
  | hidden
  | paused
  deriving DecidableEq

/-- What an open page hears of: the text of the input field has changed, the life cycle of the
app, a timer of a minute, the page left by a gesture, and its end. -/
inductive ChatPageEvent
  | text (text : String)
  | lifecycle (state : AppLifecycleState)
  | timer (k : Nat)
  | pop
  | dispose
  deriving DecidableEq

/-- The state of the page, with the timers that it has started and not cancelled, and the node
that it writes. -/
structure IndexChatPage where
  timerStatus : Option Nat := none
  timers : List Nat := []
  /-- The number of timers so far. -/
  next : Nat := 0
  disposed : Bool := false
  node : Presence := {}
  deriving DecidableEq

namespace IndexChatPage

def updateStatus (p : IndexChatPage) (action : UserAction) (now : Int) : IndexChatPage :=
  { p with node := { p.node with action := some (action, now) } }

def updateOnlineOfflineStatus (p : IndexChatPage) (state : StateOfUser) (now : Int) :
    IndexChatPage :=
  { p with node := { p.node with state := some (state, now) } }

def controllerChange (p : IndexChatPage) (text : String) (now : Int) : IndexChatPage :=
  p.updateStatus (if text.isEmpty then .normal else .typing) now

/-- A new periodic timer, in place of the one in the field. -/
def setTimer (p : IndexChatPage) : IndexChatPage :=
  { p with timerStatus := some p.next, timers := p.timers ++ [p.next], next := p.next + 1 }

/-- `timerStatus?.cancel()`. -/
def cancel (p : IndexChatPage) : IndexChatPage :=
  { p with timers := p.timers.filter fun k => some k ≠ p.timerStatus }

def initState (now : Int) : IndexChatPage :=
  (setTimer {}).updateOnlineOfflineStatus .online now

def didChangeAppLifecycleState (p : IndexChatPage) (now : Int) : AppLifecycleState → IndexChatPage
  | .resumed => p.setTimer.updateOnlineOfflineStatus .online now
  | .paused | .detached | .inactive | .hidden =>
      (p.cancel.updateOnlineOfflineStatus .offline now).updateStatus .normal now

def dispose (p : IndexChatPage) (now : Int) : IndexChatPage :=
  { ((p.updateOnlineOfflineStatus .offline now).updateStatus .normal now).cancel with
    disposed := true }

/-- One event. After its end a page hears of its timers only. -/
def step (p : IndexChatPage) (e : Int × ChatPageEvent) : IndexChatPage :=
  match e.2 with
  | .timer k => if k ∈ p.timers then p.updateOnlineOfflineStatus .online e.1 else p
  | .text text => if p.disposed then p else p.controllerChange text e.1
  | .lifecycle state => if p.disposed then p else p.didChangeAppLifecycleState e.1 state
  | .pop => if p.disposed then p else p.updateOnlineOfflineStatus .offline e.1
  | .dispose => if p.disposed then p else p.dispose e.1

/-! ## Timers that nobody cancels -/

/-- The timer runs, and the field has another one. -/
def Orphan (p : IndexChatPage) (k : Nat) : Prop :=
  k ∈ p.timers ∧ some k ≠ p.timerStatus

def NoOrphan (p : IndexChatPage) : Prop :=
  ∀ k, ¬ p.Orphan k

/-- The timer in the field runs. -/
def TimerRuns (p : IndexChatPage) : Prop :=
  ∃ k ∈ p.timers, p.timerStatus = some k

/-- The page is not resumed while its timer runs. -/
def Covered (p : IndexChatPage) (e : Int × ChatPageEvent) : Prop :=
  p.disposed = false → e.2 = .lifecycle .resumed → ¬ p.TimerRuns

/-- The timers are those that were started, and a page that has ended has cancelled the one in
its field. -/
structure Numbered (p : IndexChatPage) : Prop where
  timers : ∀ k ∈ p.timers, k < p.next
  timerStatus : ∀ k ∈ p.timerStatus, k < p.next
  ended : p.disposed = true → ¬ p.TimerRuns

section Timers

variable {p : IndexChatPage} {e : Int × ChatPageEvent} {k : Nat} {now : Int}

/-- When the field is cancelled, the timers left are those that were orphans. -/
theorem orphan_cancel : k ∈ p.cancel.timers ↔ p.Orphan k := by
  unfold cancel Orphan
  simp

/-- After the cancellation no timer of the field runs. -/
theorem not_timerRuns_cancel : ¬ p.cancel.TimerRuns := by
  rintro ⟨k, listed, field⟩
  exact (orphan_cancel.mp listed).2 field.symm

/-- A cancellation does away with the timer in the field, which is no orphan. -/
theorem cancel_orphan : p.cancel.Orphan k ↔ p.Orphan k := by
  constructor
  · exact fun orphan => orphan_cancel.mp orphan.1
  · exact fun orphan => ⟨orphan_cancel.mpr orphan, orphan.2⟩

/-- A new timer makes an orphan of every other one. -/
theorem setTimer_orphan (numbered : p.Numbered) : p.setTimer.Orphan k ↔ k ∈ p.timers := by
  unfold setTimer Orphan
  constructor
  · rintro ⟨listed, other⟩
    rcases List.mem_append.mp listed with old | new
    · exact old
    · exact absurd (congrArg some (List.mem_singleton.mp new)) other
  · intro listed
    refine ⟨List.mem_append_left _ listed, fun same => ?_⟩
    exact Nat.lt_irrefl _ (Option.some.inj same ▸ numbered.timers k listed)

/-- A cancellation makes no new number. -/
theorem numbered_cancel (numbered : p.Numbered) : p.cancel.Numbered where
  timers k listed := numbered.timers k (orphan_cancel.mp listed).1
  timerStatus := numbered.timerStatus
  ended _ := not_timerRuns_cancel

/-- A new timer gets the next number. -/
theorem numbered_setTimer (numbered : p.Numbered) (opened : p.disposed = false) :
    p.setTimer.Numbered where
  timers k listed := by
    rcases List.mem_append.mp listed with old | new
    · exact Nat.lt_succ_of_lt (numbered.timers k old)
    · rw [List.mem_singleton.mp new]
      exact Nat.lt_succ_self _
  timerStatus k field := by
    cases field
    exact Nat.lt_succ_self _
  ended ended := by
    have same : p.setTimer.disposed = p.disposed := rfl
    rw [same, opened] at ended
    cases ended

/-- A page with the same timers is numbered as well. -/
theorem Numbered.node (numbered : p.Numbered) (node : Presence) :
    ({ p with node } : IndexChatPage).Numbered :=
  ⟨numbered.timers, numbered.timerStatus, numbered.ended⟩

/-- Every event keeps the timers numbered. -/
theorem numbered_step (numbered : p.Numbered) (e : Int × ChatPageEvent) : (p.step e).Numbered := by
  rcases e with ⟨now, e⟩
  unfold step
  cases e with
  | timer k =>
      dsimp only
      split
      · exact numbered.node _
      · exact numbered
  | text text =>
      dsimp only
      split
      · exact numbered
      · exact numbered.node _
  | pop =>
      dsimp only
      split
      · exact numbered
      · exact numbered.node _
  | dispose =>
      dsimp only
      split
      · exact numbered
      · have cancelled := numbered_cancel (numbered.node
          ((p.updateOnlineOfflineStatus .offline now).updateStatus .normal now).node)
        exact ⟨cancelled.timers, cancelled.timerStatus, fun _ => not_timerRuns_cancel⟩
  | lifecycle state =>
      dsimp only
      split
      · exact numbered
      case isFalse opened =>
        cases state with
        | resumed => exact (numbered_setTimer numbered (Bool.not_eq_true _ ▸ opened)).node _
        | _ => exact (numbered_cancel numbered).node _

/-- An orphan stays one, and a resumption makes orphans of all timers. -/
theorem orphan_step (numbered : p.Numbered) (e : Int × ChatPageEvent) (k : Nat) :
    (p.step e).Orphan k ↔
      p.Orphan k ∨ p.disposed = false ∧ e.2 = .lifecycle .resumed ∧ k ∈ p.timers := by
  rcases e with ⟨now, e⟩
  unfold step
  cases e with
  | timer j =>
      dsimp only
      split
      · exact (or_iff_left (by rintro ⟨-, ⟨⟩, -⟩)).symm
      · exact (or_iff_left (by rintro ⟨-, ⟨⟩, -⟩)).symm
  | text text =>
      dsimp only
      split
      · exact (or_iff_left (by rintro ⟨-, ⟨⟩, -⟩)).symm
      · exact (or_iff_left (by rintro ⟨-, ⟨⟩, -⟩)).symm
  | pop =>
      dsimp only
      split
      · exact (or_iff_left (by rintro ⟨-, ⟨⟩, -⟩)).symm
      · exact (or_iff_left (by rintro ⟨-, ⟨⟩, -⟩)).symm
  | dispose =>
      dsimp only
      split
      · exact (or_iff_left (by rintro ⟨-, ⟨⟩, -⟩)).symm
      · exact Iff.trans cancel_orphan (or_iff_left (by rintro ⟨-, ⟨⟩, -⟩)).symm
  | lifecycle state =>
      dsimp only
      split
      case isTrue ended =>
        refine (or_iff_left ?_).symm
        rintro ⟨opened, -⟩
        cases ended.symm.trans opened
      case isFalse opened =>
        cases state with
        | resumed =>
            refine Iff.trans (setTimer_orphan numbered) ?_
            constructor
            · exact fun listed => .inr ⟨Bool.not_eq_true _ ▸ opened, rfl, listed⟩
            · rintro (orphan | ⟨-, -, listed⟩)
              · exact orphan.1
              · exact listed
        | _ => exact Iff.trans cancel_orphan (or_iff_left (by rintro ⟨-, ⟨⟩, -⟩)).symm

/-- An event leaves no orphan exactly if it is covered. -/
theorem noOrphan_step (numbered : p.Numbered) (none : p.NoOrphan) (e : Int × ChatPageEvent) :
    (p.step e).NoOrphan ↔ p.Covered e := by
  constructor
  · rintro still opened resumed ⟨k, listed, -⟩
    exact still k ((orphan_step numbered e k).mpr (.inr ⟨opened, resumed, listed⟩))
  · intro covered k orphan
    rcases (orphan_step numbered e k).mp orphan with old | ⟨opened, resumed, listed⟩
    · exact none k old
    · by_cases field : some k = p.timerStatus
      · exact covered opened resumed ⟨k, listed, field.symm⟩
      · exact none k ⟨listed, field⟩

theorem numbered_initState (start : Int) : (initState start).Numbered where
  timers k listed := by
    rw [List.mem_singleton.mp listed]
    exact Nat.zero_lt_one
  timerStatus k field := by
    cases field
    exact Nat.zero_lt_one
  ended := by rintro ⟨⟩

theorem noOrphan_initState (start : Int) : (initState start).NoOrphan := by
  rintro k ⟨listed, other⟩
  exact other (congrArg some (List.mem_singleton.mp listed))

/-- There is no orphan at the end exactly if every event was covered. -/
theorem noOrphan_run (start : Int) (events : List (Int × ChatPageEvent)) :
    (run step (initState start) events).NoOrphan ↔ Along step Covered (initState start) events := by
  refine run_iff_along (I := Numbered) (V := fun _ _ => True) ?_ ?_ ?_ (numbered_initState start)
    (noOrphan_initState start) (Along.trivial _ _)
  · exact fun p e numbered _ => numbered_step numbered e
  · exact fun p e numbered _ none => noOrphan_step numbered none e
  · intro p e numbered _ orphans none
    exact orphans fun k orphan => none k ((orphan_step numbered e k).mpr (.inl orphan))

end Timers

/-! ## After the end -/

/-- The node shows the user as offline. -/
def Offline (p : IndexChatPage) : Prop :=
  ∃ t, p.node.state = some (.offline, t)

/-- A timer that is left writes that the user is online. -/
theorem step_timer {p : IndexChatPage} {k : Nat} {now : Int} (listed : k ∈ p.timers) :
    p.step (now, .timer k) = p.updateOnlineOfflineStatus .online now :=
  if_pos listed

/-- A page that has ended without a timer writes nothing any more. -/
theorem step_ended {p : IndexChatPage} (ended : p.disposed = true) (none : p.timers = [])
    (e : Int × ChatPageEvent) : p.step e = p := by
  rcases e with ⟨now, e⟩
  unfold step
  cases e with
  | timer k =>
      rw [none]
      exact if_neg List.not_mem_nil
  | _ => exact if_pos ended

/-- **A page that has been closed shows its user as offline from then on, whatever comes, exactly
if it was never resumed while its timer ran.** -/
theorem offline_iff (start : Int) (events : List (Int × ChatPageEvent)) (now : Int) :
    (∀ later, (run step ((run step (initState start) events).dispose now) later).Offline) ↔
      Along step Covered (initState start) events := by
  rw [← noOrphan_run]
  constructor
  · intro offline k orphan
    have listed : k ∈ ((run step (initState start) events).dispose now).timers :=
      orphan_cancel.mpr orphan
    rcases offline [(now, .timer k)] with ⟨t, state⟩
    rw [run_cons, run_nil, step_timer listed] at state
    cases state
  · intro none later
    have empty : ((run step (initState start) events).dispose now).timers = [] :=
      List.eq_nil_iff_forall_not_mem.mpr fun k listed => none k (orphan_cancel.mp listed)
    have still : run step ((run step (initState start) events).dispose now) later =
        (run step (initState start) events).dispose now := by
      induction later with
      | nil => rfl
      | cons e later ih => rw [run_cons, step_ended rfl empty, ih]
    rw [still]
    exact ⟨now, rfl⟩

end IndexChatPage

/-! ## The row of the repertoire -/

structure ActionUser where
  action : UserAction
  idUser : String
  dateTime : Int
  deriving DecidableEq

/-- `Map<UserAction, List<ActionUser>>`: a key that is written again keeps its place. -/
abbrev ActionByUsers : Type := List (UserAction × List ActionUser)

namespace ActionByUsers

/-- `actionByUsers[action] ?? []`. -/
def get (m : ActionByUsers) (action : UserAction) : List ActionUser :=
  (m.lookup action).getD []

def put (action : UserAction) (users : List ActionUser) : ActionByUsers → ActionByUsers
  | [] => [(action, users)]
  | (key, old) :: m =>
      if key = action then (action, users) :: m else (key, old) :: put action users m

end ActionByUsers

section Row

variable (parse : Int → Int) (myUid : String) (now : Int)

/-- What one node counts for: the action of somebody else, unless it is "normal". The age is
`DateTime.parse(dateTime).difference(DateTime.now())`, in microseconds. -/
def countedAction (val : String × Presence) : Option ActionUser :=
  match val.2.action with
  | none => none
  | some (action, dateTime) =>
      if parse dateTime - now < 113 * 60 * 1000000 then
        if action = .typing ∧ val.1 ≠ myUid then some ⟨.typing, val.1, parse dateTime⟩
        else if action = .recording ∧ val.1 ≠ myUid then some ⟨.recording, val.1, parse dateTime⟩
        else none
      else none

/-- The list of those who record starts from the list of those who type, as in the source. -/
def addAction (m : ActionByUsers) (user : ActionUser) : ActionByUsers :=
  m.put user.action (m.get .typing ++ [user])

def getUsersAction (snap : List (String × Presence)) : ActionByUsers :=
  snap.foldl (fun m val => (countedAction parse myUid now val).elim m (addAction m)) []

/-- `none` is the error of `first` on an empty list. -/
def getStateOfContactRow (snap : List (String × Presence)) : Option UserAction :=
  match getUsersAction parse myUid now snap with
  | [] => some .normal
  | (_, users) :: _ => users.head?.map ActionUser.action

/-- The users that the row takes into account. -/
def countedUsers (snap : List (String × Presence)) : List ActionUser :=
  snap.filterMap (countedAction parse myUid now)

end Row

/-- Somebody records, and nobody who types comes before somebody who records. -/
def RecordingsFirst (users : List ActionUser) : Prop :=
  (∃ user ∈ users, user.action = .recording) ∧
    users.Pairwise fun user later => user.action = .typing → later.action ≠ .recording

/-- The map after some users have been added, in the four cases that decide what is shown. -/
inductive Grouped : List ActionUser → ActionByUsers → Prop
  | none : Grouped [] []
  | recording {users : List ActionUser} {r : ActionUser} (first : RecordingsFirst users)
      (none : ∀ user ∈ users, user.action ≠ .typing) (shown : r.action = .recording) :
      Grouped users [(.recording, [r])]
  | both {users : List ActionUser} {r t : ActionUser} {ts : List ActionUser}
      (first : RecordingsFirst users) (some : ∃ user ∈ users, user.action = .typing)
      (shown : r.action = .recording) (typing : t.action = .typing) :
      Grouped users [(.recording, [r]), (.typing, t :: ts)]
  | typing {users : List ActionUser} {key : UserAction} {s t : ActionUser}
      {ss ts : List ActionUser} {m : ActionByUsers}
      (mixed : ¬ RecordingsFirst users) (some : ∃ user ∈ users, user.action = .typing)
      (shown : s.action = .typing)
      (listed : ActionByUsers.get ((key, s :: ss) :: m) .typing = t :: ts)
      (typing : t.action = .typing) :
      Grouped users ((key, s :: ss) :: m)

section Grouping

variable {users : List ActionUser} {user : ActionUser} {m : ActionByUsers}

/-- Somebody who types does not come before anybody. -/
theorem recordingsFirst_typing (typing : user.action = .typing) :
    RecordingsFirst (users ++ [user]) ↔ RecordingsFirst users := by
  unfold RecordingsFirst
  rw [List.pairwise_append]
  constructor
  · rintro ⟨⟨other, listed, recording⟩, pairs, -⟩
    refine ⟨⟨other, ?_, recording⟩, pairs⟩
    rcases List.mem_append.mp listed with before | last
    · exact before
    · rw [List.mem_singleton.mp last, typing] at recording
      cases recording
  · rintro ⟨⟨other, listed, recording⟩, pairs⟩
    refine ⟨⟨other, List.mem_append_left _ listed, recording⟩, pairs,
      List.pairwise_singleton _ _, ?_⟩
    intro before _ last listed _
    rw [List.mem_singleton.mp listed, typing]
    rintro ⟨⟩

/-- Somebody who records comes after all the others. -/
theorem recordingsFirst_recording (recording : user.action = .recording) :
    RecordingsFirst (users ++ [user]) ↔ ∀ other ∈ users, other.action ≠ .typing := by
  unfold RecordingsFirst
  rw [List.pairwise_append]
  constructor
  · rintro ⟨-, -, -, pairs⟩ other listed typing
    exact pairs other listed user (List.mem_singleton_self _) typing recording
  · intro none
    refine ⟨⟨user, List.mem_append_right _ (List.mem_singleton_self _), recording⟩, ?_,
      List.pairwise_singleton _ _, ?_⟩
    · exact List.pairwise_of_forall_mem_list fun other listed _ _ typing =>
        absurd typing (none other listed)
    · exact fun other listed _ _ typing => absurd typing (none other listed)

/-- The first group with the action is found. -/
theorem get_cons (key action : UserAction) (group : List ActionUser) :
    ActionByUsers.get ((key, group) :: m) action =
      if action = key then group else m.get action := by
  unfold ActionByUsers.get
  by_cases same : action = key
  · rw [same, List.lookup_cons_self, if_pos rfl, Option.getD_some]
  · rw [List.lookup_cons, beq_false_of_ne same, if_neg same]

/-- A group that is put replaces the one of its action. -/
theorem get_put (action key : UserAction) (group : List ActionUser) :
    (m.put action group).get key = if key = action then group else m.get key := by
  induction m with
  | nil => exact get_cons action key group
  | cons entry m ih =>
      rcases entry with ⟨first, old⟩
      unfold ActionByUsers.put
      by_cases found : first = action
      · rw [if_pos found, get_cons, get_cons, found]
        split
        · rfl
        · rfl
      · rw [if_neg found, get_cons, get_cons, ih]
        by_cases same : key = first
        · rw [if_pos same, if_pos same, if_neg (same ▸ found)]
        · rw [if_neg same, if_neg same]

/-- Once somebody who types is shown, this does not change any more. -/
theorem grouped_typing {key : UserAction} {s t : ActionUser} {ss ts : List ActionUser}
    (counted : user.action = .typing ∨ user.action = .recording)
    (mixed : ¬ RecordingsFirst users) (some : ∃ user ∈ users, user.action = .typing)
    (shown : s.action = .typing)
    (listed : ActionByUsers.get ((key, s :: ss) :: m) .typing = t :: ts)
    (typing : t.action = .typing) :
    Grouped (users ++ [user]) (addAction ((key, s :: ss) :: m) user) := by
  have late : ¬ RecordingsFirst (users ++ [user]) := by
    rcases counted with typing | recording
    · exact (recordingsFirst_typing typing).not.mpr mixed
    · rcases some with ⟨other, before, typing⟩
      exact fun first => (recordingsFirst_recording recording).mp first other before typing
  have still : ∃ other ∈ users ++ [user], other.action = .typing := by
    rcases some with ⟨other, before, typing⟩
    exact ⟨other, List.mem_append_left _ before, typing⟩
  have kept : ∃ rest, (addAction ((key, s :: ss) :: m) user).get .typing = t :: rest := by
    unfold addAction
    rw [get_put, listed]
    split
    · exact ⟨ts ++ [user], rfl⟩
    · exact ⟨ts, rfl⟩
  rcases kept with ⟨rest, kept⟩
  unfold addAction at kept ⊢
  rw [listed] at kept ⊢
  unfold ActionByUsers.put at kept ⊢
  by_cases same : key = user.action
  · rw [if_pos same] at kept ⊢
    exact .typing late still typing kept typing
  · rw [if_neg same] at kept ⊢
    exact .typing late still shown kept typing

/-- One more node keeps the groups what they are to be. -/
theorem grouped_add (counted : user.action = .typing ∨ user.action = .recording)
    (grouped : Grouped users m) : Grouped (users ++ [user]) (addAction m user) := by
  rcases counted with typing | recording
  · have some : ∃ other ∈ users ++ [user], other.action = .typing :=
      ⟨user, List.mem_append_right _ (List.mem_singleton_self _), typing⟩
    have first : RecordingsFirst (users ++ [user]) ↔ RecordingsFirst users :=
      recordingsFirst_typing typing
    cases grouped with
    | none =>
        have mixed : ¬ RecordingsFirst ([] ++ [user]) := by
          rw [first]
          rintro ⟨⟨other, listed, -⟩, -⟩
          cases listed
        unfold addAction
        rw [typing]
        exact .typing mixed some typing rfl typing
    | recording ordered _ shown =>
        unfold addAction
        rw [typing]
        exact .both (first.mpr ordered) some shown typing
    | both ordered _ shown one =>
        unfold addAction
        rw [typing]
        exact .both (first.mpr ordered) some shown one
    | typing mixed earlier shown listed one =>
        exact grouped_typing (.inl typing) mixed earlier shown listed one
  · have first : RecordingsFirst (users ++ [user]) ↔ ∀ other ∈ users, other.action ≠ .typing :=
      recordingsFirst_recording recording
    cases grouped with
    | none =>
        unfold addAction
        rw [recording]
        refine .recording (first.mpr ?_) ?_ recording
        · exact fun other listed => absurd listed List.not_mem_nil
        · intro other listed
          rw [List.mem_singleton.mp listed, recording]
          rintro ⟨⟩
    | recording ordered none shown =>
        unfold addAction
        rw [recording]
        refine .recording (first.mpr none) ?_ recording
        intro other listed
        rcases List.mem_append.mp listed with before | last
        · exact none other before
        · rw [List.mem_singleton.mp last, recording]
          rintro ⟨⟩
    | both ordered some shown one =>
        rcases some with ⟨other, listed, typing⟩
        unfold addAction
        rw [recording]
        refine .typing ?_ ⟨other, List.mem_append_left _ listed, typing⟩ one rfl one
        exact fun late => first.mp late other listed typing
    | typing mixed earlier shown listed one =>
        exact grouped_typing (.inr recording) mixed earlier shown listed one

end Grouping

/-- The node of somebody else says that he does this, and the age does not stand against it. -/
def IsActing (parse : Int → Int) (myUid : String) (now : Int) (action : UserAction)
    (val : String × Presence) : Prop :=
  val.1 ≠ myUid ∧
    ∃ dateTime, val.2.action = some (action, dateTime) ∧ parse dateTime - now < 113 * 60 * 1000000

section Shown

variable {parse : Int → Int} {myUid : String} {now : Int} {snap : List (String × Presence)}

/-- A node that acts is counted with its action. -/
theorem counted_of_acts {action : UserAction} (one : action ≠ .normal) {val : String × Presence}
    (acts : IsActing parse myUid now action val) :
    ∃ user, countedAction parse myUid now val = some user ∧ user.action = action := by
  rcases acts with ⟨other, dateTime, found, recent⟩
  unfold countedAction
  rw [found]
  dsimp only
  rw [if_pos recent]
  cases action with
  | typing => exact ⟨_, if_pos ⟨rfl, other⟩, rfl⟩
  | recording => exact ⟨_, (if_neg (by rintro ⟨⟨⟩, -⟩)).trans (if_pos ⟨rfl, other⟩), rfl⟩
  | normal => exact absurd rfl one

/-- A node that is counted acts. -/
theorem acts_of_counted {val : String × Presence} {user : ActionUser}
    (counted : countedAction parse myUid now val = some user) :
    (user.action = .typing ∨ user.action = .recording) ∧
      IsActing parse myUid now user.action val := by
  unfold countedAction at counted
  split at counted
  · cases counted
  case h_2 action dateTime found =>
    split at counted
    case isFalse => cases counted
    case isTrue recent =>
      split at counted
      case isTrue typing =>
        cases counted
        exact ⟨.inl rfl, typing.2, dateTime, typing.1 ▸ found, recent⟩
      case isFalse =>
        split at counted
        case isTrue recording =>
          cases counted
          exact ⟨.inr rfl, recording.2, dateTime, recording.1 ▸ found, recent⟩
        case isFalse => cases counted

/-- So a node is counted with an action exactly if it acts so. -/
theorem counted_iff {action : UserAction} (one : action ≠ .normal) {val : String × Presence} :
    (∃ user, countedAction parse myUid now val = some user ∧ user.action = action) ↔
      IsActing parse myUid now action val := by
  constructor
  · rintro ⟨user, counted, rfl⟩
    exact (acts_of_counted counted).2
  · exact counted_of_acts one

/-- The same for all nodes of a snapshot. -/
theorem mem_countedUsers {action : UserAction} (one : action ≠ .normal) :
    (∃ user ∈ countedUsers parse myUid now snap, user.action = action) ↔
      ∃ val ∈ snap, IsActing parse myUid now action val := by
  unfold countedUsers
  constructor
  · rintro ⟨user, listed, shown⟩
    rcases List.mem_filterMap.mp listed with ⟨val, found, counted⟩
    exact ⟨val, found, (counted_iff one).mp ⟨user, counted, shown⟩⟩
  · rintro ⟨val, found, acts⟩
    rcases (counted_iff one).mpr acts with ⟨user, counted, shown⟩
    exact ⟨user, List.mem_filterMap.mpr ⟨val, found, counted⟩, shown⟩

/-- When nobody who types stands before somebody who records. -/
theorem recordingsFirst_countedUsers :
    RecordingsFirst (countedUsers parse myUid now snap) ↔
      (∃ val ∈ snap, IsActing parse myUid now .recording val) ∧
        snap.Pairwise fun val later =>
          IsActing parse myUid now .typing val → ¬ IsActing parse myUid now .recording later := by
  unfold RecordingsFirst
  rw [mem_countedUsers (by rintro ⟨⟩), countedUsers, List.pairwise_filterMap]
  refine and_congr_right fun _ => List.Pairwise.iff ?_
  intro val later
  rw [← counted_iff (by rintro ⟨⟩), ← counted_iff (by rintro ⟨⟩)]
  constructor
  · rintro pairs ⟨user, counted, typing⟩ ⟨other, also, recording⟩
    exact pairs user counted other also typing recording
  · exact fun apart user counted other also typing recording =>
      apart ⟨user, counted, typing⟩ ⟨other, also, recording⟩

/-- The last node is counted last. -/
theorem countedUsers_append (val : String × Presence) :
    countedUsers parse myUid now (snap ++ [val]) =
      countedUsers parse myUid now snap ++ (countedAction parse myUid now val).toList := by
  unfold countedUsers
  rw [List.filterMap_append]
  cases counted : countedAction parse myUid now val with
  | none => rw [List.filterMap_cons_none counted, List.filterMap_nil, Option.toList_none]
  | some user => rw [List.filterMap_cons_some counted, List.filterMap_nil, Option.toList_some]

/-- And it is added to the groups last. -/
theorem getUsersAction_append (val : String × Presence) :
    getUsersAction parse myUid now (snap ++ [val]) =
      (countedAction parse myUid now val).elim (getUsersAction parse myUid now snap)
        (addAction (getUsersAction parse myUid now snap)) :=
  List.foldl_append

/-- The groups are those of the nodes that are counted. -/
theorem grouped_getUsersAction (snap : List (String × Presence)) :
    Grouped (countedUsers parse myUid now snap) (getUsersAction parse myUid now snap) := by
  induction snap using List.reverseRecOn with
  | nil => exact .none
  | append_singleton snap val ih =>
      rw [countedUsers_append, getUsersAction_append]
      cases counted : countedAction parse myUid now val with
      | none => exact (List.append_nil _).symm ▸ ih
      | some user => exact grouped_add (acts_of_counted counted).1 ih

/-- Nobody is counted exactly if nobody acts. -/
theorem countedUsers_eq_nil :
    countedUsers parse myUid now snap = [] ↔
      ∀ action ≠ .normal, ∀ val ∈ snap, ¬ IsActing parse myUid now action val := by
  constructor
  · intro empty action one val found acts
    rcases (mem_countedUsers one).mpr ⟨val, found, acts⟩ with ⟨user, listed, -⟩
    rw [empty] at listed
    cases listed
  · intro still
    refine List.filterMap_eq_nil_iff.mpr fun val found => ?_
    cases counted : countedAction parse myUid now val with
    | none => rfl
    | some user =>
        have acts := acts_of_counted counted
        refine absurd acts.2 (still user.action ?_ val found)
        rintro shown
        rw [shown] at acts
        rcases acts.1 with ⟨⟨⟩⟩ | ⟨⟨⟩⟩

/-- **A row shows nothing exactly if no other one acts, and a recording exactly if somebody records
and nobody who types stands before somebody who records.** -/
theorem contactRow_iff (parse : Int → Int) (myUid : String) (now : Int)
    (snap : List (String × Presence)) :
    ∃ shown, getStateOfContactRow parse myUid now snap = some shown ∧
      (shown = .normal ↔ ∀ action ≠ .normal, ∀ val ∈ snap, ¬ IsActing parse myUid now action val) ∧
      (shown = .recording ↔
        (∃ val ∈ snap, IsActing parse myUid now .recording val) ∧
          snap.Pairwise fun val later => IsActing parse myUid now .typing val →
            ¬ IsActing parse myUid now .recording later) := by
  rw [← countedUsers_eq_nil, ← recordingsFirst_countedUsers]
  have grouped : Grouped (countedUsers parse myUid now snap) _ := grouped_getUsersAction snap
  unfold getStateOfContactRow
  generalize countedUsers parse myUid now snap = users at grouped ⊢
  generalize getUsersAction parse myUid now snap = m at grouped ⊢
  cases grouped with
  | none =>
      refine ⟨.normal, rfl, iff_of_true rfl rfl, iff_of_false (by rintro ⟨⟩) ?_⟩
      rintro ⟨⟨_, listed, -⟩, -⟩
      cases listed
  | recording first _ shown =>
      refine ⟨.recording, congrArg some shown, iff_of_false (by rintro ⟨⟩) ?_,
        iff_of_true rfl first⟩
      rintro rfl
      rcases first with ⟨⟨_, listed, -⟩, -⟩
      cases listed
  | both first _ shown _ =>
      refine ⟨.recording, congrArg some shown, iff_of_false (by rintro ⟨⟩) ?_,
        iff_of_true rfl first⟩
      rintro rfl
      rcases first with ⟨⟨_, listed, -⟩, -⟩
      cases listed
  | typing mixed one shown _ _ =>
      refine ⟨.typing, congrArg some shown, iff_of_false (by rintro ⟨⟩) ?_,
        iff_of_false (by rintro ⟨⟩) mixed⟩
      rintro rfl
      rcases one with ⟨_, listed, -⟩
      cases listed

/-- **What is shown at one time is shown at every later one: no entry grows too old.** -/
theorem contactRow_later {later : Int} (after : now ≤ later)
    (shown : getStateOfContactRow parse myUid now snap ≠ some .normal) :
    getStateOfContactRow parse myUid later snap ≠ some .normal := by
  intro hidden
  rcases contactRow_iff parse myUid now snap with ⟨action, eq, normal, -⟩
  rcases contactRow_iff parse myUid later snap with ⟨last, same, still, -⟩
  cases same.symm.trans hidden
  refine shown (eq.trans (congrArg some (normal.mpr fun kind one val found acts => ?_)))
  rcases acts with ⟨other, dateTime, entry, recent⟩
  exact still.mp rfl kind one val found
    ⟨other, dateTime, entry, lt_of_le_of_lt (Int.sub_le_sub_left after _) recent⟩

end Shown

end TwoGather
