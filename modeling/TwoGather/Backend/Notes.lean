import TwoGather.Backend.Documents

/-!
# The life of a notification

No call deletes a notification or changes what it says, and its two flags only go up. Whatever
runs at the same time, a notification is marked as answered by an answer to it only, and as
read by `setAllNotificationAsRead` of its user only (`notification_life`).

`setAllNotificationAsRead` in turn reads a list and marks its notifications one by one. None of
them can be gone when its turn comes, so at the end all that were there when the list was read
are marked (`setAllNotificationAsRead_marks`).
-/

namespace TwoGather

open Docs Requests

/-! ## What a notification is after a while -/

/-- What a notification says, without its flags. -/
def Notification.content (n : Notification) : Notification :=
  { n with isComplete := false, isRead := false }

/-- `n'` is what has become of `n`. -/
structure Notification.Grows (n n' : Notification) : Prop where
  content : n'.content = n.content
  isComplete : n.isComplete = true → n'.isComplete = true
  isRead : n.isRead = true → n'.isRead = true

theorem Notification.Grows.refl (n : Notification) : n.Grows n := ⟨rfl, id, id⟩

theorem Notification.Grows.trans {n n' n'' : Notification} (first : n.Grows n')
    (second : n'.Grows n'') : n.Grows n'' where
  content := second.content.trans first.content
  isComplete := second.isComplete ∘ first.isComplete
  isRead := second.isRead ∘ first.isRead

/-- A mark only adds to a notification. -/
theorem Mark.grows (m : Mark) (n : Notification) : n.Grows (m.write n) := by
  cases m with
  | complete => exact ⟨rfl, fun _ => rfl, id⟩
  | read => exact ⟨rfl, id, fun _ => rfl⟩

/-- Every notification is still there. -/
def Store.NotesGrow (s t : Store) : Prop :=
  ∀ u k n, (s.notifications u).get? k = some n →
    ∃ n', (t.notifications u).get? k = some n' ∧ n.Grows n'

section Grow

variable {s t : Store}

theorem Store.NotesGrow.refl (s : Store) : s.NotesGrow s :=
  fun _ _ n found => ⟨n, found, .refl n⟩

theorem Store.NotesGrow.trans {r : Store} (first : s.NotesGrow t) (second : t.NotesGrow r) :
    s.NotesGrow r := by
  intro u k n found
  rcases first u k n found with ⟨n', found', grows⟩
  rcases second u k n' found' with ⟨n'', found'', grows'⟩
  exact ⟨n'', found'', grows.trans grows'⟩

/-- Who leaves the notifications alone keeps them. -/
theorem notesGrow_of_same (same : t.notifications = s.notifications) : s.NotesGrow t := by
  intro u k n found
  rw [← same] at found
  exact ⟨n, found, .refl n⟩

/-- A new notification leaves the old ones as they are. -/
theorem notesGrow_addNotification (s : Store) (v : UserId) (new : Notification) :
    s.NotesGrow (s.addNotification v new) := by
  intro u k n found
  refine ⟨n, ?_, .refl n⟩
  rw [Store.notifications_addNotification]
  split
  case isTrue same =>
    subst same
    rw [AutoCollection.get?_add, if_neg (Nat.ne_of_lt (AutoCollection.lt_next found))]
    exact found
  case isFalse => exact found

/-- A mark keeps what the notification says. -/
theorem notesGrow_mark (s : Store) (v : UserId) (j : Nat) (m : Mark) :
    s.NotesGrow (s.updateNotification v j m.write) := by
  intro u k n found
  rw [notifications_updateNotification]
  split
  case isTrue =>
    rw [AutoCollection.get?_update, found]
    split
    · exact ⟨m.write n, rfl, m.grows n⟩
    · exact ⟨n, rfl, .refl n⟩
  case isFalse => exact ⟨n, found, .refl n⟩

/-- So every effect keeps the notifications. -/
theorem notesGrow_of_does {e : Effect} (does : e.Does s t) : s.NotesGrow t := by
  rcases e.notifications_of_does does with same | ⟨v, n, -, rfl⟩ | ⟨v, j, m, -, rfl⟩
  · exact notesGrow_of_same same
  · exact notesGrow_addNotification s v n
  · exact notesGrow_mark s v j m

end Grow

/-! ## The life of a notification -/

section Life

variable {ι : Type} [DecidableEq ι] {s : Store} {calls : ι → Call} {schedule : List ι}
  {u : UserId} {k : Nat} {n : Notification}

/-- And so does every schedule. -/
theorem notesGrow_after : s.NotesGrow (s.after calls schedule) :=
  serve_effects Store.NotesGrow.refl Store.NotesGrow.trans
    (fun _ _ idle => notesGrow_of_same idle.sameShown.notifications)
    fun _ _ _ _ _ _ => notesGrow_of_does

/-- A notification that is answered now was answered by one of the calls. -/
theorem isComplete_cause
    (before : ∀ n, (s.notifications u).get? k = some n → ¬ n.isComplete = true)
    (found : ((s.after calls schedule).notifications u).get? k = some n)
    (complete : n.isComplete = true) : ∃ i ∈ schedule, (calls i).Answers u k := by
  rcases notification_cause before found complete with
    ⟨i, listed, ⟨m, writes, n, was, now⟩ | ⟨n, isNew, -, now⟩⟩
  · cases m with
    | complete => exact ⟨i, listed, writes⟩
    | read => exact absurd now was
  · cases isNew.1.symm.trans now

/-- A notification that is read now was read by one of the calls. -/
theorem isRead_cause (before : ∀ n, (s.notifications u).get? k = some n → ¬ n.isRead = true)
    (found : ((s.after calls schedule).notifications u).get? k = some n)
    (read : n.isRead = true) : ∃ i ∈ schedule, calls i = .app (.setAllNotificationAsRead u) := by
  rcases notification_cause before found read with
    ⟨i, listed, ⟨m, writes, n, was, now⟩ | ⟨n, isNew, -, now⟩⟩
  · cases m with
    | complete => exact absurd now was
    | read => exact ⟨i, listed, writes⟩
  · cases isNew.2.symm.trans now

/-- A notification that was not there was sent by a call whose news it has. -/
theorem tells_cause (before : (s.notifications u).get? k = none)
    (found : ((s.after calls schedule).notifications u).get? k = some n) :
    ∃ i ∈ schedule, (calls i).Tells u n.news := by
  have absent : ∀ old, (s.notifications u).get? k = some old → ¬ old.news = n.news := by
    intro old there
    cases before.symm.trans there
  rcases notification_cause absent found rfl with
    ⟨i, listed, ⟨m, -, old, was, now⟩ | ⟨sent, -, tells, same⟩⟩
  · cases m with
    | complete => exact absurd now was
    | read => exact absurd now was
  · exact ⟨i, listed, same ▸ tells⟩

/-- What happens to a notification, and to the one that an id will be given to, while any calls
run in any order. -/
structure NotificationLife (s : Store) (calls : ι → Call) (schedule : List ι) (u : UserId)
    (k : Nat) : Prop where
  /-- A notification stays what it is, and no flag is taken back. -/
  grows : ∀ n, (s.notifications u).get? k = some n →
    ∃ n', ((s.after calls schedule).notifications u).get? k = some n' ∧ n.Grows n'
  /-- A new one was sent by a call of the schedule, and is about what this call tells. -/
  came : (s.notifications u).get? k = none →
    ∀ n', ((s.after calls schedule).notifications u).get? k = some n' →
      ∃ i ∈ schedule, (calls i).Tells u n'.news
  /-- One that is answered was so before, or a call of the schedule has answered it. -/
  answered : ∀ n', ((s.after calls schedule).notifications u).get? k = some n' →
    n'.isComplete = true →
      ((s.notifications u).get? k).any (·.isComplete) = true ∨
        ∃ i ∈ schedule, (calls i).Answers u k
  /-- One that is read was so before, or a call has read all of this user. -/
  read : ∀ n', ((s.after calls schedule).notifications u).get? k = some n' →
    n'.isRead = true →
      ((s.notifications u).get? k).any (·.isRead) = true ∨
        ∃ i ∈ schedule, calls i = .app (.setAllNotificationAsRead u)

theorem any_or_none {α : Type} (o : Option α) (p : α → Bool) :
    o.any p = true ∨ ∀ a, o = some a → ¬ p a = true := by
  cases o with
  | none => exact .inr fun _ found => nomatch found
  | some a =>
      by_cases holds : p a = true
      · exact .inl holds
      · right
        intro b same
        cases same
        exact holds

/-- **What happens to a notification, whatever runs.** -/
theorem notification_life (s : Store) (calls : ι → Call) (schedule : List ι) (u : UserId)
    (k : Nat) : NotificationLife s calls schedule u k where
  grows := notesGrow_after u k
  came before _ := tells_cause before
  answered := fun _ found complete =>
    (any_or_none _ _).imp_right fun before => isComplete_cause before found complete
  read := fun _ found read =>
    (any_or_none _ _).imp_right fun before => isRead_cause before found read

end Life

/-! ## Marking all of them -/

/-- What is left of `setAllNotificationAsRead` with these notifications to mark. -/
def markLoop (u : UserId) (list : List (Nat × Notification)) : Firestore Unit :=
  tryCatch
    (Program.forEach list fun doc => updateNotification u doc.1 ({ · with isRead := true }))
    fun _ => pure ()

/-- The loop marks one notification, and goes on if it was there. -/
theorem markLoop_cons (u : UserId) (doc : Nat × Notification)
    (list : List (Nat × Notification)) :
    markLoop u (doc :: list) =
      .step (·.updateNotification u doc.1 Mark.read.write) fun s =>
        if ((s.notifications u).get? doc.1).isSome then markLoop u list else pure () := by
  refine congrArg (Program.step _) (funext fun s => ?_)
  dsimp only
  split
  · rfl
  · rfl

section Marking

variable {ι : Type} [DecidableEq ι] {pool : Pool ι Store Err Unit} {W : ι → Effect → Prop}
  {i : ι} {u : UserId} {schedule : List ι}

/-- The same for any pool of calls. -/
theorem notesGrow_play (makes : ∀ j, (pool.thread j).Makes (Effects (W j)))
    (schedule : List ι) : pool.store.NotesGrow (pool.play schedule).store := by
  apply Pool.play_effects Store.NotesGrow.refl Store.NotesGrow.trans makes
  exact fun _ _ _ _ _ _ => notesGrow_of_does

/-- With as many moves as there are notifications left, the loop comes to its end and all of
them are marked, since none can disappear. -/
theorem markLoop_play {list : List (Nat × Notification)}
    (makes : ∀ j, (pool.thread j).Makes (Effects (W j))) (left : pool.thread i = markLoop u list)
    (there : ∀ doc ∈ list, ∃ n, (pool.store.notifications u).get? doc.1 = some n)
    (enough : list.length ≤ schedule.count i) :
    (pool.play schedule).Finished i (.ok ()) ∧
      ∀ doc ∈ list, ∃ n, ((pool.play schedule).store.notifications u).get? doc.1 = some n ∧
        n.isRead = true := by
  induction schedule generalizing pool list with
  | nil =>
      cases list with
      | nil => exact ⟨left, fun _ listed => nomatch listed⟩
      | cons doc list => cases enough
  | cons j schedule ih =>
      have later : ∀ j', ((pool.move j).thread j').Makes (Effects (W j')) :=
        fun j' => Pool.makes_move (makes j') j
      have still : ∀ k n, (pool.store.notifications u).get? k = some n →
          ∃ n', ((pool.move j).store.notifications u).get? k = some n' := by
        intro k n found
        rcases notesGrow_play makes [j] u k n found with ⟨n', found', _⟩
        exact ⟨n', found'⟩
      rw [Pool.play_cons]
      by_cases own : j = i
      · subst own
        rw [List.count_cons_self] at enough
        cases list with
        | nil =>
            have ended : pool.Finished j (.ok ()) := left
            exact ⟨(ended.move j).play schedule, fun _ listed => nomatch listed⟩
        | cons doc list =>
            rcases there doc List.mem_cons_self with ⟨n, found⟩
            rw [markLoop_cons] at left
            have next : (pool.move j).thread j = markLoop u list := by
              rw [Pool.thread_move_self left, found]
              rfl
            have rest := ih later next (fun doc' listed => by
              rcases there doc' (List.mem_cons_of_mem _ listed) with ⟨n', found'⟩
              exact still _ _ found') (Nat.le_of_succ_le_succ enough)
            refine ⟨rest.1, fun doc' listed => ?_⟩
            rcases List.mem_cons.mp listed with rfl | listed
            · have marked : ((pool.move j).store.notifications u).get? doc'.1 =
                  some (Mark.read.write n) := by
                rw [Pool.store_move left, notifications_updateNotification, if_pos rfl,
                  AutoCollection.get?_update, if_pos rfl, found]
                rfl
              rcases notesGrow_play later schedule u _ _ marked with ⟨n', found', grows⟩
              exact ⟨n', found', grows.isRead rfl⟩
            · exact rest.2 doc' listed
      · rw [List.count_cons_of_ne own] at enough
        have same : (pool.move j).thread i = markLoop u list := by
          rw [Pool.thread_move_of_ne pool (Ne.symm own), left]
        exact ih later same (fun doc listed => by
          rcases there doc listed with ⟨n, found⟩
          exact still _ _ found) enough

end Marking

section MarkAll

variable {ι : Type} [DecidableEq ι] {s : Store} {calls : ι → Call} {first second : List ι}
  {i : ι} {u : UserId}

theorem makes_after (s : Store) (calls : ι → Call) (schedule : List ι) (j : ι) :
    (((s.serve calls).play schedule).thread j).Makes (Effects (calls j).may) :=
  Pool.makes_play (makes_serve s calls j) schedule

/-- The call reads the list with its first move, and then makes one move for each notification
of it. Whatever the others do in between, it comes to its end, and every notification that was
there when it began is read and says what it said. -/
theorem setAllNotificationAsRead_marks
    (call : calls i = .app (.setAllNotificationAsRead u)) (begins : i ∉ first)
    (enough : ((s.after calls first).notifications u).docs.length ≤ second.count i) :
    ((s.serve calls).play (first ++ i :: second)).Finished i (.ok ()) ∧
      ∀ k n, ((s.after calls first).notifications u).get? k = some n →
        ∃ n', ((s.after calls (first ++ i :: second)).notifications u).get? k = some n' ∧
          n'.isRead = true ∧ n'.content = n.content := by
  let pool := (s.serve calls).play first
  have unstarted : pool.thread i =
      .step id fun t => markLoop u (t.notifications u).docs := by
    refine (Pool.thread_play_of_not_mem (s.serve calls) begins).trans ?_
    change (calls i).program = _
    rw [call]
    rfl
  have query : (pool.move i).thread i = markLoop u (pool.store.notifications u).docs :=
    Pool.thread_move_self unstarted
  have store : (pool.move i).store = pool.store := Pool.store_move unstarted
  have makes : ∀ j, ((pool.move i).thread j).Makes (Effects (calls j).may) :=
    fun j => Pool.makes_move (makes_after s calls first j) i
  have there : ∀ doc ∈ (pool.store.notifications u).docs,
      ∃ n, ((pool.move i).store.notifications u).get? doc.1 = some n := by
    intro doc listed
    rw [store]
    exact ⟨doc.2, Collection.mem_docs.mp listed⟩
  rcases markLoop_play makes query there enough with ⟨ends, marked⟩
  have whole : (s.serve calls).play (first ++ i :: second) = (pool.move i).play second := by
    rw [Pool.play_append, Pool.play_cons]
  unfold Store.after
  rw [whole]
  refine ⟨ends, fun k n found => ?_⟩
  rcases marked (k, n) (Collection.mem_docs.mpr found) with ⟨n', found', read⟩
  have before : ((pool.move i).store.notifications u).get? k = some n := by
    rw [store]
    exact found
  rcases notesGrow_play makes second u k n before with ⟨n'', found'', grows⟩
  cases found'.symm.trans found''
  exact ⟨n', found', read, grows.content⟩

/-- A user with two notifications, one of which is answered while all are marked as read. -/
def bothUnread : Store :=
  ((Store.ofUsers ⟨[("a", {})], List.nodup_singleton _⟩).addNotification "a"
    (friendRequestNotification "b" none .epoch)).addNotification "a"
      (friendRequestNotification "c" none .epoch)

def answerAndRead (answers : Bool) : Call :=
  if answers then .app (.setNotificationAsComplete "a" 1)
  else .app (.setAllNotificationAsRead "a")

/-- The second one is answered between the mark of the first and its own. -/
theorem bothUnread_marked :
    ((bothUnread.serve answerAndRead).play [false, false, true, false]).Finished false
        (.ok ()) ∧
      ∀ doc ∈ (bothUnread.notifications "a").docs,
        ∃ n, ((bothUnread.after answerAndRead [false, false, true, false]).notifications "a").get?
          doc.1 = some n ∧ n.isRead = true ∧ n.content = doc.2.content := by
  have call : answerAndRead false = .app (.setAllNotificationAsRead "a") := rfl
  have enough : ((bothUnread.after answerAndRead []).notifications "a").docs.length ≤
      [false, true, false].count false := by decide
  rcases setAllNotificationAsRead_marks call List.not_mem_nil enough with ⟨ends, marked⟩
  exact ⟨ends, fun doc listed => marked doc.1 doc.2 (Collection.mem_docs.mp listed)⟩

end MarkAll

end TwoGather
