import TwoGather.Chat.Salons
import TwoGather.Lib.Pool
import TwoGather.Lib.Turns

/-!
# Which message a salon shows

A send is two requests: the message, and then the summary of the salon, which nothing waits
for. When several messages are sent to one salon, their requests interleave as they may. The
messages stand in the order of the first requests, and the summary is that of the last second
request (`play_sends`). So the list of the salons shows the newest message exactly if the send
that came last with its message also came last with its summary (`showsNewest_iff`).
-/

namespace TwoGather

open Docs Requests FirestoreQuery

/-- Any number of texts sent to one salon, each at its start. -/
def Store.sends {ι : Type} (s : Store) (id : SalonId) (sent : ι → ChatMessage) :
    Pool ι Store Err Unit where
  store := s
  thread i := FirestoreQuery.addMessage (sent i) id

section Preview

variable {ι : Type} [DecidableEq ι]

/-- The id that the message of a client gets, when the messages come in this order. -/
def Store.keyOf (s : Store) (id : SalonId) (order : List ι) (i : ι) : Nat :=
  (s.messages id).next + order.idxOf i

/-- The salon with the summary of the last of these. -/
def Salon.summed (salon : Salon) (s : Store) (id : SalonId) (sent : ι → ChatMessage)
    (added : List ι) (summed : List ι) : Salon :=
  match summed.getLast? with
  | none => salon
  | some i => salon.setLast (sent i) (.drawn (s.keyOf id added i))

/-- What is left of the send of a client after this many moves. -/
def leftOf (s : Store) (id : SalonId) (sent : ι → ChatMessage) (added : List ι) (i : ι) :
    Nat → Firestore Unit
  | 0 => addMessage (sent i) id
  | 1 => lastMessageToSalon (sent i) (.drawn (s.keyOf id added i)) id
  | _ + 2 => pure ()

/-- The store and the clients after a schedule. -/
structure Sent (s : Store) (id : SalonId) (sent : ι → ChatMessage) (schedule : List ι)
    (pool : Pool ι Store Err Unit) : Prop where
  docs : (pool.store.messages id).docs = (s.messages id).docs ++
    (turns 0 schedule).map fun i => (s.keyOf id (turns 0 schedule) i, sent i)
  next : (pool.store.messages id).next = (s.messages id).next + (turns 0 schedule).length
  salon : pool.store.salon id =
    (s.salon id).map (·.summed s id sent (turns 0 schedule) (turns 1 schedule))
  left : ∀ i, pool.thread i = leftOf s id sent (turns 0 schedule) i (schedule.count i)

variable {s : Store} {id : SalonId} {sent : ι → ChatMessage} {schedule : List ι}
  {pool : Pool ι Store Err Unit}

theorem keyOf_append (s : Store) (id : SalonId) {order : List ι} {i : ι} (member : i ∈ order)
    (more : List ι) : s.keyOf id (order ++ more) i = s.keyOf id order i := by
  unfold Store.keyOf
  rw [List.idxOf_append_of_mem member]

theorem keyOf_snoc (s : Store) (id : SalonId) {order : List ι} {i : ι} (absent : i ∉ order) :
    s.keyOf id (order ++ [i]) i = (s.messages id).next + order.length := by
  unfold Store.keyOf
  rw [List.idxOf_append_of_notMem absent, List.idxOf_cons_self, Nat.add_zero]

/-- A summary needs a message, so whoever has given one is among those who have added one. -/
theorem mem_turns_of_summed {i : ι} (summed : i ∈ turns 1 schedule) : i ∈ turns 0 schedule :=
  mem_turns.mpr (Nat.lt_trans Nat.zero_lt_one (mem_turns.mp summed))

/-- A later message does not change the ids of those before. -/
theorem summed_append (salon : Salon) (more : List ι) :
    salon.summed s id sent (turns 0 schedule ++ more) (turns 1 schedule) =
      salon.summed s id sent (turns 0 schedule) (turns 1 schedule) := by
  unfold Salon.summed
  cases last : (turns 1 schedule).getLast? with
  | none => rfl
  | some i =>
      have member := mem_turns_of_summed (List.mem_of_getLast? last)
      dsimp only
      rw [keyOf_append s id member]

theorem sent_start (s : Store) (id : SalonId) (sent : ι → ChatMessage) :
    Sent s id sent [] (s.sends id sent) where
  docs := (List.append_nil _).symm
  next := rfl
  salon := by
    change s.salon id = _
    cases s.salon id with
    | none => rfl
    | some salon => rfl
  left _ := rfl

/-- The first request of a client adds its message. -/
theorem Sent.added (state : Sent s id sent schedule pool) {i : ι} (first : schedule.count i = 0) :
    Sent s id sent (schedule ++ [i]) (pool.move i) := by
  have absent : i ∉ turns 0 schedule := by
    rw [mem_turns, first]
    exact Nat.lt_irrefl 0
  have added := turns_snoc_now first
  have summed : turns 1 (schedule ++ [i]) = turns 1 schedule := turns_snoc_not (by omega)
  have key : s.keyOf id (turns 0 schedule ++ [i]) i = (pool.store.messages id).next := by
    rw [keyOf_snoc s id absent, state.next]
  have request : pool.thread i = .step (·.addMessage id (sent i)) fun s =>
      lastMessageToSalon (sent i) (.drawn (s.messages id).next) id := by
    rw [state.left i, first]
    rfl
  have messages : (pool.move i).store.messages id = (pool.store.messages id).add (sent i) := by
    rw [Pool.store_move request]
    exact Function.update_self ..
  constructor
  · rw [messages, AutoCollection.docs_add, state.docs, added, List.map_append, List.map_singleton,
      key, List.append_assoc]
    congr 2
    apply List.map_congr_left
    intro j member
    rw [keyOf_append s id member]
  · rw [messages, AutoCollection.next_add, state.next, added, List.length_append,
      List.length_singleton, Nat.add_assoc]
  · have same : (pool.move i).store.salon id = pool.store.salon id := by
      rw [Pool.store_move request]
      rfl
    rw [same, state.salon, added, summed]
    exact congrArg (Option.map · (s.salon id)) (funext fun salon => (summed_append salon [i]).symm)
  · intro j
    by_cases same : j = i
    · subst same
      rw [Pool.thread_move_self request, count_snoc_self, first, added, ← key]
      rfl
    · rw [Pool.thread_move_of_ne pool same, state.left j, count_snoc_of_ne schedule same, added]
      cases moves : schedule.count j with
      | zero => rfl
      | succ n =>
          have member : j ∈ turns 0 schedule := by
            rw [mem_turns, moves]
            exact Nat.succ_pos n
          unfold leftOf
          rw [keyOf_append s id member]

/-- The second one gives the salon its summary. -/
theorem Sent.summed (state : Sent s id sent schedule pool) {i : ι} (second : schedule.count i = 1) :
    Sent s id sent (schedule ++ [i]) (pool.move i) := by
  have added : turns 0 (schedule ++ [i]) = turns 0 schedule := turns_snoc_not (by omega)
  have summed := turns_snoc_now second
  have request : ∃ next, pool.thread i =
      .step (·.updateSalon id
        (·.setLast (sent i) (.drawn (s.keyOf id (turns 0 schedule) i)))) next ∧
      ∀ t, next t = pure () := by
    refine ⟨_, (state.left i).trans (by rw [second]; rfl), fun t => ?_⟩
    dsimp only
    split
    · rfl
    · rfl
  rcases request with ⟨next, request, ends⟩
  have messages : (pool.move i).store.messages = pool.store.messages := by
    rw [Pool.store_move request]
    rfl
  constructor
  · rw [messages, state.docs, added]
  · rw [messages, state.next, added]
  · rw [Pool.store_move request, Store.salon_updateSalon, if_pos rfl, state.salon, added, summed,
      Option.map_map]
    refine congrArg (Option.map · (s.salon id)) (funext fun salon => ?_)
    unfold Salon.summed
    rw [List.getLast?_concat]
    dsimp only [Function.comp_apply]
    split
    · rfl
    · rfl
  · intro j
    by_cases same : j = i
    · subst same
      rw [Pool.thread_move_self request, ends, count_snoc_self, second]
      rfl
    · rw [Pool.thread_move_of_ne pool same, state.left j, count_snoc_of_ne schedule same, added]

theorem Sent.move (state : Sent s id sent schedule pool) (i : ι) :
    Sent s id sent (schedule ++ [i]) (pool.move i) := by
  match moves : schedule.count i with
  | 0 => exact state.added moves
  | 1 => exact state.summed moves
  | n + 2 =>
      have ended : pool.Finished i (.ok ()) := by
        have left := state.left i
        rw [moves] at left
        exact left
      rw [Pool.move_done ended]
      have added : turns 0 (schedule ++ [i]) = turns 0 schedule := turns_snoc_not (by omega)
      have summed : turns 1 (schedule ++ [i]) = turns 1 schedule := turns_snoc_not (by omega)
      refine ⟨added ▸ state.docs, added ▸ state.next, ?_, fun j => ?_⟩
      · rw [added, summed]
        exact state.salon
      · rw [added, state.left j]
        by_cases same : j = i
        · subst same
          rw [count_snoc_self, moves]
          rfl
        · rw [count_snoc_of_ne schedule same]

/-- Whatever the schedule, the messages and the summary are told by its first and second
moves. -/
theorem play_sends (s : Store) (id : SalonId) (sent : ι → ChatMessage) (schedule : List ι) :
    Sent s id sent schedule ((s.sends id sent).play schedule) := by
  induction schedule using List.reverseRecOn with
  | nil => exact sent_start s id sent
  | append_singleton schedule i ih =>
      rw [Pool.play_append]
      exact ih.move i

/-- The summary of the salon is that of its newest message, or there is neither. -/
def Store.ShowsNewest (s : Store) (id : SalonId) : Prop :=
  ∃ salon, s.salon id = some salon ∧
    salon.lastMessageId.get? = (s.messages id).docs.getLast?.map (.drawn ·.1) ∧
    salon.lastMessageContent.get? = (s.messages id).docs.getLast?.map (·.2)

/-- The id of the newest message is below those that are drawn later. -/
theorem lt_keyOf {last : Nat × ChatMessage} (newest : (s.messages id).docs.getLast? = some last)
    (order : List ι) (i : ι) : last.1 < s.keyOf id order i :=
  Nat.lt_of_lt_of_le ((s.messages id).below last (List.mem_of_getLast? newest))
    (Nat.le_add_right _ _)

theorem keyOf_inj {order : List ι} {i j : ι} (member : i ∈ order) :
    s.keyOf id order i = s.keyOf id order j ↔ i = j := by
  unfold Store.keyOf
  rw [Nat.add_left_cancel_iff]
  exact List.idxOf_inj member

theorem Sent.getLast?_docs (state : Sent s id sent schedule pool) :
    (pool.store.messages id).docs.getLast? =
      ((turns 0 schedule).getLast?.map fun i => (s.keyOf id (turns 0 schedule) i, sent i)).or
        (s.messages id).docs.getLast? := by
  rw [state.docs, List.getLast?_append, List.getLast?_map]

/-- If a salon shows its newest message, then after any schedule it does so exactly if the
last to add a message was also the last to give the summary. -/
theorem showsNewest_iff (fresh : s.ShowsNewest id) (sent : ι → ChatMessage)
    (schedule : List ι) :
    ((s.sends id sent).play schedule).store.ShowsNewest id ↔
      (turns 1 schedule).getLast? = (turns 0 schedule).getLast? := by
  have state := play_sends s id sent schedule
  rcases fresh with ⟨salon, there, lastId, content⟩
  have found := state.salon
  rw [there, Option.map_some] at found
  have newest := state.getLast?_docs
  unfold Store.ShowsNewest
  rw [found, newest]
  cases summary : (turns 1 schedule).getLast? with
  | none =>
      have same : salon.summed s id sent (turns 0 schedule) (turns 1 schedule) = salon := by
        unfold Salon.summed
        rw [summary]
      cases added : (turns 0 schedule).getLast? with
      | none =>
          refine iff_of_true ⟨salon, ?_, lastId, content⟩ rfl
          rw [same]
      | some j =>
          refine iff_of_false ?_ nofun
          rintro ⟨_, ⟨⟩, id', -⟩
          rw [same, lastId] at id'
          cases before : (s.messages id).docs.getLast? with
          | none =>
              rw [before] at id'
              cases id'
          | some last =>
              rw [before] at id'
              have key := MessageId.drawn.inj (Option.some.inj id')
              exact absurd key (Nat.ne_of_lt (lt_keyOf before _ j))
  | some i =>
      have member := mem_turns_of_summed (List.mem_of_getLast? summary)
      cases added : (turns 0 schedule).getLast? with
      | none =>
          rw [List.getLast?_eq_none_iff.mp added] at member
          cases member
      | some j =>
          have last : salon.summed s id sent (turns 0 schedule) (turns 1 schedule) =
              salon.setLast (sent i) (.drawn (s.keyOf id (turns 0 schedule) i)) := by
            unfold Salon.summed
            rw [summary]
          rw [last, Option.some_inj]
          refine ⟨?_, ?_⟩
          · rintro ⟨_, ⟨⟩, id', -⟩
            have key := MessageId.drawn.inj (Option.some.inj id')
            exact (keyOf_inj member).mp key
          · rintro rfl
            exact ⟨_, rfl, rfl, rfl⟩

/-- Two greetings. -/
def greeting (second : Bool) : ChatMessage where
  sender := if second then "b" else "a"
  type := .textMessage
  createdAt := .epoch

def chatOfTwo : Store :=
  { Store.ofUsers ⟨[], List.nodup_nil⟩ with
    salons := ⟨[("ab", .ofTwo "a" "b")], List.nodup_singleton _⟩ }

/-- The first message gets the second summary, so the salon shows a message that is not the
newest. -/
theorem crossing_greetings :
    ¬ ((chatOfTwo.sends "ab" greeting).play [false, true, true, false]).store.ShowsNewest "ab" ∧
      ((chatOfTwo.sends "ab" greeting).play [false, true, false, true]).store.ShowsNewest
        "ab" := by
  have fresh : chatOfTwo.ShowsNewest "ab" := ⟨_, rfl, rfl, rfl⟩
  refine ⟨fun late => ?_, (showsNewest_iff fresh greeting _).mpr rfl⟩
  have same := (showsNewest_iff fresh greeting _).mp late
  cases same

end Preview

end TwoGather
