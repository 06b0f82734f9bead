import TwoGather.Backend.Documents

/-!
# The life of a chat

A message stays until somebody deletes it among the messages that are selected, and until then
it says what it said; only the state of a lock demand goes up, by an acceptance in its salon,
and it is hidden from those who have hidden it. A message comes from the send of this very
message, or is the lock demand of a request (`message_life`).

A salon stays until it is deleted, but it may be stored anew by a call that has found none,
which then takes back its members, its lock and its summary. Beside that, its members come and
go by themselves or by others, its lock goes through a request, an agreement and an end, and its
summary shows a message that was sent to it (`salon_life`).
-/

namespace TwoGather

open Docs Requests

/-! ## Effects on chats -/

section Does

variable {e : Effect} {s t : Store}

/-- The salons are the same, or the effect is one on a salon. -/
theorem Effect.salons_of_does (does : e.Does s t) :
    t.salons = s.salons ∨
      (∃ id data, e = .elsewhere (.storeSalon id data) ∧ t = s.setSalon id data) ∨
      (∃ id w, e = .elsewhere (.salon id w) ∧ t = s.updateSalon id w.write) ∨
      ∃ id, e = .elsewhere (.deleteSalon id) ∧ t = s.deleteSalon id := by
  cases e with
  | nothing =>
      rcases does with ⟨clock, -, rfl⟩
      exact .inl rfl
  | elsewhere x =>
      cases x with
      | storeSalon id data => exact .inr (.inl ⟨id, data, rfl, does⟩)
      | salon id w => exact .inr (.inr (.inl ⟨id, w, rfl, does⟩))
      | deleteSalon id => exact .inr (.inr (.inr ⟨id, rfl, does⟩))
      | _ =>
          cases does
          exact .inl rfl
  | _ =>
      cases does
      exact .inl rfl

/-- The messages with a drawn id are the same, or the effect is one on such a message. -/
theorem Effect.messages_of_does (does : e.Does s t) :
    t.messages = s.messages ∨
      (∃ id m, e = .elsewhere (.message id m) ∧ t = s.addMessage id m) ∨
      (∃ id k w, e = .elsewhere (.onMessage id (.drawn k) w) ∧
        t = s.onMessage id (.drawn k) w.write) ∨
      ∃ id k, e = .elsewhere (.deleteMessage id (.drawn k)) ∧
        t = s.deleteMessage id (.drawn k) := by
  cases e with
  | nothing =>
      rcases does with ⟨clock, -, rfl⟩
      exact .inl rfl
  | elsewhere x =>
      cases x with
      | message id m => exact .inr (.inl ⟨id, m, rfl, does⟩)
      | onMessage id k w =>
          cases k with
          | drawn k => exact .inr (.inr (.inl ⟨id, k, w, rfl, does⟩))
          | given _ =>
              cases does
              exact .inl rfl
      | deleteMessage id k =>
          cases k with
          | drawn k => exact .inr (.inr (.inr ⟨id, k, rfl, does⟩))
          | given _ =>
              cases does
              exact .inl rfl
      | _ =>
          cases does
          exact .inl rfl
  | _ =>
      cases does
      exact .inl rfl

/-- The messages with a given id are the same, or the effect is one on such a message. -/
theorem Effect.media_of_does (does : e.Does s t) :
    t.media = s.media ∨
      (∃ id k m, e = .elsewhere (.media id k m) ∧ t = s.setMedia id k m) ∨
      (∃ id k w, e = .elsewhere (.onMessage id (.given k) w) ∧
        t = s.onMessage id (.given k) w.write) ∨
      ∃ id k, e = .elsewhere (.deleteMessage id (.given k)) ∧
        t = s.deleteMessage id (.given k) := by
  cases e with
  | nothing =>
      rcases does with ⟨clock, -, rfl⟩
      exact .inl rfl
  | elsewhere x =>
      cases x with
      | media id k m => exact .inr (.inl ⟨id, k, m, rfl, does⟩)
      | onMessage id k w =>
          cases k with
          | drawn _ =>
              cases does
              exact .inl rfl
          | given k => exact .inr (.inr (.inl ⟨id, k, w, rfl, does⟩))
      | deleteMessage id k =>
          cases k with
          | drawn _ =>
              cases does
              exact .inl rfl
          | given k => exact .inr (.inr (.inr ⟨id, k, rfl, does⟩))
      | _ =>
          cases does
          exact .inl rfl
  | _ =>
      cases does
      exact .inl rfl

/-- One more message, in one salon. -/
theorem Store.messages_addMessage (s : Store) (id other : SalonId) (m : ChatMessage) :
    (s.addMessage id m).messages other =
      if other = id then (s.messages other).add m else s.messages other := by
  unfold Store.addMessage
  by_cases same : other = id
  · subst same
    simp
  · simp [same]

/-- One message of one salon changed. -/
theorem Store.messages_onMessage (s : Store) (id other : SalonId) (k : Nat)
    (g : ChatMessage → ChatMessage) :
    (s.onMessage id (.drawn k) g).messages other =
      if other = id then (s.messages other).update k g else s.messages other := by
  unfold Store.onMessage
  by_cases same : other = id
  · subst same
    simp
  · simp [same]

/-- One message of one salon deleted. -/
theorem Store.messages_deleteMessage (s : Store) (id other : SalonId) (k : Nat) :
    (s.deleteMessage id (.drawn k)).messages other =
      if other = id then (s.messages other).delete k else s.messages other := by
  unfold Store.deleteMessage
  by_cases same : other = id
  · subst same
    simp
  · simp [same]

/-- A file stored in one salon. -/
theorem Store.media_setMedia (s : Store) (id other : SalonId) (k : String) (m : ChatMessage) :
    (s.setMedia id k m).media other =
      if other = id then (s.media other).set k m else s.media other := by
  unfold Store.setMedia
  by_cases same : other = id
  · subst same
    simp
  · simp [same]

/-- One file of one salon changed. -/
theorem Store.media_onMessage (s : Store) (id other : SalonId) (k : String)
    (g : ChatMessage → ChatMessage) :
    (s.onMessage id (.given k) g).media other =
      if other = id then (s.media other).update k g else s.media other := by
  unfold Store.onMessage
  by_cases same : other = id
  · subst same
    simp
  · simp [same]

/-- One file of one salon deleted. -/
theorem Store.media_deleteMessage (s : Store) (id other : SalonId) (k : String) :
    (s.deleteMessage id (.given k)).media other =
      if other = id then (s.media other).delete k else s.media other := by
  unfold Store.deleteMessage
  by_cases same : other = id
  · subst same
    simp
  · simp [same]

end Does

/-! ## What a message is after a while -/

/-- What a message says, without the state of its button and those it is hidden from. -/
def ChatMessage.content (m : ChatMessage) : ChatMessage :=
  { m with state := .notYet, userDeleteMessage := .undefined }

/-- `m'` is what has become of `m`. -/
structure ChatMessage.Grows (m m' : ChatMessage) : Prop where
  content : m'.content = m.content
  state : m'.state = m.state ∨ m'.state = .accepted
  hidden : ∀ u ∈ m.userDeleteMessage.elems, u ∈ m'.userDeleteMessage.elems

theorem ChatMessage.Grows.refl (m : ChatMessage) : m.Grows m :=
  ⟨rfl, .inl rfl, fun _ => id⟩

theorem ChatMessage.Grows.trans {m m' m'' : ChatMessage} (first : m.Grows m')
    (second : m'.Grows m'') : m.Grows m'' where
  content := second.content.trans first.content
  state := by
    rcases second.state with same | accepted
    · rw [same]
      exact first.state
    · exact .inr accepted
  hidden u member := second.hidden u (first.hidden u member)

/-- Each update of a message leaves what it says. -/
theorem MessageWrite.grows (w : MessageWrite) (m : ChatMessage) : m.Grows (w.write m) := by
  cases w with
  | accept => exact ⟨rfl, .inr rfl, fun _ => id⟩
  | hideFrom u =>
      refine ⟨rfl, .inl rfl, fun v member => ?_⟩
      change v ∈ (m.userDeleteMessage.union u).elems
      rw [Stored.elems_union, mem_arrayUnion]
      exact .inl member

/-- The message is still there, with what it said; one with a given id may have been sent
again. -/
def Store.Keeps (s t : Store) (id : SalonId) : MessageId → Prop
  | .drawn k => ∀ m, (s.messages id).get? k = some m →
      ∃ m', (t.messages id).get? k = some m' ∧ m.Grows m'
  | .given k => ((s.media id).get? k).isSome = true → ((t.media id).get? k).isSome = true

section Grow

variable {e : Effect} {r s t : Store} {id : SalonId} {k : MessageId}

theorem Store.Keeps.refl (s : Store) : s.Keeps s id k := by
  cases k with
  | drawn _ => exact fun m found => ⟨m, found, .refl m⟩
  | given _ => exact fun found => found

theorem Store.Keeps.trans (first : s.Keeps t id k) (second : t.Keeps r id k) :
    s.Keeps r id k := by
  cases k with
  | drawn _ =>
      intro m found
      rcases first m found with ⟨m', found', grows⟩
      rcases second m' found' with ⟨m'', found'', grows'⟩
      exact ⟨m'', found'', grows.trans grows'⟩
  | given _ => exact second ∘ first

/-- An effect keeps a message, or is its deletion. -/
theorem drawn_of_does (does : e.Does s t) (id : SalonId) (k : Nat) :
    s.Keeps t id (.drawn k) ∨ e = .elsewhere (.deleteMessage id (.drawn k)) := by
  rcases e.messages_of_does does with
    same | ⟨id', new, -, rfl⟩ | ⟨id', j, w, -, rfl⟩ | ⟨id', j, rfl, rfl⟩
  · refine .inl fun m found => ?_
    rw [same]
    exact ⟨m, found, .refl m⟩
  · refine .inl fun m found => ⟨m, ?_, .refl m⟩
    rw [Store.messages_addMessage]
    split
    · rw [AutoCollection.get?_add, if_neg (Nat.ne_of_lt (AutoCollection.lt_next found))]
      exact found
    · exact found
  · refine .inl fun m found => ?_
    rw [Store.messages_onMessage]
    split
    · rw [AutoCollection.get?_update, found]
      split
      · exact ⟨_, rfl, w.grows m⟩
      · exact ⟨m, rfl, .refl m⟩
    · exact ⟨m, found, .refl m⟩
  · by_cases here : id = id' ∧ k = j
    · rcases here with ⟨rfl, rfl⟩
      exact .inr rfl
    · refine .inl fun m found => ⟨m, ?_, .refl m⟩
      rw [Store.messages_deleteMessage]
      split
      case isTrue same =>
        rw [AutoCollection.get?_delete, if_neg fun deleted => here ⟨same, deleted⟩]
        exact found
      case isFalse => exact found

/-- The same for files. -/
theorem given_of_does (does : e.Does s t) (id : SalonId) (k : String) :
    s.Keeps t id (.given k) ∨ e = .elsewhere (.deleteMessage id (.given k)) := by
  rcases e.media_of_does does with
    same | ⟨id', j, m, -, rfl⟩ | ⟨id', j, w, -, rfl⟩ | ⟨id', j, rfl, rfl⟩
  · refine .inl fun found => ?_
    rw [same]
    exact found
  · refine .inl fun found => ?_
    rw [Store.media_setMedia]
    split
    · rw [Collection.get?_set]
      split
      · rfl
      · exact found
    · exact found
  · refine .inl fun found => ?_
    rw [Store.media_onMessage]
    split
    · rw [Collection.get?_update]
      split
      · rw [Option.isSome_map]
        exact found
      · exact found
    · exact found
  · by_cases here : id = id' ∧ k = j
    · rcases here with ⟨rfl, rfl⟩
      exact .inr rfl
    · refine .inl fun found => ?_
      rw [Store.media_deleteMessage]
      split
      case isTrue same =>
        rw [Collection.get?_delete, if_neg fun deleted => here ⟨same, deleted⟩]
        exact found
      case isFalse => exact found

/-- A message is there as long as nobody deletes it. -/
theorem keeps_of_does (does : e.Does s t) (id : SalonId) (k : MessageId) :
    s.Keeps t id k ∨ e = .elsewhere (.deleteMessage id k) := by
  cases k with
  | drawn k => exact drawn_of_does does id k
  | given k => exact given_of_does does id k

/-- Where nothing changes, messages and files stay. -/
theorem keeps_of_idle (idle : s.Idle t) : s.Keeps t id k := by
  rcases keeps_of_does (e := .nothing) idle id k with keeps | deletes
  · exact keeps
  · cases deletes

theorem Store.salon_of_salons (same : t.salons = s.salons) (id : SalonId) :
    t.salon id = s.salon id := by
  unfold Store.salon
  rw [same]

/-- A salon is there as long as nobody deletes it. -/
theorem salon_isSome_of_does (does : e.Does s t) (id : SalonId)
    (found : (s.salon id).isSome = true) :
    (t.salon id).isSome = true ∨ e = .elsewhere (.deleteSalon id) := by
  rcases e.salons_of_does does with
    same | ⟨id', data, -, rfl⟩ | ⟨id', w, -, rfl⟩ | ⟨id', rfl, rfl⟩
  · rw [Store.salon_of_salons same]
    exact .inl found
  · rw [Store.salon_setSalon]
    split
    · exact .inl rfl
    · exact .inl found
  · rw [Store.salon_updateSalon]
    split
    · rw [Option.isSome_map]
      exact .inl found
    · exact .inl found
  · by_cases here : id = id'
    · subst here
      exact .inr rfl
    · rw [Store.salon_deleteSalon, if_neg here]
      exact .inl found

end Grow

/-! ## Causes -/

section Causes

variable {ι : Type} [DecidableEq ι] {s : Store} {calls : ι → Call} {schedule : List ι}
  {id : SalonId}

/-- A message stays, or somebody deletes it. -/
theorem keeps_after (k : MessageId) :
    s.Keeps (s.after calls schedule) id k ∨ ∃ i ∈ schedule, (calls i).Deletes id k := by
  rw [or_iff_not_imp_right]
  intro stays
  refine serve_effects (R := fun s t => s.Keeps t id k) Store.Keeps.refl Store.Keeps.trans
    (fun _ _ => keeps_of_idle) fun i listed e s t may does => ?_
  rcases keeps_of_does does id k with keeps | rfl
  · exact keeps
  · exact absurd ⟨i, listed, by_of_may may⟩ stays

/-- A salon stays, or somebody deletes it. -/
theorem salon_after (found : (s.salon id).isSome = true) :
    ((s.after calls schedule).salon id).isSome = true ∨
      ∃ i ∈ schedule, calls i = .app (.deleteSalon id) := by
  rw [or_iff_not_imp_right]
  intro stays
  refine serve_effects (R := fun s t => (s.salon id).isSome = true → (t.salon id).isSome = true)
    (fun _ found => found) (fun first second => second ∘ first) ?_ ?_ found
  · rintro s t ⟨clock, -, rfl⟩ found
    exact found
  · intro i listed e s t may does found
    rcases salon_isSome_of_does does id found with there | rfl
    · exact there
    · exact absurd ⟨i, listed, by_of_may may⟩ stays

/-- A message with a drawn id that has become what it was not: it was sent so, or written so. -/
theorem message_cause {Q : ChatMessage → Prop} {k : Nat} {m : ChatMessage}
    (before : ∀ m, (s.messages id).get? k = some m → ¬ Q m)
    (found : ((s.after calls schedule).messages id).get? k = some m) (holds : Q m) :
    ∃ i ∈ schedule, (∃ m, Q m ∧ (Elsewhere.message id m).By (calls i)) ∨
      ∃ w : MessageWrite, w.By id (.drawn k) (calls i) ∧ ∃ m, ¬ Q m ∧ Q (w.write m) := by
  have idle : ∀ s t : Store, s.Idle t → (t.messages id).get? k = (s.messages id).get? k := by
    rintro s t ⟨clock, -, rfl⟩
    rfl
  rcases doc_cause (fun s => (s.messages id).get? k) idle before found holds with
    ⟨i, listed, e, s', t', may, does, earlier, m', now, holds'⟩
  refine ⟨i, listed, ?_⟩
  rcases e.messages_of_does does with
    same | ⟨id', new, rfl, rfl⟩ | ⟨id', j, w, rfl, rfl⟩ | ⟨id', j, rfl, rfl⟩
  · rw [same] at now
    exact absurd holds' (earlier m' now)
  · rw [Store.messages_addMessage] at now
    split at now
    case isTrue here =>
      subst here
      rw [AutoCollection.get?_add] at now
      split at now
      case isTrue =>
        cases now
        exact .inl ⟨m', holds', by_of_may may⟩
      case isFalse => exact absurd holds' (earlier m' now)
    case isFalse => exact absurd holds' (earlier m' now)
  · rw [Store.messages_onMessage] at now
    split at now
    case isTrue here =>
      subst here
      rw [AutoCollection.get?_update] at now
      split at now
      case isTrue same =>
        subst same
        rcases Option.map_eq_some_iff.mp now with ⟨old, there, rfl⟩
        exact .inr ⟨w, by_of_may may, old, earlier old there, holds'⟩
      case isFalse => exact absurd holds' (earlier m' now)
    case isFalse => exact absurd holds' (earlier m' now)
  · rw [Store.messages_deleteMessage] at now
    split at now
    case isTrue =>
      rw [AutoCollection.get?_delete] at now
      split at now
      case isTrue => cases now
      case isFalse => exact absurd holds' (earlier m' now)
    case isFalse => exact absurd holds' (earlier m' now)

/-- The same for a message with a given id. -/
theorem file_cause {Q : ChatMessage → Prop} {k : String} {m : ChatMessage}
    (before : ∀ m, (s.media id).get? k = some m → ¬ Q m)
    (found : ((s.after calls schedule).media id).get? k = some m) (holds : Q m) :
    ∃ i ∈ schedule, (∃ m, Q m ∧ calls i = .app (.send id (.file k m))) ∨
      ∃ w : MessageWrite, w.By id (.given k) (calls i) ∧ ∃ m, ¬ Q m ∧ Q (w.write m) := by
  have idle : ∀ s t : Store, s.Idle t → (t.media id).get? k = (s.media id).get? k := by
    rintro s t ⟨clock, -, rfl⟩
    rfl
  rcases doc_cause (fun s => (s.media id).get? k) idle before found holds with
    ⟨i, listed, e, s', t', may, does, earlier, m', now, holds'⟩
  refine ⟨i, listed, ?_⟩
  rcases e.media_of_does does with
    same | ⟨id', j, new, rfl, rfl⟩ | ⟨id', j, w, rfl, rfl⟩ | ⟨id', j, rfl, rfl⟩
  · rw [same] at now
    exact absurd holds' (earlier m' now)
  · rw [Store.media_setMedia] at now
    split at now
    case isTrue here =>
      subst here
      rw [Collection.get?_set] at now
      split at now
      case isTrue same =>
        subst same
        cases now
        exact .inl ⟨m', holds', by_of_may may⟩
      case isFalse => exact absurd holds' (earlier m' now)
    case isFalse => exact absurd holds' (earlier m' now)
  · rw [Store.media_onMessage] at now
    split at now
    case isTrue here =>
      subst here
      rw [Collection.get?_update] at now
      split at now
      case isTrue same =>
        subst same
        rcases Option.map_eq_some_iff.mp now with ⟨old, there, rfl⟩
        exact .inr ⟨w, by_of_may may, old, earlier old there, holds'⟩
      case isFalse => exact absurd holds' (earlier m' now)
    case isFalse => exact absurd holds' (earlier m' now)
  · rw [Store.media_deleteMessage] at now
    split at now
    case isTrue =>
      rw [Collection.get?_delete] at now
      split at now
      case isTrue => cases now
      case isFalse => exact absurd holds' (earlier m' now)
    case isFalse => exact absurd holds' (earlier m' now)

/-- A salon that has become what it was not: by a write of a call, or stored anew. -/
theorem salon_cause {Q : Salon → Prop} {data : Salon}
    (before : ∀ data, s.salon id = some data → ¬ Q data)
    (found : (s.after calls schedule).salon id = some data) (holds : Q data) :
    ∃ i ∈ schedule, (∃ w : SalonWrite, w.By id (calls i) ∧ ∃ data, ¬ Q data ∧ Q (w.write data)) ∨
      ∃ new, (calls i).StoresSalon id new ∧ Q new := by
  have idle : ∀ s t : Store, s.Idle t → t.salon id = s.salon id := by
    rintro s t ⟨clock, -, rfl⟩
    rfl
  rcases doc_cause (·.salon id) idle before found holds with
    ⟨i, listed, e, s', t', may, does, earlier, data', now, holds'⟩
  refine ⟨i, listed, ?_⟩
  rcases e.salons_of_does does with
    same | ⟨id', new, rfl, rfl⟩ | ⟨id', w, rfl, rfl⟩ | ⟨id', rfl, rfl⟩
  · rw [Store.salon_of_salons same] at now
    exact absurd holds' (earlier data' now)
  · rw [Store.salon_setSalon] at now
    split at now
    case isTrue here =>
      subst here
      cases now
      exact .inr ⟨data', by_of_may may, holds'⟩
    case isFalse => exact absurd holds' (earlier data' now)
  · rw [Store.salon_updateSalon] at now
    split at now
    case isTrue here =>
      subst here
      rcases Option.map_eq_some_iff.mp now with ⟨old, there, rfl⟩
      exact .inl ⟨w, by_of_may may, old, earlier old there, holds'⟩
    case isFalse => exact absurd holds' (earlier data' now)
  · rw [Store.salon_deleteSalon] at now
    split at now
    case isTrue => cases now
    case isFalse => exact absurd holds' (earlier data' now)

end Causes

/-! ## Messages -/

section Messages

variable {ι : Type} [DecidableEq ι] {s : Store} {calls : ι → Call} {schedule : List ι}
  {id : SalonId}

/-- The call leaves a message that says this. -/
def Call.Says (id : SalonId) (m : ChatMessage) (c : Call) : Prop :=
  c = .app (.send id (.text m)) ∨ ∃ u createdAt, m = lockDemand u createdAt ∧ c.Demands u id

/-- What happens to the messages of a salon, while any calls run in any order. -/
structure MessageLife (s : Store) (calls : ι → Call) (schedule : List ι) (id : SalonId) :
    Prop where
  /-- A message or a file stays, and a message says what it said, unless it is deleted. -/
  stays : ∀ k, s.Keeps (s.after calls schedule) id k ∨ ∃ i ∈ schedule, (calls i).Deletes id k
  /-- A new message is what has become of one that a call of the schedule has sent. -/
  sent : ∀ k, (s.messages id).get? k = none →
    ∀ m', ((s.after calls schedule).messages id).get? k = some m' →
      ∃ i ∈ schedule, ∃ m : ChatMessage, m.Grows m' ∧ (calls i).Says id m
  /-- A message that shows an acceptance did so before, or was sent so, or was accepted. -/
  accepted : ∀ k, (∀ m, (s.messages id).get? k = some m → m.state ≠ .accepted) →
    ∀ m', ((s.after calls schedule).messages id).get? k = some m' → m'.state = .accepted →
      ∃ i ∈ schedule, (calls i).Agrees id ∨
        ∃ m : ChatMessage, m.state = .accepted ∧ calls i = .app (.send id (.text m))
  /-- A message that a user does not see any more was hidden from it by itself, or was sent
  so. -/
  hidden : ∀ k u, (∀ m, (s.messages id).get? k = some m → u ∉ m.userDeleteMessage.elems) →
    ∀ m', ((s.after calls schedule).messages id).get? k = some m' →
      u ∈ m'.userDeleteMessage.elems →
        ∃ i ∈ schedule, (calls i).Hides id (.drawn k) u ∨
          ∃ m : ChatMessage, u ∈ m.userDeleteMessage.elems ∧ calls i = .app (.send id (.text m))
  /-- A file is what has become of one that was there, or that a call of the schedule has
  sent. -/
  fileSent : ∀ k m', ((s.after calls schedule).media id).get? k = some m' →
    (∃ m, (s.media id).get? k = some m ∧ m.Grows m') ∨
      ∃ i ∈ schedule, ∃ m : ChatMessage, m.Grows m' ∧ calls i = .app (.send id (.file k m))

/-- A new message was sent by one of the calls. -/
theorem sent_cause {k : Nat} {m' : ChatMessage} (before : (s.messages id).get? k = none)
    (found : ((s.after calls schedule).messages id).get? k = some m') :
    ∃ i ∈ schedule, ∃ m : ChatMessage, m.Grows m' ∧ (calls i).Says id m := by
  have absent : ∀ m, (s.messages id).get? k = some m → ¬ m.Grows m' := by
    intro m there
    cases before.symm.trans there
  rcases message_cause absent found (.refl m') with
    ⟨i, listed, ⟨m, grows, writes⟩ | ⟨w, -, m, was, now⟩⟩
  · exact ⟨i, listed, m, grows, writes⟩
  · exact absurd ((w.grows m).trans now) was

/-- A message that shows an acceptance now was accepted, or sent so. -/
theorem accepted_cause {k : Nat} {m' : ChatMessage}
    (before : ∀ m, (s.messages id).get? k = some m → m.state ≠ .accepted)
    (found : ((s.after calls schedule).messages id).get? k = some m')
    (accepted : m'.state = .accepted) :
    ∃ i ∈ schedule, (calls i).Agrees id ∨
      ∃ m : ChatMessage, m.state = .accepted ∧ calls i = .app (.send id (.text m)) := by
  rcases message_cause before found accepted with
    ⟨i, listed, ⟨m, state, writes⟩ | ⟨w, writes, m, was, now⟩⟩
  · refine ⟨i, listed, .inr ⟨m, state, ?_⟩⟩
    rcases writes with call | ⟨u, createdAt, rfl, -⟩
    · exact call
    · cases state
  · cases w with
    | accept => exact ⟨i, listed, .inl writes⟩
    | hideFrom u => exact absurd now was

/-- A message that is hidden from a user now was hidden by it, or sent so. -/
theorem hidden_cause {k : Nat} {u : UserId} {m' : ChatMessage}
    (before : ∀ m, (s.messages id).get? k = some m → u ∉ m.userDeleteMessage.elems)
    (found : ((s.after calls schedule).messages id).get? k = some m')
    (hidden : u ∈ m'.userDeleteMessage.elems) :
    ∃ i ∈ schedule, (calls i).Hides id (.drawn k) u ∨
      ∃ m : ChatMessage, u ∈ m.userDeleteMessage.elems ∧ calls i = .app (.send id (.text m)) := by
  rcases message_cause before found hidden with
    ⟨i, listed, ⟨m, member, writes⟩ | ⟨w, writes, m, was, now⟩⟩
  · refine ⟨i, listed, .inr ⟨m, member, ?_⟩⟩
    rcases writes with call | ⟨v, createdAt, rfl, -⟩
    · exact call
    · cases member
  · cases w with
    | accept => exact absurd now was
    | hideFrom v =>
        change u ∈ (m.userDeleteMessage.union v).elems at now
        rw [Stored.elems_union, mem_arrayUnion] at now
        rcases now with held | rfl
        · exact absurd held was
        · exact ⟨i, listed, .inl writes⟩

/-- A file was there, or was sent by one of the calls. -/
theorem fileSent_cause {k : String} {m' : ChatMessage}
    (found : ((s.after calls schedule).media id).get? k = some m') :
    (∃ m, (s.media id).get? k = some m ∧ m.Grows m') ∨
      ∃ i ∈ schedule, ∃ m : ChatMessage, m.Grows m' ∧ calls i = .app (.send id (.file k m)) := by
  rw [or_iff_not_imp_left]
  intro new
  have before : ∀ m, (s.media id).get? k = some m → ¬ m.Grows m' :=
    fun m there grows => new ⟨m, there, grows⟩
  rcases file_cause before found (.refl m') with
    ⟨i, listed, ⟨m, grows, call⟩ | ⟨w, -, m, was, now⟩⟩
  · exact ⟨i, listed, m, grows, call⟩
  · exact absurd ((w.grows m).trans now) was

/-- **What happens to the messages and files of a salon, whatever runs.** -/
theorem message_life (s : Store) (calls : ι → Call) (schedule : List ι) (id : SalonId) :
    MessageLife s calls schedule id where
  stays := keeps_after
  sent _ before _ := sent_cause before
  accepted _ before _ := accepted_cause before
  hidden _ _ before _ := hidden_cause before
  fileSent _ _ := fileSent_cause

end Messages

/-! ## Salons -/

section Salons

variable {ι : Type} [DecidableEq ι] {s : Store} {calls : ι → Call} {schedule : List ι}
  {id : SalonId} {u : UserId} {data data' : Salon}

/-- A salon that nobody has written to yet. -/
structure Salon.IsNew (salon : Salon) : Prop where
  lock : salon.lock = .value .notYet
  lastLockedDemand : salon.lastLockedDemand = .undefined
  lastMessageContent : salon.lastMessageContent = .undefined
  lastMessageId : salon.lastMessageId = .undefined

/-- A salon that a call stores is a new one. -/
theorem Call.StoresSalon.isNew {c : Call} (stores : c.StoresSalon id data) : data.IsNew := by
  unfold Call.StoresSalon at stores
  split at stores
  case h_6 => cases stores
  all_goals
    rcases stores with ⟨-, rfl⟩
    exact ⟨rfl, rfl, rfl, rfl⟩

/-- The call puts the user into the salon. -/
def Call.PutsIn (id : SalonId) (u : UserId) (c : Call) : Prop :=
  c = .app (.becomeMember u id) ∨ ∃ users, u ∈ users ∧ c = .app (.addUsersToSalon id users)

/-- The call makes the salon show this state of the lock. -/
def Call.SetsLock (id : SalonId) (c : Call) : LockState → Prop
  | .sended => ∃ u, c.Demands u id
  | .locked => c.Agrees id
  | .notYet => c.EndsLock id ∨ ∃ new, c.StoresSalon id new

/-- The call sends this message with such an id. -/
def Call.Sends (id : SalonId) (m : ChatMessage) (c : Call) : MessageId → Prop
  | .drawn _ => c = .app (.send id (.text m))
  | .given k => c = .app (.send id (.file k m))

/-- The summary of the salon is of this message. -/
def Salon.Shows (salon : Salon) (m : ChatMessage) (k : MessageId) : Prop :=
  salon.lastMessageContent = .value m ∧ salon.lastMessageId = .value k

/-- What happens to a salon, while any calls run in any order. -/
structure SalonLife (s : Store) (calls : ι → Call) (schedule : List ι) (id : SalonId) :
    Prop where
  /-- A salon stays, unless it is deleted. -/
  stays : (s.salon id).isSome = true →
    ((s.after calls schedule).salon id).isSome = true ∨
      ∃ i ∈ schedule, calls i = .app (.deleteSalon id)
  /-- A new salon is one that a call of the schedule has stored. -/
  opened : s.salon id = none → ((s.after calls schedule).salon id).isSome = true →
    ∃ i ∈ schedule, ∃ new, (calls i).StoresSalon id new
  /-- A new member has joined, was added, or is one of a salon stored anew. -/
  gained : ∀ u, (∀ data, s.salon id = some data → u ∉ data.users) →
    ∀ data', (s.after calls schedule).salon id = some data' → u ∈ data'.users →
      ∃ i ∈ schedule, (calls i).PutsIn id u ∨
        ∃ new, (calls i).StoresSalon id new ∧ u ∈ new.users
  /-- A member who is gone has left, was removed, or was not in the salon that was stored
  anew. -/
  lost : ∀ u, (∀ data, s.salon id = some data → u ∈ data.users) →
    ∀ data', (s.after calls schedule).salon id = some data' → u ∉ data'.users →
      ∃ i ∈ schedule, (∃ users, u ∈ users ∧ (calls i).TakesAway id users) ∨
        ∃ new, (calls i).StoresSalon id new ∧ u ∉ new.users
  /-- Another state of the lock comes from a call that sets it. -/
  lock : ∀ state, (∀ data, s.salon id = some data → data.lock ≠ .value state) →
    ∀ data', (s.after calls schedule).salon id = some data' → data'.lock = .value state →
      ∃ i ∈ schedule, (calls i).SetsLock id state
  /-- Another summary comes from the send of its message. -/
  summary : ∀ m k, (∀ data, s.salon id = some data → ¬ data.Shows m k) →
    ∀ data', (s.after calls schedule).salon id = some data' → data'.Shows m k →
      ∃ i ∈ schedule, (calls i).Sends id m k

/-- A new salon was stored by one of the calls. -/
theorem opened_cause (before : s.salon id = none)
    (found : ((s.after calls schedule).salon id).isSome = true) :
    ∃ i ∈ schedule, ∃ new, (calls i).StoresSalon id new := by
  rcases Option.isSome_iff_exists.mp found with ⟨data, there⟩
  have absent : ∀ data, s.salon id = some data → ¬ True := by
    intro data there
    cases before.symm.trans there
  rcases salon_cause absent there trivial with ⟨i, listed, ⟨w, -, data, was, -⟩ | ⟨new, stores, -⟩⟩
  · exact absurd trivial was
  · exact ⟨i, listed, new, stores⟩

/-- A new member joined, was added, or came with a salon stored anew. -/
theorem gained_cause (before : ∀ data, s.salon id = some data → u ∉ data.users)
    (found : (s.after calls schedule).salon id = some data') (member : u ∈ data'.users) :
    ∃ i ∈ schedule, (calls i).PutsIn id u ∨
      ∃ new, (calls i).StoresSalon id new ∧ u ∈ new.users := by
  rcases salon_cause before found member with ⟨i, listed, ⟨w, writes, old, was, now⟩ | stored⟩
  · refine ⟨i, listed, .inl ?_⟩
    cases w with
    | join v =>
        rcases mem_arrayUnion.mp now with held | rfl
        · exact absurd held was
        · exact .inl writes
    | addUsers users =>
        rcases mem_foldl_arrayUnion.mp now with held | added
        · exact absurd held was
        · exact .inr ⟨users, added, writes⟩
    | removeUsers users => exact absurd (mem_foldl_arrayRemove.mp now).1 was
    | _ => exact absurd now was
  · exact ⟨i, listed, .inr stored⟩

/-- A member who is gone left, was removed, or went with a salon stored anew. -/
theorem lost_cause (before : ∀ data, s.salon id = some data → u ∈ data.users)
    (found : (s.after calls schedule).salon id = some data') (gone : u ∉ data'.users) :
    ∃ i ∈ schedule, (∃ users, u ∈ users ∧ (calls i).TakesAway id users) ∨
      ∃ new, (calls i).StoresSalon id new ∧ u ∉ new.users := by
  rcases salon_cause (Q := fun salon => u ∉ salon.users)
    (fun data there => not_not.mpr (before data there)) found gone with
    ⟨i, listed, ⟨w, writes, old, was, now⟩ | stored⟩
  · have held : u ∈ old.users := not_not.mp was
    cases w with
    | join v => exact absurd (mem_arrayUnion.mpr (.inl held)) now
    | addUsers users => exact absurd (mem_foldl_arrayUnion.mpr (.inl held)) now
    | removeUsers users =>
        have named : u ∈ users := by
          by_contra other
          exact now (mem_foldl_arrayRemove.mpr ⟨held, other⟩)
        exact ⟨i, listed, .inl ⟨users, named, writes⟩⟩
    | _ => exact absurd held now
  · exact ⟨i, listed, .inr stored⟩

/-- Another state of the lock was set by one of the calls. -/
theorem lock_cause {state : LockState}
    (before : ∀ data, s.salon id = some data → data.lock ≠ .value state)
    (found : (s.after calls schedule).salon id = some data')
    (shown : data'.lock = .value state) : ∃ i ∈ schedule, (calls i).SetsLock id state := by
  rcases salon_cause before found shown with
    ⟨i, listed, ⟨w, writes, old, was, now⟩ | ⟨new, stores, now⟩⟩
  · refine ⟨i, listed, ?_⟩
    cases w with
    | demand key =>
        cases now
        exact writes
    | setLock lock =>
        cases now
        cases state with
        | sended => cases writes
        | locked => exact writes
        | notYet => exact .inl writes
    | _ => exact absurd now was
  · cases stores.isNew.lock.symm.trans now
    exact ⟨i, listed, .inr ⟨new, stores⟩⟩

/-- Another summary comes from the send of its message. -/
theorem summary_cause {m : ChatMessage} {k : MessageId}
    (before : ∀ data, s.salon id = some data → ¬ data.Shows m k)
    (found : (s.after calls schedule).salon id = some data') (summary : data'.Shows m k) :
    ∃ i ∈ schedule, (calls i).Sends id m k := by
  rcases salon_cause before found summary with
    ⟨i, listed, ⟨w, writes, old, was, now⟩ | ⟨new, stores, content, -⟩⟩
  · refine ⟨i, listed, ?_⟩
    cases w with
    | setLast new j =>
        rcases now with ⟨⟨⟩, ⟨⟩⟩
        cases k with
        | drawn _ => exact writes
        | given _ => exact writes
    | _ => exact absurd now was
  · cases stores.isNew.lastMessageContent.symm.trans content

/-- **What happens to a salon, whatever runs.** -/
theorem salon_life (s : Store) (calls : ι → Call) (schedule : List ι) (id : SalonId) :
    SalonLife s calls schedule id where
  stays := salon_after
  opened := opened_cause
  gained _ before _ := gained_cause before
  lost _ before _ := lost_cause before
  lock _ before _ := lock_cause before
  summary _ _ before _ := summary_cause before

end Salons

end TwoGather
