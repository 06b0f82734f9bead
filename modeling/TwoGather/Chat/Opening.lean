import TwoGather.Chat.Salons

/-!
# Opening a chat

The chat button of `friend_profil_page.dart` and of `network_home.dart`: the page opens
the salon of the two users, or a new one. The new one is stored under the id of the other
user followed by one's own, but the page is opened with one's own id first.

`session_opens_iff`: the page shows the stored salon exactly when there was one before, or
the two orders give the same id.
-/

namespace TwoGather

open Docs Requests FirestoreQuery

/-! ## The two pages -/

/-- The chat button, on a page that knows the other user as `other`: the id that
`SalonNotifier.init`, `initMessages` and `IndexChatPage` are given. -/
def chatButton (me other : UserId) : Firestore SalonId := do
  let existSalon ← existSalonOneToOneWithGivenUsers me other
  match existSalon with
  | some id => return id
  | none =>
      let _ ← addSalonOneToOne { type := .oneToOne, users := [me, other] } me other
      return me ++ other

/-- `_buildPrincipalData` of `friend_profil_page.dart`. -/
def FriendProfilPage.chatButton (me id : UserId) : Firestore SalonId :=
  TwoGather.chatButton me id

/-- `_buildListOfAppUser` of `network_home.dart`, where `data.id` is the id of the snapshot
that `data` was made from. -/
def NetworkHome.chatButton (me id : UserId) : Firestore SalonId :=
  TwoGather.chatButton me id

/-- A page with a chat button. -/
inductive ChatPage
  | friendProfil
  | network

def ChatPage.button : ChatPage → UserId → UserId → Firestore SalonId
  | .friendProfil => FriendProfilPage.chatButton
  | .network => NetworkHome.chatButton

/-- A message sent from the chat page: a text, or a file that has been uploaded. -/
inductive Sending
  | text (m : ChatMessage)
  | file (id : String) (m : ChatMessage)

def Sending.program (salonId : SalonId) : Sending → Firestore Unit
  | .text m => addMessage m salonId
  | .file id m => setMessage id m salonId

/-- A session on the chat page: the button, and what is then sent. -/
def session (page : ChatPage) (me other : UserId) (sent : List Sending) :
    Firestore SalonId := do
  let salonId ← page.button me other
  Program.forEach sent (Sending.program salonId)
  return salonId

/-! ## What a session should be -/

/-- There is at most one salon of the two users, and it has these two users. -/
structure Store.Between (s : Store) (me other : UserId) : Prop where
  distinct : me ≠ other
  single : me ++ other ≠ other ++ me → (s.salon (me ++ other)).isSome →
    s.salon (other ++ me) = none
  users : ∀ id, id = me ++ other ∨ id = other ++ me → ∀ salon, s.salon id = some salon →
    salon.users.Perm [me, other]

/-- The message is one of the salon. -/
def Sending.StoredIn (t : Store) (id : SalonId) : Sending → Prop
  | .text m => ∃ key, (t.messages id).get? key = some m
  | .file key _ => ((t.media id).get? key).isSome

/-- The page shows a stored salon of the two users, which both of them find later, and
which has all the messages that were sent. -/
structure Store.Opened (t : Store) (me other : UserId) (id : SalonId) (sent : List Sending) :
    Prop where
  stored : ∃ salon, t.salon id = some salon ∧ salon.users.Perm [me, other]
  mine : (existSalonOneToOneWithGivenUsers me other).exec t = (.ok (some id), t)
  theirs : (existSalonOneToOneWithGivenUsers other me).exec t = (.ok (some id), t)
  kept : ∀ m ∈ sent, m.StoredIn t id

/-- The session runs on the salon of the two users. -/
def Store.SessionOpens (s : Store) (page : ChatPage) (me other : UserId) (sent : List Sending) :
    Prop :=
  ∃ id t, (session page me other sent).exec s = (.ok id, t) ∧ t.Opened me other id sent

/-! ## What sending does -/

section Sending

variable {s t : Store} {id : SalonId}

/-- Both stores have the same salons, with the same users, and no message is gone. -/
structure Store.SameSalons (s t : Store) : Prop where
  users : ∀ j, (t.salon j).map Salon.users = (s.salon j).map Salon.users
  messages : ∀ j key m, (s.messages j).get? key = some m → (t.messages j).get? key = some m
  media : ∀ j key, ((s.media j).get? key).isSome → ((t.media j).get? key).isSome

theorem Store.SameSalons.refl (s : Store) : s.SameSalons s where
  users _ := rfl
  messages _ _ _ := id
  media _ _ := id

theorem Store.SameSalons.trans {u : Store} (first : s.SameSalons t) (second : t.SameSalons u) :
    s.SameSalons u where
  users j := (second.users j).trans (first.users j)
  messages j key m found := second.messages j key m (first.messages j key m found)
  media j key found := second.media j key (first.media j key found)

/-- What a message does to the store. -/
def Sending.effect (s : Store) (id : SalonId) : Sending → Store
  | .text m => (s.addMessage id m).updateSalon id (·.setLast m (.drawn (s.messages id).next))
  | .file key m => (s.setMedia id key m).updateSalon id (·.setLast m (.given key))

theorem Sending.exec_program (m : Sending) :
    (m.program id).exec s = (.ok (), m.effect s id) := by
  cases m with
  | text m => simp [program, addMessage, effect]
  | file key m => simp [program, setMessage, effect]

theorem sameSalons_setLast (m : ChatMessage) (k : MessageId) :
    s.SameSalons (s.updateSalon id (·.setLast m k)) where
  users j := by
    rw [Store.salon_updateSalon]
    split
    · rw [Option.map_map]
      rfl
    · rfl
  messages _ _ _ found := found
  media _ _ found := found

theorem sameSalons_addMessage (m : ChatMessage) : s.SameSalons (s.addMessage id m) where
  users _ := rfl
  messages j key old found := by
    by_cases same : j = id
    · subst same
      have differ : key ≠ (s.messages j).next := by
        intro eq
        rw [eq, AutoCollection.get?_next] at found
        cases found
      simp [Store.addMessage, differ, found]
    · simp [Store.addMessage, same, found]
  media _ _ found := found

theorem sameSalons_setMedia (k : String) (m : ChatMessage) :
    s.SameSalons (s.setMedia id k m) where
  users _ := rfl
  messages _ _ _ found := found
  media j key found := by
    by_cases same : j = id
    · subst same
      by_cases here : key = k
      · simp [Store.setMedia, here]
      · simpa [Store.setMedia, here] using found
    · simpa [Store.setMedia, same] using found

theorem Sending.sameSalons (m : Sending) : s.SameSalons (m.effect s id) := by
  cases m with
  | text m => exact (sameSalons_addMessage m).trans (sameSalons_setLast m _)
  | file key m => exact (sameSalons_setMedia key m).trans (sameSalons_setLast m _)

theorem Sending.storedIn_effect (m : Sending) : m.StoredIn (m.effect s id) id := by
  cases m with
  | text m => exact ⟨(s.messages id).next, by simp [effect, Store.addMessage, Store.updateSalon]⟩
  | file key m => simp [StoredIn, effect, Store.setMedia, Store.updateSalon]

theorem Sending.StoredIn.mono {m : Sending} (stored : m.StoredIn s id) (same : s.SameSalons t) :
    m.StoredIn t id := by
  cases m with
  | text m =>
      rcases stored with ⟨key, found⟩
      exact ⟨key, same.messages id key m found⟩
  | file key m => exact same.media id key stored

/-- After a number of messages the salons are the same, and all messages are there. -/
theorem exec_sendings (s : Store) (id : SalonId) (sent : List Sending) :
    ∃ t, (Program.forEach sent (Sending.program id)).exec s = (.ok (), t) ∧
      s.SameSalons t ∧ ∀ m ∈ sent, m.StoredIn t id := by
  induction sent generalizing s with
  | nil => exact ⟨s, rfl, .refl s, by simp⟩
  | cons m sent ih =>
      rcases ih (m.effect s id) with ⟨t, run, same, kept⟩
      refine ⟨t, ?_, m.sameSalons.trans same, ?_⟩
      · unfold Program.forEach
        rw [Program.exec_bind, m.exec_program]
        exact run
      · intro other listed
        rcases List.mem_cons.mp listed with rfl | later
        · exact (Sending.storedIn_effect other).mono same
        · exact kept other later

/-- A message changes no answer about which salon two users have. -/
theorem Store.SameSalons.salonOf (same : s.SameSalons t) (u v : UserId) :
    t.salonOf u v = s.salonOf u v := by
  have exist : ∀ j, (t.salon j).isSome = (s.salon j).isSome := by
    intro j
    rw [← Option.isSome_map (f := Salon.users), same.users j, Option.isSome_map]
  unfold Store.salonOf
  rw [exist, exist]

end Sending

/-! ## What the button opens -/

section Session

variable {s : Store} {me other : UserId}

/-- The id the page is opened with, and the store the button leaves. -/
theorem exec_chatButton (s : Store) (me other : UserId) :
    (chatButton me other).exec s =
      match s.salonOf me other with
      | some id => (.ok id, s)
      | none =>
          (.ok (me ++ other),
            s.setSalon (other ++ me) { type := .oneToOne, users := [me, other] }) := by
  unfold chatButton
  rw [Program.exec_bind, exec_existSalon]
  cases s.salonOf me other with
  | some id => rfl
  | none => rfl

theorem Store.Between.symm (between : s.Between me other) : s.Between other me where
  distinct := between.distinct.symm
  single differ exist := by
    by_contra both
    have first := between.single differ.symm (Option.isSome_iff_ne_none.mpr both)
    rw [first] at exist
    cases exist
  users id either salon found := (between.users id either.symm salon found).trans (.swap ..)

/-- There is one salon, whoever looks it up. -/
theorem Store.Between.salonOf_comm (between : s.Between me other) :
    s.salonOf other me = s.salonOf me other := by
  unfold Store.salonOf
  by_cases same : me ++ other = other ++ me
  · rw [same]
  · by_cases first : (s.salon (me ++ other)).isSome
    · simp [first, between.single same first]
    · simp [first]

/-- A session is the button, and messages that change no salon but its last message. -/
theorem exec_session (page : ChatPage) (sent : List Sending) {id : SalonId} {t : Store}
    (button : (chatButton me other).exec s = (.ok id, t)) :
    ∃ u, (session page me other sent).exec s = (.ok id, u) ∧ t.SameSalons u ∧
      ∀ m ∈ sent, m.StoredIn u id := by
  rcases exec_sendings t id sent with ⟨u, run, same, kept⟩
  refine ⟨u, ?_, same, kept⟩
  have pressed : (page.button me other).exec s = (.ok id, t) := by
    cases page with
    | friendProfil => exact button
    | network => exact button
  unfold session
  simp only [Program.exec_bind, pressed, run, Program.exec_pure]

/-- What makes the session run on the salon of the two users. -/
theorem Store.opened_iff {t u : Store} {id : SalonId} {sent : List Sending}
    (same : t.SameSalons u) (kept : ∀ m ∈ sent, m.StoredIn u id) :
    u.Opened me other id sent ↔
      (∃ salon, t.salon id = some salon ∧ salon.users.Perm [me, other]) ∧
        t.salonOf me other = some id ∧ t.salonOf other me = some id := by
  have users : (∃ salon, u.salon id = some salon ∧ salon.users.Perm [me, other]) ↔
      ∃ salon, t.salon id = some salon ∧ salon.users.Perm [me, other] := by
    have both := same.users id
    cases before : t.salon id with
    | none =>
        rw [before, Option.map_none, Option.map_eq_none_iff] at both
        simp [both]
    | some salon =>
        rw [before, Option.map_some] at both
        rcases Option.map_eq_some_iff.mp both with ⟨after, found, eq⟩
        simp [found, eq]
  constructor
  · intro opened
    have mine := opened.mine
    have theirs := opened.theirs
    rw [exec_existSalon, same.salonOf] at mine theirs
    injection mine with mine
    injection theirs with theirs
    exact ⟨users.mp opened.stored, Except.ok.inj mine, Except.ok.inj theirs⟩
  · intro right
    rcases right with ⟨stored, mine, theirs⟩
    refine ⟨users.mpr stored, ?_, ?_, kept⟩
    · rw [exec_existSalon, same.salonOf, mine]
    · rw [exec_existSalon, same.salonOf, theirs]

theorem sessionOpens_iff_of_button (page : ChatPage) (sent : List Sending) {id : SalonId}
    {t : Store} (button : (chatButton me other).exec s = (.ok id, t)) :
    s.SessionOpens page me other sent ↔
      (∃ salon, t.salon id = some salon ∧ salon.users.Perm [me, other]) ∧
        t.salonOf me other = some id ∧ t.salonOf other me = some id := by
  rcases exec_session page sent button with ⟨u, run, same, kept⟩
  rw [← Store.opened_iff same kept]
  constructor
  · intro opens
    rcases opens with ⟨_, _, ends, opened⟩
    cases run.symm.trans ends
    exact opened
  · intro opened
    exact ⟨id, u, run, opened⟩

/-- The salon that is looked up is stored under one of the two ids. -/
theorem Store.salonOf_eq_some {id : SalonId} (found : s.salonOf me other = some id) :
    (id = me ++ other ∨ id = other ++ me) ∧ (s.salon id).isSome := by
  unfold Store.salonOf at found
  split at found
  case isTrue first =>
    cases found
    exact ⟨.inl rfl, first⟩
  case isFalse =>
    split at found
    case isTrue second =>
      cases found
      exact ⟨.inr rfl, second⟩
    case isFalse => cases found

theorem Store.salonOf_eq_none :
    s.salonOf me other = none ↔
      ¬ (s.salon (me ++ other)).isSome ∧ ¬ (s.salon (other ++ me)).isSome := by
  unfold Store.salonOf
  split
  case isTrue first => simp [first]
  case isFalse first =>
    split
    case isTrue second => simp [second]
    case isFalse second => simp [first, second]

/-- **A session opened from either page runs on the stored salon of the two users exactly when
there was one before, or both orders of their ids give the same.** -/
theorem session_opens_iff (between : s.Between me other) (page : ChatPage)
    (sent : List Sending) :
    s.SessionOpens page me other sent ↔
      (s.salon (me ++ other)).isSome ∨ (s.salon (other ++ me)).isSome ∨
        me ++ other = other ++ me := by
  have button := exec_chatButton s me other
  cases lookup : s.salonOf me other with
  | some id =>
      rw [lookup] at button
      rw [sessionOpens_iff_of_button page sent button]
      rcases Store.salonOf_eq_some lookup with ⟨either, exist⟩
      rcases Option.isSome_iff_exists.mp exist with ⟨salon, found⟩
      have users := between.users id either salon found
      refine ⟨fun _ => ?_, fun _ => ⟨⟨salon, found, users⟩, lookup, ?_⟩⟩
      · rcases either with rfl | rfl
        · exact .inl exist
        · exact .inr (.inl exist)
      · rw [between.salonOf_comm, lookup]
  | none =>
      rw [lookup] at button
      rw [sessionOpens_iff_of_button page sent button]
      rcases Store.salonOf_eq_none.mp lookup with ⟨first, second⟩
      by_cases same : me ++ other = other ++ me
      · -- the new salon is stored where it is opened
        simp [same, Store.salonOf]
      · have missing : s.salon (me ++ other) = none := by simpa using first
        simp [same, missing, second]

end Session

/-! ## A first chat -/

def chatStore : Store :=
  .ofUsers ⟨[("me", {}), ("you", {})], by decide⟩

theorem chatStore_between : chatStore.Between "me" "you" where
  distinct := by decide
  single _ _ := rfl
  users id _ salon found := by
    cases found

/-- The page of a first chat is opened on `meyou`, and the salon is stored as `youme`. -/
theorem first_chat_lost :
    chatStore.Between "me" "you" ∧ ¬ chatStore.SessionOpens .friendProfil "me" "you" [] := by
  refine ⟨chatStore_between, fun opens => ?_⟩
  rcases opens with ⟨id, t, run, opened⟩
  rcases opened.stored with ⟨salon, found, -⟩
  cases run
  cases found

/-- A second chat is opened on the stored salon. -/
theorem second_chat_opens :
    ((chatStore.setSalon "youme" { type := .oneToOne, users := ["me", "you"] }).salon
        "youme").isSome ∧
      (chatStore.setSalon "youme" { type := .oneToOne, users := ["me", "you"] }).SessionOpens
        .network "you" "me" [.text { sender := "you", type := .textMessage, createdAt := .epoch }] := by
  refine ⟨by decide, (session_opens_iff ⟨by decide, fun _ _ => by decide, ?_⟩ _ _).mpr ?_⟩
  · intro id either salon found
    rcases either with rfl | rfl
    · cases found
      exact .swap ..
    · cases found
  · exact .inl (by decide)

end TwoGather
