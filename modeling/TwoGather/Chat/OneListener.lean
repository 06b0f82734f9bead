import TwoGather.Chat.Listeners
import TwoGather.Lib.Runs

/-!
# One salon at a time

The pages call the notifiers in any order, and `init` and `removeListnerToSalon` may be suspended
at their awaits while others run. At any time at most one subscription to messages and one to a
salon should not be cancelled, for the salon that is open.

`initMessages` cancels nothing, `init` cancels before it is suspended and listens after, and
`clear` cancels what the fields hold; so each step keeps that exactly when it finds no other
listener (`oneSalon_iff`).
-/

namespace TwoGather

open Docs Requests

def Watched.isMessages : Watched → Bool
  | .messages _ => true
  | _ => false

def Watched.isSalon : Watched → Bool
  | .salon => true
  | _ => false

/-- What the pages call. The `i`-th suspended method goes on, and a subscription gets a snapshot
of the messages of its salon. -/
inductive ScreenCall
  | messagesInit
  | init (idSalon : SalonId)
  | initMessages (salonId : SalonId)
  | loadMore
  | pauseListeners
  | resumeListeners
  | removeListnerToSalon
  | clear
  | goOn (i : Nat)
  | deliver (k : Nat) (docs : Collection String MessageModel)

/-- The notifiers and the methods that are suspended. -/
structure Screen where
  chat : Chat := {}
  suspended : List Suspended := []

namespace Screen

def withSalon (t : Screen) (salon : SalonNotifier) : Screen :=
  { t with chat := { t.chat with salon } }

def step (myUid : UserId) (t : Screen) : ScreenCall → Screen
  | .messagesInit => { t with chat := { t.chat with messages := t.chat.messages.init } }
  | .init idSalon =>
      { t.withSalon (t.chat.salon.init idSalon) with
        suspended := t.suspended ++ [.initSalon idSalon] }
  | .initMessages salonId => t.withSalon (t.chat.salon.initMessages salonId)
  | .loadMore => t.withSalon t.chat.salon.loadMore
  | .pauseListeners => t.withSalon t.chat.salon.pauseListeners
  | .resumeListeners => t.withSalon t.chat.salon.resumeListeners
  | .removeListnerToSalon =>
      { t.withSalon t.chat.salon.removeListnerToSalon with
        suspended := t.suspended ++ [.removeListnerToSalon] }
  | .clear => t.withSalon t.chat.salon.clear
  | .goOn i =>
      match t.suspended[i]? with
      | none => t
      | some method =>
          { t.withSalon (t.chat.salon.goOn method).1 with
            suspended := t.suspended.eraseIdx i ++ (t.chat.salon.goOn method).2.toList }
  | .deliver k docs => { t with chat := t.chat.deliver myUid k docs }

end Screen

namespace SalonNotifier

/-- The salon of a listener of the kind, if it is one. -/
def listening (kind : Watched → Bool) (n : SalonNotifier) (k : Nat) : Option (Option SalonId) :=
  n.ofLive (fun sub => if kind sub.watches then some sub.salon else none) k

/-- What holds of each listener of the kind. -/
def EachListener (kind : Watched → Bool) (n : SalonNotifier)
    (C : Nat → Option SalonId → Prop) : Prop :=
  ∀ k salon, n.listening kind k = some salon → C k salon

/-- The salon is the one that is open. -/
def IsOpen (n : SalonNotifier) (salon : Option SalonId) : Prop :=
  salon = n.idSalon ∧ n.idSalon.isSome

/-- There is at most one listener of the kind, and it is for the open salon. -/
structure OneListener (kind : Watched → Bool) (n : SalonNotifier) : Prop where
  one : n.EachListener kind fun j _ => n.EachListener kind fun k _ => j = k
  opened : n.EachListener kind fun _ salon => n.IsOpen salon

/-- One salon at a time. -/
structure OneSalon (n : SalonNotifier) : Prop where
  messages : n.OneListener Watched.isMessages
  salon : n.OneListener Watched.isSalon

end SalonNotifier

namespace ScreenCall

/-- What reaches the map is of the open salon. -/
def FromOpen (t : Screen) : ScreenCall → Prop
  | .deliver k _ => ∀ salon, t.chat.salon.listening Watched.isMessages k = some salon →
      t.chat.salon.IsOpen salon
  | _ => True

/-- What a call must find: who listens to messages, no other that does, and for the open salon; the
same for the salon, when `init` comes to its end; and who opens or closes a salon, no listener to
another one that it does not cancel. -/
def Clean (t : Screen) : ScreenCall → Prop
  | .init idSalon =>
      t.chat.salon.EachListener Watched.isMessages (fun _ salon => salon = some idSalon) ∧
        t.chat.salon.EachListener Watched.isSalon fun k salon =>
          t.chat.salon.streamSubSalon ≠ some k → salon = some idSalon
  | .initMessages salonId =>
      t.chat.salon.EachListener Watched.isMessages (fun _ _ => False) ∧
        t.chat.salon.idSalon = some salonId
  | .loadMore =>
      t.chat.salon.EachListener Watched.isMessages
          (fun k _ => t.chat.salon.streamSubMessage = some k) ∧
        t.chat.salon.idSalon.isSome
  | .resumeListeners =>
      t.chat.salon.idSalon.isSome → t.chat.salon.streamSubMessage = none →
        t.chat.salon.EachListener Watched.isMessages fun _ _ => False
  | .clear =>
      t.chat.salon.EachListener Watched.isMessages
          (fun k _ => t.chat.salon.streamSubMessage = some k) ∧
        t.chat.salon.EachListener Watched.isSalon
          fun k _ => t.chat.salon.streamSubSalon = some k
  | .goOn i =>
      ∀ idSalon, t.suspended[i]? = some (.initLastDeleted idSalon) →
        t.chat.salon.EachListener Watched.isSalon (fun _ _ => False) ∧
          t.chat.salon.idSalon = some idSalon
  | _ => True

end ScreenCall

namespace SalonNotifier

section Listening

variable {kind : Watched → Bool} (n : SalonNotifier)

theorem listening_cancel (field : Option Nat) (k : Nat) :
    (n.cancel field).listening kind k = if field = some k then none else n.listening kind k :=
  ofLive_cancel _ n field k

theorem listening_listenMessages (salonId : Option SalonId) (k : Nat) :
    (n.listenMessages salonId).listening kind k =
      if k = n.subscriptions.next then
        if kind (.messages n.limit) then some salonId else none
      else n.listening kind k :=
  ofLive_listen _ n (.messages n.limit) salonId k

theorem listening_next : n.listening kind n.subscriptions.next = none :=
  ofLive_next _ n

variable {n}

/-- Listeners that are cancelled leave the others as they were. -/
theorem OneListener.of_fewer {n' : SalonNotifier} (one : n.OneListener kind)
    (same : n'.idSalon = n.idSalon)
    (fewer : ∀ k salon, n'.listening kind k = some salon → n.listening kind k = some salon) :
    n'.OneListener kind where
  one j _ first k _ second := one.one j _ (fewer j _ first) k _ (fewer k _ second)
  opened k salon live := by
    unfold IsOpen
    rw [same]
    exact one.opened k salon (fewer k salon live)

/-- A new listener is the only one, and for the open salon, exactly when there was none and it is
for that salon. -/
theorem oneListener_add_iff {n' : SalonNotifier} {salonId : Option SalonId} {next : Nat}
    (absent : n.listening kind next = none)
    (added : ∀ k, n'.listening kind k = if k = next then some salonId else n.listening kind k) :
    n'.OneListener kind ↔ n.EachListener kind (fun _ _ => False) ∧ n'.IsOpen salonId := by
  have new : n'.listening kind next = some salonId := by rw [added, if_pos rfl]
  constructor
  · intro one
    refine ⟨fun k salon live => ?_, one.opened next salonId new⟩
    have differs : k ≠ next := by
      intro same
      rw [same, absent] at live
      cases live
    have old : n'.listening kind k = some salon := by rw [added, if_neg differs, live]
    exact differs (one.one k salon old next salonId new)
  · intro both
    obtain ⟨silent, opened⟩ := both
    have only {k : Nat} {salon : Option SalonId} (live : n'.listening kind k = some salon) :
        k = next ∧ salonId = salon := by
      rw [added] at live
      split at live
      case isTrue same => exact ⟨same, Option.some.inj live⟩
      case isFalse => exact absurd live fun live => silent k salon live
    constructor
    case one => exact fun j _ first k _ second => (only first).1.trans (only second).1.symm
    case opened =>
      intro k salon live
      rw [← (only live).2]
      exact opened

/-- Of the listeners there were, those stay that are kept. A salon is opened: at most one is left,
for that salon, exactly when all that are kept are for it. -/
theorem oneListener_open_iff {n' : SalonNotifier} {idSalon : SalonId} {K : Nat → Prop}
    (one : n.OneListener kind) (opened : n'.idSalon = some idSalon)
    (stay : ∀ k salon, n'.listening kind k = some salon ↔
      n.listening kind k = some salon ∧ K k) :
    n'.OneListener kind ↔ n.EachListener kind fun k salon => K k → salon = some idSalon := by
  constructor
  · intro one' k salon live keep
    have current := one'.opened k salon ((stay k salon).mpr ⟨live, keep⟩)
    exact current.1.trans opened
  · intro each
    constructor
    case one =>
      intro j _ first k _ second
      exact one.one j _ ((stay _ _).mp first).1 k _ ((stay _ _).mp second).1
    case opened =>
      intro k salon live
      obtain ⟨before, keep⟩ := (stay k salon).mp live
      exact ⟨(each k salon before keep).trans opened.symm, by rw [opened]; rfl⟩

/-- No salon is open: at most one listener is left for it exactly when none is. -/
theorem oneListener_closed_iff {n' : SalonNotifier} {K : Nat → Prop}
    (closed : n'.idSalon = none)
    (stay : ∀ k salon, n'.listening kind k = some salon ↔
      n.listening kind k = some salon ∧ ¬ K k) :
    n'.OneListener kind ↔ n.EachListener kind fun k _ => K k := by
  constructor
  · intro one' k salon live
    by_contra keep
    have current := (one'.opened k salon ((stay k salon).mpr ⟨live, keep⟩)).2
    rw [closed] at current
    cases current
  · intro each
    have silent {k : Nat} {salon : Option SalonId} (live : n'.listening kind k = some salon) :
        False :=
      ((stay k salon).mp live).2 (each k salon ((stay k salon).mp live).1)
    exact ⟨fun _ _ live => (silent live).elim, fun _ _ live => (silent live).elim⟩

end Listening

/-! ## The subscriptions in the fields -/

/-- What a subscription listens to, cancelled or not. -/
def watched (n : SalonNotifier) (k : Nat) : Option Watched :=
  (n.subscriptions.get? k).map (·.watches)

/-- Each field holds a subscription of its own kind. -/
structure Typed (n : SalonNotifier) : Prop where
  salon : ∀ k, n.streamSubSalon = some k → n.watched k = some .salon
  lastDeleted : ∀ k, n.streamSubscriptionLastDeletedUser = some k →
    n.watched k = some .lastDeletedCompos
  message : ∀ k, n.streamSubMessage = some k → ∃ limit, n.watched k = some (.messages limit)

section Typed

variable {n : SalonNotifier}

theorem watched_cancel (field : Option Nat) (k : Nat) :
    (n.cancel field).watched k = n.watched k := by
  unfold watched
  rw [get?_cancel]
  split
  · cases n.subscriptions.get? k with
    | none => rfl
    | some sub => rfl
  · rfl

theorem watched_listen (watches : Watched) (salon : Option SalonId) (k : Nat) :
    (n.listen watches salon).watched k =
      if k = n.subscriptions.next then some watches else n.watched k := by
  unfold watched listen
  rw [AutoCollection.get?_add]
  split
  · rfl
  · rfl

theorem watched_lt_next {k : Nat} {w : Watched} (watches : n.watched k = some w) :
    k < n.subscriptions.next := by
  obtain ⟨sub, found, -⟩ := Option.map_eq_some_iff.mp watches
  exact AutoCollection.lt_next found

/-- A new subscription does not take the key of another one. -/
theorem watched_listen_of_some {watches w : Watched} {salon : Option SalonId} {k : Nat}
    (old : n.watched k = some w) : (n.listen watches salon).watched k = some w := by
  have drawn := watched_lt_next old
  rw [watched_listen, if_neg (by omega), old]

/-- A subscription to something else is no listener of the kind. -/
theorem listening_of_watched {kind : Watched → Bool} {k : Nat} {w : Watched}
    (watches : n.watched k = some w) (other : kind w = false) : n.listening kind k = none := by
  unfold watched at watches
  unfold listening ofLive
  obtain ⟨sub, found, rfl⟩ := Option.map_eq_some_iff.mp watches
  rw [found, Option.bind_some]
  split
  · exact if_neg (by rw [other]; exact Bool.false_ne_true)
  · rfl

/-- Calls that only cancel or deliver. -/
theorem Typed.of_watched {n' : SalonNotifier} (typed : n.Typed)
    (salon : n'.streamSubSalon = n.streamSubSalon)
    (lastDeleted : n'.streamSubscriptionLastDeletedUser = n.streamSubscriptionLastDeletedUser)
    (message : n'.streamSubMessage = n.streamSubMessage)
    (same : ∀ k, n'.watched k = n.watched k) : n'.Typed where
  salon k field := (same k).trans (typed.salon k (salon ▸ field))
  lastDeleted k field := (same k).trans (typed.lastDeleted k (lastDeleted ▸ field))
  message k field := by
    rw [same k]
    exact typed.message k (message ▸ field)

theorem fields_cancel (n : SalonNotifier) (field : Option Nat) :
    (n.cancel field).streamSubSalon = n.streamSubSalon ∧
      (n.cancel field).streamSubscriptionLastDeletedUser = n.streamSubscriptionLastDeletedUser ∧
      (n.cancel field).streamSubMessage = n.streamSubMessage := by
  cases field with
  | none => exact ⟨rfl, rfl, rfl⟩
  | some k => exact ⟨rfl, rfl, rfl⟩

theorem Typed.cancel (typed : n.Typed) (field : Option Nat) : (n.cancel field).Typed := by
  obtain ⟨salon, lastDeleted, message⟩ := n.fields_cancel field
  exact typed.of_watched salon lastDeleted message (watched_cancel field)

theorem Typed.listenMessages (typed : n.Typed) (salonId : Option SalonId) :
    (n.listenMessages salonId).Typed := by
  constructor
  case salon => exact fun k field => watched_listen_of_some (typed.salon k field)
  case lastDeleted => exact fun k field => watched_listen_of_some (typed.lastDeleted k field)
  case message =>
    intro k field
    obtain rfl := Option.some.inj field
    exact ⟨n.limit, (watched_listen ..).trans (if_pos rfl)⟩

theorem Typed.initListen (typed : n.Typed) (idSalon : SalonId) : (n.initListen idSalon).Typed := by
  constructor
  case salon =>
    intro k field
    obtain rfl := Option.some.inj field
    exact (watched_listen ..).trans (if_pos rfl)
  case lastDeleted =>
    intro k field
    obtain rfl := Option.some.inj field
    exact watched_listen_of_some ((watched_listen ..).trans (if_pos rfl))
  case message =>
    intro k field
    obtain ⟨limit, watches⟩ := typed.message k field
    exact ⟨limit, watched_listen_of_some (watched_listen_of_some watches)⟩

theorem Typed.delivered (typed : n.Typed) (k : Nat) (window : Collection String MessageModel) :
    (n.delivered k window).Typed := by
  refine typed.of_watched rfl rfl rfl fun j => ?_
  unfold watched SalonNotifier.delivered
  rw [AutoCollection.get?_update]
  split
  · cases n.subscriptions.get? j with
    | none => rfl
    | some sub => rfl
  · rfl

theorem listening_delivered {kind : Watched → Bool} (k : Nat)
    (window : Collection String MessageModel) (j : Nat) :
    (n.delivered k window).listening kind j = n.listening kind j := by
  unfold listening ofLive SalonNotifier.delivered
  rw [AutoCollection.get?_update]
  split
  · cases n.subscriptions.get? j with
    | none => rfl
    | some sub => rfl
  · rfl

end Typed

end SalonNotifier

/-! ## What each call does -/

namespace SalonNotifier

section Calls

variable {n : SalonNotifier} (typed : n.Typed)

include typed

/-- Cancelling the subscription to a salon leaves the listeners to messages. -/
theorem oneSalon_init_iff (one : n.OneSalon) (idSalon : SalonId) :
    (n.init idSalon).OneSalon ↔
      n.EachListener Watched.isMessages (fun _ salon => salon = some idSalon) ∧
        n.EachListener Watched.isSalon fun k salon =>
          n.streamSubSalon ≠ some k → salon = some idSalon := by
  have opened : (n.init idSalon).idSalon = some idSalon := idSalon_cancel ..
  have live {kind : Watched → Bool} (k : Nat) : (n.init idSalon).listening kind k =
      if n.streamSubSalon = some k then none else n.listening kind k := listening_cancel ..
  have messages := oneListener_open_iff (K := fun _ => True) one.messages opened
    (fun k salon => by
      rw [live, and_iff_left True.intro]
      split
      case isTrue field =>
        rw [listening_of_watched (typed.salon k field) rfl]
      case isFalse => rfl)
  have salon := oneListener_open_iff (K := fun k => n.streamSubSalon ≠ some k) one.salon opened
    (fun k salon => by
      rw [live]
      split
      case isTrue field => simp [field]
      case isFalse other => simp [other])
  constructor
  · intro after
    exact ⟨fun k s l => messages.mp after.messages k s l trivial, salon.mp after.salon⟩
  · intro both
    exact ⟨messages.mpr fun k s l _ => both.1 k s l, salon.mpr both.2⟩

omit typed in
theorem isOpen_iff {salonId : SalonId} : n.IsOpen (some salonId) ↔ n.idSalon = some salonId := by
  constructor
  · exact fun opened => opened.1.symm
  · intro eq
    exact ⟨eq.symm, by rw [eq]; rfl⟩

omit typed in
/-- A listener to messages is no listener to a salon. -/
theorem oneSalon_listenMessages_iff (salon : n.OneListener Watched.isSalon)
    (salonId : Option SalonId) :
    (n.listenMessages salonId).OneSalon ↔
      n.EachListener Watched.isMessages (fun _ _ => False) ∧ n.IsOpen salonId := by
  have messages : (n.listenMessages salonId).OneListener Watched.isMessages ↔ _ :=
    oneListener_add_iff (n.listening_next) (n.listening_listenMessages salonId)
  have kept : (n.listenMessages salonId).OneListener Watched.isSalon := by
    refine salon.of_fewer rfl fun k salon' live => ?_
    rw [listening_listenMessages] at live
    split at live
    case isTrue => cases live
    case isFalse => exact live
  constructor
  · exact fun after => messages.mp after.messages
  · exact fun both => ⟨messages.mpr both, kept⟩

omit typed in
theorem oneSalon_initMessages_iff (one : n.OneSalon) (salonId : SalonId) :
    (n.initMessages salonId).OneSalon ↔
      n.EachListener Watched.isMessages (fun _ _ => False) ∧ n.idSalon = some salonId := by
  rw [← isOpen_iff]
  exact oneSalon_listenMessages_iff one.salon (some salonId)

omit typed in
/-- Who is left when the subscription in the field is cancelled. -/
theorem each_cancel_iff {kind : Watched → Bool} {field : Option Nat} :
    (n.cancel field).EachListener kind (fun _ _ => False) ↔
      n.EachListener kind fun k _ => field = some k := by
  refine forall₂_congr fun k salon => ?_
  rw [listening_cancel]
  split
  case isTrue same => simp [same]
  case isFalse other => simp [other]

omit typed in
theorem OneSalon.cancel (one : n.OneSalon) (field : Option Nat) : (n.cancel field).OneSalon := by
  have fewer {kind : Watched → Bool} (k : Nat) (salon : Option SalonId)
      (live : (n.cancel field).listening kind k = some salon) :
      n.listening kind k = some salon := by
    rw [listening_cancel] at live
    split at live
    case isTrue => cases live
    case isFalse => exact live
  exact ⟨one.messages.of_fewer (idSalon_cancel n field) fewer,
    one.salon.of_fewer (idSalon_cancel n field) fewer⟩

omit typed in
theorem oneSalon_loadMore_iff (one : n.OneSalon) :
    n.loadMore.OneSalon ↔
      n.EachListener Watched.isMessages (fun k _ => n.streamSubMessage = some k) ∧
        n.idSalon.isSome := by
  have more : ({ n with limit := n.limit + 20 } : SalonNotifier).OneSalon :=
    ⟨⟨one.messages.one, one.messages.opened⟩, ⟨one.salon.one, one.salon.opened⟩⟩
  have cancelled := more.cancel n.streamSubMessage
  unfold loadMore
  rw [oneSalon_listenMessages_iff cancelled.salon, each_cancel_iff]
  refine and_congr Iff.rfl ?_
  unfold IsOpen
  rw [idSalon_cancel, and_iff_right rfl]

omit typed in
theorem oneSalon_resumeListeners_iff (one : n.OneSalon) :
    n.resumeListeners.OneSalon ↔ (n.idSalon.isSome → n.streamSubMessage = none →
      n.EachListener Watched.isMessages fun _ _ => False) := by
  unfold resumeListeners
  cases opened : n.idSalon with
  | none => exact iff_of_true one fun absent => by cases absent
  | some idSalon =>
      cases n.streamSubMessage with
      | none =>
          rw [oneSalon_initMessages_iff one, opened]
          simp
      | some k => exact iff_of_true one fun _ absent => by cases absent

theorem oneSalon_clear_iff :
    n.clear.OneSalon ↔
      n.EachListener Watched.isMessages (fun k _ => n.streamSubMessage = some k) ∧
        n.EachListener Watched.isSalon fun k _ => n.streamSubSalon = some k := by
  have live {kind : Watched → Bool} (k : Nat) (salon : Option SalonId) :
      n.clear.listening kind k = some salon ↔ n.listening kind k = some salon ∧
        ¬ (n.streamSubSalon = some k ∨ n.streamSubMessage = some k ∨
          n.streamSubscriptionLastDeletedUser = some k) := by
    change (((n.cancel _).cancel _).cancel _).listening kind k = _ ↔ _
    rw [listening_cancel, listening_cancel, listening_cancel]
    split
    case isTrue same => simp [same]
    case isFalse other =>
      split
      case isTrue same => simp [same]
      case isFalse other' =>
        split
        case isTrue same => simp [same]
        case isFalse other'' => simp [other, other', other'']
  have messages : n.clear.OneListener Watched.isMessages ↔ _ :=
    oneListener_closed_iff (n := n) rfl fun k salon => live k salon
  have salon : n.clear.OneListener Watched.isSalon ↔ _ :=
    oneListener_closed_iff (n := n) rfl fun k salon => live k salon
  have ownMessages : n.clear.OneListener Watched.isMessages ↔
      n.EachListener Watched.isMessages fun k _ => n.streamSubMessage = some k := by
    rw [messages]
    refine forall₃_congr fun k s listens => ?_
    constructor
    · intro fields
      rcases fields with field | field | field
      · cases (listening_of_watched (typed.salon k field) rfl).symm.trans listens
      · exact field
      · cases (listening_of_watched (typed.lastDeleted k field) rfl).symm.trans listens
    · exact fun field => .inr (.inl field)
  have ownSalon : n.clear.OneListener Watched.isSalon ↔
      n.EachListener Watched.isSalon fun k _ => n.streamSubSalon = some k := by
    rw [salon]
    refine forall₃_congr fun k s listens => ?_
    constructor
    · intro fields
      rcases fields with field | field | field
      · exact field
      · obtain ⟨limit, watches⟩ := typed.message k field
        cases (listening_of_watched watches rfl).symm.trans listens
      · cases (listening_of_watched (typed.lastDeleted k field) rfl).symm.trans listens
    · exact fun field => .inl field
  constructor
  · exact fun after => ⟨ownMessages.mp after.messages, ownSalon.mp after.salon⟩
  · exact fun both => ⟨ownMessages.mpr both.1, ownSalon.mpr both.2⟩

omit typed in
/-- Of the two new subscriptions one is a listener to the salon. -/
theorem oneSalon_initListen_iff (one : n.OneSalon) (idSalon : SalonId) :
    (n.initListen idSalon).OneSalon ↔
      n.EachListener Watched.isSalon (fun _ _ => False) ∧ n.idSalon = some idSalon := by
  have first {kind : Watched → Bool} (other : kind .lastDeletedCompos = false) (k : Nat) :
      (n.listen .lastDeletedCompos (some idSalon)).listening kind k = n.listening kind k := by
    refine (ofLive_listen _ n .lastDeletedCompos (some idSalon) k).trans ?_
    split
    case isTrue next =>
      rw [next]
      exact (if_neg (by rw [other]; exact Bool.false_ne_true)).trans n.listening_next.symm
    case isFalse => rfl
  have second (kind : Watched → Bool) (k : Nat) : (n.initListen idSalon).listening kind k =
      if k = n.subscriptions.next + 1 then if kind .salon then some (some idSalon) else none
      else (n.listen .lastDeletedCompos (some idSalon)).listening kind k :=
    ofLive_listen _ (n.listen .lastDeletedCompos (some idSalon)) .salon (some idSalon) k
  have absent : n.listening Watched.isSalon (n.subscriptions.next + 1) = none :=
    (first rfl _).symm.trans (n.listen .lastDeletedCompos (some idSalon)).listening_next
  have salon : (n.initListen idSalon).OneListener Watched.isSalon ↔
      n.EachListener Watched.isSalon (fun _ _ => False) ∧
        (n.initListen idSalon).IsOpen (some idSalon) := by
    refine oneListener_add_iff absent fun k => ?_
    rw [second, first rfl]
    rfl
  have messages : (n.initListen idSalon).OneListener Watched.isMessages := by
    refine one.messages.of_fewer rfl fun k salon live => ?_
    rw [second] at live
    split at live
    case isTrue => cases live
    case isFalse =>
      rw [first rfl] at live
      exact live
  rw [isOpen_iff] at salon
  constructor
  · exact fun after => salon.mp after.salon
  · exact fun both => ⟨messages, salon.mpr both⟩

end Calls

end SalonNotifier

/-! ## Runs -/

namespace Screen

variable {myUid : UserId} {t : Screen}

/-- What holds between two calls. -/
structure Invariant (t : Screen) : Prop where
  typed : t.chat.salon.Typed
  one : t.chat.salon.OneSalon

/-- The notifier after a delivery. -/
theorem salon_deliver (c : Chat) (k : Nat) (docs : Collection String MessageModel) :
    (c.deliver myUid k docs).salon = c.salon ∨
      ∃ window, (c.deliver myUid k docs).salon = c.salon.delivered k window := by
  unfold Chat.deliver
  split
  case _ limit last live =>
    right
    exact ⟨latest limit docs, Chat.salon_handleChange ..⟩
  case _ => exact .inl rfl

theorem typed_step (typed : t.chat.salon.Typed) (call : ScreenCall) :
    (t.step myUid call).chat.salon.Typed := by
  cases call with
  | messagesInit => exact typed
  | init idSalon =>
      have opened : ({ t.chat.salon with limit := 20, idSalon := some idSalon } :
          SalonNotifier).Typed := ⟨typed.salon, typed.lastDeleted, typed.message⟩
      exact opened.cancel _
  | initMessages salonId => exact typed.listenMessages (some salonId)
  | loadMore =>
      have more : ({ t.chat.salon with limit := t.chat.salon.limit + 20 } :
          SalonNotifier).Typed := ⟨typed.salon, typed.lastDeleted, typed.message⟩
      exact (more.cancel _).listenMessages _
  | pauseListeners =>
      have cancelled := typed.cancel t.chat.salon.streamSubMessage
      exact ⟨cancelled.salon, cancelled.lastDeleted, fun _ field => by cases field⟩
  | resumeListeners =>
      change t.chat.salon.resumeListeners.Typed
      unfold SalonNotifier.resumeListeners
      split
      · exact typed.listenMessages _
      · exact typed
  | removeListnerToSalon => exact typed.cancel _
  | clear =>
      constructor
      case salon => exact fun _ field => by cases field
      case lastDeleted => exact fun _ field => by cases field
      case message => exact fun _ field => by cases field
  | goOn i =>
      unfold step
      dsimp only
      split
      case _ => exact typed
      case _ method _ =>
        cases method with
        | initSalon idSalon => exact typed.cancel _
        | initLastDeleted idSalon => exact typed.initListen idSalon
        | removeListnerToSalon =>
            exact ⟨typed.salon, typed.lastDeleted, fun _ field => by cases field⟩
  | deliver k docs =>
      change (t.chat.deliver myUid k docs).salon.Typed
      have after : (t.chat.deliver myUid k docs).salon = _ ∨ _ := salon_deliver t.chat k docs
      rcases after with same | ⟨window, delivered⟩
      · rw [same]
        exact typed
      · rw [delivered]
        exact typed.delivered k window

/-- Where one salon is open, a call keeps that exactly when it finds what it must. -/
theorem oneSalon_step_iff (invariant : Invariant t) (call : ScreenCall) :
    (t.step myUid call).chat.salon.OneSalon ↔ call.Clean t := by
  obtain ⟨typed, one⟩ := invariant
  cases call with
  | messagesInit => exact iff_of_true one trivial
  | init idSalon => exact SalonNotifier.oneSalon_init_iff typed one idSalon
  | initMessages salonId => exact SalonNotifier.oneSalon_initMessages_iff one salonId
  | loadMore => exact SalonNotifier.oneSalon_loadMore_iff one
  | pauseListeners =>
      have cancelled := one.cancel t.chat.salon.streamSubMessage
      refine iff_of_true ?_ trivial
      exact ⟨⟨cancelled.messages.one, cancelled.messages.opened⟩,
        ⟨cancelled.salon.one, cancelled.salon.opened⟩⟩
  | resumeListeners => exact SalonNotifier.oneSalon_resumeListeners_iff one
  | removeListnerToSalon => exact iff_of_true (one.cancel _) trivial
  | clear => exact SalonNotifier.oneSalon_clear_iff typed
  | goOn i =>
      unfold step ScreenCall.Clean
      dsimp only
      cases t.suspended[i]? with
      | none => exact iff_of_true one fun _ absent => by cases absent
      | some method =>
          cases method with
          | initSalon idSalon =>
              exact iff_of_true (one.cancel _) fun _ absent => by cases absent
          | initLastDeleted idSalon =>
              refine (SalonNotifier.oneSalon_initListen_iff one idSalon).trans ?_
              constructor
              · intro both idSalon' eq
                cases eq
                exact both
              · exact fun all => all idSalon rfl
          | removeListnerToSalon =>
              refine iff_of_true ?_ fun _ absent => by cases absent
              exact ⟨⟨one.messages.one, one.messages.opened⟩,
                ⟨one.salon.one, one.salon.opened⟩⟩
  | deliver k docs =>
      refine iff_of_true ?_ trivial
      change (t.chat.deliver myUid k docs).salon.OneSalon
      have after : (t.chat.deliver myUid k docs).salon = _ ∨ _ := salon_deliver t.chat k docs
      rcases after with same | ⟨window, delivered⟩
      · rw [same]
        exact one
      · rw [delivered]
        have fewer {kind : Watched → Bool} (j : Nat) (salon : Option SalonId)
            (live : (t.chat.salon.delivered k window).listening kind j = some salon) :
            t.chat.salon.listening kind j = some salon := by
          rw [SalonNotifier.listening_delivered] at live
          exact live
        exact ⟨one.messages.of_fewer rfl fewer, one.salon.of_fewer rfl fewer⟩

/-- What reaches the map is of the open salon, as long as one salon is open at a time. -/
theorem fromOpen (invariant : Invariant t) (call : ScreenCall) : call.FromOpen t := by
  cases call with
  | deliver k docs => exact invariant.one.messages.opened k
  | _ => trivial

theorem invariant_fresh : Invariant {} := by
  have silent (kind : Watched → Bool) : ({} : SalonNotifier).OneListener kind := by
    constructor
    case one => exact fun _ _ live => by cases live
    case opened => exact fun _ _ live => by cases live
  refine ⟨?_, silent _, silent _⟩
  constructor
  case salon => exact fun _ field => by cases field
  case lastDeleted => exact fun _ field => by cases field
  case message => exact fun _ field => by cases field

/-- **In every state of a run at most one subscription to messages and one to a salon are not
cancelled, for the open salon, and only its messages reach the map, exactly when each call finds
what it must.** -/
theorem oneSalon_iff (myUid : UserId) (calls : List ScreenCall) :
    (∀ t, Reached (Screen.step myUid) {} calls t → t.chat.salon.OneSalon) ∧
        Along (Screen.step myUid) (fun t call => call.FromOpen t) {} calls ↔
      Along (Screen.step myUid) (fun t call => call.Clean t) {} calls := by
  have kept : Along (Screen.step myUid)
        (fun t call => (Screen.step myUid t call).chat.salon.OneSalon ∧ call.FromOpen t) {} calls ↔
      Along (Screen.step myUid) (fun t call => call.Clean t) {} calls :=
    along_iff_along (P := Invariant)
      (fun _ call invariant sound => ⟨typed_step invariant.typed call, sound.1⟩)
      (fun _ call invariant =>
        (and_iff_left (fromOpen invariant call)).trans (oneSalon_step_iff invariant call))
      invariant_fresh
  rw [← kept, Along.and_iff]
  refine and_congr ?_ Iff.rfl
  rw [all_reached_iff (P := fun t : Screen => t.chat.salon.OneSalon)]
  exact and_iff_right invariant_fresh.one

end Screen

/-- Two taps of the row of a salon, before the chat page is there. -/
def rowContactTwice : List ScreenCall :=
  [.messagesInit, .init "s", .initMessages "s", .messagesInit, .init "s", .initMessages "s"]

theorem rowContactTwice_two :
    ¬ ((∀ t, Reached (Screen.step "u") {} rowContactTwice t → t.chat.salon.OneSalon) ∧
      Along (Screen.step "u") (fun t call => call.FromOpen t) {} rowContactTwice) := by
  intro both
  have last := (both.1 _ (.run _ _)).messages.one
  have same := last 0 (some "s") (by decide) 1 (some "s") (by decide)
  cases same

end TwoGather
