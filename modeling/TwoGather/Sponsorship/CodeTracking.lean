import TwoGather.Lib.Runs
import TwoGather.Sponsorship.Codes

/-!
# The `code` collection and the users it refers to

Runs of sign-ups, deletions and deliveries of the two triggers, as `index.ts` wires them:
both fire when a document of `users` is created. `onUserDeleted` therefore finds no code
in its snapshot and removes nothing, and each delivery of `onUserCreated` that still finds
its user gives it one more code. Once all deliveries have been processed, `code` tracks the
users exactly when no document that has received its code was deleted or reached by a second
delivery (`codes_tracked`).

The measure behind it is `written`, the codes of a user that are listed or about to be.
It never falls, `owed` says how many there should be, and each step keeps the difference
or raises it (`step_surplus`).
-/

namespace TwoGather

open Docs Requests

/-! ## Triggers -/

/-- Which change of `users/{userId}` an event is. -/
inductive EventKind
  | onCreate
  | onDelete
  deriving DecidableEq

/-- A change of a document of `users`, with the data of its snapshot. -/
structure UserEvent where
  kind : EventKind
  user : UserId
  snap : User

inductive Trigger
  | onUserCreated
  | onUserDeleted
  deriving DecidableEq

namespace Trigger

/-- `index.ts`: the trigger for deletions is wired to `onCreate` too. -/
def event : Trigger → EventKind
  | .onUserCreated => .onCreate
  | .onUserDeleted => .onCreate

def handler (e : UserEvent) (uniqueId : String) : Trigger → Firestore Unit
  | .onUserCreated => TwoGather.onUserCreated e.user uniqueId
  | .onUserDeleted => TwoGather.onUserDeleted e.snap

end Trigger

/-- A delivery of an event to a trigger, and what is left of the handler's run. -/
structure Delivery where
  number : Nat
  event : UserEvent
  trigger : Trigger
  begun : Bool
  left : Firestore Unit

/-- The database, all events so far and all deliveries so far. -/
structure TriggerScene where
  store : Store
  events : List UserEvent
  deliveries : List Delivery

/-- Delivery `k` has made a request, which left this store and this rest of its run. -/
def TriggerScene.goOn (t : TriggerScene) (k : Nat) (d : Delivery) (store : Store)
    (left : Firestore Unit) : TriggerScene :=
  { t with store, deliveries := t.deliveries.set k { d with begun := true, left } }

inductive TriggerMove
  | signUp (u : UserId)
  | deleteUser (u : UserId)
  | deliver (number : Nat) (trigger : Trigger) (uniqueId : String)
  | proceed (k : Nat)

/-- The user has received a code. -/
def Store.hasCode (s : Store) (u : UserId) : Bool :=
  (optional User.personnalTrustCode (s.user u)).get?.isSome

namespace TriggerMove

def step (t : TriggerScene) : TriggerMove → TriggerScene
  | .signUp u =>
      match t.store.user u with
      | some _ => t
      | none =>
          { t with
            store := ((setUser u newUser).exec t.store).2
            events := t.events ++ [{ kind := .onCreate, user := u, snap := newUser }] }
  | .deleteUser u =>
      match t.store.user u with
      | some data =>
          { t with
            store := ((TwoGather.deleteUser u).exec t.store).2
            events := t.events ++ [{ kind := .onDelete, user := u, snap := data }] }
      | none => t
  | .deliver number trigger uniqueId =>
      match t.events[number]? with
      | some event =>
          if trigger.event = event.kind then
            { t with
              deliveries := t.deliveries ++
                [{ number, event, trigger, begun := false
                   left := trigger.handler event uniqueId }] }
          else t
      | none => t
  | .proceed k =>
      match t.deliveries[k]? with
      | some d =>
          match d.left with
          | .done _ => t
          | .step act next => t.goOn k d (act t.store) (next t.store)
      | none => t

/-- The move does not delete a document that has received its code, nor give it another one. -/
def Ok (t : TriggerScene) : TriggerMove → Prop
  | .deleteUser u => t.store.hasCode u = false
  | .proceed k =>
      ∀ d ∈ t.deliveries[k]?, d.trigger = .onUserCreated → d.begun = false →
        t.store.hasCode d.event.user = false
  | _ => True

instance (t : TriggerScene) : (move : TriggerMove) → Decidable (move.Ok t)
  | .deleteUser _ => inferInstanceAs (Decidable (_ = _))
  | .proceed k => inferInstanceAs (Decidable (∀ d ∈ t.deliveries[k]?,
      d.trigger = .onUserCreated → d.begun = false → t.store.hasCode d.event.user = false))
  | .signUp _ | .deliver _ _ _ => .isTrue trivial

end TriggerMove

/-- Every event has been delivered to each trigger that is wired to it, and all deliveries
have been processed. -/
structure AllDelivered (t : TriggerScene) : Prop where
  delivered : ∀ number event trigger, t.events[number]? = some event →
    Trigger.event trigger = event.kind →
    ∃ d ∈ t.deliveries, d.number = number ∧ d.trigger = trigger
  processed : ∀ d ∈ t.deliveries, ∃ outcome, d.left = .done outcome

/-- The documents of `code` that refer to the user. -/
def Store.codesOf (s : Store) (u : UserId) : List TrustCode :=
  (s.codes.docs.map Prod.snd).filter fun code => code.user = u

/-- Every user has exactly one code, its own, and no code is that of a missing user. -/
structure TracksUsers (s : Store) : Prop where
  one : ∀ u data, s.user u = some data →
    ∃ code, data.personnalTrustCode = .value code ∧ s.codesOf u = [{ code, user := u }]
  noGhost : ∀ doc ∈ s.codes.docs, (s.user doc.2.user).isSome

/-! ## The invariant -/

/-- The delivery is about to list a code for the user. -/
def Delivery.Lists (d : Delivery) (u : UserId) : Prop :=
  d.begun = true ∧ ∃ code, d.left = addCode { code, user := u }

/-- Where a delivery stands. -/
def Delivery.Stands (d : Delivery) : Prop :=
  match d.trigger with
  | .onUserCreated =>
      (d.begun = false ∧ ∃ uniqueId, d.left = onUserCreated d.event.user uniqueId) ∨
        (d.begun = true ∧ (d.Lists d.event.user ∨ ∃ outcome, d.left = .done outcome))
  | .onUserDeleted => ∃ outcome, d.left = .done outcome

/-- A delivery of `onUserCreated` that has begun stands before its code, or is done. -/
theorem Delivery.stands_of_begun {d : Delivery} (trigger : d.trigger = .onUserCreated)
    (begun : d.begun = true) (left : d.Lists d.event.user ∨ ∃ outcome, d.left = .done outcome) :
    d.Stands := by
  unfold Stands
  rw [trigger]
  exact .inr ⟨begun, left⟩

/-- What holds in every run: deliveries are of events that happened, a code that a user has
received is listed or about to be, and a user without a code was created by an event that
`onUserCreated` has yet to begin on. -/
structure TriggerInvariant (t : TriggerScene) : Prop where
  events : ∀ d ∈ t.deliveries, t.events[d.number]? = some d.event
  snaps : ∀ e ∈ t.events, e.kind = .onCreate → e.snap = newUser
  stands : ∀ d ∈ t.deliveries, d.Stands
  coded : ∀ u code, optional User.personnalTrustCode (t.store.user u) = .value code →
    { code, user := u } ∈ t.store.codesOf u ∨
      ∃ d ∈ t.deliveries, d.begun = true ∧ d.left = addCode { code, user := u }
  fresh : ∀ u, (t.store.user u).isSome → t.store.hasCode u = false →
    ∃ number e, t.events[number]? = some e ∧ e.kind = .onCreate ∧ e.user = u ∧
      ∀ d ∈ t.deliveries, d.number = number → d.trigger = .onUserCreated → d.begun = false

/-! ## Codes written and codes owed -/

section Listings

open Classical

/-- The deliveries that are about to list a code for the user. -/
noncomputable def listings (deliveries : List Delivery) (u : UserId) : Nat :=
  deliveries.countP fun d => d.Lists u

variable {deliveries : List Delivery} {d e : Delivery} {u : UserId} {k : Nat}

/-- Somebody lists a code for the user. -/
theorem listings_pos (there : d ∈ deliveries) (lists : d.Lists u) : 0 < listings deliveries u :=
  List.countP_pos_iff.mpr ⟨d, there, decide_eq_true lists⟩

/-- One more delivery that lists nothing. -/
theorem listings_append (d : Delivery) (u : UserId) (silent : ¬ d.Lists u) :
    listings (deliveries ++ [d]) u = listings deliveries u := by
  unfold listings
  rw [List.countP_append, List.countP_singleton, if_neg (by simpa using silent), Nat.add_zero]

/-- A delivery that was not about to list a code goes on. -/
theorem listings_set (found : deliveries[k]? = some d) (was : ¬ d.Lists u) :
    listings (deliveries.set k e) u = listings deliveries u + if e.Lists u then 1 else 0 := by
  obtain ⟨bound, rfl⟩ := List.getElem?_eq_some_iff.mp found
  unfold listings
  rw [List.countP_set bound, if_neg (by simpa using was), Nat.sub_zero]
  simp only [decide_eq_true_eq]

/-- A delivery lists its code. -/
theorem listings_set_listed (found : deliveries[k]? = some d) (was : d.Lists u)
    (silent : ¬ e.Lists u) : listings (deliveries.set k e) u + 1 = listings deliveries u := by
  have pos := listings_pos (List.mem_of_getElem? found) was
  obtain ⟨bound, rfl⟩ := List.getElem?_eq_some_iff.mp found
  unfold listings at pos ⊢
  rw [List.countP_set bound, if_pos (by simpa using was), if_neg (by simpa using silent)]
  omega

/-- When all deliveries are done, nobody lists anything. -/
theorem listings_eq_zero (ended : ∀ d ∈ deliveries, ∃ outcome, d.left = .done outcome) :
    listings deliveries u = 0 := by
  apply List.countP_eq_zero.mpr
  intro d there lists
  obtain ⟨-, code, left⟩ := of_decide_eq_true lists
  obtain ⟨outcome, done⟩ := ended d there
  rw [done] at left
  cases left

end Listings

/-- The codes of a user that are listed or about to be. -/
noncomputable def TriggerScene.written (t : TriggerScene) (u : UserId) : Nat :=
  (t.store.codesOf u).length + listings t.deliveries u

/-- The number of codes a user should have. -/
def TriggerScene.owed (t : TriggerScene) (u : UserId) : Nat :=
  if t.store.hasCode u then 1 else 0

/-- A code that a user has received is written. -/
theorem TriggerInvariant.owed_le {t : TriggerScene} (invariant : TriggerInvariant t) (u : UserId) :
    t.owed u ≤ t.written u := by
  unfold TriggerScene.owed TriggerScene.written
  split
  case isFalse => exact Nat.zero_le _
  case isTrue has =>
    obtain ⟨code, found⟩ := Option.isSome_iff_exists.mp has
    rcases invariant.coded u code (Stored.get?_eq_some.mp found) with listed | ⟨d, there, lists⟩
    · have := List.length_pos_of_mem listed
      omega
    · have := listings_pos there ⟨lists.1, code, lists.2⟩
      omega

/-- A listing is of one code. -/
theorem addCode_inj {a b : TrustCode} (eq : addCode a = addCode b) : a = b := by
  obtain ⟨act, -⟩ := Program.step.inj eq
  have docs := congrArg (fun s : Store => s.codes.docs)
    (congrFun act (Store.ofUsers ⟨[], List.nodup_nil⟩))
  exact congrArg Prod.snd (List.cons.inj docs).1

/-- A delivery before its last request lists a code for its user. -/
theorem Delivery.lists_addCode {d : Delivery} {code : String} {u v : UserId}
    (begun : d.begun = true) (left : d.left = addCode { code, user := u }) : d.Lists v ↔ v = u := by
  constructor
  · intro lists
    obtain ⟨-, other, eq⟩ := lists
    rw [left] at eq
    exact (congrArg TrustCode.user (addCode_inj eq)).symm
  · intro same
    exact ⟨begun, code, by rw [same]; exact left⟩

/-- A delivery that is done lists nothing. -/
theorem Delivery.not_lists_done {d : Delivery} {outcome : Except Err Unit} (u : UserId)
    (left : d.left = .done outcome) : ¬ d.Lists u := by
  intro lists
  obtain ⟨-, code, eq⟩ := lists
  rw [left] at eq
  cases eq

/-- Nor does one that has not begun. -/
theorem Delivery.not_lists_of_first {d : Delivery} (u : UserId) (first : d.begun = false) :
    ¬ d.Lists u := by
  intro lists
  obtain ⟨begun, -⟩ := lists
  rw [first] at begun
  cases begun

/-! ### Codes after a write -/

section Codes

variable {s : Store} {u : UserId} (v : UserId)

/-- Who has no document has no code. -/
theorem Store.hasCode_of_none (missing : s.user u = none) : s.hasCode u = false := by
  unfold hasCode
  rw [missing]
  rfl

/-- After the first request the user has a code. -/
theorem Store.hasCode_code (exist : (s.user u).isSome) (code : String) :
    (s.updateUser u ({ · with personnalTrustCode := .value code })).hasCode v =
      (decide (v = u) || s.hasCode v) := by
  obtain ⟨data, found⟩ := Option.isSome_iff_exists.mp exist
  unfold hasCode
  rw [user_updateUser]
  by_cases same : v = u
  · subst same
    simp [found, optional]
  · simp [same]

/-- A new user has no code. -/
theorem Store.hasCode_setUser (missing : s.user u = none) :
    ((setUser u newUser).exec s).2.hasCode v = s.hasCode v := by
  have users : ((setUser u newUser).exec s).2.user v = if v = u then some newUser else s.user v :=
    Collection.get?_set s.users u v newUser
  unfold hasCode
  rw [users]
  split
  case isTrue same =>
    rw [same, missing]
    rfl
  case isFalse => rfl

/-- A deleted user has no code, and the others keep theirs. -/
theorem Store.hasCode_deleteUser :
    ((deleteUser u).exec s).2.hasCode v = (decide (v ≠ u) && s.hasCode v) := by
  have users : ((deleteUser u).exec s).2.user v = if v = u then none else s.user v :=
    Collection.get?_delete s.users u v
  unfold hasCode
  rw [users]
  by_cases same : v = u
  · simp [same, optional]
  · simp [same]

/-- A new code belongs to its user. -/
theorem Store.codesOf_add (trustCode : TrustCode) :
    ({ s with codes := s.codes.add trustCode } : Store).codesOf v =
      s.codesOf v ++ [trustCode].filter (·.user = v) := by
  unfold codesOf
  rw [AutoCollection.docs_add, List.map_append, List.filter_append]
  rfl

/-- So its user has one more. -/
theorem Store.length_codesOf_add (code : String) :
    (({ s with codes := s.codes.add { code, user := u } } : Store).codesOf v).length =
      (s.codesOf v).length + if v = u then 1 else 0 := by
  rw [codesOf_add, List.length_append]
  by_cases same : v = u
  · simp [same]
  · simp [same, Ne.symm same]

end Codes

/-! ## What each move does -/

section Moves

variable {t : TriggerScene}

/-- What a request of a delivery does: its handler has nothing left; it does not find the user;
it gives the user a code; or it lists the code. -/
inductive Proceeds (t : TriggerScene) (k : Nat) : TriggerScene → Prop
  | idle (ok : (TriggerMove.proceed k).Ok t) : Proceeds t k t
  | missed {d : Delivery} (found : t.deliveries[k]? = some d)
      (trigger : d.trigger = .onUserCreated) (first : d.begun = false)
      (gone : t.store.user d.event.user = none) :
      Proceeds t k (t.goOn k d t.store (throw .notFound))
  | coded {d : Delivery} (code : String) (found : t.deliveries[k]? = some d)
      (trigger : d.trigger = .onUserCreated) (first : d.begun = false)
      (exist : (t.store.user d.event.user).isSome) :
      Proceeds t k
        (t.goOn k d (t.store.updateUser d.event.user ({ · with personnalTrustCode := .value code }))
          (addCode { code, user := d.event.user }))
  | listed {d : Delivery} (code : String) (found : t.deliveries[k]? = some d)
      (trigger : d.trigger = .onUserCreated) (begun : d.begun = true)
      (left : d.left = addCode { code, user := d.event.user }) :
      Proceeds t k
        (t.goOn k d { t.store with codes := t.store.codes.add { code, user := d.event.user } }
          (pure ()))

/-- A move of a delivery makes its next request. -/
theorem step_proceed {k : Nat} {d : Delivery} {act : Store → Store}
    {next : Store → Firestore Unit} (found : t.deliveries[k]? = some d)
    (left : d.left = .step act next) :
    TriggerMove.step t (.proceed k) = t.goOn k d (act t.store) (next t.store) := by
  simp only [TriggerMove.step, found, left]

/-- What a move of a delivery can do, in cases. -/
theorem TriggerInvariant.proceeds (invariant : TriggerInvariant t) (k : Nat) :
    Proceeds t k (TriggerMove.step t (.proceed k)) := by
  cases found : t.deliveries[k]? with
  | none =>
      have same : TriggerMove.step t (.proceed k) = t := by
        simp only [TriggerMove.step, found]
      rw [same]
      refine .idle fun d there => ?_
      rw [found] at there
      cases there
  | some d =>
      have stands := invariant.stands d (List.mem_of_getElem? found)
      unfold Delivery.Stands at stands
      have ended : ∀ outcome, d.left = .done outcome →
          (d.trigger = .onUserCreated → d.begun = true) →
            Proceeds t k (TriggerMove.step t (.proceed k)) := by
        intro outcome left begun
        have same : TriggerMove.step t (.proceed k) = t := by
          simp only [TriggerMove.step, found, left]
        rw [same]
        refine .idle fun e there trigger first => ?_
        rw [found] at there
        cases there
        rw [begun trigger] at first
        cases first
      cases trigger : d.trigger with
      | onUserDeleted =>
          rw [trigger] at stands
          obtain ⟨outcome, left⟩ := stands
          exact ended outcome left (by rw [trigger]; nofun)
      | onUserCreated =>
          rw [trigger] at stands
          rcases stands with ⟨first, code, left⟩ | ⟨begun, ⟨-, code, left⟩ | ⟨outcome, left⟩⟩
          · have request : d.left =
                .step (·.updateUser d.event.user ({ · with personnalTrustCode := .value code }))
                  fun s =>
                    (if (s.user d.event.user).isSome then pure () else throw .notFound) >>=
                      fun _ => addCode { code, user := d.event.user } := left
            rw [step_proceed found request]
            cases exist : t.store.user d.event.user with
            | none =>
                rw [Store.updateUser_of_none exist]
                exact .missed found trigger first exist
            | some data => exact .coded code found trigger first (by rw [exist]; rfl)
          · rw [step_proceed found left]
            exact .listed code found trigger begun left
          · exact ended outcome left fun _ => begun

/-- A step leaves at least as many codes too many as there were. -/
structure Surplus (t t' : TriggerScene) (ok : Prop) : Prop where
  le : ∀ v, t.written v + t'.owed v ≤ t'.written v + t.owed v
  exact : ok ↔ ∀ v, t'.written v + t.owed v = t.written v + t'.owed v

/-- A move that changes neither what is written nor what is owed. -/
theorem Surplus.of_same {t' : TriggerScene} {ok : Prop} (written : ∀ v, t'.written v = t.written v)
    (owed : ∀ v, t'.owed v = t.owed v) (holds : ok) : Surplus t t' ok where
  le v := by rw [written, owed]
  exact := iff_of_true holds fun v => by rw [written, owed]

/-- A step that concerns one user alone, and owes afterwards what it has written. -/
theorem Surplus.of_one {t' : TriggerScene} {ok : Prop} {u : UserId} {w : Nat}
    (written : ∀ v, t'.written v = t.written v + if v = u then w else 0)
    (owed : ∀ v, t'.owed v = if v = u then w else t.owed v) (free : ok ↔ t.owed u = 0) :
    Surplus t t' ok := by
  refine ⟨fun v => ?_, free.trans ⟨fun none v => ?_, fun all => ?_⟩⟩
  · rw [written, owed]
    split
    case isTrue => omega
    case isFalse => omega
  · rw [written, owed]
    split
    case isTrue same =>
      subst same
      omega
    case isFalse => omega
  · have mine := all u
    rw [written, owed, if_pos rfl, if_pos rfl] at mine
    omega

/-- Exactly a user without a code counts for nothing. -/
theorem hasCode_iff_owed (t : TriggerScene) (u : UserId) :
    t.store.hasCode u = false ↔ t.owed u = 0 := by
  unfold TriggerScene.owed
  cases t.store.hasCode u with
  | true => simp
  | false => simp

/-- What is written after a request of a delivery. -/
theorem written_goOn {k : Nat} {d : Delivery} {store : Store} {left : Firestore Unit} {v : UserId} :
    (t.goOn k d store left).written v =
      (store.codesOf v).length + listings (t.deliveries.set k { d with begun := true, left }) v :=
  rfl

/-- A request writes too much exactly if its user has a code already. -/
theorem Proceeds.surplus {k : Nat} {t' : TriggerScene} (proceeds : Proceeds t k t') :
    Surplus t t' ((TriggerMove.proceed k).Ok t) := by
  cases proceeds with
  | idle ok => exact .of_same (fun _ => rfl) (fun _ => rfl) ok
  | missed found trigger first gone =>
      refine .of_same (fun v => ?_) (fun _ => rfl) fun d there _ _ => ?_
      · rw [written_goOn, listings_set found (Delivery.not_lists_of_first v first),
          if_neg (Delivery.not_lists_done v rfl)]
        rfl
      · rw [found] at there
        cases there
        exact Store.hasCode_of_none gone
  | @coded d code found trigger first exist =>
      let u := d.event.user
      let t' := t.goOn k d (t.store.updateUser u ({ · with personnalTrustCode := .value code }))
        (addCode { code, user := u })
      have written : ∀ v, t'.written v = t.written v + if v = u then 1 else 0 := by
        intro v
        rw [written_goOn, listings_set found (Delivery.not_lists_of_first v first), ← Nat.add_assoc]
        congr 1
        by_cases same : v = u
        · rw [if_pos ((Delivery.lists_addCode rfl rfl).mpr same), if_pos same]
        · rw [if_neg fun lists => same ((Delivery.lists_addCode rfl rfl).mp lists), if_neg same]
      have owed : ∀ v, t'.owed v = if v = u then 1 else t.owed v := by
        intro v
        have has : t'.store.hasCode v = (decide (v = u) || t.store.hasCode v) :=
          Store.hasCode_code v exist code
        unfold TriggerScene.owed
        rw [has]
        by_cases same : v = u
        · simp [same]
        · simp [same]
      have mine : (TriggerMove.proceed k).Ok t ↔ t.store.hasCode u = false := by
        constructor
        · exact fun all => all d (by rw [found]; rfl) trigger first
        · intro none e there _ _
          rw [found] at there
          cases there
          exact none
      exact .of_one written owed (mine.trans (hasCode_iff_owed t u))
  | @listed d code found trigger begun left =>
      refine .of_same (fun v => ?_) (fun _ => rfl) fun e there _ first => ?_
      · rw [written_goOn, Store.length_codesOf_add, TriggerScene.written]
        by_cases same : v = d.event.user
        · have := listings_set_listed found ((Delivery.lists_addCode begun left).mpr same)
            (e := { d with begun := true, left := pure () }) (Delivery.not_lists_done v rfl)
          rw [if_pos same]
          omega
        · rw [if_neg same, listings_set found
            (fun lists => same ((Delivery.lists_addCode begun left).mp lists)),
            if_neg (Delivery.not_lists_done v rfl)]
          rfl
      · rw [found] at there
        cases there
        rw [begun] at first
        cases first

/-- Every move keeps the codes too many, or raises their number when it is not `Ok`. -/
theorem TriggerInvariant.surplus (invariant : TriggerInvariant t) (move : TriggerMove) :
    Surplus t (move.step t) (move.Ok t) := by
  cases move with
  | signUp u =>
      cases missing : t.store.user u with
      | some data =>
          simp only [TriggerMove.step, missing]
          exact .of_same (fun _ => rfl) (fun _ => rfl) trivial
      | none =>
          simp only [TriggerMove.step, missing]
          refine .of_same (fun _ => rfl) (fun v => ?_) trivial
          unfold TriggerScene.owed
          rw [Store.hasCode_setUser v missing]
  | deleteUser u =>
      cases found : t.store.user u with
      | none =>
          simp only [TriggerMove.step, found]
          exact .of_same (fun _ => rfl) (fun _ => rfl) (Store.hasCode_of_none found)
      | some data =>
          simp only [TriggerMove.step, found]
          have owed : ∀ v, TriggerScene.owed
              { t with
                store := ((deleteUser u).exec t.store).2
                events := t.events ++ [{ kind := .onDelete, user := u, snap := data }] } v =
              if v = u then 0 else t.owed v := by
            intro v
            unfold TriggerScene.owed
            rw [Store.hasCode_deleteUser]
            by_cases same : v = u
            · simp [same]
            · simp [same]
          refine .of_one (fun v => ?_) owed (hasCode_iff_owed t u)
          rw [ite_self]
          rfl
  | deliver number trigger uniqueId =>
      refine .of_same (fun v => ?_) (fun v => ?_) trivial
      · simp only [TriggerMove.step]
        split
        · split
          · unfold TriggerScene.written
            rw [listings_append _ v (Delivery.not_lists_of_first v rfl)]
          · rfl
        · rfl
      · simp only [TriggerMove.step]
        split
        · split
          · rfl
          · rfl
        · rfl
  | proceed k => exact (invariant.proceeds k).surplus

end Moves

/-! ## The moves keep the invariant -/

section Keep

variable {t : TriggerScene}

theorem getElem?_append_of_eq_some {α : Type} {xs : List α} {n : Nat} {x : α}
    (found : xs[n]? = some x) (ys : List α) : (xs ++ ys)[n]? = some x := by
  obtain ⟨bound, -⟩ := List.getElem?_eq_some_iff.mp found
  rw [List.getElem?_append_left bound]
  exact found

theorem mem_set_of_ne {α : Type} {xs : List α} {k : Nat} {x y z : α} (listed : x ∈ xs)
    (found : xs[k]? = some y) (ne : x ≠ y) : x ∈ xs.set k z := by
  obtain ⟨j, here⟩ := List.mem_iff_getElem?.mp listed
  have other : k ≠ j := by
    intro same
    rw [same, here] at found
    exact ne (Option.some.inj found)
  exact List.mem_iff_getElem?.mpr ⟨j, by rw [List.getElem?_set_ne other]; exact here⟩

/-- An event changes no delivery, and what it writes has no code. -/
theorem TriggerInvariant.happen (invariant : TriggerInvariant t) {store : Store} {e : UserEvent}
    (snap : e.kind = .onCreate → e.snap = newUser) (codes : store.codes = t.store.codes)
    (users : ∀ v, store.user v = t.store.user v ∨
      v = e.user ∧ (e.kind = .onDelete ∧ store.user v = none ∨
        e.kind = .onCreate ∧ store.user v = some newUser)) :
    TriggerInvariant { t with store := store, events := t.events ++ [e] } where
  events d there := getElem?_append_of_eq_some (invariant.events d there) _
  snaps e' listed created := by
    rcases List.mem_append.mp listed with old | new
    · exact invariant.snaps e' old created
    · rw [List.mem_singleton.mp new] at created ⊢
      exact snap created
  stands := invariant.stands
  coded v code has := by
    have old : store.codesOf v = t.store.codesOf v := by
      unfold Store.codesOf
      rw [codes]
    rcases users v with same | ⟨-, ⟨-, gone⟩ | ⟨-, new⟩⟩
    · rw [same] at has
      rw [old]
      exact invariant.coded v code has
    · rw [gone] at has
      cases has
    · rw [new] at has
      cases has
  fresh v exist none := by
    rcases users v with same | ⟨mine, ⟨-, gone⟩ | ⟨created, -⟩⟩
    · rw [same] at exist
      have none' : t.store.hasCode v = false := by
        unfold Store.hasCode at none ⊢
        rwa [← same]
      obtain ⟨number, e', found, kind, user, untouched⟩ := invariant.fresh v exist none'
      exact ⟨number, e', getElem?_append_of_eq_some found _, kind, user, untouched⟩
    · rw [gone] at exist
      cases exist
    · -- no delivery is of the event that has just happened
      refine ⟨t.events.length, e, List.getElem?_concat_length, created, mine.symm, ?_⟩
      intro d there number _
      have bound := (List.getElem?_eq_some_iff.mp (invariant.events d there)).1
      omega

/-- A new delivery keeps the invariant. -/
theorem TriggerInvariant.deliver (invariant : TriggerInvariant t) {number : Nat} {event : UserEvent}
    {trigger : Trigger} (found : t.events[number]? = some event)
    (wired : trigger.event = event.kind) (uniqueId : String) :
    TriggerInvariant
      { t with
        deliveries := t.deliveries ++
          [{ number, event, trigger, begun := false, left := trigger.handler event uniqueId }] } where
  events d there := by
    rcases List.mem_append.mp there with old | new
    · exact invariant.events d old
    · rw [List.mem_singleton.mp new]
      exact found
  snaps := invariant.snaps
  stands d there := by
    rcases List.mem_append.mp there with old | new
    · exact invariant.stands d old
    · rw [List.mem_singleton.mp new]
      cases trigger with
      | onUserCreated => exact .inl ⟨rfl, uniqueId, rfl⟩
      | onUserDeleted =>
          -- the snapshot of a new user has no code, so the query is refused
          have snap := invariant.snaps event (List.mem_of_getElem? found) wired.symm
          refine ⟨.error .invalidArgument, ?_⟩
          simp only [Trigger.handler, snap]
          rfl
  coded v code has := by
    rcases invariant.coded v code has with listed | ⟨d, there, lists⟩
    · exact .inl listed
    · exact .inr ⟨d, List.mem_append_left _ there, lists⟩
  fresh v exist none := by
    obtain ⟨n, e, here, kind, user, untouched⟩ := invariant.fresh v exist none
    refine ⟨n, e, here, kind, user, ?_⟩
    intro d there same created
    rcases List.mem_append.mp there with old | new
    · exact untouched d old same created
    · rw [List.mem_singleton.mp new]

/-- What is left to show when a delivery has made a request. -/
theorem TriggerInvariant.goOn (invariant : TriggerInvariant t) {k : Nat} {d : Delivery}
    {store : Store} {left : Firestore Unit} (found : t.deliveries[k]? = some d)
    (trigger : d.trigger = .onUserCreated)
    (stands : (∃ code, left = addCode { code, user := d.event.user }) ∨
      ∃ outcome, left = .done outcome)
    (coded : ∀ v code, optional User.personnalTrustCode (store.user v) = .value code →
      { code, user := v } ∈ store.codesOf v ∨
        ∃ e ∈ t.deliveries.set k { d with begun := true, left },
          e.begun = true ∧ e.left = addCode { code, user := v })
    (fresh : ∀ v, (store.user v).isSome → store.hasCode v = false →
      (t.store.user v).isSome ∧ t.store.hasCode v = false ∧
        (d.begun = false → v ≠ d.event.user)) :
    TriggerInvariant (t.goOn k d store left) where
  events e there := by
    rcases List.mem_or_eq_of_mem_set there with old | rfl
    · exact invariant.events e old
    · exact invariant.events d (List.mem_of_getElem? found)
  snaps := invariant.snaps
  stands e there := by
    rcases List.mem_or_eq_of_mem_set there with old | rfl
    · exact invariant.stands e old
    · refine Delivery.stands_of_begun (d := { d with begun := true, left := left }) trigger rfl ?_
      rcases stands with ⟨code, eq⟩ | ended
      · exact .inl ⟨rfl, code, eq⟩
      · exact .inr ended
  coded := coded
  fresh v exist none := by
    obtain ⟨exist', none', other⟩ := fresh v exist none
    obtain ⟨n, e, here, kind, user, untouched⟩ := invariant.fresh v exist' none'
    refine ⟨n, e, here, kind, user, ?_⟩
    intro e' there same created
    rcases List.mem_or_eq_of_mem_set there with old | rfl
    · exact untouched e' old same created
    · -- a delivery of the event that created `v` would be about `v`
      have first := untouched d (List.mem_of_getElem? found) same trigger
      have event := invariant.events d (List.mem_of_getElem? found)
      rw [same, here] at event
      cases event
      exact absurd user.symm (other first)

/-- The first request of a delivery takes no code from those that are about to be listed. -/
theorem TriggerInvariant.coded_of_first (invariant : TriggerInvariant t) {k : Nat}
    {d d' : Delivery} (found : t.deliveries[k]? = some d) (first : d.begun = false) {v : UserId}
    {code : String} (has : optional User.personnalTrustCode (t.store.user v) = .value code) :
    { code, user := v } ∈ t.store.codesOf v ∨
      ∃ e ∈ t.deliveries.set k d', e.begun = true ∧ e.left = addCode { code, user := v } := by
  rcases invariant.coded v code has with listed | ⟨e, there, begun, left⟩
  · exact .inl listed
  · refine .inr ⟨e, mem_set_of_ne there found fun same => ?_, begun, left⟩
    rw [same, first] at begun
    cases begun

/-- So does a request of a delivery. -/
theorem TriggerInvariant.proceed (invariant : TriggerInvariant t) {k : Nat} {t' : TriggerScene}
    (proceeds : Proceeds t k t') : TriggerInvariant t' := by
  cases proceeds with
  | idle => exact invariant
  | @missed d found trigger first gone =>
      refine invariant.goOn found trigger (.inr ⟨_, rfl⟩)
        (fun v code has => invariant.coded_of_first found first has)
        fun v exist none => ⟨exist, none, fun _ same => ?_⟩
      rw [same, gone] at exist
      cases exist
  | @coded d code found trigger first exist =>
      refine invariant.goOn found trigger (.inl ⟨code, rfl⟩) (fun v code' has => ?_)
        fun v exist' none => ?_
      · rw [Store.user_updateUser] at has
        split at has
        case isTrue same =>
          -- the user's new code is the one that this delivery is about to list
          subst same
          obtain ⟨data, stored⟩ := Option.isSome_iff_exists.mp exist
          rw [stored] at has
          cases has
          have bound := (List.getElem?_eq_some_iff.mp found).1
          exact .inr ⟨_, List.mem_iff_getElem?.mpr ⟨k, List.getElem?_set_self bound⟩, rfl, rfl⟩
        case isFalse => exact invariant.coded_of_first found first has
      · rw [Store.hasCode_code v exist] at none
        rw [Store.isSome_updateUser] at exist'
        obtain ⟨other, none⟩ := Bool.or_eq_false_iff.mp none
        exact ⟨exist', none, fun _ => of_decide_eq_false other⟩
  | @listed d code found trigger begun left =>
      refine invariant.goOn found trigger (.inr ⟨_, rfl⟩) (fun v code' has => ?_)
        fun v exist none => ⟨exist, none, fun first => ?_⟩
      · rw [Store.codesOf_add]
        rcases invariant.coded v code' has with listed | ⟨e, there, begun', left'⟩
        · exact .inl (List.mem_append_left _ listed)
        · by_cases same : e = d
          · rw [same, left] at left'
            obtain ⟨rfl, rfl⟩ := TrustCode.mk.inj (addCode_inj left')
            exact .inl (List.mem_append_right _ (by simp))
          · exact .inr ⟨e, mem_set_of_ne there found same, begun', left'⟩
      · rw [begun] at first
        cases first

/-- Every move keeps the invariant. -/
theorem TriggerInvariant.step (invariant : TriggerInvariant t) (move : TriggerMove) :
    TriggerInvariant (move.step t) := by
  cases move with
  | signUp u =>
      cases missing : t.store.user u with
      | some data =>
          simp only [TriggerMove.step, missing]
          exact invariant
      | none =>
          simp only [TriggerMove.step, missing]
          refine invariant.happen (fun _ => rfl) rfl fun v => ?_
          have users : ((setUser u newUser).exec t.store).2.user v =
              if v = u then some newUser else t.store.user v :=
            Collection.get?_set t.store.users u v newUser
          by_cases same : v = u
          · rw [if_pos same] at users
            exact .inr ⟨same, .inr ⟨rfl, users⟩⟩
          · rw [if_neg same] at users
            exact .inl users
  | deleteUser u =>
      cases found : t.store.user u with
      | none =>
          simp only [TriggerMove.step, found]
          exact invariant
      | some data =>
          simp only [TriggerMove.step, found]
          refine invariant.happen nofun rfl fun v => ?_
          have users : ((deleteUser u).exec t.store).2.user v =
              if v = u then none else t.store.user v :=
            Collection.get?_delete t.store.users u v
          by_cases same : v = u
          · rw [if_pos same] at users
            exact .inr ⟨same, .inl ⟨rfl, users⟩⟩
          · rw [if_neg same] at users
            exact .inl users
  | deliver number trigger uniqueId =>
      cases found : t.events[number]? with
      | none =>
          simp only [TriggerMove.step, found]
          exact invariant
      | some event =>
          by_cases wired : trigger.event = event.kind
          · simp only [TriggerMove.step, found, wired, ↓reduceIte]
            exact invariant.deliver found wired uniqueId
          · simp only [TriggerMove.step, found, wired, ↓reduceIte]
            exact invariant
  | proceed k => exact invariant.proceed (invariant.proceeds k)

end Keep

/-! ## When the codes are tracked -/

/-- No user has more codes than it should, listed or about to be. -/
def TriggerScene.Balanced (t : TriggerScene) : Prop :=
  ∀ u, t.written u = t.owed u

section Final

variable {t : TriggerScene} {s : Store}

/-- A tracked database with no deliveries is balanced. -/
theorem TracksUsers.balanced (tracked : TracksUsers t.store)
    (ended : ∀ d ∈ t.deliveries, ∃ outcome, d.left = .done outcome) : t.Balanced := by
  intro u
  unfold TriggerScene.written TriggerScene.owed
  rw [listings_eq_zero ended, Nat.add_zero]
  cases found : t.store.user u with
  | some data =>
      obtain ⟨code, own, one⟩ := tracked.one u data found
      have has : t.store.hasCode u = true := by
        unfold Store.hasCode
        rw [found]
        exact congrArg (fun f => f.get?.isSome) own
      rw [one, has]
      rfl
  | none =>
      have none : t.store.codesOf u = [] := by
        apply List.filter_eq_nil_iff.mpr
        intro code listed same
        obtain ⟨doc, there, rfl⟩ := List.mem_map.mp listed
        have exist := tracked.noGhost doc there
        rw [of_decide_eq_true same, found] at exist
        cases exist
      rw [none, Store.hasCode_of_none found]
      rfl

/-- Once everything has been delivered, a balanced database is tracked. -/
theorem TriggerInvariant.tracked (invariant : TriggerInvariant t) (all : AllDelivered t)
    (balanced : t.Balanced) : TracksUsers t.store where
  one u data found := by
    have silent : listings t.deliveries u = 0 := listings_eq_zero all.processed
    have even := balanced u
    unfold TriggerScene.written TriggerScene.owed at even
    rw [silent, Nat.add_zero] at even
    cases has : t.store.hasCode u with
    | false =>
        obtain ⟨number, e, here, kind, -, untouched⟩ :=
          invariant.fresh u (by rw [found]; rfl) has
        obtain ⟨d, there, same, trigger⟩ := all.delivered number e .onUserCreated here kind.symm
        have first := untouched d there same trigger
        obtain ⟨outcome, done⟩ := all.processed d there
        have stands := invariant.stands d there
        unfold Delivery.Stands at stands
        rw [trigger] at stands
        rcases stands with ⟨-, uniqueId, left⟩ | ⟨begun, -⟩
        · rw [done] at left
          cases left
        · rw [first] at begun
          cases begun
    | true =>
        rw [has] at even
        obtain ⟨code, own⟩ := Option.isSome_iff_exists.mp has
        have value := Stored.get?_eq_some.mp own
        rw [found] at value
        refine ⟨code, value, ?_⟩
        obtain ⟨one, eq⟩ := List.length_eq_one_iff.mp even
        rcases invariant.coded u code (by rw [found]; exact value) with listed | ⟨d, there, _, left⟩
        · rw [eq] at listed ⊢
          rw [List.mem_singleton.mp listed]
        · obtain ⟨outcome, done⟩ := all.processed d there
          rw [done] at left
          cases left
  noGhost doc listed := by
    have silent : listings t.deliveries doc.2.user = 0 := listings_eq_zero all.processed
    have even := balanced doc.2.user
    unfold TriggerScene.written at even
    have mine : doc.2 ∈ t.store.codesOf doc.2.user :=
      List.mem_filter.mpr ⟨List.mem_map_of_mem listed, decide_eq_true rfl⟩
    have pos := List.length_pos_of_mem mine
    cases exist : t.store.user doc.2.user with
    | some data => rfl
    | none =>
        unfold TriggerScene.owed at even
        rw [Store.hasCode_of_none exist] at even
        simp only [Bool.false_eq_true, ↓reduceIte] at even
        omega

/-- Nothing has happened yet. -/
def TriggerScene.start (s : Store) : TriggerScene where
  store := s
  events := []
  deliveries := []

/-- The invariant holds at a start that tracks its users. -/
theorem TracksUsers.invariant (start : TracksUsers s) : TriggerInvariant (.start s) where
  events _ there := absurd there List.not_mem_nil
  snaps _ there := absurd there List.not_mem_nil
  stands _ there := absurd there List.not_mem_nil
  coded u code has := by
    change optional User.personnalTrustCode (s.user u) = _ at has
    cases found : s.user u with
    | none =>
        rw [found] at has
        cases has
    | some data =>
        obtain ⟨code', own, one⟩ := start.one u data found
        rw [found] at has
        obtain rfl := Stored.value.inj (own.symm.trans has)
        exact .inl (one ▸ List.mem_singleton_self _)
  fresh u exist none := by
    change (s.user u).isSome at exist
    change s.hasCode u = false at none
    obtain ⟨data, found⟩ := Option.isSome_iff_exists.mp exist
    obtain ⟨code, own, -⟩ := start.one u data found
    have has : s.hasCode u = true := by
      unfold Store.hasCode
      rw [found]
      exact congrArg (fun f => f.get?.isSome) own
    rw [has] at none
    cases none

end Final

/-- **From a database that tracks its users, once every event has been delivered and processed,
`code` tracks the users exactly when no move of the run deleted a document that had received its
code or gave it another one.** -/
theorem codes_tracked {s : Store} (start : TracksUsers s) {moves : List TriggerMove}
    (all : AllDelivered (run TriggerMove.step (.start s) moves)) :
    TracksUsers (run TriggerMove.step (.start s) moves).store ↔
      Along TriggerMove.step TriggerMove.Ok (.start s) moves := by
  have always : Along TriggerMove.step (fun _ _ => True) (.start s) moves := .trivial _ moves
  have kept := all_reached (fun _ move holds _ => holds.step move) start.invariant always _
    (.run _ moves)
  have balanced : (run TriggerMove.step (.start s) moves).Balanced ↔
      Along TriggerMove.step TriggerMove.Ok (.start s) moves := by
    refine run_iff_along (fun _ move holds _ => holds.step move)
      (fun t move holds _ even => ?_) (fun t move holds _ broken even => ?_) start.invariant
      (TracksUsers.balanced start fun _ there => absurd there List.not_mem_nil) always
    · have surplus := holds.surplus move
      rw [surplus.exact]
      refine forall_congr' fun u => ?_
      have := even u
      omega
    · refine broken fun u => ?_
      have := (holds.surplus move).le u
      have := holds.owed_le u
      have := even u
      omega
  rw [← balanced]
  exact ⟨fun tracked => tracked.balanced all.processed, kept.tracked all⟩

/-! ## A deletion, and a second delivery -/

/-- The first `n` events are delivered and processed, and the later ones are deletions. -/
theorem AllDelivered.of_first {t : TriggerScene} (n : Nat)
    (gone : ∀ e ∈ t.events.drop n, e.kind = .onDelete)
    (delivered : ∀ number < n, ∀ trigger, ∃ d ∈ t.deliveries,
      d.number = number ∧ d.trigger = trigger)
    (processed : ∀ d ∈ t.deliveries, ∃ outcome, d.left = .done outcome) : AllDelivered t where
  delivered number event trigger found wired := by
    by_cases first : number < n
    · exact delivered number first trigger
    · -- no trigger is wired to deletions
      rw [← Nat.add_sub_of_le (Nat.le_of_not_lt first), ← List.getElem?_drop] at found
      rw [gone event (List.mem_of_getElem? found)] at wired
      cases trigger with
      | onUserCreated => cases wired
      | onUserDeleted => cases wired
  processed := processed

/-- The first two deliveries bring the first event to both triggers. -/
theorem bothTriggers {t : TriggerScene} {d d' : Delivery} {later : List Delivery}
    (deliveries : t.deliveries = d :: d' :: later) (first : d.number = 0 ∧ d'.number = 0)
    (triggers : d.trigger = .onUserCreated ∧ d'.trigger = .onUserDeleted) :
    ∀ number < 1, ∀ trigger, ∃ d ∈ t.deliveries, d.number = number ∧ d.trigger = trigger := by
  intro number below trigger
  rw [deliveries, Nat.lt_one_iff.mp below]
  cases trigger with
  | onUserCreated => exact ⟨d, List.mem_cons_self, first.1, triggers.1⟩
  | onUserDeleted => exact ⟨d', List.mem_cons_of_mem _ List.mem_cons_self, first.2, triggers.2⟩

/-- `a` signs up, and both triggers run. -/
def signUpA : List TriggerMove :=
  [.signUp "a", .deliver 0 .onUserCreated "1", .deliver 0 .onUserDeleted "2", .proceed 0,
    .proceed 0]

theorem noUsers_tracksUsers : TracksUsers noUsers where
  one u data found := by cases found
  noGhost doc listed := by cases listed

/-- The code of a deleted user stays, and a user whose event is delivered twice gets two. -/
theorem codes_not_tracked :
    (AllDelivered (run TriggerMove.step (.start noUsers) (signUpA ++ [.deleteUser "a"])) ∧
        ¬ TracksUsers
          (run TriggerMove.step (.start noUsers) (signUpA ++ [.deleteUser "a"])).store) ∧
      AllDelivered (run TriggerMove.step (.start noUsers)
          (signUpA ++ [.deliver 0 .onUserCreated "3", .proceed 2, .proceed 2])) ∧
        ¬ TracksUsers (run TriggerMove.step (.start noUsers)
          (signUpA ++ [.deliver 0 .onUserCreated "3", .proceed 2, .proceed 2])).store := by
  refine ⟨⟨.of_first 1 (fun e there => ?_) (bothTriggers rfl ⟨rfl, rfl⟩ ⟨rfl, rfl⟩)
      fun d there => ?_, fun tracks => ?_⟩,
    .of_first 1 (fun _ there => absurd there List.not_mem_nil)
      (bothTriggers rfl ⟨rfl, rfl⟩ ⟨rfl, rfl⟩) fun d there => ?_, fun tracks => ?_⟩
  · rw [List.mem_singleton.mp there]
  · obtain rfl | there := List.mem_cons.mp there
    · exact ⟨.ok (), rfl⟩
    · obtain rfl := List.mem_singleton.mp there
      exact ⟨.error .invalidArgument, rfl⟩
  · exact absurd (tracks.noGhost (0, { code := "1", user := "a" }) (by decide)) (by decide)
  · obtain rfl | there := List.mem_cons.mp there
    · exact ⟨.ok (), rfl⟩
    · obtain rfl | there := List.mem_cons.mp there
      · exact ⟨.error .invalidArgument, rfl⟩
      · obtain rfl := List.mem_singleton.mp there
        exact ⟨.ok (), rfl⟩
  · obtain ⟨code, -, one⟩ := tracks.one "a" _ rfl
    exact absurd (congrArg List.length one) (by rw [List.length_singleton]; decide)

/-- `a` signs up and gets a code; `b` signs up too, and is deleted before the triggers run. -/
def deletedBefore : List TriggerMove :=
  [.signUp "a", .signUp "b", .deliver 0 .onUserCreated "1", .deliver 0 .onUserDeleted "2",
    .proceed 0, .deleteUser "b", .proceed 0, .deliver 1 .onUserDeleted "3",
    .deliver 1 .onUserCreated "4", .proceed 3]

/-- A user whose document is gone in time gets no code. -/
theorem deletedBefore_tracksUsers :
    TracksUsers (run TriggerMove.step (.start noUsers) deletedBefore).store := by
  refine (codes_tracked noUsers_tracksUsers ?_).mpr (by decide)
  refine .of_first 2 (fun e there => ?_) (fun number below trigger => ?_) ?_
  · rw [List.mem_singleton.mp there]
  · match number, below, trigger with
    | 0, _, .onUserCreated => exact ⟨_, .head _, rfl, rfl⟩
    | 0, _, .onUserDeleted => exact ⟨_, .tail _ (.head _), rfl, rfl⟩
    | 1, _, .onUserDeleted => exact ⟨_, .tail _ (.tail _ (.head _)), rfl, rfl⟩
    | 1, _, .onUserCreated => exact ⟨_, .tail _ (.tail _ (.tail _ (.head _))), rfl, rfl⟩
  · refine List.forall_mem_cons.mpr ⟨⟨.ok (), rfl⟩, List.forall_mem_cons.mpr
      ⟨⟨.error .invalidArgument, rfl⟩, List.forall_mem_cons.mpr
        ⟨⟨.error .invalidArgument, rfl⟩, List.forall_mem_singleton.mpr ⟨.error .notFound, rfl⟩⟩⟩⟩

end TwoGather
