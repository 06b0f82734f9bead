import Mathlib.Data.BitVec
import Mathlib.Data.List.Infix
import TwoGather.Lib.Pool
import TwoGather.Lib.Uuid
import TwoGather.Sponsorship.Controller

/-!
# Codes that identify their owner

`onUserCreated` gives a user the first group of a fresh UUID as its code, which is the
low half of the UUID's count of ticks. `createSponsorshipDirect` takes the first document
with the submitted code for that of its owner. The codes identify their owners in every
state of every interleaving of the sign-ups exactly when no two UUIDs agree in their low
bits (`codes_identify`); two users that sign up 2 ^ 32 ticks apart get one code, and the
requests of both end up with one of them (`sameLow_misfiled`).

The invariant follows each sign-up through its four stages (`SignUpInvariant`).
-/

namespace TwoGather

open Docs Requests Uuids

/-! ## Sign-ups -/

/-- A new user, and the UUID that its trigger draws. -/
structure SignUp where
  user : UserId
  uuid : Uuid
  deriving DecidableEq

namespace SignUp

def code (a : SignUp) : String :=
  a.uuid.firstGroup

/-- The document of `code` for the user. -/
def trustCode (a : SignUp) : TrustCode where
  code := a.code
  user := a.user

/-- The user signs up, and later the trigger runs on its document. -/
def program (a : SignUp) : Firestore Unit := do
  setUser a.user newUser
  onUserCreated a.user a.code

/-- How far a sign-up is. -/
inductive Stage
  | waiting
  | created
  | coded
  | listed
  deriving DecidableEq

/-- What is left of a sign-up at a stage. -/
def left (a : SignUp) : Stage → Firestore Unit
  | .waiting => a.program
  | .created => onUserCreated a.user a.code
  | .coded => addCode a.trustCode
  | .listed => pure ()

/-- The document of the user at a stage. -/
def doc (a : SignUp) : Stage → Option User
  | .waiting => none
  | .created => some newUser
  | .coded | .listed => some { newUser with personnalTrustCode := .value a.code }

end SignUp

/-- Every code is that of one user only, under whom a submission of the code files its
request. -/
structure Identified (s : Store) : Prop where
  distinct : (s.codes.docs.map fun doc => doc.2.code).Nodup
  owner : ∀ doc ∈ s.codes.docs, ∀ v,
    optional User.personnalTrustCode (s.user v) = .value doc.2.code ↔ v = doc.2.user
  files : ∀ doc ∈ s.codes.docs, ∀ uid data, s.user uid = some data →
    (createSponsorshipDirect uid doc.2.code).exec s =
      (.ok true,
        { s with
          sponsorship := Function.update s.sponsorship doc.2.user
            ((s.sponsorship doc.2.user).add (sponsorshipDoc uid data doc.2.code s.clock)) })

/-- When codes are distinct and personal, a submission of one is filed under its user. -/
theorem Identified.of_distinct {s : Store}
    (distinct : (s.codes.docs.map fun doc => doc.2.code).Nodup)
    (owner : ∀ doc ∈ s.codes.docs, ∀ v,
      optional User.personnalTrustCode (s.user v) = .value doc.2.code ↔ v = doc.2.user) :
    Identified s where
  distinct := distinct
  owner := owner
  files doc listed uid data self := by
    cases found : s.codes.docs.filter fun e => e.2.code = doc.2.code with
    | nil =>
        have here : doc ∈ s.codes.docs.filter fun e => e.2.code = doc.2.code := by
          simp [listed]
        rw [found] at here
        cases here
    | cons first rest =>
        have both : first ∈ s.codes.docs ∧ first.2.code = doc.2.code := by
          have member : first ∈ s.codes.docs.filter fun e => e.2.code = doc.2.code := by
            rw [found]
            exact List.mem_cons_self
          simpa using member
        obtain rfl : first = doc := List.inj_on_of_nodup_map distinct both.1 listed both.2
        exact createSponsorshipDirect_filed self found

section SignUps

variable {ι : Type}

/-- Sign-ups that are about to begin. -/
def signUps (s : Store) (signUp : ι → SignUp) : Pool ι Store Err Unit where
  store := s
  thread i := (signUp i).program

/-- Where each sign-up stands decides what is left of it and which documents it has
written. -/
structure SignUpInvariant (signUp : ι → SignUp) (stage : ι → SignUp.Stage)
    (pool : Pool ι Store Err Unit) : Prop where
  thread : ∀ i, pool.thread i = (signUp i).left (stage i)
  users : ∀ i, pool.store.user (signUp i).user = (signUp i).doc (stage i)
  known : ∀ v data, pool.store.user v = some data → ∃ i, v = (signUp i).user
  codes : ∀ doc ∈ pool.store.codes.docs, ∃ i, stage i = .listed ∧ doc.2 = (signUp i).trustCode
  listed : ∀ i, stage i = .listed → ∃ k, (k, (signUp i).trustCode) ∈ pool.store.codes.docs
  once : (pool.store.codes.docs.map fun doc => doc.2.user).Nodup

variable {s : Store} {signUp : ι → SignUp} {stage : ι → SignUp.Stage}
  {pool : Pool ι Store Err Unit}

theorem signUps_invariant (noUsers : s.users.docs = []) (noCodes : s.codes.docs = []) :
    SignUpInvariant signUp (fun _ => .waiting) (signUps s signUp) where
  thread _ := rfl
  users i := by
    have absent : ∀ d, ((signUp i).user, d) ∉ s.users.docs := by
      intro d listed
      rw [noUsers] at listed
      cases listed
    exact Collection.get?_eq_none.mpr absent
  known v data found := by
    have listed := Collection.mem_docs.mpr found
    rw [show (signUps s signUp).store.users = s.users from rfl, noUsers] at listed
    cases listed
  codes doc listed := by
    rw [show (signUps s signUp).store.codes = s.codes from rfl, noCodes] at listed
    cases listed
  listed i ended := by cases ended
  once := by
    rw [show (signUps s signUp).store.codes = s.codes from rfl, noCodes]
    exact List.nodup_nil

/-- Sign-ups whose UUIDs differ in their low bits leave codes that identify their owners. -/
theorem SignUpInvariant.identified (invariant : SignUpInvariant signUp stage pool)
    (apart : ∀ i j, (signUp i).uuid.timeLow = (signUp j).uuid.timeLow → i = j) :
    Identified pool.store := by
  have same : ∀ i j, (signUp i).code = (signUp j).code → i = j := fun i j eq =>
    apart i j (Uuid.firstGroup_eq_iff.mp eq)
  apply Identified.of_distinct
  · refine List.pairwise_map.mpr ((List.pairwise_map.mp invariant.once).imp_of_mem ?_)
    intro a b listedA listedB differ eq
    obtain ⟨i, -, codeA⟩ := invariant.codes a listedA
    obtain ⟨j, -, codeB⟩ := invariant.codes b listedB
    rw [codeA, codeB] at eq differ
    exact differ (congrArg (fun k => (signUp k).user) (same i j eq))
  · intro doc listed v
    obtain ⟨i, ended, code⟩ := invariant.codes doc listed
    have mine := invariant.users i
    rw [ended] at mine
    rw [code]
    constructor
    · intro coded
      cases found : pool.store.user v with
      | none =>
          rw [found] at coded
          cases coded
      | some data =>
          obtain ⟨j, rfl⟩ := invariant.known v data found
          have stored := invariant.users j
          rw [stored] at coded
          have eq : (signUp j).code = (signUp i).code := by
            cases here : stage j with
            | waiting =>
                rw [here] at coded
                cases coded
            | created =>
                rw [here] at coded
                cases coded
            | coded =>
                rw [here] at coded
                exact Stored.value.inj coded
            | listed =>
                rw [here] at coded
                exact Stored.value.inj coded
          exact congrArg (fun k => (signUp k).user) (same j i eq)
    · intro eq
      subst eq
      exact congrArg (optional User.personnalTrustCode) mine

/-- A sign-up that has ended has listed its code. -/
theorem SignUpInvariant.stage_eq_listed (invariant : SignUpInvariant signUp stage pool) {i : ι}
    {outcome : Except Err Unit} (ended : pool.Finished i outcome) : stage i = .listed := by
  have left := invariant.thread i
  rw [ended] at left
  cases here : stage i with
  | waiting =>
      rw [here] at left
      cases left
  | created =>
      rw [here] at left
      cases left
  | coded =>
      rw [here] at left
      cases left
  | listed => rfl

/-- Two sign-ups that have ended have different codes where codes identify their owners. -/
theorem SignUpInvariant.apart (invariant : SignUpInvariant signUp stage pool)
    (distinct : Function.Injective fun i => (signUp i).user) (identified : Identified pool.store)
    {i j : ι} (first : stage i = .listed) (second : stage j = .listed)
    (eq : (signUp i).uuid.timeLow = (signUp j).uuid.timeLow) : i = j := by
  obtain ⟨k, listedI⟩ := invariant.listed i first
  obtain ⟨l, listedJ⟩ := invariant.listed j second
  have codes : (signUp i).code = (signUp j).code := Uuid.firstGroup_eq_iff.mpr eq
  have docs := List.inj_on_of_nodup_map identified.distinct listedI listedJ codes
  exact distinct (congrArg (fun doc => doc.2.user) docs)

variable [DecidableEq ι]

/-- A sign-up reaches a stage at which its code is not listed. -/
theorem SignUpInvariant.next (invariant : SignUpInvariant signUp stage pool)
    (distinct : Function.Injective fun i => (signUp i).user) {i : ι} {b : SignUp.Stage} {t : Store}
    (was : stage i ≠ .listed) (unlisted : b ≠ .listed)
    (users : ∀ v, t.user v = if v = (signUp i).user then (signUp i).doc b else pool.store.user v)
    (codes : t.codes = pool.store.codes) :
    SignUpInvariant signUp (Function.update stage i b)
      { store := t, thread := Function.update pool.thread i ((signUp i).left b) } where
  thread j := by
    by_cases same : j = i
    · subst same
      simp only [Function.update_self]
    · simp only [Function.update_of_ne same]
      exact invariant.thread j
  users j := by
    rw [users]
    by_cases same : j = i
    · subst same
      simp only [↓reduceIte, Function.update_self]
    · rw [if_neg fun eq => same (distinct eq), Function.update_of_ne same]
      exact invariant.users j
  known v data found := by
    rw [users] at found
    split at found
    case isTrue here => exact ⟨i, here⟩
    case isFalse => exact invariant.known v data found
  codes doc listed := by
    rw [codes] at listed
    obtain ⟨j, ended, eq⟩ := invariant.codes doc listed
    have other : j ≠ i := by
      intro same
      rw [same] at ended
      exact was ended
    exact ⟨j, by rw [Function.update_of_ne other]; exact ended, eq⟩
  listed j ended := by
    have other : j ≠ i := by
      intro same
      rw [same, Function.update_self] at ended
      exact unlisted ended
    rw [Function.update_of_ne other] at ended
    rw [codes]
    exact invariant.listed j ended
  once := by
    rw [codes]
    exact invariant.once

/-- The code of a user is listed, after which its sign-up has ended. -/
theorem SignUpInvariant.list (invariant : SignUpInvariant signUp stage pool)
    (distinct : Function.Injective fun i => (signUp i).user) {i : ι} (coded : stage i = .coded) :
    SignUpInvariant signUp (Function.update stage i .listed)
      { store := { pool.store with codes := pool.store.codes.add (signUp i).trustCode }
        thread := Function.update pool.thread i (pure ()) } where
  thread j := by
    by_cases same : j = i
    · subst same
      simp only [Function.update_self]
      rfl
    · simp only [Function.update_of_ne same]
      exact invariant.thread j
  users j := by
    have before := invariant.users j
    by_cases same : j = i
    · subst same
      rw [coded] at before
      rw [Function.update_self]
      exact before
    · rw [Function.update_of_ne same]
      exact before
  known := invariant.known
  codes doc listed := by
    rcases List.mem_append.mp listed with old | new
    · obtain ⟨j, ended, eq⟩ := invariant.codes doc old
      have other : j ≠ i := by
        intro same
        rw [same, coded] at ended
        cases ended
      exact ⟨j, by rw [Function.update_of_ne other]; exact ended, eq⟩
    · rw [List.mem_singleton.mp new]
      exact ⟨i, Function.update_self .., rfl⟩
  listed j ended := by
    by_cases same : j = i
    · subst same
      exact ⟨_, List.mem_append_right _ (List.mem_singleton_self _)⟩
    · rw [Function.update_of_ne same] at ended
      obtain ⟨k, there⟩ := invariant.listed j ended
      exact ⟨k, List.mem_append_left _ there⟩
  once := by
    have absent : (signUp i).user ∉ pool.store.codes.docs.map fun doc => doc.2.user := by
      intro listed
      obtain ⟨doc, there, eq⟩ := List.mem_map.mp listed
      obtain ⟨j, ended, stored⟩ := invariant.codes doc there
      rw [stored] at eq
      have same : j = i := distinct eq
      rw [same, coded] at ended
      cases ended
    rw [AutoCollection.docs_add, List.map_append]
    refine List.nodup_append.mpr ⟨invariant.once, List.nodup_singleton _, ?_⟩
    intro u listed v isNew same
    rw [same, List.mem_singleton.mp isNew] at listed
    exact absent listed

/-- A move of a sign-up brings it to its next stage. -/
theorem SignUpInvariant.move (invariant : SignUpInvariant signUp stage pool)
    (distinct : Function.Injective fun i => (signUp i).user) (i : ι) :
    ∃ stage', SignUpInvariant signUp stage' (pool.move i) := by
  have left := invariant.thread i
  have stored := invariant.users i
  cases here : stage i with
  | waiting =>
      rw [here] at left
      refine ⟨Function.update stage i .created, ?_⟩
      rw [Pool.move_step left]
      refine invariant.next distinct (by rw [here]; nofun) nofun (fun v => ?_) rfl
      exact Collection.get?_set pool.store.users (signUp i).user v newUser
  | created =>
      rw [here] at left stored
      refine ⟨Function.update stage i .coded, ?_⟩
      have request : pool.thread i =
          .step (·.updateUser (signUp i).user
              ({ · with personnalTrustCode := .value (signUp i).code })) fun s =>
            (if (s.user (signUp i).user).isSome then pure () else throw .notFound) >>=
              fun _ => addCode (signUp i).trustCode := left
      rw [Pool.move_step request, stored]
      refine invariant.next distinct (by rw [here]; nofun) nofun (fun v => ?_) rfl
      rw [Store.user_updateUser]
      split
      case isTrue same =>
        rw [same, stored]
        rfl
      case isFalse => rfl
  | coded =>
      rw [here] at left
      refine ⟨Function.update stage i .listed, ?_⟩
      rw [Pool.move_step left]
      exact invariant.list distinct here
  | listed =>
      rw [here] at left
      refine ⟨stage, ?_⟩
      rw [Pool.move_done left]
      exact invariant

theorem SignUpInvariant.play (invariant : SignUpInvariant signUp stage pool)
    (distinct : Function.Injective fun i => (signUp i).user) (schedule : List ι) :
    ∃ stage', SignUpInvariant signUp stage' (pool.play schedule) := by
  apply Pool.play_invariant (P := fun pool => ∃ stage, SignUpInvariant signUp stage pool)
  · intro pool i holds
    obtain ⟨_, holds⟩ := holds
    exact holds.move distinct i
  · exact ⟨stage, invariant⟩

/-- **In every interleaving of the sign-ups of different users, all codes identify their owner in
every state exactly when no two of the UUIDs agree in the low 32 bits of their counts.** -/
theorem codes_identify (noUsers : s.users.docs = []) (noCodes : s.codes.docs = [])
    (distinct : Function.Injective fun i => (signUp i).user) {schedule : List ι}
    (complete : ∀ i, ∃ outcome, ((signUps s signUp).play schedule).Finished i outcome) :
    (∀ made, made <+: schedule → Identified ((signUps s signUp).play made).store) ↔
      ∀ i j, (signUp i).uuid.timeLow = (signUp j).uuid.timeLow → i = j := by
  have start : SignUpInvariant signUp (fun _ => .waiting) (signUps s signUp) :=
    signUps_invariant noUsers noCodes
  constructor
  · intro all i j eq
    obtain ⟨stage, invariant⟩ := start.play distinct schedule
    obtain ⟨_, endedI⟩ := complete i
    obtain ⟨_, endedJ⟩ := complete j
    exact invariant.apart distinct (all schedule List.prefix_rfl)
      (invariant.stage_eq_listed endedI) (invariant.stage_eq_listed endedJ) eq
  · intro apart made _
    obtain ⟨_, invariant⟩ := start.play distinct made
    exact invariant.identified apart

end SignUps

/-! ## Sign-ups 2 ^ 32 ticks apart, and one tick apart -/

def noUsers : Store :=
  Store.ofUsers ⟨[], List.nodup_nil⟩

/-- `b` signs up 2 ^ 32 ticks after `a`, and `c` one tick later. -/
def sameLow : Fin 3 → SignUp
  | 0 => { user := "a", uuid := { ticks := 5, clockSeq := 0, node := 1 } }
  | 1 => { user := "b", uuid := { ticks := 2 ^ 32 + 5, clockSeq := 0, node := 1 } }
  | 2 => { user := "c", uuid := { ticks := 2 ^ 32 + 6, clockSeq := 0, node := 1 } }

def afterSameLow : Store :=
  ((signUps noUsers sameLow).play [0, 0, 0, 1, 1, 1, 2, 2, 2]).store

/-- The UUIDs differ, but `a` and `b` have one code, and a request of `c` with the code of `b`
goes to `a`. -/
theorem sameLow_misfiled :
    (∀ i j, (sameLow i).uuid = (sameLow j).uuid → i = j) ∧
      ¬ Identified afterSameLow ∧
      optional User.personnalTrustCode (afterSameLow.user "b") = .value (sameLow 1).code ∧
      (((createSponsorshipDirect "c" (sameLow 1).code).exec afterSameLow).2.sponsorship "b").docs =
        [] ∧
      (((createSponsorshipDirect "c" (sameLow 1).code).exec afterSameLow).2.sponsorship
        "a").docs.length = 1 := by
  refine ⟨by decide, fun identified => ?_, by decide, by decide, by decide⟩
  exact absurd identified.distinct (by decide)

/-- Three users sign up one tick after the other. -/
def tickByTick (i : Fin 3) : SignUp where
  user := ["a", "b", "c"].get i
  uuid := { ticks := 2 ^ 32 + i, clockSeq := 0, node := 1 }

def interleaved : List (Fin 3) := [0, 1, 0, 2, 2, 1, 0, 1, 2]

theorem tickByTick_identified :
    Identified ((signUps noUsers tickByTick).play interleaved).store := by
  refine (codes_identify rfl rfl (fun i j => ?_) fun i => ⟨.ok (), ?_⟩).mpr ?_ interleaved
    List.prefix_rfl
  · decide +revert
  · obtain rfl | rfl | rfl : i = 0 ∨ i = 1 ∨ i = 2 := by omega
    · rfl
    · rfl
    · rfl
  · decide

end TwoGather
