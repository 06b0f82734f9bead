import TwoGather.Lib.Rules

/-!
# The security rules of the database

`firestore.rules`, block by block. The blocks of `users` let only the owner write its
document and read or write its sub-collections. The last block covers every path, so
what it allows is what the rules allow: everything, to everyone who is signed in
(`allowed_iff`).
-/

namespace TwoGather

open Rules

inductive Method
  | get
  | list
  | create
  | update
  | delete
  deriving DecidableEq

namespace Method

/-- `allow read`. -/
def read : List Method := [.get, .list]

/-- `allow write`. -/
def write : List Method := [.create, .update, .delete]

end Method

/-- `request.auth`; `admin` is the claim of that name in the token. -/
structure Auth where
  uid : String
  admin : Option Bool
  deriving DecidableEq

structure Request where
  auth : Option Auth
  deriving DecidableEq

/-! ## Conditions -/

/-- `request.auth != null`. -/
def signedIn (request : Request) (_ : Bindings) : Bool :=
  request.auth.isSome

/-- `request.auth != null && request.auth.uid == userId`. -/
def ownerOnly (request : Request) (bindings : Bindings) : Bool :=
  match request.auth with
  | none => false
  | some auth => bindings.lookup "userId" == some [auth.uid]

/-- `request.auth != null && (request.auth.uid == userId || request.auth.token.admin == true)`.
A token without the claim makes the second comparison an error, which does not allow the
request. -/
def ownerOrAdmin (request : Request) (bindings : Bindings) : Bool :=
  match request.auth with
  | none => false
  | some auth => bindings.lookup "userId" == some [auth.uid] || auth.admin == some true

/-! ## `firestore.rules` -/

/-- `match /users/{userId}` and the blocks inside it. -/
def userRules : List (Rule Request Method) :=
  within [.literal "users", .single "userId"]
    [ { pattern := [], methods := Method.read, condition := signedIn },
      { pattern := [], methods := Method.write, condition := ownerOnly },
      { pattern := [.literal "notifications", .single "notificationId"]
        methods := Method.read, condition := ownerOnly },
      { pattern := [.literal "notifications", .single "notificationId"]
        methods := Method.write, condition := ownerOrAdmin },
      { pattern := [.literal "created-fiesta", .single "fiestaId"]
        methods := Method.read ++ Method.write, condition := ownerOnly },
      { pattern := [.literal "participated-fiesta", .single "fiestaId"]
        methods := Method.read ++ Method.write, condition := ownerOnly },
      { pattern := [.literal "sponsorship", .single "sponsorshipId"]
        methods := Method.read, condition := ownerOnly },
      { pattern := [.literal "sponsorship", .single "sponsorshipId"]
        methods := Method.write, condition := ownerOrAdmin } ]

/-- `match /fiestas/{fiestaId}`. -/
def fiestaRules : List (Rule Request Method) :=
  within [.literal "fiestas", .single "fiestaId"]
    [ { pattern := [], methods := Method.read, condition := signedIn },
      { pattern := [], methods := Method.write, condition := signedIn } ]

/-- `match /{document=**}`. -/
def otherRules : List (Rule Request Method) :=
  [ { pattern := [.recursive "document"]
      methods := Method.read ++ Method.write, condition := signedIn } ]

/-- The rules of `service cloud.firestore` that stand in the blocks of one database. -/
def inDatabase (rules : List (Rule Request Method)) : List (Rule Request Method) :=
  within [.literal "databases", .single "database", .literal "documents"] rules

def firestoreRules : List (Rule Request Method) :=
  inDatabase (userRules ++ fiestaRules ++ otherRules)

/-- The path of a document of the database, as rules see it. -/
def documentPath (database : String) (path : List String) : List String :=
  "databases" :: database :: "documents" :: path

/-- Some rule allows the request. -/
def allowed (request : Request) (method : Method) (path : List String) : Bool :=
  granted firestoreRules request method path

/-! ## What the rules allow -/

section Allowed

variable {request : Request} {method : Method} {database : String} {path : List String}

theorem mem_readWrite (method : Method) : method ∈ Method.read ++ Method.write := by
  cases method <;> decide

theorem ownerOnly_signedIn {bindings : Bindings} (holds : ownerOnly request bindings = true) :
    request.auth.isSome := by
  unfold ownerOnly at holds
  split at holds
  · cases holds
  · simp [*]

theorem ownerOrAdmin_signedIn {bindings : Bindings}
    (holds : ownerOrAdmin request bindings = true) : request.auth.isSome := by
  unfold ownerOrAdmin at holds
  split at holds
  · cases holds
  · simp [*]

/-- Every rule is about those who are signed in. -/
theorem firestoreRules_signedIn {rule : Rule Request Method} (listed : rule ∈ firestoreRules)
    {bindings : Bindings} (holds : rule.condition request bindings = true) :
    request.auth.isSome := by
  have conditions : ∀ rule ∈ firestoreRules, rule.condition = signedIn ∨
      rule.condition = ownerOnly ∨ rule.condition = ownerOrAdmin := by
    simp [firestoreRules, inDatabase, within, userRules, fiestaRules, otherRules]
  rcases conditions rule listed with isSigned | isOwner | isAdmin
  · rw [isSigned] at holds
    exact holds
  · rw [isOwner] at holds
    exact ownerOnly_signedIn holds
  · rw [isAdmin] at holds
    exact ownerOrAdmin_signedIn holds

/-- The last block covers every path of the database. -/
theorem otherRules_grants (signed : request.auth.isSome) :
    granted (inDatabase otherRules) request method (documentPath database path) = true := by
  rw [granted_iff]
  refine ⟨_, List.mem_singleton_self _, Rule.grants_iff.mpr ⟨mem_readWrite method, ?_⟩⟩
  simp only [documentPath, List.cons_append, List.nil_append, matchings_literal, ↓reduceIte,
    matchings_single, List.mem_map, exists_exists_and_eq_and]
  exact ⟨_, (mem_matchings_recursive "document" _).mpr rfl, signed⟩

/-- **Whoever is signed in may do everything, and nobody else anything.** -/
theorem allowed_iff :
    allowed request method (documentPath database path) = true ↔ request.auth.isSome := by
  constructor
  · intro grant
    exact granted_requires (C := fun request => request.auth.isSome)
      (fun _ listed _ holds => firestoreRules_signedIn listed holds) grant
  · intro signed
    have last : firestoreRules =
        inDatabase (userRules ++ fiestaRules) ++ inDatabase otherRules := rfl
    unfold allowed
    rw [last, granted_append, otherRules_grants signed, Bool.or_true]

end Allowed

/-! ## The data of a user -/

/-- The request is one that the blocks of `users` keep for the user `u`: a write to its
document, or anything on a document of its sub-collections. -/
inductive Private (u : String) : Method → List String → Prop
  | profile {method : Method} : method ∈ Method.write → Private u method ["users", u]
  | entry {method : Method} {collection : String} (id : String) :
      collection ∈ ["notifications", "created-fiesta", "participated-fiesta", "sponsorship"] →
        Private u method ["users", u, collection, id]

theorem Method.not_read_of_write {method : Method} (write : method ∈ Method.write) :
    method ∉ Method.read := by
  cases method with
  | get => exact absurd write (by decide)
  | list => exact absurd write (by decide)
  | create => decide
  | update => decide
  | delete => decide

section Strangers

variable {r : Auth} {u : String} {bindings : Bindings}

theorem ownerOnly_deny (other : u ≠ r.uid) (owner : bindings.lookup "userId" = some [u]) :
    ownerOnly { auth := some r } bindings = false := by
  simp [ownerOnly, owner, other]

theorem ownerOrAdmin_deny (stranger : r.admin ≠ some true) (other : u ≠ r.uid)
    (owner : bindings.lookup "userId" = some [u]) :
    ownerOrAdmin { auth := some r } bindings = false := by
  simp [ownerOrAdmin, owner, other, stranger]

/-- Without the last block, nobody else is allowed it. -/
theorem blocks_deny (stranger : r.admin ≠ some true) (other : u ≠ r.uid) {database : String}
    {method : Method} {path : List String} (isPrivate : Private u method path) :
    granted (inDatabase (userRules ++ fiestaRules)) { auth := some r } method
      (documentPath database path) = false := by
  cases isPrivate with
  | profile write =>
      have notRead := Method.not_read_of_write write
      have owner : ownerOnly { auth := some r }
          [("database", [database]), ("userId", [u])] = false := ownerOnly_deny other rfl
      simp [granted, inDatabase, within, userRules, fiestaRules, documentPath, Rule.grants,
        notRead, owner]
  | entry id listed =>
      have owner : ∀ var, ownerOnly { auth := some r }
          [("database", [database]), ("userId", [u]), (var, [id])] = false :=
        fun _ => ownerOnly_deny other rfl
      have ownerOrAdmin : ∀ var, ownerOrAdmin { auth := some r }
          [("database", [database]), ("userId", [u]), (var, [id])] = false :=
        fun _ => ownerOrAdmin_deny stranger other rfl
      simp [granted, inDatabase, within, userRules, fiestaRules, documentPath, Rule.grants,
        owner, ownerOrAdmin]

/-- **The blocks of a user keep its data from everyone else, and the rules still allow
everyone else every request on it.** -/
theorem private_allowed (stranger : r.admin ≠ some true) (other : u ≠ r.uid)
    (database : String) {method : Method} {path : List String}
    (isPrivate : Private u method path) :
    granted (inDatabase (userRules ++ fiestaRules)) { auth := some r } method
        (documentPath database path) = false ∧
      allowed { auth := some r } method (documentPath database path) = true :=
  ⟨blocks_deny stranger other isPrivate, allowed_iff.mpr rfl⟩

end Strangers

/-- `a` may delete a notification of `b`. -/
theorem notification_allowed :
    allowed { auth := some { uid := "a", admin := none } } .delete
      (documentPath "(default)" ["users", "b", "notifications", "n"]) = true :=
  (private_allowed (r := { uid := "a", admin := none }) (by decide) (by decide) "(default)"
    (.entry "n" (by decide))).2

/-- Owner-only access fails for `a` and the document of `b`. -/
theorem not_owner_only :
    ¬ ∀ (r : Auth) (u : String), r.admin ≠ some true → u ≠ r.uid →
      ∀ method path, Private u method path →
        allowed { auth := some r } method (documentPath "(default)" path) = false := by
  intro claim
  have denied := claim { uid := "a", admin := none } "b" (by decide) (by decide) .update _
    (.profile (by decide))
  exact absurd denied (by decide)

end TwoGather
