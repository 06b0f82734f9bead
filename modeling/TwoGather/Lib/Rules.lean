import Mathlib.Data.List.Basic

/-!
# Access rules over paths

A rule set grants requests on paths. Each rule has a pattern of path segments, the
methods it is about and a condition on the request and on what the wildcards of the
pattern have matched. A request is granted as soon as one rule grants it, so a rule can
only open what the others leave closed (`granted_append`).

A recursive wildcard matches any number of segments, none included.
-/

namespace Rules

/-- One segment of a pattern. -/
inductive Segment
  | literal (name : String)
  | single (name : String)
  | recursive (name : String)
  deriving DecidableEq

/-- What the wildcards of a pattern have matched. -/
abbrev Bindings := List (String × List String)

/-- All the ways in which the pattern matches the path. -/
def matchings : List Segment → List String → List Bindings
  | [], [] => [[]]
  | [], _ :: _ => []
  | .literal name :: pattern, segment :: path =>
      if name = segment then matchings pattern path else []
  | .single var :: pattern, segment :: path =>
      (matchings pattern path).map ((var, [segment]) :: ·)
  | .recursive var :: pattern, path =>
      (List.range (path.length + 1)).flatMap fun n =>
        (matchings pattern (path.drop n)).map ((var, path.take n) :: ·)
  | _ :: _, [] => []

/-- `allow methods: if condition`, in the block of a pattern. -/
structure Rule (ρ μ : Type) where
  pattern : List Segment
  methods : List μ
  condition : ρ → Bindings → Bool

variable {ρ μ : Type} [DecidableEq μ]

/-- The rules of a block that stands inside the block of another pattern. -/
def within (outer : List Segment) (rules : List (Rule ρ μ)) : List (Rule ρ μ) :=
  rules.map fun rule => { rule with pattern := outer ++ rule.pattern }

def Rule.grants (rule : Rule ρ μ) (request : ρ) (method : μ) (path : List String) : Bool :=
  decide (method ∈ rule.methods) && (matchings rule.pattern path).any (rule.condition request)

/-- Some rule grants the request. -/
def granted (rules : List (Rule ρ μ)) (request : ρ) (method : μ) (path : List String) : Bool :=
  rules.any (·.grants request method path)

section Matchings

variable {pattern : List Segment} {path : List String}

@[simp] theorem matchings_nil : matchings [] [] = [[]] := rfl

@[simp] theorem matchings_nil_cons (segment : String) :
    matchings [] (segment :: path) = [] := rfl

@[simp] theorem matchings_literal (name segment : String) :
    matchings (.literal name :: pattern) (segment :: path) =
      if name = segment then matchings pattern path else [] := rfl

@[simp] theorem matchings_literal_nil (name : String) :
    matchings (.literal name :: pattern) [] = [] := rfl

@[simp] theorem matchings_single (var segment : String) :
    matchings (.single var :: pattern) (segment :: path) =
      (matchings pattern path).map ((var, [segment]) :: ·) := rfl

@[simp] theorem matchings_single_nil (var : String) :
    matchings (.single var :: pattern) [] = [] := rfl

/-- A recursive wildcard at the end of a pattern matches the rest of the path. -/
theorem mem_matchings_recursive (var : String) (bindings : Bindings) :
    bindings ∈ matchings [.recursive var] path ↔ bindings = [(var, path)] := by
  have last : ∀ rest : List String, matchings [] rest = if rest = [] then [[]] else [] := by
    intro rest
    cases rest with
    | nil => rfl
    | cons segment rest => rfl
  simp only [matchings, List.mem_flatMap, List.mem_range, List.mem_map, last,
    List.drop_eq_nil_iff]
  constructor
  · intro found
    rcases found with ⟨n, -, rest, listed, rfl⟩
    split at listed
    case isTrue all =>
      rw [List.mem_singleton.mp listed, List.take_of_length_le all]
    case isFalse => cases listed
  · intro same
    refine ⟨path.length, Nat.lt_succ_self _, [], ?_, ?_⟩
    · rw [if_pos (Nat.le_refl _)]
      exact List.mem_singleton_self _
    · rw [List.take_length, same]

end Matchings

section Granted

variable {request : ρ} {method : μ} {path : List String}

theorem granted_iff {rules : List (Rule ρ μ)} :
    granted rules request method path = true ↔
      ∃ rule ∈ rules, rule.grants request method path = true := by
  rw [granted, List.any_eq_true]

theorem Rule.grants_iff {rule : Rule ρ μ} :
    rule.grants request method path = true ↔ method ∈ rule.methods ∧
      ∃ bindings ∈ matchings rule.pattern path, rule.condition request bindings = true := by
  rw [Rule.grants, Bool.and_eq_true, decide_eq_true_iff, List.any_eq_true]

/-- Two sets of rules grant together what one of them grants. -/
theorem granted_append (left right : List (Rule ρ μ)) :
    granted (left ++ right) request method path =
      (granted left request method path || granted right request method path) := by
  rw [granted, List.any_append]
  rfl

/-- A condition that all rules have is a condition of every grant. -/
theorem granted_requires {rules : List (Rule ρ μ)} {C : ρ → Prop}
    (each : ∀ rule ∈ rules, ∀ bindings, rule.condition request bindings = true → C request)
    (grant : granted rules request method path = true) : C request := by
  rcases granted_iff.mp grant with ⟨rule, listed, grants⟩
  rcases Rule.grants_iff.mp grants with ⟨-, bindings, -, holds⟩
  exact each rule listed bindings holds

end Granted

end Rules
