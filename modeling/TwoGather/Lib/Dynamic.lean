import Mathlib.Data.List.Basic

/-!
# Dynamic values

The values of a Dart program as far as they are given to a document database: the contents
of a `Map<String, dynamic>`, nested in any way. A field that is missing reads as `null`.

`Fields` is such a map, with its keys in the order in which they were put. `put` writes a
field, `putAll` the fields of another map over those that are there, and `change` what a path
of keys leads to. `supported` says that the client's codec can encode a value, and `stored` is
the form in which the database keeps one. What else the database asks of a document, as a limit on
how deep it is nested, is no part of either.
-/

namespace Dynamic

/-- A dynamic value. `object` is any object of a class of the program. -/
inductive Value
  | null
  | bool (b : Bool)
  | int (n : Int)
  | double (x : Rat)
  | string (s : String)
  | dateTime (micros : Int)
  | timestamp (micros : Int)
  | geoPoint (latitude longitude : Rat)
  | reference (path : String)
  | serverTimestamp
  | list (xs : List Value)
  | map (entries : List (String × Value))
  | object

/-- A value that may be missing. -/
def Value.optional {α : Type} (f : α → Value) : Option α → Value
  | some a => f a
  | none => .null

/-- The value as a string, if it is one. -/
def Value.string? : Value → Option String
  | .string s => some s
  | _ => none

/-- A `Map<String, dynamic>`. -/
abbrev Fields := List (String × Value)

/-! ## Casts

The casts to nullable types: `none` is a cast that fails, and `some none` is `null`. -/

namespace Value

def asString : Value → Option (Option String)
  | .null => some none
  | .string s => some (some s)
  | _ => none

def asBool : Value → Option (Option Bool)
  | .null => some none
  | .bool b => some (some b)
  | _ => none

/-- `(value as num?)?.toDouble()`. -/
def asNum : Value → Option (Option Rat)
  | .null => some none
  | .int n => some (some n)
  | .double x => some (some x)
  | _ => none

/-- `(value as List?)?.map(f).toList()`, where `f` may fail too. -/
def asListOf {α : Type} (f : Value → Option α) : Value → Option (Option (List α))
  | .null => some none
  | .list xs => (xs.mapM f).map some
  | _ => none

/-- `f(value as Map)`. -/
def ofMap {α : Type} (f : Fields → Option α) : Value → Option α
  | .map entries => f entries
  | _ => none

/-- `value == null ? null : f(value as Map)`. -/
def asMapOf {α : Type} (f : Fields → Option α) : Value → Option (Option α)
  | .null => some none
  | .map entries => (f entries).map some
  | _ => none

section Casts

variable {α : Type}

@[simp] theorem asString_optional (s : Option String) :
    asString (.optional .string s) = some s := by
  cases s with
  | none => rfl
  | some s => rfl

/-- Only a string is one. -/
theorem string?_eq_some {v : Value} {s : String} (cast : v.string? = some s) : v = .string s := by
  cases v with
  | string s => cases cast; rfl
  | _ => cases cast

/-- The cast to `String?` takes strings and null. -/
theorem asString_eq_some {v : Value} {s : Option String} (cast : v.asString = some s) :
    v = .optional .string s := by
  cases v with
  | null => cases cast; rfl
  | string s => cases cast; rfl
  | _ => cases cast

/-- The cast to `bool?` takes booleans and null. -/
theorem asBool_eq_some {v : Value} {b : Option Bool} (cast : v.asBool = some b) :
    v = .optional .bool b := by
  cases v with
  | null => cases cast; rfl
  | bool b => cases cast; rfl
  | _ => cases cast

/-- Only null is cast to no number. -/
theorem asNum_eq_none {v : Value} (cast : v.asNum = some none) : v = .null := by
  cases v with
  | null => rfl
  | _ => cases cast

@[simp] theorem asBool_optional (b : Option Bool) : asBool (.optional .bool b) = some b := by
  cases b with
  | none => rfl
  | some b => rfl

@[simp] theorem asNum_optional (x : Option Rat) : asNum (.optional .double x) = some x := by
  cases x with
  | none => rfl
  | some x => rfl

/-- What is written element by element is read element by element. -/
theorem asListOf_map {β : Type} {f : Value → Option α} {g : β → Value} {h : β → α}
    (back : ∀ b, f (g b) = some (h b)) (xs : List β) :
    asListOf f (.list (xs.map g)) = some (some (xs.map h)) := by
  have all : (xs.map g).mapM f = some (xs.map h) := by
    induction xs with
    | nil => rfl
    | cons x xs ih =>
        rw [List.map_cons, List.mapM_cons, back, ih]
        rfl
  exact congrArg (Option.map some) all

end Casts

end Value

namespace Fields

/-- The value under `key`, if there is one. -/
def get? : Fields → String → Option Value
  | [], _ => none
  | (k, v) :: fields, key => if k = key then some v else get? fields key

/-- `fields[key]`. -/
def read (fields : Fields) (key : String) : Value :=
  (fields.get? key).getD .null

/-- `fields[key] = value`. -/
def put : Fields → String → Value → Fields
  | [], key, value => [(key, value)]
  | (k, v) :: fields, key, value =>
      if k = key then (k, value) :: fields else (k, v) :: put fields key value

/-- A map literal in which the entries that are `null` are left out. -/
def present (entries : Fields) : Fields :=
  entries.filter fun entry => match entry.2 with
    | .null => false
    | _ => true

/-- `{...fields, ...changes}`. -/
def putAll (fields changes : Fields) : Fields :=
  changes.foldl (fun fields entry => fields.put entry.1 entry.2) fields

section Reads

variable (fields changes : Fields) (key other : String) (value : Value)

@[simp] theorem get?_nil : get? [] key = none := rfl

theorem get?_cons (k : String) (v : Value) :
    get? ((k, v) :: fields) key = if k = key then some v else get? fields key := rfl

@[simp] theorem get?_put :
    (fields.put key value).get? other = if other = key then some value else fields.get? other := by
  induction fields with
  | nil =>
      unfold put
      rw [get?_cons]
      by_cases same : other = key
      · rw [if_pos same, if_pos same.symm]
      · rw [if_neg same, if_neg fun back => same back.symm]
  | cons entry fields ih =>
      obtain ⟨k, v⟩ := entry
      unfold put
      by_cases here : k = key
      · subst here
        rw [if_pos rfl, get?_cons, get?_cons]
        by_cases same : other = k
        · rw [if_pos same.symm, if_pos same]
        · rw [if_neg same, if_neg fun back => same back.symm, if_neg fun back => same back.symm]
      · rw [if_neg here, get?_cons, get?_cons, ih]
        by_cases same : k = other
        · subst same
          rw [if_pos rfl, if_pos rfl, if_neg here]
        · rw [if_neg same, if_neg same]

@[simp] theorem read_put :
    (fields.put key value).read other = if other = key then value else fields.read other := by
  unfold read
  rw [get?_put]
  split
  · rfl
  · rfl

@[simp] theorem read_nil : read [] key = .null := rfl

theorem read_cons (k : String) (v : Value) :
    read ((k, v) :: fields) key = if k = key then v else fields.read key := by
  unfold read
  rw [get?_cons]
  split
  · rfl
  · rfl

/-- A key that is not there reads as null. -/
theorem read_of_not_mem (absent : key ∉ fields.map Prod.fst) : fields.read key = .null := by
  induction fields with
  | nil => rfl
  | cons entry fields ih =>
      obtain ⟨k, v⟩ := entry
      rw [List.map_cons, List.mem_cons, not_or] at absent
      rw [read_cons, if_neg fun same => absent.1 same.symm, ih absent.2]

/-- Entries that are `null` may be left out. -/
theorem read_present (distinct : (fields.map Prod.fst).Nodup) :
    (present fields).read key = fields.read key := by
  induction fields with
  | nil => rfl
  | cons entry fields ih =>
      obtain ⟨k, v⟩ := entry
      rw [List.map_cons, List.nodup_cons] at distinct
      have rest := ih distinct.2
      cases v with
      | null =>
          have dropped : present ((k, .null) :: fields) = present fields := rfl
          rw [dropped, rest, read_cons]
          split
          case isTrue same =>
            subst same
            exact read_of_not_mem fields k distinct.1
          case isFalse => rfl
      | _ =>
          unfold present at rest ⊢
          rw [List.filter_cons_of_pos rfl, read_cons, read_cons, rest]

@[simp] theorem putAll_nil : fields.putAll [] = fields := rfl

@[simp] theorem putAll_cons :
    fields.putAll ((key, value) :: changes) = (fields.put key value).putAll changes := rfl

/-- A key that is not among the changes keeps its value. -/
theorem get?_putAll_of_not_mem (absent : other ∉ changes.map Prod.fst) :
    (fields.putAll changes).get? other = fields.get? other := by
  induction changes generalizing fields with
  | nil => rfl
  | cons entry changes ih =>
      rw [List.map_cons, List.mem_cons, not_or] at absent
      rw [putAll_cons, ih _ absent.2, get?_put, if_neg absent.1]

/-- A field that the other map does not have keeps its value. -/
theorem read_putAll_of_not_mem (absent : other ∉ changes.map Prod.fst) :
    (fields.putAll changes).read other = fields.read other := by
  unfold read
  rw [get?_putAll_of_not_mem fields changes other absent]

/-- A field of the other map has its value there, and the others keep theirs. -/
theorem read_putAll (distinct : (changes.map Prod.fst).Nodup) :
    (fields.putAll changes).read other =
      if other ∈ changes.map Prod.fst then changes.read other else fields.read other := by
  induction changes generalizing fields with
  | nil => rfl
  | cons entry changes ih =>
      obtain ⟨k, v⟩ := entry
      rw [List.map_cons, List.nodup_cons] at distinct
      rw [putAll_cons, ih _ distinct.2, read_cons, read_put, List.map_cons]
      by_cases same : other = k
      · subst same
        rw [if_neg distinct.1, if_pos rfl, if_pos List.mem_cons_self, if_pos rfl]
      · have back : k ≠ other := fun eq => same eq.symm
        simp only [same, back, if_false, List.mem_cons, false_or]

end Reads

end Fields

/-! ## Paths -/

/-- A path of keys, which is not empty: the first key and the others. -/
abbrev Path := String × List String

/-- The value that stands for `old` once the path below it leads to `value`. A value on the way
that is no map is replaced by one. -/
def Value.change (value : Value) : List String → Value → Value
  | [], _ => value
  | key :: path, old =>
      let entries := match old with
        | .map entries => entries
        | _ => []
      .map (Fields.put entries key (change value path (Fields.read entries key)))

/-- What an update with these paths makes of a document. -/
def Fields.change (fields : Fields) (changes : List (Path × Value)) : Fields :=
  changes.foldl (fun fields entry =>
    fields.put entry.1.1 (Value.change entry.2 entry.1.2 (fields.read entry.1.1))) fields

/-- Keys, each as a path of its own. -/
def Fields.paths (changes : Fields) : List (Path × Value) :=
  changes.map fun entry => ((entry.1, []), entry.2)

/-- Changes under plain keys are a `putAll`. -/
theorem Fields.change_paths (fields changes : Fields) :
    fields.change (paths changes) = fields.putAll changes := by
  unfold change paths putAll
  rw [List.foldl_map]
  rfl

/-! ## In the database -/

mutual

/-- The form in which a value is kept: dates are timestamps, and the time of the server is that
of the write. -/
def Value.stored (now : Int) : Value → Value
  | .dateTime micros => .timestamp micros
  | .serverTimestamp => .timestamp now
  | .list xs => .list (storedList now xs)
  | .map entries => .map (storedFields now entries)
  | .null => .null
  | .bool b => .bool b
  | .int n => .int n
  | .double x => .double x
  | .string s => .string s
  | .timestamp micros => .timestamp micros
  | .geoPoint latitude longitude => .geoPoint latitude longitude
  | .reference path => .reference path
  | .object => .object

def storedList (now : Int) : List Value → List Value
  | [] => []
  | x :: xs => x.stored now :: storedList now xs

def storedFields (now : Int) : List (String × Value) → List (String × Value)
  | [] => []
  | (key, value) :: fields => (key, value.stored now) :: storedFields now fields

end

/-- An optional value of plain values is stored as it is. -/
theorem Value.stored_optional {α : Type} {now : Int} {f : α → Value}
    (same : ∀ a, (f a).stored now = f a) (o : Option α) :
    (Value.optional f o).stored now = .optional f o := by
  cases o with
  | none => rfl
  | some a => exact same a

mutual

/-- The codec of the client has a form for the value. -/
def Value.supported : Value → Bool
  | .object => false
  | .list xs => supportedList xs
  | .map entries => supportedFields entries
  | _ => true

def supportedList : List Value → Bool
  | [] => true
  | x :: xs => x.supported && supportedList xs

def supportedFields : List (String × Value) → Bool
  | [] => true
  | (_, value) :: fields => value.supported && supportedFields fields

end

namespace Fields

variable (now : Int) (fields : Fields)

def stored : Fields := storedFields now fields

def supported : Bool := supportedFields fields

@[simp] theorem get?_stored (key : String) :
    (fields.stored now).get? key = (fields.get? key).map (Value.stored now) := by
  induction fields with
  | nil => rfl
  | cons entry fields ih =>
      obtain ⟨k, v⟩ := entry
      unfold stored storedFields
      rw [get?_cons, get?_cons]
      by_cases same : k = key
      · rw [if_pos same, if_pos same]
        rfl
      · rw [if_neg same, if_neg same]
        exact ih

@[simp] theorem read_stored (key : String) :
    (fields.stored now).read key = (fields.read key).stored now := by
  unfold read
  rw [get?_stored]
  cases fields.get? key with
  | none => rfl
  | some value => rfl

/-- The database keeps the keys. -/
theorem map_fst_stored : (fields.stored now).map Prod.fst = fields.map Prod.fst := by
  induction fields with
  | nil => rfl
  | cons entry fields ih => exact congrArg (entry.1 :: ·) ih

/-- A list is stored element by element. -/
theorem storedList_eq (xs : List Value) : storedList now xs = xs.map (Value.stored now) := by
  induction xs with
  | nil => rfl
  | cons x xs ih =>
      unfold storedList
      rw [ih]
      rfl

end Fields

/-! ## The same value -/

/-- The values are equal, where numbers are compared as numbers, and maps by their keys. -/
inductive Value.Same : Value → Value → Prop
  | refl (v : Value) : Same v v
  | num {v w : Value} {x : Rat} : v.asNum = some (some x) → w.asNum = some (some x) → Same v w
  | map {entries entries' : Fields} :
      (∀ key, entries.get? key = entries'.get? key) → Same (.map entries) (.map entries')

section Same

variable {v : Value}

/-- A value that is no number and no map is the same as itself only. -/
theorem Value.same_iff_eq (number : ∀ x, v.asNum ≠ some (some x))
    (map : ∀ entries, v ≠ .map entries) {w : Value} : Value.Same v w ↔ w = v := by
  constructor
  · intro same
    cases same with
    | refl => rfl
    | num left => exact absurd left (number _)
    | map => exact absurd rfl (map _)
  · rintro rfl
    exact .refl _

/-- Two maps are the same if each key leads to the same. -/
theorem Value.same_map_iff {entries entries' : Fields} :
    Value.Same (.map entries) (.map entries') ↔ ∀ key, entries.get? key = entries'.get? key := by
  constructor
  · intro same
    cases same with
    | refl => exact fun _ => rfl
    | num left => cases left
    | map each => exact each
  · exact .map

/-- A number is the same as an integer by its value. -/
theorem Value.same_int_iff {n : Int} {w : Value} :
    Value.Same (.int n) w ↔ w.asNum = some (some (n : Rat)) := by
  constructor
  · intro same
    cases same with
    | refl => rfl
    | num left right =>
        cases left
        exact right
  · exact .num rfl

end Same

theorem Fields.isSome_get?_iff {fields : Fields} {key : String} :
    (fields.get? key).isSome ↔ key ∈ fields.map Prod.fst := by
  induction fields with
  | nil => simp
  | cons entry fields ih =>
      obtain ⟨k, v⟩ := entry
      rw [Fields.get?_cons, List.map_cons, List.mem_cons]
      by_cases same : k = key
      · simp [same]
      · rw [if_neg same, ih]
        exact (or_iff_right fun back => same back.symm).symm

/-- A field that is there is what is read. -/
theorem Fields.get?_of_isSome {fields : Fields} {key : String} (there : (fields.get? key).isSome) :
    fields.get? key = some (fields.read key) := by
  obtain ⟨v, found⟩ := Option.isSome_iff_exists.mp there
  unfold Fields.read
  rw [found]
  rfl

/-! ## What the database can keep -/

section Supported

variable {α : Type} {f : α → Value}

/-- A map can be encoded exactly if all its values can. -/
theorem supportedFields_iff {fields : Fields} :
    supportedFields fields = true ↔ ∀ entry ∈ fields, entry.2.supported = true := by
  induction fields with
  | nil => simp [supportedFields]
  | cons entry fields ih => simp [supportedFields, ih]

/-- A list of values that can be encoded can be encoded. -/
theorem supported_list_map (each : ∀ a, (f a).supported = true) (xs : List α) :
    (Value.list (xs.map f)).supported = true := by
  unfold Value.supported
  induction xs with
  | nil => rfl
  | cons x xs ih =>
      rw [List.map_cons, supportedList, each, ih]
      rfl

/-- So can an optional value of them. -/
theorem Value.supported_optional (each : ∀ a, (f a).supported = true) (o : Option α) :
    (Value.optional f o).supported = true := by
  cases o with
  | none => rfl
  | some a => exact each a

/-- Leaving out fields that are null keeps a map such that it can be encoded. -/
theorem Fields.supported_present {fields : Fields} (all : fields.supported = true) :
    (Fields.present fields).supported = true := by
  have each := supportedFields_iff.mp all
  refine supportedFields_iff.mpr fun entry kept => ?_
  exact each entry (List.mem_filter.mp kept).1

/-- So does one more field that can be encoded. -/
theorem Fields.supported_put {fields : Fields} {value : Value} (all : fields.supported = true)
    (new : value.supported = true) (key : String) : (fields.put key value).supported = true := by
  induction fields with
  | nil => exact Bool.and_eq_true_iff.mpr ⟨new, rfl⟩
  | cons entry fields ih =>
      obtain ⟨k, v⟩ := entry
      rcases Bool.and_eq_true_iff.mp all with ⟨first, rest⟩
      unfold Fields.put
      split
      · exact Bool.and_eq_true_iff.mpr ⟨new, rest⟩
      · exact Bool.and_eq_true_iff.mpr ⟨first, ih rest⟩

end Supported

/-! ## Enumerations

The values of an enumeration are kept as their names. -/

section Enumerations

variable {α : Type} {name : α → String} {values : List α} {a : α}

/-- `$enumDecode`: the value of this name; `none` is an error. -/
def Value.asEnum (name : α → String) (values : List α) : Value → Option α
  | .string s => values.find? fun a => name a = s
  | _ => none

/-- `$enumDecodeNullable`. -/
def Value.asEnum? (name : α → String) (values : List α) : Value → Option (Option α)
  | .null => some none
  | v => (v.asEnum name values).map some

/-- The name of a constant is read as the constant. -/
theorem Value.asEnum_name (distinct : Function.Injective name) (listed : a ∈ values) :
    Value.asEnum name values (.string (name a)) = some a := by
  have found : (values.find? fun b => name b = name a).isSome := by
    rw [List.find?_isSome]
    exact ⟨a, listed, decide_eq_true rfl⟩
  rcases Option.isSome_iff_exists.mp found with ⟨b, first⟩
  have same : name b = name a := by simpa using List.find?_some first
  rw [Value.asEnum, first, distinct same]

/-- The same where there may be none. -/
theorem Value.asEnum?_optional (distinct : Function.Injective name)
    (all : ∀ a, a ∈ values) (o : Option α) :
    Value.asEnum? name values (.optional (fun a => .string (name a)) o) = some o := by
  cases o with
  | none => rfl
  | some a => exact congrArg (Option.map some) (Value.asEnum_name distinct (all a))

end Enumerations

end Dynamic
