import TwoGather.Fiesta.FormRuns

/-!
# Fields that an update is to leave alone

A save of the page writes every field of the fiesta, also those whose inputs were not changed. It
leaves such a field alone only if the variable of the page was loaded from the fiesta. The number
of participants, the tags, the things to bring and the three choices of the visibility are
not loaded, and one of the choices is saved under a key that the page never sets.

`updatePage_keeps_iff` says, for every use of the page, exactly which values the fiesta must have
for its fields to come out of the save as they were.
-/

namespace TwoGather

open Docs Dynamic Requests

/-! ## The inputs -/

inductive Input
  | title
  | category
  | soundLevel
  | tags
  | description
  | visibleAfter
  | address
  | startAt
  | endAt
  | numberOfParticipant
  | logistic
  | thingsToBring
  | visibilityRadius
  | visibleByFirstCircle
  | visibleByFiestar
  | visibleByConnexion
  deriving DecidableEq

/-- The field of the document that the input is for. -/
def Input.field : Input → String
  | .title => "title"
  | .category => "category"
  | .soundLevel => "soundLevel"
  | .tags => "tags"
  | .description => "description"
  | .visibleAfter => "visibleAfter"
  | .address => "address"
  | .startAt => "startAt"
  | .endAt => "endAt"
  | .numberOfParticipant => "numberOfParticipant"
  | .logistic => "logistic"
  | .thingsToBring => "thingsToBring"
  | .visibilityRadius => "visibilityRadius"
  | .visibleByFirstCircle => "visibleByFirstCircle"
  | .visibleByFiestar => "visibleByFiestar"
  | .visibleByConnexion => "visibleByConnexion"

/-- The inputs that are changed. On the page of the visibility these are the choices that were
made there. -/
def Edit.inputs : Edit → List Input
  | .name _ => [.title]
  | .category _ => [.category]
  | .soundLevel _ => [.soundLevel]
  | .tags _ => [.tags]
  | .desc _ => [.description]
  | .visibilty _ => [.visibleAfter]
  | .address _ => [.address]
  | .startAt _ => [.startAt]
  | .endAt _ => [.endAt]
  | .nbMaxUser _ => [.numberOfParticipant]
  | .logistic _ => [.logistic]
  | .mustBeBuyed _ => [.thingsToBring]
  | .visibility firstCircle fiestar connexion =>
      (firstCircle.toList.map fun _ => .visibleByFirstCircle) ++
        (fiestar.toList.map fun _ => .visibleByFiestar) ++
        connexion.toList.map fun _ => .visibleByConnexion
  | .visibiltyRadius _ => [.visibilityRadius]

/-- The input is not changed while the page is used. -/
def Unchanged (use : List PageEvent) (input : Input) : Prop :=
  ∀ e, .edit e ∈ use → input ∉ e.inputs

/-! ## The variables while the page is used -/

/-- The variables for the inputs in `P`: what was loaded of `m`, or what they start with. -/
structure FiestaUpdateForm.Keeps (form : FiestaUpdateForm) (m : FiestaModel)
    (P : Input → Prop) : Prop where
  tags : P .tags → form.tags = none
  thingsToBring : P .thingsToBring → form.mustBeBuyed = none
  numberOfParticipant : P .numberOfParticipant → form.nbMaxUser = some 2
  visibleByFirstCircle : P .visibleByFirstCircle → form.visibilityData.firstCircle = true
  visibleByConnexion : P .visibleByConnexion → form.visibilityData.connexion = false
  title : form.shown = true → P .title → form.name = m.title
  category : form.shown = true → P .category → form.category = m.category
  soundLevel : form.shown = true → P .soundLevel → form.soundLevel = m.soundLevel.map doubleToInt
  description : form.shown = true → P .description → form.desc = m.description
  visibleAfter : form.shown = true → P .visibleAfter → form.visibilty = m.visibleAfter
  address : form.shown = true → P .address → form.address = m.address
  startAt : form.shown = true → P .startAt → form.date.bind Prod.fst = m.startAt
  startField : form.shown = true → P .startAt → form.dateField.bind Prod.fst = m.startAt
  endAt : form.shown = true → P .endAt → form.date.bind Prod.snd = m.endAt
  endField : form.shown = true → P .endAt → form.dateField.bind Prod.snd = m.endAt
  logistic : form.shown = true → P .logistic → form.logistic = m.logistic
  visibilityRadius :
    form.shown = true → P .visibilityRadius → form.visibiltyRadius = m.visibilityRadius

namespace FiestaUpdateForm

variable {form : FiestaUpdateForm} {m : FiestaModel} {P : Input → Prop}

theorem keeps_start : ({} : FiestaUpdateForm).Keeps m P := by
  constructor
  case tags | thingsToBring | numberOfParticipant => exact fun _ => rfl
  case visibleByFirstCircle | visibleByConnexion => exact fun _ => rfl
  all_goals exact fun shown => by cases shown

theorem Keeps.load (keeps : form.Keeps m P) : (form.load m).Keeps m P := by
  have fields : ∀ {α : Type} (part : Option Int × Option Int → Option α) {d : Option α},
      (form.shown = true → form.dateField.bind part = d) → part (m.startAt, m.endAt) = d →
      (form.load m).dateField.bind part = d := by
    intro α part d kept loaded
    unfold FiestaUpdateForm.load
    dsimp only
    split
    case isTrue shown => exact kept shown
    case isFalse => exact loaded
  exact { keeps with
    title := fun _ _ => rfl
    category := fun _ _ => rfl
    soundLevel := fun _ _ => rfl
    description := fun _ _ => rfl
    visibleAfter := fun _ _ => rfl
    address := fun _ _ => rfl
    startAt := fun _ _ => rfl
    startField := fun _ p => fields Prod.fst (fun shown => keeps.startField shown p) rfl
    endAt := fun _ _ => rfl
    endField := fun _ p => fields Prod.snd (fun shown => keeps.endField shown p) rfl
    logistic := fun _ _ => rfl
    visibilityRadius := fun _ _ => rfl }

theorem Keeps.build {snapshot : Option FiestaModel} (keeps : form.Keeps m P)
    (same : ∀ m' ∈ snapshot, m' = m) : (form.build snapshot).Keeps m P := by
  cases snapshot with
  | none =>
      constructor
      case tags => exact keeps.tags
      case thingsToBring => exact keeps.thingsToBring
      case numberOfParticipant => exact keeps.numberOfParticipant
      case visibleByFirstCircle => exact keeps.visibleByFirstCircle
      case visibleByConnexion => exact keeps.visibleByConnexion
      all_goals exact fun shown => by cases shown
  | some m' =>
      cases same m' rfl
      exact keeps.load

/-- An edit leaves the variables of the other inputs alone. -/
theorem Keeps.apply (keeps : form.Keeps m P) {e : Edit} (others : ∀ i, P i → i ∉ e.inputs) :
    (form.apply e).Keeps m P := by
  have changed : ∀ {i : Input} {Q : Prop}, i ∈ e.inputs → P i → Q := fun mem p =>
    absurd mem (others _ p)
  cases e with
  | name p0 => exact { keeps with title := fun _ => changed List.mem_cons_self }
  | category p0 => exact { keeps with category := fun _ => changed List.mem_cons_self }
  | soundLevel val => exact { keeps with soundLevel := fun _ => changed List.mem_cons_self }
  | tags t => exact { keeps with tags := changed List.mem_cons_self }
  | desc p0 => exact { keeps with description := fun _ => changed List.mem_cons_self }
  | visibilty p0 => exact { keeps with visibleAfter := fun _ => changed List.mem_cons_self }
  | address location => exact { keeps with address := fun _ => changed List.mem_cons_self }
  | startAt finalDate =>
      exact { keeps with
        startAt := fun _ => changed List.mem_cons_self
        startField := fun _ => changed List.mem_cons_self
        endAt := keeps.endField
        endField := keeps.endField }
  | endAt finalDate =>
      exact { keeps with
        startAt := keeps.startField
        startField := keeps.startField
        endAt := fun _ => changed List.mem_cons_self
        endField := fun _ => changed List.mem_cons_self }
  | nbMaxUser val => exact { keeps with numberOfParticipant := changed List.mem_cons_self }
  | logistic p0 => exact { keeps with logistic := fun _ => changed List.mem_cons_self }
  | mustBeBuyed p1 => exact { keeps with thingsToBring := changed List.mem_cons_self }
  | visibility firstCircle fiestar connexion =>
      refine { keeps with visibleByFirstCircle := fun p => ?_, visibleByConnexion := fun p => ?_ }
      · cases firstCircle with
        | none => exact keeps.visibleByFirstCircle p
        | some b => exact changed (by simp [Edit.inputs]) p
      · cases connexion with
        | none => exact keeps.visibleByConnexion p
        | some b => exact changed (by simp [Edit.inputs]) p
  | visibiltyRadius p0 =>
      exact { keeps with visibilityRadius := fun _ => changed List.mem_cons_self }

theorem Keeps.edit (keeps : form.Keeps m P) {e : Edit} (others : ∀ i, P i → i ∉ e.inputs) :
    (form.edit e).Keeps m P := by
  unfold FiestaUpdateForm.edit
  split
  · exact keeps.apply others
  · exact keeps

theorem Keeps.nextBasic (keeps : form.Keeps m P) (valid : Bool) :
    (form.nextBasic valid).Keeps m P := by
  unfold FiestaUpdateForm.nextBasic
  split
  · exact { keeps with }
  · exact keeps

theorem Keeps.nextPhoto (keeps : form.Keeps m P) (picked : List String) :
    (form.nextPhoto picked).Keeps m P := by
  unfold FiestaUpdateForm.nextPhoto
  split
  · exact { keeps with startField := keeps.startAt, endField := keeps.endAt }
  · exact keeps

end FiestaUpdateForm

/-- A page for the fiesta `id` with the document `data`: it has read nothing else, and its
variables for the inputs in `P` are what was loaded or what they start with. -/
structure UpdatePage.Keeps (page : UpdatePage) (parse : String → Option Int) (id : Nat)
    (data : Fields) (P : Input → Prop) : Prop where
  fiestaId : page.fiestaId = id
  incoming : ∀ m ∈ page.incoming, FiestaModel.fromJson parse data = some m
  snapshot : ∀ m ∈ page.snapshot, FiestaModel.fromJson parse data = some m
  form : ∀ m, FiestaModel.fromJson parse data = some m → page.form.Keeps m P
  shown : page.form.shown = true → ∃ m, FiestaModel.fromJson parse data = some m

section Use

variable {parse : String → Option Int} {id : Nat} {data : Fields} {P : Input → Prop}

theorem UpdatePage.keeps_opened : ({ fiestaId := id } : UpdatePage).Keeps parse id data P where
  fiestaId := rfl
  incoming _ there := by cases there
  snapshot _ there := by cases there
  form _ _ := FiestaUpdateForm.keeps_start
  shown shown := by cases shown

theorem FiestaUpdateForm.shown_build {form : FiestaUpdateForm} {snapshot : Option FiestaModel}
    (shown : (form.build snapshot).shown = true) : ∃ m, m ∈ snapshot := by
  cases snapshot with
  | none => cases shown
  | some m => exact ⟨m, rfl⟩

theorem UpdatePage.Keeps.built {page : UpdatePage} {snapshot : Option FiestaModel}
    (keeps : page.Keeps parse id data P)
    (read : ∀ m ∈ snapshot, FiestaModel.fromJson parse data = some m) :
    (∀ m, FiestaModel.fromJson parse data = some m →
      (page.form.build snapshot).Keeps m P) ∧
    ((page.form.build snapshot).shown = true →
      ∃ m, FiestaModel.fromJson parse data = some m) := by
  refine ⟨fun m isModel => ?_, fun shown => ?_⟩
  · refine (keeps.form m isModel).build fun m' there => ?_
    exact Option.some.inj ((read m' there).symm.trans isModel)
  · obtain ⟨m, there⟩ := FiestaUpdateForm.shown_build shown
    exact ⟨m, read m there⟩

theorem FiestaUpdateForm.shown_edit (form : FiestaUpdateForm) (e : Edit) :
    (form.edit e).shown = form.shown := by
  unfold FiestaUpdateForm.edit
  split
  · cases e <;> rfl
  · rfl

theorem UpdatePage.Keeps.step {fiesta : AutoCollection Fields} {page : UpdatePage}
    (keeps : page.Keeps parse id data P) (stored : fiesta.get? id = some data) {e : PageEvent}
    (others : ∀ edit, e = .edit edit → ∀ i, P i → i ∉ edit.inputs) :
    (page.step parse fiesta e).Keeps parse id data P := by
  cases e with
  | fetch =>
      refine { keeps with incoming := fun m read => ?_ }
      have found : fiesta.get? page.fiestaId = some data := by rw [keeps.fiestaId, stored]
      simp only [UpdatePage.step, found, Option.bind_some, Option.mem_def] at read
      exact read
  | arrive =>
      obtain ⟨form, shown⟩ := keeps.built keeps.incoming
      exact { keeps with snapshot := keeps.incoming, form, shown }
  | rebuild =>
      obtain ⟨form, shown⟩ := keeps.built keeps.snapshot
      exact { keeps with form, shown }
  | edit e =>
      refine { keeps with
        form := fun m isModel => (keeps.form m isModel).edit (others e rfl)
        shown := fun shown => keeps.shown ?_ }
      exact (page.form.shown_edit e).symm.trans shown
  | nextBasic valid =>
      refine { keeps with
        form := fun m isModel => (keeps.form m isModel).nextBasic valid
        shown := fun shown => keeps.shown ?_ }
      simp only [UpdatePage.step, FiestaUpdateForm.nextBasic] at shown
      split at shown <;> exact shown
  | nextPhoto picked =>
      refine { keeps with
        form := fun m isModel => (keeps.form m isModel).nextPhoto picked
        shown := fun shown => keeps.shown ?_ }
      simp only [UpdatePage.step, FiestaUpdateForm.nextPhoto] at shown
      split at shown <;> exact shown

/-- The page is opened for the fiesta and used. -/
def FormApp.used (parse : String → Option Int) (app : FormApp) (page id : Nat)
    (use : List PageEvent) : FormApp :=
  run (FormApp.step parse) app (.opens page id :: use.map (.page page))

/-- While the page is used, nothing is stored, and the variables for the unchanged inputs stay. -/
theorem FormApp.used_keeps {app : FormApp} {page : Nat} {use : List PageEvent}
    (stored : app.store.fiesta.get? id = some data) :
    (app.used parse page id use).store = app.store ∧
      ∃ p, (app.used parse page id use).pages page = some p ∧
        p.Keeps parse id data (Unchanged use) := by
  have general : ∀ (rest : List PageEvent) (before : FormApp) (p : UpdatePage),
      (∀ e ∈ rest, e ∈ use) → before.store = app.store → before.pages page = some p →
      p.Keeps parse id data (Unchanged use) →
      (run (FormApp.step parse) before (rest.map (.page page))).store = app.store ∧
        ∃ q, (run (FormApp.step parse) before (rest.map (.page page))).pages page = some q ∧
          q.Keeps parse id data (Unchanged use) := by
    intro rest
    induction rest with
    | nil => exact fun _ p _ same opened keeps => ⟨same, p, opened, keeps⟩
    | cons e rest ih =>
        intro before p among same opened keeps
        have next : before.step parse (.page page e) =
            { before with
              pages := Function.update before.pages page
                (some (p.step parse before.store.fiesta e)) } := by
          simp only [FormApp.step, opened]
        rw [List.map_cons, run_cons, next]
        refine ih _ _ (fun e' later => among e' (List.mem_cons_of_mem _ later)) same
          (Function.update_self ..) (keeps.step (by rw [same, stored]) ?_)
        intro edit isEdit i unchanged
        exact unchanged edit (among _ (isEdit ▸ List.mem_cons_self))
  exact general use _ _ (fun _ mem => mem) rfl (Function.update_self ..) UpdatePage.keeps_opened

end Use

/-! ## What a save leaves alone -/

/-- The value of the field that comes out of a save as it was, when its input is unchanged: the one
that the variable starts with, where that is not loaded. A sound level is cut off, and the map
of an address is written anew. -/
def Survives (data : Fields) : Input → Prop
  | .tags => data.read "tags" = .null
  | .thingsToBring => data.read "thingsToBring" = .null
  | .numberOfParticipant => (data.read "numberOfParticipant").asNum = some (some 2)
  | .visibleByFirstCircle => data.read "visibleByFirstCircle" = .bool true
  | .visibleByFiestar => data.read "visibleByFiestar" = .null
  | .visibleByConnexion => data.read "visibleByConnexion" = .bool false
  | .soundLevel => ∀ x, (data.read "soundLevel").asNum = some (some x) → x.den = 1
  | .address => ∀ map, data.read "address" = .map map → LocationModel.Fits map
  | _ => True

theorem doubleToInt_eq_iff (x : Rat) : (doubleToInt x : Rat) = x ↔ x.den = 1 := by
  unfold doubleToInt
  constructor
  · intro whole
    rw [← whole]
    exact Rat.den_intCast _
  · intro whole
    rw [whole, Int.ofNat_one, Int.tdiv_one]
    exact Rat.coe_int_num_of_den_eq_one whole

section Saved

variable {parse : String → Option Int} {form : FiestaUpdateForm} {m : FiestaModel}
  {data new : Fields} {P : Input → Prop} {user : FiestarUserModel} {uid : UserId}
  {photos : List String} {now : Int}

/-- A field that is saved as it was. -/
theorem savedOver_same {key : String} {v : Value} (mem : key ∈ savedKeys)
    (wrote : (form.fiestaData user uid photos).read key = v) (plain : v.stored now = v)
    (before : data.read key = v) :
    Value.Same ((form.savedOver user uid photos now data).read key) (data.read key) := by
  rw [read_savedOver mem wrote, plain, before]
  exact .refl v

/-- A text that is saved as it was. -/
theorem savedOver_same_text {key : String} {text : Option String} (mem : key ∈ savedKeys)
    (wrote : (form.fiestaData user uid photos).read key = .optional .string text)
    (read : (data.read key).asString = some text) :
    Value.Same ((form.savedOver user uid photos now data).read key) (data.read key) :=
  savedOver_same mem wrote (Value.stored_optional (fun _ => rfl) text)
    (Value.asString_eq_some read)

/-- A field that is saved as `null`. -/
theorem savedOver_same_null {key : String} (mem : key ∈ savedKeys)
    (wrote : (form.fiestaData user uid photos).read key = .null) :
    Value.Same ((form.savedOver user uid photos now data).read key) (data.read key) ↔
      data.read key = .null := by
  rw [read_savedOver mem wrote]
  exact Value.same_iff_eq (fun _ number => by cases number) fun _ map => by cases map

/-- A choice that is saved as a constant. -/
theorem savedOver_same_bool {key : String} {b : Bool} (mem : key ∈ savedKeys)
    (wrote : (form.fiestaData user uid photos).read key = .bool b) :
    Value.Same ((form.savedOver user uid photos now data).read key) (data.read key) ↔
      data.read key = .bool b := by
  rw [read_savedOver mem wrote]
  exact Value.same_iff_eq (fun _ number => by cases number) fun _ map => by cases map

/-- A date that is saved as it was. -/
theorem savedOver_same_date {key : String} {date : Option Int} (mem : key ∈ savedKeys)
    (wrote : (form.fiestaData user uid photos).read key = .optional .dateTime date)
    (before : ∃ micros, data.read key = .timestamp micros)
    (read : TimestampConverter.fromJson parse (data.read key) = date) :
    Value.Same ((form.savedOver user uid photos now data).read key) (data.read key) := by
  obtain ⟨micros, isTimestamp⟩ := before
  rw [isTimestamp] at read
  cases read
  rw [read_savedOver mem wrote, isTimestamp]
  exact .refl _

/-- A number that is saved as it was. -/
theorem savedOver_same_num {key : String} {number : Option Rat} (mem : key ∈ savedKeys)
    (wrote : (form.fiestaData user uid photos).read key = .optional .double number)
    (read : (data.read key).asNum = some number) :
    Value.Same ((form.savedOver user uid photos now data).read key) (data.read key) := by
  rw [read_savedOver mem wrote]
  cases number with
  | none =>
      rw [Value.asNum_eq_none read]
      exact .refl _
  | some x => exact .num rfl read

theorem savedOver_same_soundLevel (reads : m.Reads parse data)
    (loaded : form.soundLevel = m.soundLevel.map doubleToInt) :
    Value.Same ((form.savedOver user uid photos now data).read "soundLevel")
      (data.read "soundLevel") ↔ Survives data .soundLevel := by
  have wrote : (form.fiestaData user uid photos).read "soundLevel" =
      .optional .int (m.soundLevel.map doubleToInt) := congrArg (Value.optional .int) loaded
  rw [read_savedOver (by decide) wrote]
  unfold Survives
  have cast := reads.soundLevel
  cases level : m.soundLevel with
  | none =>
      rw [level] at cast
      rw [Value.asNum_eq_none cast]
      exact iff_of_true (.refl _) fun x none => by cases none
  | some x =>
      rw [level] at cast
      have whole := doubleToInt_eq_iff x
      change Value.Same (.int (doubleToInt x)) _ ↔ _
      rw [Value.same_int_iff, cast]
      simp only [Option.some.injEq, forall_eq']
      rw [← whole, eq_comm]

theorem savedOver_same_address (reads : m.Reads parse data) (loaded : form.address = m.address) :
    Value.Same ((form.savedOver user uid photos now data).read "address")
      (data.read "address") ↔ Survives data .address := by
  have wrote : (form.fiestaData user uid photos).read "address" =
      .optional (fun l => .map (LocationModel.toMap l)) m.address :=
    congrArg (Value.optional fun l => .map (LocationModel.toMap l)) loaded
  have plain := Value.stored_optional (f := fun l => .map (LocationModel.toMap l))
    (fun l => congrArg Value.map (l.stored_toMap now)) m.address
  rw [read_savedOver (by decide) wrote, plain]
  unfold Survives
  have cast := reads.address
  cases before : data.read "address" with
  | null =>
      rw [before] at cast
      rw [← Option.some.inj cast]
      exact iff_of_true (.refl _) fun map none => by cases none
  | map entries =>
      rw [before] at cast
      obtain ⟨l, read, isAddress⟩ := Option.map_eq_some_iff.mp cast
      rw [← isAddress]
      simp only [Value.map.injEq, forall_eq']
      exact LocationModel.same_iff_fits read
  | _ =>
      rw [before] at cast
      cases cast

/-- The field of an unchanged input after a save is the one before exactly if it survives. -/
theorem savedOver_same_iff (reads : m.Reads parse data) (filled : FilledIn data)
    (keeps : form.Keeps m P) (shown : form.shown = true) {i : Input} (unchanged : P i) :
    Value.Same ((form.savedOver user uid photos now data).read i.field) (data.read i.field) ↔
      Survives data i := by
  cases i with
  | title =>
      exact iff_of_true (savedOver_same_text (by decide)
        (congrArg (Value.optional .string) (keeps.title shown unchanged)) reads.title) True.intro
  | category =>
      exact iff_of_true (savedOver_same_text (by decide)
        (congrArg (Value.optional .string) (keeps.category shown unchanged)) reads.category)
        True.intro
  | description =>
      exact iff_of_true (savedOver_same_text (by decide)
        (congrArg (Value.optional .string) (keeps.description shown unchanged)) reads.description)
        True.intro
  | logistic =>
      exact iff_of_true (savedOver_same_text (by decide)
        (congrArg (Value.optional .string) (keeps.logistic shown unchanged)) reads.logistic)
        True.intro
  | visibleAfter =>
      exact iff_of_true (savedOver_same (by decide)
        (congrArg (Value.optional .bool) (keeps.visibleAfter shown unchanged))
        (Value.stored_optional (fun _ => rfl) _) (Value.asBool_eq_some reads.visibleAfter))
        True.intro
  | startAt =>
      exact iff_of_true (savedOver_same_date (by decide)
        (congrArg (Value.optional .dateTime) (keeps.startAt shown unchanged)) filled.startAt
        reads.startAt) True.intro
  | endAt =>
      exact iff_of_true (savedOver_same_date (by decide)
        (congrArg (Value.optional .dateTime) (keeps.endAt shown unchanged)) filled.endAt
        reads.endAt) True.intro
  | visibilityRadius =>
      exact iff_of_true (savedOver_same_num (by decide)
        (congrArg (Value.optional .double) (keeps.visibilityRadius shown unchanged))
        reads.visibilityRadius) True.intro
  | soundLevel => exact savedOver_same_soundLevel reads (keeps.soundLevel shown unchanged)
  | address => exact savedOver_same_address reads (keeps.address shown unchanged)
  | tags =>
      exact savedOver_same_null (by decide)
        (congrArg (Value.optional passionsValue) (keeps.tags unchanged))
  | thingsToBring =>
      exact savedOver_same_null (by decide)
        (congrArg (Value.optional passionsValue) (keeps.thingsToBring unchanged))
  | numberOfParticipant =>
      have wrote : (form.fiestaData user uid photos).read "numberOfParticipant" = .int 2 :=
        congrArg (Value.optional .int) (keeps.numberOfParticipant unchanged)
      rw [Input.field, read_savedOver (by decide) wrote]
      exact Value.same_int_iff
  | visibleByFirstCircle =>
      exact savedOver_same_bool (by decide)
        (congrArg Value.bool (keeps.visibleByFirstCircle unchanged))
  | visibleByFiestar => exact savedOver_same_null (by decide) rfl
  | visibleByConnexion =>
      exact savedOver_same_bool (by decide)
        (congrArg Value.bool (keeps.visibleByConnexion unchanged))

end Saved

/-! ## Whole uses of the page -/

/-- The save comes to its call, and the update of the fiesta is made. -/
def FormApp.Saves (app : FormApp) (page : Nat) (fails : FormOp → Bool)
    (currentUser : Option UserId) (userData : Option FiestarUserModel)
    (upload : String → Option String) (valid : Bool) : Prop :=
  (∃ p ∈ app.pages page, (p.saved currentUser userData upload valid).isSome) ∧
    fails .updateFiesta = false

/-- **After the page is used for a stored fiesta and saved, every field whose input was not
changed has the value that it had, exactly if the update is not made or all these values
survive.** -/
theorem updatePage_keeps_iff (parse : String → Option Int)
    (createdFiesta : UserId → AutoCollection Fields) (now : Int) (calls : List FormCall)
    (app : FormApp)
    (reached : Reached (FormApp.step parse) (.start createdFiesta now) calls app) (id : Nat)
    (data : Fields) (stored : app.store.fiesta.get? id = some data) (page : Nat)
    (use : List PageEvent) (fails : FormOp → Bool) (currentUser : Option UserId)
    (userData : Option FiestarUserModel) (upload : String → Option String) (valid : Bool) :
    let before := app.used parse page id use
    let after := before.step parse (.save page fails currentUser userData upload valid)
    ∃ new, after.store.fiesta.get? id = some new ∧
      ((∀ i, Unchanged use i → Value.Same (new.read i.field) (data.read i.field)) ↔
        (before.Saves page fails currentUser userData upload valid →
          ∀ i, Unchanged use i → Survives data i)) := by
  intro before after
  have used : before.store = app.store ∧ ∃ p, before.pages page = some p ∧
      p.Keeps parse id data (Unchanged use) := FormApp.used_keeps stored
  obtain ⟨same, p, opened, keeps⟩ := used
  have kept : after.store.fiesta = app.store.fiesta →
      ¬ before.Saves page fails currentUser userData upload valid →
      ∃ new, after.store.fiesta.get? id = some new ∧
        ((∀ i, Unchanged use i → Value.Same (new.read i.field) (data.read i.field)) ↔
          (before.Saves page fails currentUser userData upload valid →
            ∀ i, Unchanged use i → Survives data i)) := by
    intro unchanged stays
    refine ⟨data, by rw [unchanged, stored], ?_⟩
    exact iff_of_true (fun _ _ => .refl _) fun saves => absurd saves stays
  cases maps : p.saved currentUser userData upload valid with
  | none =>
      have step : after = before := FormApp.step_save_stops opened maps
      refine kept (by rw [step, same]) ?_
      rintro ⟨⟨q, there, comes⟩, -⟩
      cases opened.symm.trans there
      rw [maps] at comes
      cases comes
  | some maps' =>
      have step : after = before.update page fails currentUser p.fiestaId maps' :=
        FormApp.step_save opened maps
      obtain ⟨submits, photos, uid, user, -, rfl⟩ := UpdatePage.saved_eq_some maps
      obtain ⟨shown, -⟩ := FiestaUpdateForm.shown_of_submits submits
      obtain ⟨m, isModel⟩ := keeps.shown shown
      have fiesta : after.store.fiesta = _ := congrArg (fun app : FormApp => app.store.fiesta) step
      rw [FormApp.update_fiesta, same] at fiesta
      cases made : fails .updateFiesta with
      | true =>
          rw [made, if_pos rfl] at fiesta
          refine kept fiesta ?_
          rintro ⟨-, none⟩
          cases made.symm.trans none
      | false =>
          rw [made, if_neg Bool.false_ne_true, keeps.fiestaId] at fiesta
          refine ⟨p.form.savedOver user uid photos app.store.now data, ?_, ?_⟩
          · rw [fiesta, AutoCollection.get?_update, if_pos rfl, stored]
            rfl
          · have saves : before.Saves page fails currentUser userData upload valid :=
              ⟨⟨p, opened, by rw [maps]; rfl⟩, made⟩
            rw [forall_prop_of_true saves]
            refine forall_congr' fun i => forall_congr' fun unchanged => ?_
            have filled := (FormApp.filledIn reached).docs id data stored
            exact savedOver_same_iff (FiestaModel.reads isModel) filled (keeps.form m isModel) shown
              unchanged

/-! ## A use without edits -/

/-- `u` has stored a fiesta that the fiestars see. -/
def plainApp : FormApp :=
  run (FormApp.step fun _ => none) (.start (fun _ => .empty) 0)
    [.createNewFiesta (fun _ => false) (some "u") plainData []]

/-- The page is loaded, and nothing but the photo is picked. -/
def plainUse : List PageEvent :=
  [.fetch, .arrive, .nextBasic true, .nextPhoto ["q.png"]]

theorem plainUse_keeps_iff :
    ∃ data, plainApp.store.fiesta.get? 0 = some data ∧
      let before := plainApp.used (fun _ => none) 0 0 plainUse
      let after := before.step (fun _ => none)
        (.save 0 (fun _ => false) (some "u") (some plainHost) some true)
      ∃ new, after.store.fiesta.get? 0 = some new ∧
        ((∀ i, Unchanged plainUse i → Value.Same (new.read i.field) (data.read i.field)) ↔
          (before.Saves 0 (fun _ => false) (some "u") (some plainHost) some true →
            ∀ i, Unchanged plainUse i → Survives data i)) :=
  ⟨_, rfl, updatePage_keeps_iff _ (fun _ => .empty) 0
    [.createNewFiesta (fun _ => false) (some "u") plainData []] _ (.run _ _) 0 _ rfl _ _ _ _ _ _ _⟩

/-- The fiestars do not see the fiesta any more, and nothing is to be brought. -/
theorem plainUse_hides :
    ∃ data new, plainApp.store.fiesta.get? 0 = some data ∧
      ((plainApp.used (fun _ => none) 0 0 plainUse).step (fun _ => none)
        (.save 0 (fun _ => false) (some "u") (some plainHost) some true)).store.fiesta.get? 0 =
          some new ∧
      (∀ i, Unchanged plainUse i) ∧
      ¬ Value.Same (new.read "visibleByFiestar") (data.read "visibleByFiestar") ∧
      ¬ Value.Same (new.read "thingsToBring") (data.read "thingsToBring") := by
  refine ⟨_, _, rfl, rfl, ?_, ?_, ?_⟩
  · intro i e edit
    simp [plainUse] at edit
  · intro same
    cases same with
    | num left => cases left
  · intro same
    cases same with
    | num left => cases left

end TwoGather
