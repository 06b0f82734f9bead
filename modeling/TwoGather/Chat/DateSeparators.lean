import TwoGather.Dates
import TwoGather.Chat.Messages

/-!
# The dates between the messages

The messages of a salon are shown from the newest, at the bottom, to the oldest, and an item
whose flag `useSticker` is set has the date of its message above it. For the newest message the
code looks at how long after the next one it was created. For the others it compares the days of
the month alone, so a date is left out between two messages of the same day of two months.
`useSticker_correct_iff` says that nothing else is wrong.
-/

namespace TwoGather

/-- `useSticker` in the `itemBuilder`, for the messages that `getMessages` returns; `none` is the
`RangeError` of an index without a message. -/
def useSticker (zone : LocalTime) (messages : List MessageModel) (index : Nat) : Option Bool :=
  messages[index]?.bind fun message =>
    if index = 0 then
      if messages.length < 2 then some true
      else
        messages[1]?.map fun older =>
          let days := inDays (message.createdAt.micros - older.createdAt.micros)
          if days ∈ [0, 1] then
            decide ((zone.date message.createdAt).day ≠ (zone.date older.createdAt).day)
          else decide (days ≥ 1)
    else if index = messages.length - 1 then some true
    else
      messages[index + 1]?.map fun older =>
        decide ((zone.date message.createdAt).day ≠ (zone.date older.createdAt).day)

/-! ## Where a date belongs -/

/-- As the messages are displayed. -/
def NewestFirst (messages : List MessageModel) : Prop :=
  messages.Pairwise fun newer older => older.createdAt.micros ≤ newer.createdAt.micros

instance (messages : List MessageModel) : Decidable (NewestFirst messages) :=
  inferInstanceAs (Decidable (messages.Pairwise _))

/-- What is true of a message and the next older one. -/
def WithNext (messages : List MessageModel) (index : Nat)
    (holds : MessageModel → MessageModel → Prop) : Prop :=
  ∃ message older, messages[index]? = some message ∧ messages[index + 1]? = some older ∧
    holds message older

/-- The message is the oldest one, or the next one has another date. -/
def BeginsDate (zone : LocalTime) (messages : List MessageModel) (index : Nat) : Prop :=
  index + 1 = messages.length ∨ WithNext messages index fun message older =>
    zone.date message.createdAt ≠ zone.date older.createdAt

/-- The message is not the newest one, and the next one is of the same day of another month or
year. -/
def SameDayBefore (zone : LocalTime) (messages : List MessageModel) (index : Nat) : Prop :=
  0 < index ∧ WithNext messages index fun message older =>
    (zone.date message.createdAt).day = (zone.date older.createdAt).day ∧
      zone.date message.createdAt ≠ zone.date older.createdAt

section Flag

variable {zone : LocalTime} {messages : List MessageModel} {message older : MessageModel}
  {index : Nat}

theorem withNext_iff (at_index : messages[index]? = some message)
    (next : messages[index + 1]? = some older) {holds : MessageModel → MessageModel → Prop} :
    WithNext messages index holds ↔ holds message older := by
  refine ⟨?_, fun both => ⟨message, older, at_index, next, both⟩⟩
  rintro ⟨_, _, at_index', next', both⟩
  rw [at_index] at at_index'
  rw [next] at next'
  cases at_index'
  cases next'
  exact both

/-- Two messages less than two days apart, of the same day of the month, have the same date. -/
theorem LocalTime.date_eq_of_near (zone : LocalTime) {t t' : Timestamp} (later : t'.micros ≤ t.micros)
    (near : t.micros < t'.micros + 2 * 86400000000)
    (day : (zone.date t).day = (zone.date t').day) : zone.date t = zone.date t' := by
  by_contra differ
  have far := dateShown_far_of_same_day day differ
  have := zone.behind t.micros
  have := zone.ahead t.micros
  have := zone.behind t'.micros
  have := zone.ahead t'.micros
  omega

/-- Two days later the date is another one. -/
theorem LocalTime.date_ne_of_far (zone : LocalTime) {t t' : Timestamp}
    (far : t'.micros + 2 * 86400000000 ≤ t.micros) : zone.date t ≠ zone.date t' := by
  have goesOn := zone.goesOn _ _ far
  intro same
  have days := (dateShown_eq_iff ..).mp same
  omega

theorem useSticker_oldest (last : index + 1 = messages.length) :
    useSticker zone messages index = some true := by
  have inList : index < messages.length := by omega
  unfold useSticker
  rw [List.getElem?_eq_getElem inList, Option.bind_some]
  split
  case isTrue first => exact if_pos (by omega)
  case isFalse => exact if_pos (by omega)

/-- The flag of the newest message is right. -/
theorem useSticker_newest (newest : messages[0]? = some message)
    (next : messages[1]? = some older) (later : older.createdAt.micros ≤ message.createdAt.micros) :
    useSticker zone messages 0 =
      some (decide (zone.date message.createdAt ≠ zone.date older.createdAt)) := by
  have two : ¬ messages.length < 2 := by
    have ⟨inList, _⟩ := List.getElem?_eq_some_iff.mp next
    omega
  have whole : inDays (message.createdAt.micros - older.createdAt.micros) =
      (message.createdAt.micros - older.createdAt.micros) / 86400000000 :=
    Int.tdiv_eq_ediv_of_nonneg (by omega)
  unfold useSticker
  simp only [newest, next, Option.bind_some, Option.map_some, if_pos, if_neg two, whole]
  congr 1
  split
  case isTrue days =>
      rw [List.mem_pair] at days
      have near := zone.date_eq_of_near later (by omega)
      exact decide_eq_decide.mpr (not_congr ⟨near, congrArg CivilDate.day⟩)
  case isFalse days =>
      rw [List.mem_pair] at days
      have far : zone.date message.createdAt ≠ zone.date older.createdAt :=
        zone.date_ne_of_far (by omega)
      exact decide_eq_decide.mpr ⟨fun _ => far, fun _ => by omega⟩

/-- The flag of another message compares days of the month. -/
theorem useSticker_inner (inner : 0 < index) (at_index : messages[index]? = some message)
    (next : messages[index + 1]? = some older) :
    useSticker zone messages index =
      some (decide ((zone.date message.createdAt).day ≠ (zone.date older.createdAt).day)) := by
  have ⟨inList, _⟩ := List.getElem?_eq_some_iff.mp next
  unfold useSticker
  rw [at_index, Option.bind_some, if_neg inner.ne', if_neg (by omega), next, Option.map_some]

end Flag

/-- A date stands at a message just where one belongs, but for those whose next message is of the
same day of another month. -/
theorem useSticker_correct_iff (zone : LocalTime) {messages : List MessageModel} {index : Nat}
    (newestFirst : NewestFirst messages) (inList : index < messages.length) :
    ∃ flag, useSticker zone messages index = some flag ∧
      ((flag = true ↔ BeginsDate zone messages index) ↔
        ¬ SameDayBefore zone messages index) := by
  by_cases last : index + 1 = messages.length
  · refine ⟨true, useSticker_oldest last, iff_of_true (iff_of_true rfl (.inl last)) ?_⟩
    rintro ⟨_, _, older, _, next, _⟩
    rw [List.getElem?_eq_none last.ge] at next
    cases next
  have at_index := List.getElem?_eq_getElem inList
  have next := List.getElem?_eq_getElem (show index + 1 < messages.length by omega)
  have later := List.pairwise_iff_getElem.mp newestFirst index (index + 1) inList (by omega)
    (Nat.lt_succ_self index)
  generalize messages[index] = message at at_index later
  generalize messages[index + 1] = older at next later
  have begins : BeginsDate zone messages index ↔
      zone.date message.createdAt ≠ zone.date older.createdAt :=
    (or_iff_right last).trans (withNext_iff at_index next)
  rw [begins]
  rcases Nat.eq_zero_or_pos index with rfl | inner
  · refine ⟨_, useSticker_newest at_index next later, iff_of_true decide_eq_true_iff ?_⟩
    exact fun same => absurd same.1 (lt_irrefl 0)
  · refine ⟨_, useSticker_inner inner at_index next, ?_⟩
    have same : SameDayBefore zone messages index ↔
        (zone.date message.createdAt).day = (zone.date older.createdAt).day ∧
          zone.date message.createdAt ≠ zone.date older.createdAt :=
      (and_iff_right inner).trans (withNext_iff at_index next)
    have dates (equal : zone.date message.createdAt = zone.date older.createdAt) :=
      congrArg CivilDate.day equal
    rw [same, decide_eq_true_iff]
    tauto

/-- At ten o'clock on 15 March, an hour earlier, and on 15 February. -/
def monthApart : List MessageModel :=
  [ { id := some "m3", sender := "bob", type := .textMessage,
      createdAt := ⟨1710496800000000, by decide, by decide⟩ },
    { id := some "m2", sender := "bob", type := .textMessage,
      createdAt := ⟨1710493200000000, by decide, by decide⟩ },
    { id := some "m1", sender := "bob", type := .textMessage,
      createdAt := ⟨1707987600000000, by decide, by decide⟩ }]

/-- At nine o'clock on 15, 14 and 13 March. -/
def dayApart : List MessageModel :=
  [ { id := some "m3", sender := "bob", type := .textMessage,
      createdAt := ⟨1710493200000000, by decide, by decide⟩ },
    { id := some "m2", sender := "bob", type := .textMessage,
      createdAt := ⟨1710406800000000, by decide, by decide⟩ },
    { id := some "m1", sender := "bob", type := .textMessage,
      createdAt := ⟨1710320400000000, by decide, by decide⟩ }]

/-- The flag of the second message is right where the next one is of the day before, and wrong
where it is a month older. -/
theorem useSticker_dayApart_monthApart :
    (∃ flag, useSticker .utc dayApart 1 = some flag ∧
      (flag = true ↔ BeginsDate .utc dayApart 1)) ∧
    ∃ flag, useSticker .utc monthApart 1 = some flag ∧
      ¬ (flag = true ↔ BeginsDate .utc monthApart 1) := by
  have days : NewestFirst dayApart ∧ 1 < dayApart.length := by decide
  have months : NewestFirst monthApart ∧ 1 < monthApart.length := by decide
  obtain ⟨flag, shown, right⟩ := useSticker_correct_iff .utc days.1 days.2
  obtain ⟨flag', shown', wrong⟩ := useSticker_correct_iff .utc months.1 months.2
  refine ⟨⟨flag, shown, right.mpr ?_⟩, flag', shown', fun same => wrong.mp same ?_⟩
  · intro same
    have apart := ((withNext_iff rfl rfl).mp same.2).1
    revert apart
    decide
  · exact ⟨by decide, (withNext_iff rfl rfl).mpr (by decide)⟩

/-- No date stands at the first message of 15 March, though the next one is a month older. -/
theorem monthApart_noSticker : NewestFirst monthApart ∧ 1 < monthApart.length ∧
    useSticker .utc monthApart 1 = some false ∧ BeginsDate .utc monthApart 1 :=
  ⟨by decide, by decide, by decide, .inr ⟨_, _, rfl, rfl, by decide⟩⟩

end TwoGather
