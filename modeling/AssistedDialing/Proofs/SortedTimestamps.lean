import AssistedDialing.Proofs.LogLine
import AssistedDialing.Proofs.Microseconds
import AssistedDialing.Proofs.TimestampOrder

/-!
# JSON log lines in the order of their times

The timestamps of JSON lines are in the order of the times that they show, so sorting them as texts
sorts the records (`Record.timestamps_sort`). A time is shown to the microsecond, and it is rounded
twice: in rare cases a time just off the middle of two microseconds is shown like the middle, so
that times which are nearest to different microseconds have the same timestamp
(`Record.timestamps_merge`).
-/

namespace AssistedDialing.Log.Record

open Time Time.Instant

/-- `record.IsStamped t` says that a record of the time `t`, in seconds, can be written as a JSON
line with a timestamp of its own. -/
structure IsStamped (record : Record) (t : ℚ) : Prop where
  accepted : record.IsAccepted
  unstamped : record.extras.lookup "ts" = none
  message : ∃ message, record.message = .ok message
  time : Seconds record.created t

/-- `record.HasStamp stamp` says that the JSON line of a record has the timestamp `stamp`. -/
def HasStamp (record : Record) (stamp : String) : Prop :=
  ∃ fields, record.payload = .ok fields ∧
    record.jsonLine = .ok (Json.object (Value.fieldsToJson fields)).compact ∧
    fields.lookup "ts" = some (.text stamp)

variable {record left right : Record} {instant : Instant} {stamp stamp' : String} {t u : ℚ}

theorem HasStamp.unique (h : record.HasStamp stamp) (h' : record.HasStamp stamp') :
    stamp = stamp' := by
  obtain ⟨fields, hpayload, -, hstamp⟩ := h
  obtain ⟨fields', hpayload', -, hstamp'⟩ := h'
  rw [hpayload, Except.ok.injEq] at hpayload'
  rw [hpayload', hstamp', Option.some.injEq, Value.text.injEq] at hstamp
  exact hstamp.symm

/-- The timestamp is that of the instant which the time of the record is rounded to. -/
theorem IsStamped.hasStamp (h : record.IsStamped t) (htime : nearest? record.created = some instant)
    (hcalendar : instant.InCalendar) : record.HasStamp instant.isoText := by
  obtain ⟨message, hmessage⟩ := h.message
  have hinstant : record.instant = .ok instant := by
    rw [h.accepted.instant_eq, ofValue_eq_ok_iff.mpr ⟨htime, inCalendar_iff.mp hcalendar⟩]
    rfl
  have hpayload := h.accepted.payload_eq hinstant hmessage
  refine ⟨_, hpayload, jsonLine_of_payload hpayload, ?_⟩
  have hshown : record.shown.reverse.lookup "ts" = none := by
    rw [List.lookup_eq_none_iff]
    intro extra hextra
    exact List.lookup_eq_none_iff.mp h.unstamped extra
      (List.mem_of_mem_filter (List.mem_reverse.mp hextra))
  rw [lookup_setAll, hshown]
  rfl

/-- Timestamps are in the order of the times, and equal exactly when the times are shown as the same
microsecond. -/
theorem timestamps_sort (hleft : left.IsStamped t) (hright : right.IsStamped u) :
    ∃ i j : Instant, nearest? left.created = some i ∧ nearest? right.created = some j ∧
      IsNearMicros t i.micros ∧ IsNearMicros u j.micros ∧
      (t ≤ u → i.micros ≤ j.micros) ∧
      (i.InCalendar → j.InCalendar → ∃ stamp stamp',
        left.HasStamp stamp ∧ right.HasStamp stamp' ∧
          (stamp < stamp' ↔ i.micros < j.micros) ∧ (stamp = stamp' ↔ i.micros = j.micros)) := by
  obtain ⟨m, hm, hrounded⟩ := hleft.time.exists_nearest?
  obtain ⟨n, hn, hrounded'⟩ := hright.time.exists_nearest?
  refine ⟨⟨m⟩, ⟨n⟩, hm, hn, hrounded.isNearMicros hleft.time.exact,
    hrounded'.isNearMicros hright.time.exact, hrounded.mono hrounded', ?_⟩
  intro hi hj
  exact ⟨_, _, hleft.hasStamp hm hi, hright.hasStamp hn hj, isoText_strictMonoOn.lt_iff_lt hi hj,
    isoText_strictMonoOn.injOn.eq_iff hi hj⟩

/-- The record of a message at a time, without extra attributes. -/
def plain (created : Value) : Record where
  logger := "assistdial"
  level := .level Level.info
  template := "m"
  arguments := []
  created := created
  exception := none
  extras := []

theorem isStamped_plain {created : Value} (h : Seconds created t) :
    (plain created).IsStamped t := by
  have haccepted : (plain created).IsAccepted := by
    intro extra hextra
    cases hextra
  have hmessage : (plain created).message = .ok "m" := by
    have hmaker : (plain created).extras.lookup messageMaker = none := rfl
    have hformat : (Arguments.ofList []).format "m" = .ok "m" := by
      rw [Arguments.ofList, Arguments.format, Arguments.formatChars, Except.map,
        String.ofList_toList]
    rw [haccepted.message_eq, hmaker]
    simp only [plain, hformat, Except.mapError]
  exact ⟨haccepted, rfl, ⟨"m", hmessage⟩, h⟩

/-- A whole second, whose timestamp has no fraction, comes before a quarter of a second later. -/
theorem whole_second_sorts_first :
    (plain (.int 1700000000)).IsStamped 1700000000 ∧
      (plain (.float (.finite false 7130316801048576 (-22)))).IsStamped 1700000000.25 ∧
      ∃ stamp stamp', (plain (.int 1700000000)).HasStamp stamp ∧
        (plain (.float (.finite false 7130316801048576 (-22)))).HasStamp stamp' ∧
        stamp < stamp' := by
  have hwhole : Seconds (.int 1700000000) 1700000000 := .int 1700000000
  have hquarter : Seconds (.float (.finite false 7130316801048576 (-22))) 1700000000.25 := by
    have hvalue : (1700000000.25 : ℚ) = Binary64.signed false (7130316801048576 * 2 ^ (-22 : ℤ)) := by
      rw [Binary64.signed]
      norm_num
    rw [hvalue]
    exact .float (.finite false (by decide) (by decide) (by decide))
  obtain ⟨i, j, hi, hj, -, -, -, hstamps⟩ :=
    timestamps_sort (isStamped_plain hwhole) (isStamped_plain hquarter)
  have hmicros : nearest? (plain (.int 1700000000)).created = some ⟨1700000000000000⟩ := rfl
  have hmicros' : nearest? (plain (.float (.finite false 7130316801048576 (-22)))).created =
      some ⟨1700000000250000⟩ := by decide
  rw [hmicros, Option.some.injEq] at hi
  rw [hmicros', Option.some.injEq] at hj
  subst hi hj
  obtain ⟨stamp, stamp', hstamp, hstamp', hless, -⟩ :=
    hstamps (by constructor <;> decide) (by constructor <;> decide)
  exact ⟨isStamped_plain hwhole, isStamped_plain hquarter, stamp, stamp', hstamp, hstamp',
    hless.mpr (by decide)⟩

/-- Two times that are nearest to different microseconds can have the same timestamp: the first is
just below the middle, and when its fraction is scaled to microseconds it is rounded to the middle,
whose even neighbour is above. -/
theorem timestamps_merge :
    ¬ ∀ (left right : Record) (t u : ℚ) (m n : ℤ), left.IsStamped t → right.IsStamped u →
      IsHalfEven (t * 1000000) m → IsHalfEven (u * 1000000) n →
      (Instant.mk m).InCalendar → (Instant.mk n).InCalendar →
      ∃ stamp stamp', left.HasStamp stamp ∧ right.HasStamp stamp' ∧
        (stamp < stamp' ↔ m < n) ∧ (stamp = stamp' ↔ m = n) := by
  intro hsort
  have hbelow : Seconds (.float (.finite false 4724059836329536 (-56)))
      (Binary64.signed false ((4724059836329536 : ℕ) * 2 ^ (-56 : ℤ))) :=
    .float (.finite false (by decide) (by decide) (by decide))
  have habove : Seconds (.float (.finite false 4724095865126555 (-56)))
      (Binary64.signed false ((4724095865126555 : ℕ) * 2 ^ (-56 : ℤ))) :=
    .float (.finite false (by decide) (by decide) (by decide))
  have hnearest : IsHalfEven
      (Binary64.signed false ((4724059836329536 : ℕ) * 2 ^ (-56 : ℤ)) * 1000000) 65559 := by
    left
    norm_num [Binary64.signed, abs_lt]
  have hnearest' : IsHalfEven
      (Binary64.signed false ((4724095865126555 : ℕ) * 2 ^ (-56 : ℤ)) * 1000000) 65560 := by
    left
    norm_num [Binary64.signed, abs_lt]
  have hmicros : nearest? (plain (.float (.finite false 4724059836329536 (-56)))).created =
      some ⟨65560⟩ := by decide +kernel
  have hmicros' : nearest? (plain (.float (.finite false 4724095865126555 (-56)))).created =
      some ⟨65560⟩ := by decide +kernel
  have hcalendar : (Instant.mk 65560).InCalendar := by constructor <;> decide
  obtain ⟨stamp, stamp', hstamp, hstamp', -, hsame⟩ :=
    hsort _ _ _ _ 65559 65560 (isStamped_plain hbelow) (isStamped_plain habove)
      hnearest hnearest' (by constructor <;> decide) hcalendar
  have hstamps : stamp = stamp' :=
    (hstamp.unique ((isStamped_plain hbelow).hasStamp hmicros hcalendar)).trans
      (((isStamped_plain habove).hasStamp hmicros' hcalendar).unique hstamp')
  exact absurd (hsame.mp hstamps) (by decide)

end AssistedDialing.Log.Record
