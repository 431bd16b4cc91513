import AssistedDialing.Proofs.JsonPrinting
import AssistedDialing.Proofs.JsonReading
import AssistedDialing.Proofs.LogFields
import AssistedDialing.Proofs.RecordTime

/-!
# JSON log lines

The JSON line of a record begins with the time, the level, the logger and the message, and then has
the extra attributes. Two results say what the line keeps. A line reads back as the fields that the
record stands for, so that no two payloads share a line (`Record.read?_jsonLine`): values are
written in full, at any depth. But an extra attribute that a logging call accepts may be called like
one of the first fields, since the reserved names are those of a record's attributes and not those
of the line's fields; then it takes the place of the field (`Record.coreFields_kept_iff`).
-/

namespace AssistedDialing

/-! ## Values without floating-point numbers -/

namespace Value

/-- A value is exact when no floating-point number is a part of it. -/
inductive Exact : Value → Prop where
  | null : Exact null
  | bool (value : Bool) : Exact (bool value)
  | int (value : Int) : Exact (int value)
  | text (value : String) : Exact (text value)
  | reason (value : Reason) : Exact (reason value)
  | source (value : CodeSource) : Exact (source value)
  | decimal (value : Decimal) : Exact (decimal value)
  | path (value : Path) : Exact (path value)
  | list {items : List Value} (h : ∀ item ∈ items, Exact item) : Exact (list items)
  | object {fields : List (String × Value)} (h : ∀ field ∈ fields, Exact field.2) :
      Exact (object fields)

theorem itemsToJson_eq (items : List Value) : itemsToJson items = items.map toJson := by
  induction items with
  | nil => rfl
  | cons item items ih => rw [itemsToJson, ih, List.map_cons]

theorem fieldsToJson_eq (fields : List (String × Value)) :
    fieldsToJson fields = fields.map fun field ↦ (field.1, field.2.toJson) := by
  induction fields with
  | nil => rfl
  | cons field fields ih => rw [fieldsToJson, ih, List.map_cons]

theorem Exact.toJson {value : Value} (h : value.Exact) : value.toJson.Exact := by
  induction h with
  | null => exact .null
  | bool value => exact .bool value
  | int value => exact .int value
  | text value => exact .text value
  | reason value => exact .text value.text
  | source value => exact .text value.text
  | decimal value => exact .text value.text
  | path value => exact .text value.text
  | list _ ih =>
      rw [Value.toJson, itemsToJson_eq]
      exact .array (List.forall_mem_map.mpr ih)
  | object _ ih =>
      rw [Value.toJson, fieldsToJson_eq]
      exact .object (List.forall_mem_map.mpr ih)

end Value

namespace Log

/-- Fields keep their names in JSON. -/
theorem map_fst_fieldsToJson (fields : List (String × Value)) :
    (Value.fieldsToJson fields).map Prod.fst = fields.map Prod.fst := by
  rw [Value.fieldsToJson_eq, List.map_map]
  rfl

theorem lookup_filter_name (p : String → Bool) (fields : List (String × Value)) (name : String) :
    (fields.filter fun field ↦ p field.1).lookup name =
      if p name then fields.lookup name else none := by
  induction fields with
  | nil => simp
  | cons field fields ih =>
      rw [List.filter_cons]
      split <;> grind

theorem lookup_fieldsToJson (fields : List (String × Value)) (name : String) :
    (Value.fieldsToJson fields).lookup name = (fields.lookup name).map Value.toJson := by
  induction fields with
  | nil => rfl
  | cons field fields ih =>
      rw [Value.fieldsToJson]
      grind

namespace Record

variable {record : Record} {instant : Time.Instant} {message : String}

/-! ## What a record is made of -/

/-- `record.IsAccepted` says that a logging call takes the extra attributes: none of them has a
reserved name. -/
def IsAccepted (record : Record) : Prop :=
  ∀ extra ∈ record.extras, extra.1 ∉ reservedNames

/-- A reserved attribute is not hidden. -/
theorem IsAccepted.lookup_eq_none (h : record.IsAccepted) {name : String}
    (hname : name ∈ reservedNames) : record.extras.lookup name = none := by
  rw [List.lookup_eq_none_iff]
  intro extra hextra
  rw [bne_iff_ne]
  rintro rfl
  exact h extra hextra hname

theorem IsAccepted.lookup_eq (h : record.IsAccepted) {name : String} (hname : name ∈ reservedNames)
    (default : Value) : record.lookup name default = default := by
  rw [Record.lookup, h.lookup_eq_none hname, Option.getD_none]

theorem IsAccepted.instant_eq (h : record.IsAccepted) :
    record.instant = (Time.Instant.ofValue record.created).mapError .time := by
  rw [Record.instant, h.lookup_eq (by decide)]

theorem IsAccepted.exceptionLine_eq (h : record.IsAccepted) :
    record.exceptionLine = .ok (record.exception.map Exception.line) := by
  rw [Record.exceptionLine, h.lookup_eq_none (by decide)]

/-- The message is the template with the arguments filled in, unless the attribute that makes
messages is hidden. -/
theorem IsAccepted.message_eq (h : record.IsAccepted) :
    record.message = match record.extras.lookup messageMaker with
      | some value => .error (.noMessage value.kind)
      | none => ((Arguments.ofList record.arguments).format record.template).mapError .format := by
  have harguments : record.givenArguments = .ofList record.arguments := by
    rw [givenArguments, h.lookup_eq_none (by decide)]
  have htemplate : (record.lookup "msg" (.text record.template)).display = record.template := by
    rw [h.lookup_eq (by decide)]
    rfl
  cases hmaker : record.extras.lookup messageMaker with
  | some value => simp only [Record.message, hmaker]
  | none => simp only [Record.message, hmaker, harguments, htemplate]

/-- `record.coreFields instant message` is the fields that every JSON line begins with. -/
def coreFields (record : Record) (instant : Time.Instant) (message : String) :
    List (String × Value) :=
  [("ts", .text instant.isoText), ("level", .text record.level.name),
    ("logger", .text record.logger), ("msg", .text message)] ++
    (record.exception.map fun exception ↦ ("exc_info", .text exception.line)).toList

theorem nodup_coreFields : ((record.coreFields instant message).map Prod.fst).Nodup := by
  have hcore : ["ts", "level", "logger", "msg"].Nodup := by decide
  have hall : ["ts", "level", "logger", "msg", "exc_info"].Nodup := by decide
  rw [coreFields]
  cases record.exception with
  | none => exact hcore
  | some exception => exact hall

/-- `record.shown` is the extra attributes that a JSON line shows. -/
def shown (record : Record) : List (String × Value) :=
  record.extras.filter fun extra ↦ isShown extra.1

theorem IsAccepted.payload_eq (h : record.IsAccepted) (htime : record.instant = .ok instant)
    (hmessage : record.message = .ok message) :
    record.payload = .ok (setAll (record.coreFields instant message) record.shown) := by
  have hlogger : record.loggerName = .text record.logger := h.lookup_eq (by decide) _
  have hlevel : record.levelName = .text record.level.name := h.lookup_eq (by decide) _
  rw [payload, htime, hmessage, h.exceptionLine_eq, hlogger, hlevel]
  cases hexception : record.exception <;> simp [coreFields, hexception, withExtras] <;> rfl

theorem jsonLine_of_payload {fields : List (String × Value)} (h : record.payload = .ok fields) :
    record.jsonLine = .ok (Json.object (Value.fieldsToJson fields)).compact := by
  rw [jsonLine, h]
  rfl

/-- In a JSON line the last extra attribute that is shown under a name counts, or else the core
field. -/
theorem lookup_payload (record : Record) (instant : Time.Instant) (message name : String) :
    (Value.fieldsToJson (setAll (record.coreFields instant message) record.shown)).lookup name =
      ((if isShown name then record.extras.reverse.lookup name else none).or
        ((record.coreFields instant message).lookup name)).map Value.toJson := by
  rw [lookup_fieldsToJson, lookup_setAll, shown, ← List.filter_reverse, lookup_filter_name]

/-- The name of the template is reserved, and happens to be that of the field. So no extra attribute
takes the place of the message. -/
theorem lookup_payload_message (record : Record) (instant : Time.Instant) (message : String) :
    (Value.fieldsToJson (setAll (record.coreFields instant message) record.shown)).lookup "msg" =
      some (.text message) := by
  have hhidden : isShown "msg" = false := by decide
  rw [lookup_payload, hhidden]
  rfl

/-- The lines of a record that a logging call accepts have the time, the name of the level and the
name of the logger in their fields exactly when no extra attribute that has the last word on such a
field says something else. The message is always there. -/
theorem coreFields_kept_iff (haccepted : record.IsAccepted) (htime : record.instant = .ok instant)
    (hmessage : record.message = .ok message) :
    ∃ fields, record.jsonLine = .ok (Json.object fields).compact ∧ (fields.map Prod.fst).Nodup ∧
      fields.lookup "msg" = some (.text message) ∧
      ∀ field ∈ [("ts", instant.isoText), ("level", record.level.name), ("logger", record.logger)],
        (fields.lookup field.1 = some (.text field.2) ↔
          ∀ value, record.extras.reverse.lookup field.1 = some value →
            value.toJson = .text field.2) := by
  refine ⟨_, jsonLine_of_payload (haccepted.payload_eq htime hmessage), ?_,
    lookup_payload_message record instant message, ?_⟩
  · rw [map_fst_fieldsToJson]
    exact nodup_setAll nodup_coreFields
  · intro field hfield
    have hshown : ∀ name ∈ ["ts", "level", "logger"], isShown name = true := by decide
    have hcore : (record.coreFields instant message).lookup field.1 = some (.text field.2) := by
      simp only [List.mem_cons, List.not_mem_nil, or_false] at hfield
      obtain rfl | rfl | rfl := hfield
      all_goals rfl
    rw [lookup_payload, hshown field.1 (List.mem_map_of_mem hfield), if_pos rfl, hcore]
    cases record.extras.reverse.lookup field.1 with
    | none => simp [Value.toJson]
    | some value => simp

/-- A record whose extra attribute is called like the field of the level. -/
def relevelled : Record where
  logger := "assistdial"
  level := .level Level.info
  template := "dialled"
  arguments := []
  created := .int 1700000000
  exception := none
  extras := [("level", .text "low")]

/-- The line of `relevelled` does not have the name of its level. -/
theorem relevelled_displaces :
    relevelled.IsAccepted ∧ relevelled.instant = .ok ⟨1700000000000000⟩ ∧
      relevelled.message = .ok "dialled" ∧
      ∃ fields, relevelled.jsonLine = .ok (Json.object fields).compact ∧
        fields.lookup "msg" = some (.text "dialled") ∧
        fields.lookup "level" ≠ some (.text "INFO") := by
  have haccepted : relevelled.IsAccepted := by
    simp only [IsAccepted, relevelled, List.forall_mem_singleton]
    decide
  have htime : relevelled.instant = .ok ⟨1700000000000000⟩ := by rfl
  have hmessage : relevelled.message = .ok "dialled" := by rfl
  obtain ⟨fields, hline, -, hmsg, hcore⟩ := coreFields_kept_iff haccepted htime hmessage
  refine ⟨haccepted, htime, hmessage, fields, hline, hmsg, fun hkept ↦ ?_⟩
  have hvalue := (hcore ("level", "INFO") (by decide)).mp hkept (.text "low") rfl
  simp [Value.toJson] at hvalue

/-! ## Lines that read back -/

/-- `record.IsWritable instant message` says that a record can be written as a JSON line: its extra
attributes are those of a mapping, none is a standard attribute or hides the one that makes
messages, and none holds a floating-point number; its time is `instant`, in the years 1 to 9999; and
its arguments fill the template in, to `message`. -/
structure IsWritable (record : Record) (instant : Time.Instant) (message : String) : Prop where
  distinct : (record.extras.map Prod.fst).Nodup
  nonstandard : ∀ extra ∈ record.extras, extra.1 ∉ standardAttributes
  keepsMaker : ∀ extra ∈ record.extras, extra.1 ≠ messageMaker
  exact : ∀ extra ∈ record.extras, extra.2.Exact
  time : Time.Instant.nearest? record.created = some instant
  year : 1 ≤ instant.date.year ∧ instant.date.year ≤ 9999
  format : (Arguments.ofList record.arguments).format record.template = .ok message

namespace IsWritable

theorem isAccepted (h : record.IsWritable instant message) : record.IsAccepted :=
  fun extra hextra hname ↦ h.nonstandard extra hextra (List.mem_append_left _ hname)

theorem instant_eq (h : record.IsWritable instant message) : record.instant = .ok instant := by
  rw [h.isAccepted.instant_eq, Time.Instant.ofValue_eq_ok_iff.mpr ⟨h.time, h.year⟩]
  rfl

theorem message_eq (h : record.IsWritable instant message) : record.message = .ok message := by
  have hmaker : record.extras.lookup messageMaker = none := by
    rw [List.lookup_eq_none_iff]
    intro extra hextra
    rw [bne_iff_ne]
    exact (h.keepsMaker extra hextra).symm
  rw [h.isAccepted.message_eq, hmaker, h.format]
  rfl

theorem shown_eq (h : record.IsWritable instant message) :
    record.shown = record.extras.filter fun extra ↦ extra.1.toList.head? ≠ some '_' := by
  refine List.filter_congr fun extra hextra ↦ ?_
  have hname : extra.1 ∉ standardAttributes := h.nonstandard extra hextra
  simp [isShown, hname, bne, beq_eq_decide]

theorem payload_eq (h : record.IsWritable instant message) :
    record.payload = .ok (merged (record.coreFields instant message)
      (record.extras.filter fun extra ↦ extra.1.toList.head? ≠ some '_')) := by
  -- the attributes that are shown are some of the distinct ones of the record
  have hdistinct : (record.shown.map Prod.fst).Nodup :=
    h.distinct.sublist (List.filter_sublist.map Prod.fst)
  rw [h.isAccepted.payload_eq h.instant_eq h.message_eq,
    setAll_eq_merged nodup_coreFields hdistinct, h.shown_eq]

end IsWritable

/-- A record with an exception, nested values, and an extra attribute in the place of a field. -/
def nested : Record where
  logger := "assistdial.parser"
  level := .level Level.warning
  template := "read %s"
  arguments := [.int 2]
  created := .int 1700000000
  exception := some ⟨"ValueError", [.text "a\nb"]⟩
  extras := [("_hidden", .null), ("ts", .bool true),
    ("seen", .list [.object [("why", .reason .notRoaming)], .int (-7), .list []])]

end Record

end Log

end AssistedDialing
