import Attachments.Event.Logger
import Attachments.Proofs.Event.Sources
import Attachments.Proofs.Json.RoundTrip

/-!
Contract: the lines of JSON that are printed in production.

Owns:
- events of values of JSON, and what a shown event has of the sources of its fields;
- that a line can be read back, and that it holds each field once with the value that counts;
- when a call prints such a line, when it prints nothing, when a number in it cannot be written, and
  when it is a misuse.

Does not own: how lines look on a console.
-/

namespace Attachments

namespace Event

/-! ## Events of JSON -/

def ofData (data : Fields String Datum) : Event :=
  data.map fun field => (field.1, .value field.2)

/-- A source of named values of JSON, which says nothing of an exception. -/
structure IsSource (data : Fields String Datum) : Prop where
  distinct : Fields.Distinct data
  json : ∀ field ∈ data, field.2.IsJson
  noException : data.get? "exc_info" = none

theorem get?_ofData (data : Fields String Datum) (name : String) :
    (ofData data).get? name = (data.get? name).map .value :=
  Fields.get?_map data name _

theorem has_ofData (data : Fields String Datum) (name : String) :
    (ofData data).has name = data.has name := by
  rw [Fields.has_eq_isSome, Fields.has_eq_isSome, get?_ofData, Option.isSome_map]

theorem distinct_ofData (data : Fields String Datum) :
    Fields.Distinct (ofData data) ↔ Fields.Distinct data := by
  rw [Fields.Distinct, Fields.Distinct, ofData, List.map_map]
  rfl

theorem IsSource.isQuiet {data : Fields String Datum} (source : IsSource data) :
    Call.IsQuiet (ofData data) where
  distinct := (distinct_ofData data).mpr source.distinct
  noException := by rw [get?_ofData, source.noException, Option.map_none]

theorem IsSource.isJson
    {data : Fields String Datum}
    (source : IsSource data)
    {name : String}
    {value : Datum}
    (found : data.get? name = some value) :
    value.IsJson :=
  source.json (name, value) ((Fields.get?_eq_some_iff source.distinct name value).mp found)

theorem exists_ofData
    {event : Event}
    (each : ∀ field ∈ event, ∃ datum : Datum, field.2 = .value datum ∧ datum.IsJson) :
    ∃ data, event = ofData data ∧ ∀ field ∈ data, field.2.IsJson := by
  induction event with
  | nil => exact ⟨[], rfl, List.forall_mem_nil _⟩
  | cons field rest inductionHypothesis =>
    obtain ⟨⟨datum, same, isJson⟩, eachRest⟩ := List.forall_mem_cons.mp each
    obtain ⟨data, rfl, dataJson⟩ := inductionHypothesis eachRest
    refine ⟨(field.1, datum) :: data, ?_, List.forall_mem_cons.mpr ⟨isJson, dataJson⟩⟩
    simp only [ofData, List.map_cons, ← same]

/-! ## What a shown event holds -/

/-- The value that counts under a name of the three sources: the named value, or failing that the
bound one, or failing that the context variable. -/
def counted (named bound context : Fields String Datum) (name : String) : Option Datum :=
  (named.get? name).or ((bound.get? name).or (context.get? name))

/-- The value that the mask leaves under a name. -/
def masked (name : String) (value : Datum) : Datum :=
  if Redaction.isSensitive name then .text Redaction.marker else value

/-- What members hold of a call: message, severity and time, the report of an exception if there is
one, and under any other name of the three sources the value that counts, masked if the name is
sensitive. -/
structure Holds
    (members : Fields String Datum)
    (level : Level)
    (time message : String)
    (report? : Option String)
    (named bound context : Fields String Datum) : Prop where
  distinct : Fields.Distinct members
  names : ∀ name, members.has name = true ↔
    name ∈ ["event", "level", "timestamp"] ∨ (name = "exception" ∧ report?.isSome = true) ∨
      named.has name = true ∨ bound.has name = true ∨ context.has name = true
  message : members.get? "event" = some (.text message)
  level : members.get? "level" = some (.text level.label)
  time : members.get? "timestamp" = some (.text time)
  report : ∀ report, report? = some report → members.get? "exception" = some (.text report)
  others : ∀ name ∉ ["event", "level", "timestamp"], (name = "exception" → report? = none) →
    members.get? name = (counted named bound context name).map (masked name)

/-- An integer with too many digits stands in a value that counts and is not masked. -/
def HoldsTooLong (report? : Option String) (named bound context : Fields String Datum) : Prop :=
  ∃ name ∉ ["event", "level", "timestamp"], (name = "exception" → report? = none) ∧
    Redaction.isSensitive name = false ∧
    ∃ value, counted named bound context name = some value ∧ value.HoldsLong

section Shown

variable (method : Method) (message time : String) (handled? : Option String)
variable {library : LogLibrary} {named bound context : Fields String Datum}
variable (documented : library.Documented)
variable (namedSource : IsSource named)
variable (boundSource : IsSource bound)
variable (contextSource : IsSource context)

def valueOf (named bound context : Fields String Datum) (name : String) : Option Datum :=
  (if "exception" == name then (Call.report? method handled?).map .text else none).or
    (if "exc_info" == name then none
    else
      (if "timestamp" == name then some (.text time)
        else if "level" == name then some (.text method.level.label)
        else if "event" == name then some (.text message)
        else counted named bound context name).map (masked name))

include namedSource boundSource contextSource

theorem isJson_counted
    {name : String}
    {value : Datum}
    (found : counted named bound context name = some value) :
    value.IsJson := by
  rcases Option.or_eq_some_iff.mp found with inNamed | ⟨-, behind⟩
  · exact namedSource.isJson inNamed
  rcases Option.or_eq_some_iff.mp behind with inBound | ⟨-, inContext⟩
  · exact boundSource.isJson inBound
  · exact contextSource.isJson inContext

/-- Under its own names a call shows texts. -/
theorem isJson_valueOf
    {name : String}
    {value : Datum}
    (found : valueOf method message time handled? named bound context name = some value) :
    value.IsJson := by
  rcases Option.or_eq_some_iff.mp found with isReport | ⟨-, behind⟩
  · split at isReport
    · obtain ⟨report, -, rfl⟩ := Option.map_eq_some_iff.mp isReport
      exact .text report
    · contradiction
  split at behind
  · contradiction
  obtain ⟨source, isSource, rfl⟩ := Option.map_eq_some_iff.mp behind
  have isJson : source.IsJson := by
    split at isSource
    · exact Option.some.inj isSource ▸ .text time
    split at isSource
    · exact Option.some.inj isSource ▸ .text method.level.label
    split at isSource
    · exact Option.some.inj isSource ▸ .text message
    · exact isJson_counted namedSource boundSource contextSource isSource
  unfold masked
  split
  · exact .text _
  · exact isJson

include documented

theorem get?_shownEvent_ofData (name : String) :
    (Call.shownEvent method message (ofData named) handled? library (ofData bound) (ofData context)
        time).get? name =
      (valueOf method message time handled? named bound context name).map .value := by
  have mark (value : Datum) : shownValue (name, .value value) = .value (masked name value) := by
    unfold shownValue masked
    split <;> rfl
  have source : Call.sourceOf method message (ofData named) (ofData bound) (ofData context) time
      name =
      (if "timestamp" == name then some (.text time)
        else if "level" == name then some (.text method.level.label)
        else if "event" == name then some (.text message)
        else counted named bound context name).map EventValue.value := by
    unfold Call.sourceOf
    split
    · rfl
    split
    · rfl
    split
    · rfl
    simp only [get?_ofData, counted, Option.map_or]
  rw [Call.get?_shownEvent method message handled? documented namedSource.isQuiet
    boundSource.isQuiet contextSource.isQuiet, source, valueOf, Option.map_or]
  congr 1
  · split
    · rw [Option.map_map]
      rfl
    · rfl
  · split
    · rfl
    · simp only [Option.map_map, Function.comp_def, mark]

theorem shownEvent_eq_ofData :
    ∃ data,
      Call.shownEvent method message (ofData named) handled? library (ofData bound) (ofData context)
        time = ofData data ∧
      Fields.Distinct data ∧
      (∀ field ∈ data, field.2.IsJson) ∧
      ∀ name, data.get? name = valueOf method message time handled? named bound context name := by
  have reads := get?_shownEvent_ofData method message time handled? documented namedSource
    boundSource contextSource
  have distinct := Call.distinct_shownEvent method message (ofData named) handled? (ofData context)
    documented boundSource.isQuiet.distinct time
  have each : ∀ field ∈
      Call.shownEvent method message (ofData named) handled? library (ofData bound) (ofData context)
        time, ∃ datum : Datum, field.2 = .value datum ∧ datum.IsJson := by
    rintro ⟨name, value⟩ member
    have found := (Fields.get?_eq_some_iff distinct name value).mpr member
    rw [reads] at found
    obtain ⟨datum, valued, rfl⟩ := Option.map_eq_some_iff.mp found
    exact ⟨datum, rfl,
      isJson_valueOf method message time handled? namedSource boundSource contextSource valued⟩
  obtain ⟨data, same, dataJson⟩ := exists_ofData each
  refine ⟨data, same, (distinct_ofData data).mp (same ▸ distinct), dataJson, fun name => ?_⟩
  have valueInjective : Function.Injective (Option.map EventValue.value) :=
    Option.map_injective fun _ _ alike => EventValue.value.inj alike
  apply valueInjective
  rw [← get?_ofData, ← same, reads name]

omit documented in
theorem isSome_valueOf (name : String) :
    (valueOf method message time handled? named bound context name).isSome = true ↔
      name ∈ ["event", "level", "timestamp"] ∨
        (name = "exception" ∧ (Call.report? method handled?).isSome = true) ∨
        named.has name = true ∨ bound.has name = true ∨ context.has name = true := by
  simp only [Fields.has_eq_isSome, valueOf, counted]
  by_cases isRequest : "exc_info" = name
  · subst isRequest
    simp [namedSource.noException, boundSource.noException, contextSource.noException]
  by_cases isTime : "timestamp" = name
  · subst isTime
    simp
  by_cases isLevel : "level" = name
  · subst isLevel
    simp
  by_cases isMessage : "event" = name
  · subst isMessage
    simp
  by_cases isReport : "exception" = name
  · subst isReport
    simp [Option.isSome_or]
  simp [isReport, isRequest, isTime, isLevel, isMessage, Ne.symm isTime, Ne.symm isLevel,
    Ne.symm isMessage, Ne.symm isReport, Option.isSome_or]

omit documented in
theorem holds_of_get?
    {members : Fields String Datum}
    (distinct : Fields.Distinct members)
    (reads : ∀ name,
      members.get? name = valueOf method message time handled? named bound context name) :
    Holds members method.level time message (Call.report? method handled?) named bound context where
  distinct := distinct
  names := fun name => by
    rw [← isSome_valueOf method message time handled? namedSource boundSource contextSource name,
      Fields.has_eq_isSome, reads]
  message := by
    have isOpen : Redaction.isSensitive "event" = false := by decide
    simp [reads, valueOf, masked, isOpen]
  level := by
    have isOpen : Redaction.isSensitive "level" = false := by decide
    simp [reads, valueOf, masked, isOpen]
  time := by
    have isOpen : Redaction.isSensitive "timestamp" = false := by decide
    simp [reads, valueOf, masked, isOpen]
  report := fun report asked => by simp [reads, valueOf, asked]
  others := fun name other noReport => by
    simp only [List.mem_cons, List.not_mem_nil, or_false, not_or] at other
    have unasked : (if "exception" == name then (Call.report? method handled?).map Datum.text
        else none) = none := by
      by_cases isReport : "exception" = name <;> simp_all
    rw [reads, valueOf, unasked, Option.none_or]
    by_cases isRequest : "exc_info" = name
    · subst isRequest
      simp [counted, namedSource.noException, boundSource.noException, contextSource.noException]
    · simp [isRequest, Ne.symm other.1, Ne.symm other.2.1, Ne.symm other.2.2]

end Shown

/-- The members of a call hold an integer with too many digits if a value that counts does. -/
theorem Holds.long_iff
    {members named bound context : Fields String Datum}
    {level : Level}
    {time message : String}
    {report? : Option String}
    (holds : Holds members level time message report? named bound context) :
    (∃ member ∈ members, member.2.HoldsLong) ↔ HoldsTooLong report? named bound context := by
  constructor
  · rintro ⟨⟨name, value⟩, member, long⟩
    have found := (Fields.get?_eq_some_iff holds.distinct name value).mpr member
    -- What a call gives under a name of its own is a text.
    have noText : ∀ text, members.get? name ≠ some (.text text) := fun text same =>
      Datum.not_long_text text (Option.some.inj (found.symm.trans same) ▸ long)
    have other : name ∉ ["event", "level", "timestamp"] := by
      simp only [List.mem_cons, List.not_mem_nil, or_false]
      rintro (rfl | rfl | rfl)
      exacts [noText _ holds.message, noText _ holds.level, noText _ holds.time]
    have noReport : name = "exception" → report? = none := by
      rintro rfl
      exact Option.eq_none_iff_forall_ne_some.mpr fun report asked =>
        noText report (holds.report report asked)
    rw [holds.others name other noReport] at found
    obtain ⟨source, isCounted, rfl⟩ := Option.map_eq_some_iff.mp found
    cases isSensitive : Redaction.isSensitive name with
    | true => simp [masked, isSensitive, Datum.not_long_text] at long
    | false => exact ⟨name, other, noReport, isSensitive, source, isCounted,
        by simpa [masked, isSensitive] using long⟩
  · rintro ⟨name, other, noReport, notSensitive, value, isCounted, long⟩
    have found := holds.others name other noReport
    rw [isCounted, Option.map_some, masked, notSensitive, if_neg Bool.false_ne_true] at found
    exact ⟨(name, value), (Fields.get?_eq_some_iff holds.distinct name value).mp found, long⟩

/-- A line is there if no value keeps the event from being written. -/
theorem jsonLine_ofData (data : Fields String Datum) :
    (ofData data).jsonLine =
      match data.findSome? fun field => field.2.jsonFault? with
      | some fault => .error fault
      | none => .ok (Text.points ((Datum.dict (data.rename .text)).json ++ "\n")) := by
  have faults : (ofData data).findSome? (fun field => field.2.jsonFault?) =
      data.findSome? fun field => field.2.jsonFault? := by
    rw [ofData, List.findSome?_map]
    rfl
  rw [jsonLine, faults, Datum.json, Datum.jsonMembers_rename, ofData, List.map_map]
  rfl

end Event

/-! ## Lines -/

section Lines

open Event (IsSource ofData Holds HoldsTooLong)

variable (method : Method) (message time : String) (handled? : Option String)
variable {library : LogLibrary} {named bound context : Fields String Datum}
variable (documented : library.Documented)
variable (namedSource : IsSource named)
variable (boundSource : IsSource bound)
variable (contextSource : IsSource context)
include documented namedSource boundSource contextSource

/-- The line of a shown event is printable ASCII, and is read back as an object that holds what the
event shows. It is missing exactly if an integer in the event has too many digits. -/
theorem Event.jsonLine_shownEvent :
    let event := Call.shownEvent method message (ofData named) handled? library (ofData bound)
      (ofData context) time
    let report? := Call.report? method handled?
    (HoldsTooLong report? named bound context →
      ∃ reason, event.jsonLine = .error (.unwritable reason)) ∧
    (¬ HoldsTooLong report? named bound context →
      ∃ (line : String) (members : Fields String Datum),
        event.jsonLine = .ok (Text.points (line ++ "\n")) ∧
        Json.IsPlain line.toList ∧
        Json.read? line = some (.dict (members.rename .text)) ∧
        Holds members method.level time message report? named bound context) := by
  intro event report?
  obtain ⟨data, same, distinct, dataJson, reads⟩ := shownEvent_eq_ofData method message time
    handled? documented namedSource boundSource contextSource
  have isJson : (Datum.dict (data.rename .text)).IsJson := .dict distinct dataJson
  have holds : Holds data method.level time message report? named bound context :=
    holds_of_get? method message time handled? namedSource boundSource contextSource distinct reads
  have told := Datum.Told.findSome? fun field (member : field ∈ data) =>
    Datum.jsonFault?_told (dataJson field member)
  have written : event.jsonLine = (ofData data).jsonLine := congrArg Event.jsonLine same
  rw [written, jsonLine_ofData, ← holds.long_iff]
  constructor
  · intro long
    obtain ⟨reason, failed⟩ := told.long long
    exact ⟨reason, by rw [failed]⟩
  · intro short
    refine ⟨_, data, by rw [told.short short], Datum.isPlain_json isJson, ?_, holds⟩
    exact Datum.read?_json isJson

end Lines

/-! ## Calls -/

namespace Profile

variable {library : LogLibrary} {profile : Profile} {bound event : Event} {call : Call}

theorem emit_of_hidden
    (hidden : profile.shows call.method.level = false)
    (context : Event)
    (time : String) :
    profile.emit library context time bound call = (call.taken false).map fun _ => .silent := by
  rw [emit, hidden]
  rfl

theorem emit_of_error
    {fault : Fault}
    (shown : profile.shows call.method.level = true)
    (asked : call.event bound = .error fault)
    (context : Event)
    (time : String) :
    profile.emit library context time bound call = .error fault := by
  rw [emit, shown, asked]
  rfl

/-- A call with a text for a message and with named values that are no misuse comes to the line of
its shown event. -/
theorem emit_ofText
    (documented : library.Documented)
    (json : profile.format = .json)
    {method : Method}
    (shown : profile.shows method.level = true)
    {named context : Event}
    (free : Call.IsFree named)
    (noMethodName : named.has "method_name" = false)
    (quietNamed : Call.IsQuiet named)
    (quietBound : Call.IsQuiet bound)
    (quietContext : Call.IsQuiet context)
    (message time : String)
    (handled? : Option String) :
    profile.emit library context time bound (Call.ofText method message named handled?) =
      (Call.shownEvent method message named handled? library bound context time).jsonLine.map
        .printed := by
  have asked := (Call.event_ofText method message named handled? bound).1 free noMethodName
  have dresses := Call.dressed_eq_shownEvent method message handled? documented quietNamed
    quietBound quietContext time
  have sameMethod : (Call.ofText method message named handled?).method = method := rfl
  have sameHandled : (Call.ofText method message named handled?).handled? = handled? := rfl
  rw [emit, sameMethod, sameHandled, if_pos shown, asked]
  simp only [bind, Except.bind, dresses, write, json, documented.dumps]
  cases Event.jsonLine _ <;> rfl

end Profile

namespace Logger

open Event (IsSource ofData Holds HoldsTooLong)

/-- In production, a call with a text for a message and with values of JSON from all three sources
prints nothing below the threshold. Otherwise it prints one line of JSON, which is read back as an
object that holds message, severity and time, the report of the exception at hand if the method asks
for it, and under each other name of the sources the named value, or failing that the bound one, or
failing that the context variable, unless the name is sensitive. A value with an integer of too many
digits that would be in the line keeps it from being written. The names of what a call gives besides
its named values are excepted: values under these make the call a misuse, and nothing is printed. -/
theorem emit_production
    {library : LogLibrary}
    (documented : library.Documented)
    {settings : LogSettings}
    (production : settings.environment = "production")
    {logger : Logger}
    {current : Configuration}
    (follows : logger.followed library current = .made (Profile.ofSettings settings))
    {bound context named : Fields String Datum}
    (boundTo : logger.bound = ofData bound)
    (boundSource : IsSource bound)
    (contextSource : IsSource context)
    (namedSource : IsSource named)
    (method : Method)
    (message time : String)
    (handled? : Option String) :
    let shown := settings.levelNumber ≤ method.level.number
    let free := named.has "self" = false ∧ named.has "event" = false
    let report? := Call.report? method handled?
    let outcome := logger.emit library current (ofData context) time
      (Call.ofText method message (ofData named) handled?)
    (¬ shown → free → outcome = .ok .silent) ∧
      (shown → free → named.has "method_name" = false →
        (HoldsTooLong report? named bound context →
          ∃ reason, outcome = .error (.unwritable reason)) ∧
        (¬ HoldsTooLong report? named bound context →
          ∃ (line : String) (members : Fields String Datum),
            outcome = .ok (.printed (Text.points (line ++ "\n"))) ∧
            Json.IsPlain line.toList ∧
            Json.read? line = some (.dict (members.rename .text)) ∧
            Holds members method.level time message report? named bound context)) ∧
      (¬ free ∨ shown ∧ named.has "method_name" = true →
        ∃ receiver misuse, outcome = .error (.misusedCall receiver misuse)) := by
  intro shown free report? outcome
  have isFree : free ↔ Call.IsFree (ofData named) := by
    rw [Call.IsFree, Event.has_ofData, Event.has_ofData]
  have followed : outcome = (Profile.ofSettings settings).emit library (ofData context) time
      (ofData bound) (Call.ofText method message (ofData named) handled?) := by
    rw [← boundTo]
    exact emit_of_follows follows _ _ _
  have json : (Profile.ofSettings settings).format = .json := by
    simp [Profile.ofSettings, LogSettings.useJson, production]
  have shows : (Profile.ofSettings settings).shows method.level = decide shown := rfl
  have taken := Call.taken_ofText method message (ofData named) handled? false
  have asked := Call.event_ofText method message (ofData named) handled? (ofData bound)
  rw [followed, isFree, ← Event.has_ofData named "method_name"]
  refine ⟨fun hidden isFree => ?_, fun isShown isFree noMethodName => ?_, fun misused => ?_⟩
  · have isHidden : (Profile.ofSettings settings).shows method.level = false := by
      simp [shows, hidden]
    rw [Profile.emit_of_hidden isHidden, taken.1 isFree]
    rfl
  · have isShown : (Profile.ofSettings settings).shows method.level = true := by
      simp [shows, isShown]
    obtain ⟨long, short⟩ := Event.jsonLine_shownEvent method message time handled? documented
      namedSource boundSource contextSource
    rw [Profile.emit_ofText documented json isShown isFree noMethodName namedSource.isQuiet
      boundSource.isQuiet contextSource.isQuiet]
    constructor
    · intro tooLong
      obtain ⟨reason, failed⟩ := long tooLong
      exact ⟨reason, by rw [failed]; rfl⟩
    · intro notLong
      obtain ⟨line, members, written, plain, read, holds⟩ := short notLong
      exact ⟨line, members, by rw [written]; rfl, plain, read, holds⟩
  · by_cases isShown : shown
    · have isShown : (Profile.ofSettings settings).shows method.level = true := by
        simp [shows, isShown]
      obtain ⟨receiver, misuse, failed⟩ := asked.2 (misused.imp_right And.right)
      exact ⟨receiver, misuse, Profile.emit_of_error isShown failed _ _⟩
    · have isHidden : (Profile.ofSettings settings).shows method.level = false := by
        simp [shows, isShown]
      obtain ⟨receiver, misuse, failed⟩ :=
        taken.2 (misused.resolve_right fun both => isShown both.1)
      refine ⟨receiver, misuse, ?_⟩
      rw [Profile.emit_of_hidden isHidden, failed]
      rfl

/-- A line break, a sensitive name, and a context variable that a bound value hides. -/
theorem emit_production_line :
    let settings : LogSettings := ⟨"INFO", "production"⟩
    let made : Configuration := .made (Profile.ofSettings settings)
    let logger := create .standard made (.text "app")
    let bound : Fields String Datum := [("logger", .text "app")]
    let named : Fields String Datum := [("user", .text "a\nb"), ("api_key", .int 7)]
    let context : Fields String Datum := [("logger", .null)]
    LogLibrary.standard.Documented ∧
      settings.environment = "production" ∧
      logger.followed .standard made = made ∧
      logger.bound = ofData bound ∧
      IsSource bound ∧ IsSource context ∧ IsSource named ∧
      ∃ (line : String) (members : Fields String Datum),
        logger.emit .standard made (ofData context) "2025-01-01T00:00:00Z"
            (Call.ofText .info "log in" (ofData named) none) =
          .ok (.printed (Text.points (line ++ "\n"))) ∧
        Json.read? line = some (.dict (members.rename .text)) ∧
        members.get? "user" = some (.text "a\nb") ∧
        members.get? "api_key" = some (.text Redaction.marker) ∧
        members.get? "logger" = some (.text "app") := by
  intro settings made logger bound named context
  have boundSource : IsSource bound :=
    ⟨by decide, List.forall_mem_singleton.mpr (.text "app"), rfl⟩
  have contextSource : IsSource context := ⟨by decide, List.forall_mem_singleton.mpr .null, rfl⟩
  have namedSource : IsSource named :=
    ⟨by decide, List.forall_mem_cons.mpr ⟨.text _, List.forall_mem_singleton.mpr (.int 7)⟩, rfl⟩
  have notLong : ¬ HoldsTooLong (Call.report? .info none) named bound context := by
    rintro ⟨name, -, -, notSensitive, value, isCounted, long⟩
    by_cases isKey : name = "api_key"
    · rw [isKey] at notSensitive
      contradiction
    · -- All values under other names are texts, or null, which nothing shows.
      have isText : ∃ text, value = .text text := by
        by_cases isUser : name = "user"
        · exact ⟨_, (Option.some.inj (isUser ▸ isCounted)).symm⟩
        · by_cases isLogger : name = "logger"
          · exact ⟨_, (Option.some.inj (isLogger ▸ isCounted)).symm⟩
          · simp [Event.counted, named, bound, context, Fields.get?, Ne.symm isKey, Ne.symm isUser,
              Ne.symm isLogger] at isCounted
      obtain ⟨text, rfl⟩ := isText
      exact Datum.not_long_text text long
  have production : settings.environment = "production" := rfl
  have follows : logger.followed .standard made = .made (Profile.ofSettings settings) := rfl
  have boundTo : logger.bound = ofData bound := rfl
  obtain ⟨line, members, printed, -, read, holds⟩ :=
    ((emit_production LogLibrary.standard_documented production follows boundTo boundSource
      contextSource namedSource .info "log in" "2025-01-01T00:00:00Z" none).2.1 (by decide)
      (by decide) (by decide)).2 notLong
  refine ⟨LogLibrary.standard_documented, production, follows, boundTo, boundSource, contextSource,
    namedSource, line, members, printed, read, ?_, ?_, ?_⟩
  · rw [holds.others "user" (by decide) (by decide)]
    rfl
  · rw [holds.others "api_key" (by decide) (by decide)]
    rfl
  · rw [holds.others "logger" (by decide) (by decide)]
    rfl

/-- Four calls at a shown level that do not print the line of their sources: one with a named value
under the name of the method, one with an integer of too many digits, one that reports the exception
at hand, and one with the halves of a character, which are read back as the character. -/
theorem emit_production_unlike_sources :
    let settings : LogSettings := ⟨"INFO", "production"⟩
    let made : Configuration := .made (Profile.ofSettings settings)
    let emitted (method : Method) (named : Event) (handled? : Option String) :
        Except Fault Emission :=
      emit .standard (create .standard made .null) made [] "2025-01-01T00:00:00Z"
        (Call.ofText method "e" named handled?)
    (∀ text, emitted .info (ofData [("method_name", .text "x")]) none ≠ .ok (.printed text)) ∧
      (∀ text,
        emitted .info (ofData [("n", .int (Nat.pow 10 Datum.mostDigits : Nat))]) none ≠
          .ok (.printed text)) ∧
      (∃ (line : String) (members : Fields String Datum),
        emitted .exception [] (some "ValueError: boom") =
          .ok (.printed (Text.points (line ++ "\n"))) ∧
        Json.read? line = some (.dict (members.rename .text)) ∧
        members.get? "exception" = some (.text "ValueError: boom")) ∧
      emitted .info [("x", .torn [.half 0xD83D, .half 0xDE00])] none =
        emitted .info [("x", .ofText "😀")] none := by
  intro settings made emitted
  have nothing : IsSource [] := ⟨List.nodup_nil, List.forall_mem_nil _, rfl⟩
  have follows : (create .standard made .null).followed .standard made =
      .made (Profile.ofSettings settings) := rfl
  -- What all calls have in common that are no misuse.
  have line (method : Method) (shown : 20 ≤ method.level.number)
      {named : Fields String Datum} (source : IsSource named) (free : Call.IsFree (ofData named))
      (noMethodName : (ofData named).has "method_name" = false) (handled? : Option String) :=
    (emit_of_follows follows [] "2025-01-01T00:00:00Z"
      (Call.ofText method "e" (ofData named) handled?)).trans
      (Profile.emit_ofText LogLibrary.standard_documented rfl (decide_eq_true shown) free
        noMethodName source.isQuiet nothing.isQuiet nothing.isQuiet "e" "2025-01-01T00:00:00Z"
        handled?)
  -- Stated for any such number, so that none is ever computed.
  have tooLong {value : Int} (long : (Datum.int value).HoldsLong) (text : Text.Points) :
      emitted .info (ofData [("n", .int value)]) none ≠ .ok (.printed text) := by
    have source : IsSource [("n", .int value)] :=
      ⟨List.nodup_singleton "n", List.forall_mem_singleton.mpr (.int value), rfl⟩
    have long : HoldsTooLong (Call.report? .info none) [("n", .int value)] [] [] :=
      ⟨"n", by decide, by decide, by decide, _, rfl, long⟩
    obtain ⟨reason, failed⟩ := (Event.jsonLine_shownEvent .info "e" "2025-01-01T00:00:00Z" none
      LogLibrary.standard_documented source nothing nothing).1 long
    intro printed
    have unwritten := (line .info (by decide) source ⟨rfl, rfl⟩ rfl none).symm.trans printed
    rw [failed] at unwritten
    contradiction
  refine ⟨fun text => nofun, tooLong (.int (Datum.length_toDigits_power (by decide))), ?_, by rfl⟩
  · have short : ¬ HoldsTooLong (Call.report? .exception (some "ValueError: boom")) [] [] [] := by
      rintro ⟨name, -, -, -, value, isCounted, -⟩
      contradiction
    obtain ⟨text, members, written, -, read, holds⟩ := (Event.jsonLine_shownEvent .exception "e"
      "2025-01-01T00:00:00Z" (some "ValueError: boom") LogLibrary.standard_documented nothing
      nothing nothing).2 short
    refine ⟨text, members, ?_, read, holds.report _ rfl⟩
    refine (line .exception (by decide) nothing (by decide) (by decide) _).trans ?_
    rw [written]
    rfl

end Logger

end Attachments
