import Attachments.Identifier.Sorting
import Attachments.Session.Report
import Attachments.Session.State
import Attachments.Session.Step

/-!
Contract: the steps of a session, one after the other.

Owns:
- what each step does to the state and what it reports;
- runs of many steps.

Does not own: time; every log line carries the time that the run is given.
-/

namespace Attachments

namespace Session

def slot {Value : Type} (slots : Fields String Value) (name : String) : Except Fault Value :=
  match slots.get? name with
  | some value => .ok value
  | none => .error (.unknownName name)

/-- Keeps an identifier in a slot and reports it. A failure leaves the slot as it was. -/
def keepIdentifier (session : Session) (name : String) :
    Except Failure Identifier → Report × Session
  | .ok identifier =>
    (.plain (.ok (.identifier identifier)),
      { session with identifiers := session.identifiers.put name identifier })
  | .error failure => (.failed (.ofFailure failure), session)

/-- Reports the kept settings of identifier reading. -/
def showLegacySettings (libraries : Libraries) (session : Session) : Report × Session :=
  match session.keptLegacy libraries with
  | (.ok loaded, session) =>
    let same := decide (session.legacyShown = some loaded.serial)
    (.plain (.ok (.legacySettings loaded.settings same)),
      { session with legacyShown := some loaded.serial })
  | (.error failure, session) => (.failed (.settings failure), session)

def showLogSettings (libraries : Libraries) (session : Session) : Report × Session :=
  match session.keptLog libraries with
  | (.ok loaded, session) =>
    let same := decide (session.logShown = some loaded.serial)
    (.plain (.ok (.logSettings loaded.settings same)),
      { session with logShown := some loaded.serial })
  | (.error failure, session) => (.failed (.settings failure), session)

/-- The settings of identifier reading that a step asks for. -/
def chosenLegacy (libraries : Libraries) (session : Session) :
    Option (Fields String Datum) → Except SettingsFailure LegacySettings × Session
  | some named => (session.loadLegacy libraries named, session)
  | none =>
    let (outcome, session) := session.keptLegacy libraries
    (outcome.map (·.settings), session)

/-- The settings of logging that a step asks for. -/
def chosenLog (libraries : Libraries) (session : Session) :
    Option (Fields String Datum) → Except SettingsFailure LogSettings × Session
  | some named => (session.loadLog libraries named, session)
  | none =>
    let (outcome, session) := session.keptLog libraries
    (outcome.map (·.settings), session)

/-- What a step that logs has to show when it fails: nothing printed, once logging is
configured. -/
def failedEmission (session : Session) : Option Emission :=
  match session.configuration with
  | .usual => none
  | .made _ => some .silent

/-- The name under which the creation of readers is logged. -/
def creationLogger : String :=
  "tessera.infra.attachments.factory"

/-- The call that logs the creation of a reader. -/
def creationCall (allowLegacy : Bool) : Call where
  method := .info
  message := .text "attachment_id_parser_created"
  arguments := []
  named := [(.text "allow_legacy", .value (.bool allowLegacy))]
  handled? := none

/-- Makes a reader that follows settings, and logs it. -/
def createReader
    (libraries : Libraries)
    (time : String)
    (session : Session)
    (name : String)
    (settings : Option (Fields String Datum)) :
    Report × Session :=
  match session.chosenLegacy libraries settings with
  | (.error failure, session) =>
    (⟨.error (.settings failure), [], session.failedEmission⟩, session)
  | (.ok settings, session) =>
    let logger := Logger.create libraries.logging session.configuration (.text creationLogger)
    let policy : Datum := .bool settings.allowLegacy
    match logger.emit libraries.logging session.configuration session.context time
        (creationCall settings.allowLegacy) with
    | .error fault => (⟨.error (.fault fault), [], session.failedEmission⟩, session)
    | .ok emission =>
      (⟨.ok (.policy policy), [], some emission⟩,
        { session with readers := session.readers.put name ⟨policy⟩ })

def read (session : Session) (name : String) (value : Datum) (target : Option String) :
    Report × Session :=
  match slot session.readers name with
  | .error fault => (.failed (.fault fault), session)
  | .ok reader =>
    match reader.read value with
    | (.error failure, journal) => (⟨.error (.ofFailure failure), journal, none⟩, session)
    | (.ok identifier, journal) =>
      let identifiers := match target with
        | some name => session.identifiers.put name identifier
        | none => session.identifiers
      (⟨.ok (.identifier identifier), journal, none⟩,
        { session with identifiers := identifiers })

def readMany (session : Session) (name : String) (values : Datum) : Report :=
  match slot session.readers name with
  | .error fault => .failed (.fault fault)
  | .ok reader =>
    match reader.readMany values with
    | (.error fault, journal) => ⟨.error (.fault fault), journal, none⟩
    | (.ok batch, journal) => ⟨.ok (.batch batch), journal, none⟩

def refuseChange (session : Session) (name : String) (refusal : Fault) : Report :=
  match slot session.identifiers name with
  | .error fault => .failed (.fault fault)
  | .ok _ => .failed (.fault refusal)

def compare (session : Session) (left right : String) : Report :=
  match slot session.identifiers left, slot session.identifiers right with
  | .ok left, .ok right => .plain (.ok (.compared (.named left) (.named right)))
  | .error fault, _ => .failed (.fault fault)
  | _, .error fault => .failed (.fault fault)

def store (session : Session) (name : String) (value : Datum) : Report × Session :=
  match slot session.identifiers name with
  | .error fault => (.failed (.fault fault), session)
  | .ok identifier =>
    let index := session.index.put identifier value
    (.plain (.ok (.size index.length)), { session with index := index })

/-- Looks an operand up in the index. A plain value is never found, but it must be able to be a
key. -/
def find (session : Session) : Operand → Except Fault (Option Datum)
  | .named identifier => .ok (session.index.get? identifier)
  | .plain value => value.checkKey.map fun _ => none

/-- Looks up what a spelling stands for. -/
def findSpelled (session : Session) (spelling : Spelling) : Report :=
  match spelling.operand with
  | .error failure => .failed (.ofFailure failure)
  | .ok operand =>
    match session.find operand with
    | .error fault => .failed (.fault fault)
    | .ok value => .plain (.ok (.found value))

/-- The entries of the index in the order of their identifiers. -/
def listing (session : Session) : List (Identifier × Datum) :=
  session.index.mergeSort fun left right => Identifier.notAfter left.1 right.1

/-- Configures logging. -/
def configure
    (libraries : Libraries)
    (session : Session)
    (settings : Option (Fields String Datum)) :
    Report × Session :=
  match session.chosenLog libraries settings with
  | (.error failure, session) => (.failed (.settings failure), session)
  | (.ok settings, session) =>
    (.plain (.ok .configured), { session with configuration := .made (.ofSettings settings) })

/-- Calls a logger. A call that cannot be made is a failure of its own: no logger is looked up for
it, and there is nothing printed to show. -/
def log
    (libraries : Libraries)
    (time : String)
    (session : Session)
    (name : String) :
    Except Fault Call → Report × Session
  | .error fault => (.failed (.fault fault), session)
  | .ok call =>
    match slot session.loggers name with
    | .error fault => (⟨.error (.fault fault), [], session.failedEmission⟩, session)
    | .ok logger =>
      let settled := logger.settled libraries.logging session.configuration
      let later := { session with loggers := session.loggers.put name settled }
      match logger.emit libraries.logging session.configuration session.context time call with
      | .error fault => (⟨.error (.fault fault), [], session.failedEmission⟩, later)
      | .ok emission => (⟨.ok .nothing, [], some emission⟩, later)

def bindContext (session : Session) (fields : List (Datum × Datum)) : Report × Session :=
  match Datum.entriesOf fields >>= Datum.namedArguments with
  | .error fault => (.failed (.fault fault), session)
  | .ok fields =>
    let added := fields.map fun field => (field.1, EventValue.value field.2)
    (.done, { session with context := session.context.putAll added })

def setVariable (session : Session) (name value : String) : Report × Session :=
  match session.environment.set name value with
  | .error fault => (.failed (.fault fault), session)
  | .ok environment => (.done, { session with environment := environment })

/-- Does one step. -/
def step (libraries : Libraries) (time : String) (session : Session) : Step → Report × Session
  | .setVariable name value => session.setVariable name value
  | .unsetVariable name =>
    (.done, { session with environment := session.environment.erase name })
  | .writeFile text => (.done, { session with file := text })
  | .showLegacySettings => session.showLegacySettings libraries
  | .clearLegacySettings => (.done, { session with legacyCache := session.legacyCache.clear })
  | .showLogSettings => session.showLogSettings libraries
  | .clearLogSettings => (.done, { session with logCache := session.logCache.clear })
  | .createReader name settings => session.createReader libraries time name settings
  | .makeReader name allowLegacy =>
    (.plain (.ok (.policy allowLegacy)),
      { session with readers := session.readers.put name ⟨allowLegacy⟩ })
  | .read name value target => session.read name value target
  | .readMany name values => (session.readMany name values, session)
  | .makeIdentifier name spelling =>
    match spelling.operand with
    | .error failure => (.failed (.ofFailure failure), session)
    | .ok (.plain value) => (.failed (.fault (.noOperation value.kind "domain")), session)
    | .ok (.named identifier) => session.keepIdentifier name (.ok identifier)
  | .showIdentifier name =>
    match slot session.identifiers name with
    | .error fault => (.failed (.fault fault), session)
    | .ok identifier => (.plain (.ok (.identifier identifier)), session)
  | .assign name field =>
    (session.refuseChange name (Identifier.changeRefusal .frozenAssignment field), session)
  | .delete name field =>
    (session.refuseChange name (Identifier.changeRefusal .frozenDeletion field), session)
  | .replace name target changes =>
    match slot session.identifiers name with
    | .error fault => (.failed (.fault fault), session)
    | .ok identifier => session.keepIdentifier target (identifier.replace changes)
  | .compare left right => (session.compare left right, session)
  | .store name value => session.store name value
  | .find spelling => (session.findSpelled spelling, session)
  | .listIndex => (.plain (.ok (.listing session.listing)), session)
  | .configure settings => session.configure libraries settings
  | .makeLogger name loggerName =>
    (.done, { session with
      loggers :=
        session.loggers.put name (.create libraries.logging session.configuration loggerName) })
  | .log name method message arguments fields handled? =>
    session.log libraries time name
      ((FieldRecipe.makeAll fields).map fun fields =>
        ⟨method, message, arguments, fields, handled?⟩)
  | .bindContext fields => session.bindContext fields
  | .unbindContext names =>
    (.done, { session with context := names.foldl Fields.erase session.context })
  | .clearContext => (.done, { session with context := [] })

/-- Does steps one after the other. A failed step does not end the run. -/
def run (libraries : Libraries) (time : String) (session : Session) :
    List Step → List Report × Session
  | [] => ([], session)
  | step :: rest =>
    let (report, next) := session.step libraries time step
    let (reports, final) := run libraries time next rest
    (report :: reports, final)

end Session

end Attachments
