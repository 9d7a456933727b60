import Attachments.Event.Template.Layout

/-!
Contract: templates filled with arguments.

Owns:
- how arguments are used up, one after the other or by name;
- widths and precisions that are arguments themselves;
- what is reported when arguments and places do not fit together.

Does not own: how a value is shown.
-/

namespace Attachments

namespace Template

/-- What is left to fill places with: arguments in order, or one dictionary, which fills places by
name. The dictionary can stand once as a whole, and a value found by name can stand once; until
then it waits. -/
inductive Supply where
  | inOrder (arguments : List Datum)
  | byName (entries : List (Datum × Datum)) (waiting? : Option Datum)

namespace Supply

/-- What fills the places: the arguments in order, or a dictionary that is the only argument and
holds anything. -/
def ofArguments : List Datum → Supply
  | [.dict (entry :: rest)] => .byName (entry :: rest) (some (.dict (entry :: rest)))
  | arguments => .inOrder arguments

/-- The name of what fills the places, in reports. -/
def kindName : Supply → String
  | .inOrder _ => Kind.tuple.name
  | .byName .. => Kind.dict.name

def next : Supply → Except Fault (Datum × Supply)
  | .inOrder (first :: rest) => .ok (first, .inOrder rest)
  | .byName entries (some value) => .ok (value, .byName entries none)
  | _ => .error .tooFewArguments

/-- Looks an argument up, which then is the next one. -/
def named : Key → Supply → Except Fault Supply
  | _, .inOrder _ => .error .notMapping
  | .unclosed, .byName .. => .error .unfinishedKey
  | .named name, .byName entries _ =>
    match entries.find? fun entry => entry.1 == .text name with
    | some entry => .ok (.byName entries (some entry.2))
    | none => .error (.unknownName name)

/-- The number that the next argument gives as a measure. It must be at least the opposite of the
limit and less than the limit. -/
def nextMeasure (supply : Supply) (limit : Int) (tooBig : Fault) :
    Except Fault (Int × Supply) := do
  let (value, later) ← supply.next
  match value.integer? with
  | none => .error .notMeasure
  | some amount =>
    if -limit ≤ amount ∧ amount < limit then .ok (amount, later) else .error tooBig

/-- The width that a directive asks for. A negative one asks for left alignment; only the least
number has no opposite, and asks for none. -/
def width (supply : Supply) : Option Measure → Except Fault (Int × Supply)
  | none => .ok (0, supply)
  | some (.fixed amount) =>
    if 0x7FFFFFFFFFFFFFFF < amount then .error .widthTooBig else .ok (amount, supply)
  | some .argument => do
    let (amount, later) ← supply.nextMeasure 0x8000000000000000 .widthArgumentTooBig
    .ok (if amount = -0x8000000000000000 then 0 else amount, later)

/-- The precision that a directive asks for. A negative one asks for zero. -/
def precision (supply : Supply) : Option Measure → Except Fault (Option Nat × Supply)
  | none => .ok (none, supply)
  | some (.fixed amount) =>
    if greatestPrecision < amount then .error .precisionTooBig else .ok (some amount, supply)
  | some .argument => do
    let (amount, later) ← supply.nextMeasure 0x80000000 .precisionArgumentTooBig
    .ok (some amount.toNat, later)

end Supply

/-- The layout that a directive asks for. The name is looked up first; then come the width and the
precision, each of which may use up an argument. -/
def Directive.layout (directive : Directive) (supply : Supply) :
    Except Fault (Layout × Supply) := do
  let supply ← match directive.key? with
    | none => .ok supply
    | some key => supply.named key
  let (width, supply) ← supply.width directive.width?
  let (precision?, supply) ← supply.precision directive.precision?
  let flags := if width < 0 then '-' :: directive.flags else directive.flags
  .ok (⟨flags, width.natAbs, precision?⟩, supply)

/-- What stands in a place, and what is left for the places behind it. -/
def Directive.fill (directive : Directive) (supply : Supply) :
    Except Fault (Text.Points × Supply) := do
  let (layout, supply) ← directive.layout supply
  match directive.conversion? with
  | none => .error .unfinishedDirective
  | some conversion =>
    let (value, supply) ← supply.next
    let shown ← layout.display conversion value
    .ok (shown, supply)

/-- Fills the places of a template. Arguments in order must be used up. -/
def fillParts (supply : Supply) : List Part → Except Fault Text.Points
  | [] =>
    match supply with
    | .inOrder (_ :: _) => .error .unusedArguments
    | _ => .ok []
  | .literal character :: rest => (fillParts supply rest).map (.character character :: ·)
  | .place directive :: rest => do
    let (shown, later) ← directive.fill supply
    (fillParts later rest).map (shown ++ ·)

/-- Fills a template, which must be a text, with arguments. Halves of pairs stay apart. -/
def fill (template : Datum) (arguments : List Datum) : Except Fault Text.Points :=
  let supply := Supply.ofArguments arguments
  match template with
  | .text text => fillParts supply (parts text)
  | other => .error (.notTemplate other.kind.name supply.kindName)

end Template

end Attachments
