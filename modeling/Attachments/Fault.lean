import Attachments.Datum.Kind
import Attachments.Text.DecodingFault
import Attachments.Text.Quoted

/-!
Contract: the ways in which an operation can be misused.

Owns:
- one constructor for each cause;
- the report of each cause.

Does not own: values that are refused because of what they say; those are problems.
-/

namespace Attachments

/-- The four order relations. -/
inductive Relation where
  | less
  | atMost
  | greater
  | atLeast
  deriving DecidableEq, Repr

/-- The sign of a relation. -/
def Relation.symbol : Relation → String
  | .less => "<"
  | .atMost => "<="
  | .greater => ">"
  | .atLeast => ">="

/-- Whether the relation holds of two things that compare like this. -/
def Relation.holds : Relation → Ordering → Bool
  | .less, comparison => comparison.isLT
  | .atMost, comparison => comparison.isLE
  | .greater, comparison => comparison.isGT
  | .atLeast, comparison => comparison.isGE

/-- What is wrong with the arguments of a call. Counts include the object under construction. -/
inductive CallMisuse where
  | missing (names : List String)
  | unexpected (name : String)
  | repeated (name : String)
  | tooMany (least most given : Nat)
  deriving DecidableEq, Repr

/-- What is wrong with the arguments of a command. -/
inductive CommandMisuse where
  | missingValue (flag : String)
  | uselessValue (flag value : String)
  | unrecognized (arguments : List String)
  deriving DecidableEq, Repr

/-- Why an operation does not apply to what it was given. Objects have causes of their own, each
with the name of its class. -/
inductive Fault where
  | notContainer (kind : Kind)
  | notPlainText (kind : Kind)
  | noOperation (kind : Kind) (operation : String)
  | notIterable (kind : Kind)
  | unordered (relation : Relation) (left right : Kind)
  | unhashable (kind : Kind)
  | emptyChoice (operation : String)
  | frozenAssignment (field : String)
  | frozenDeletion (field : String)
  | foreignField
  | nonTextField (kind : Kind)
  | derivedField (field : String)
  | misusedCall (callee : String) (misuse : CallMisuse)
  | nonTextArgumentName
  | notJoinable
  | unjoinableItem (index : Nat) (kind : Kind)
  | nonTextMessage (kind : Kind)
  | tooFewArguments
  | unusedArguments
  | notNumber (directive : Char) (kind : Kind)
  | notInteger (directive : Char) (kind : Kind)
  | notRealNumber (kind : Kind)
  | notCharacter
  | noSuchCharacter
  | beyondReals
  | notMapping
  | notMeasure
  | widthTooBig
  | widthArgumentTooBig
  | precisionTooBig
  | precisionArgumentTooBig
  | precisionBeyondDigits
  | textTooLong
  | unknownDirective (directive : Char) (index : Nat)
  | unfinishedKey
  | unfinishedDirective
  | notAppendable (name : String)
  | notTemplate (kind arguments : String)
  | unknownName (name : String)
  | nullInVariable
  | badVariableName
  | emptyVariableName
  | noLength (kind : Kind)
  | notPath (kind : Kind)
  | notUnpackable (kind : Kind)
  | tooFewParts (given expected : Nat)
  | tooManyParts (expected : Nat)
  | notCallable (kind : Kind)
  | noDifference (kind : Kind)
  | noHome
  | nullInAccount
  | nameTooLong (path : String)
  | uncountable
  | nonTextEncoding (kind : Kind)
  | nullInEncoding
  | unknownEncoding (name : String)
  | transformForEncoding (name : String)
  | undecodable (cause : Text.DecodingFault)
  | noMultiple (kind : Kind)
  | noSum (kind : Kind)
  | listSum
  | beyondEnd (kind : Kind)
  | badFlagLead (lead : String)
  | badFlag (spelling starts : String)
  | nonTextMargin
  | takenFlags (flag : String) (taken : List String)
  | badSearch (reason : String)
  | notMatchable (kind : Kind)
  | notSubscriptable (kind : Kind)
  | notPartOfText (kind : Kind)
  | noEntry (key : Int)
  | nonListArguments (kind : Kind)
  | misusedCommand (misuse : CommandMisuse)
  | endOfProgram (status : Nat)
  | unreadableSetting (setting : String)
  | notDirectory (label : String)
  | nonTextStart (kind : Kind)
  | unwritable (reason : String)
  | notMemberName (kind : Kind)
  | own (className message : String)
  deriving DecidableEq, Repr

/-- Names in a row: one alone, two joined by "and", more with commas before the last. -/
def enumerate : List String → String
  | [] => ""
  | [only] => only
  | [first, second] => first ++ " and " ++ second
  | names => ", ".intercalate names.dropLast ++ ", and " ++ names.getLastD ""

def pluralMark (count : Nat) : String :=
  if count = 1 then "" else "s"

def CallMisuse.message : CallMisuse → String
  | .missing names =>
    s!"missing {names.length} required positional argument{pluralMark names.length}: "
      ++ enumerate (names.map Text.quote)
  | .unexpected name => s!"got an unexpected keyword argument '{name}'"
  | .repeated name => s!"got multiple values for argument '{name}'"
  | .tooMany least most given =>
    let expected :=
      if least = most then s!"{most} positional argument{pluralMark most}"
      else s!"from {least} to {most} positional arguments"
    s!"takes {expected} but {given} were given"

def CommandMisuse.message : CommandMisuse → String
  | .missingValue flag => s!"argument {flag}: expected one argument"
  | .uselessValue flag value =>
    s!"argument {flag}: ignored explicit argument {Text.quote value}"
  | .unrecognized arguments => "unrecognized arguments: " ++ " ".intercalate arguments

/-- The report of a fault. -/
def Fault.message : Fault → String
  | .notContainer kind => s!"argument of type '{kind.name}' is not iterable"
  | .notPlainText kind =>
    s!"descriptor '__str__' requires a 'str' object but received a '{kind.name}'"
  | .noOperation kind operation => s!"'{kind.name}' object has no attribute '{operation}'"
  | .notIterable kind => s!"'{kind.name}' object is not iterable"
  | .unordered relation left right =>
    s!"'{relation.symbol}' not supported between instances of '{left.name}' and '{right.name}'"
  | .unhashable kind => s!"unhashable type: '{kind.name}'"
  | .emptyChoice operation => s!"{operation}() arg is an empty sequence"
  | .frozenAssignment field => s!"cannot assign to field {Text.quote field}"
  | .frozenDeletion field => s!"cannot delete field {Text.quote field}"
  | .foreignField => "super(type, obj): obj must be an instance or subtype of type"
  | .nonTextField kind => s!"attribute name must be string, not '{kind.name}'"
  | .derivedField field =>
    s!"field {field} is declared with init=False, it cannot be specified with replace()"
  | .misusedCall callee misuse => s!"{callee}() {misuse.message}"
  | .nonTextArgumentName => "keywords must be strings"
  | .notJoinable => "can only join an iterable"
  | .unjoinableItem index kind =>
    s!"sequence item {index}: expected str instance, {kind.name} found"
  | .nonTextMessage kind => s!"__str__ returned non-string (type {kind.name})"
  | .tooFewArguments => "not enough arguments for format string"
  | .unusedArguments => "not all arguments converted during string formatting"
  | .notNumber directive kind =>
    s!"%{directive} format: a real number is required, not {kind.name}"
  | .notInteger directive kind => s!"%{directive} format: an integer is required, not {kind.name}"
  | .notRealNumber kind => s!"must be real number, not {kind.name}"
  | .notCharacter => "%c requires int or char"
  | .noSuchCharacter => "%c arg not in range(0x110000)"
  | .beyondReals => "int too large to convert to float"
  | .notMapping => "format requires a mapping"
  | .notMeasure => "* wants int"
  | .widthTooBig => "width too big"
  | .widthArgumentTooBig => "Python int too large to convert to C ssize_t"
  | .precisionTooBig => "precision too big"
  | .precisionArgumentTooBig => "Python int too large to convert to C int"
  | .precisionBeyondDigits => "precision too large"
  | .textTooLong => ""
  | .unknownDirective directive index =>
    let shown := if 0x1F ≤ directive.toNat ∧ directive.toNat < 0x7F then directive else '?'
    let code := String.ofList (Nat.toDigits 16 directive.toNat)
    s!"unsupported format character '{shown}' (0x{code}) at index {index}"
  | .unfinishedKey => "incomplete format key"
  | .unfinishedDirective => "incomplete format"
  | .notAppendable name => s!"can only concatenate str (not \"{name}\") to str"
  | .notTemplate kind arguments => s!"unsupported operand type(s) for %: '{kind}' and '{arguments}'"
  | .unknownName name => Text.quote name
  | .nullInVariable => "embedded null byte"
  | .badVariableName => "illegal environment variable name"
  | .emptyVariableName => "[Errno 22] Invalid argument"
  | .noLength kind => s!"object of type '{kind.name}' has no len()"
  | .notPath kind => s!"expected str, bytes or os.PathLike object, not {kind.name}"
  | .notUnpackable kind => s!"cannot unpack non-iterable {kind.name} object"
  | .tooFewParts given expected =>
    s!"not enough values to unpack (expected {expected}, got {given})"
  | .tooManyParts expected => s!"too many values to unpack (expected {expected})"
  | .notCallable kind => s!"'{kind.name}' object is not callable"
  | .noDifference kind => s!"unsupported operand type(s) for -: '{kind.name}' and 'int'"
  | .noHome => "Could not determine home directory."
  | .nullInAccount => "embedded null byte"
  | .nameTooLong path => s!"[Errno 36] File name too long: {Text.quote path}"
  | .uncountable =>
    "Stop argument for islice() must be None or an integer: 0 <= x <= sys.maxsize."
  | .nonTextEncoding kind =>
    s!"open() argument 'encoding' must be str or None, not {kind.name}"
  | .nullInEncoding => "embedded null character"
  | .unknownEncoding name => s!"unknown encoding: {name}"
  | .transformForEncoding name =>
    s!"'{name}' is not a text encoding; use codecs.open() to handle arbitrary codecs"
  | .undecodable cause => cause.message
  | .noMultiple kind => s!"unsupported operand type(s) for *: '{kind.name}' and 'int'"
  | .noSum kind => s!"unsupported operand type(s) for +: '{kind.name}' and 'str'"
  | .listSum => "can only concatenate list (not \"str\") to list"
  | .beyondEnd kind =>
    (if kind = .text then "string" else "list") ++ " index out of range"
  | .badFlagLead lead => s!"CLI settings source prefix is invalid: {lead}"
  | .badFlag spelling starts =>
    s!"invalid option string {Text.quote spelling}: must start with a character {starts}"
  | .nonTextMargin => "lstrip arg must be None or str"
  | .takenFlags flag taken =>
    s!"argument {flag}: conflicting option string{pluralMark taken.length}: "
      ++ ", ".intercalate taken
  | .badSearch reason => reason
  | .notMatchable kind => s!"expected string or bytes-like object, got '{kind.name}'"
  | .notSubscriptable kind => s!"'{kind.name}' object is not subscriptable"
  | .notPartOfText kind => s!"'in <string>' requires string as left operand, not {kind.name}"
  | .noEntry key => s!"{key}"
  | .nonListArguments kind =>
    s!"cli_parse_args must be a list or tuple of strings, received <class '{kind.name}'>"
  | .misusedCommand misuse => s!"error parsing CLI: {misuse.message}"
  | .endOfProgram status => s!"{status}"
  | .unreadableSetting setting =>
    s!"error getting value for field \"{setting}\" from source \"EnvSettingsSource\""
  | .notDirectory label => s!"secrets_dir must reference a directory, not a {label}"
  | .nonTextStart kind => s!"startswith first arg must be str or a tuple of str, not {kind.name}"
  | .unwritable reason => reason
  | .notMemberName kind => s!"keys must be str, int, float, bool or None, not {kind.name}"
  | .own _ message => message

end Attachments
