import Attachments.Datum.Basic
import Attachments.Settings.Environment
import Attachments.Text.Pieces

/-!
Contract: the paths under which settings are looked for.

Owns:
- the root and the steps of a path, and how a path is written;
- the homes of accounts at the start of a path;
- the paths that a value stands for.

Does not own: what lies at a path.
-/

namespace Attachments

/-- A path: the slashes at its start that count, and its steps. Empty steps, and points for the
place where one is, lead nowhere. -/
structure SettingsPath where
  root : String
  steps : List String
  deriving DecidableEq, Repr

namespace SettingsPath

/-- The slashes that count at the start of a path. Exactly two have a meaning of their own. -/
def rootOf (path : List Char) : String :=
  match (path.takeWhile (· == '/')).length with
  | 0 => ""
  | 2 => "//"
  | _ => "/"

def ofText (path : String) : SettingsPath :=
  let (first, others) := Text.pieces '/' path.toList
  { root := rootOf path.toList
    steps := ((first :: others).map String.ofList).filter fun step => step != "" && step != "." }

/-- How a path is written. -/
def shown (path : SettingsPath) : String :=
  if path.root == "" && path.steps.isEmpty then "." else path.root ++ "/".intercalate path.steps

def isAbsolute (path : SettingsPath) : Bool :=
  path.root != ""

/-- The accounts of a plain system and their homes. -/
def accountHomes : List (String × String) :=
  [ ("root", "/root"), ("daemon", "/usr/sbin"), ("bin", "/bin"), ("sys", "/dev"),
    ("sync", "/bin"), ("games", "/usr/games"), ("man", "/var/cache/man"),
    ("lp", "/var/spool/lpd"), ("mail", "/var/mail"), ("news", "/var/spool/news"),
    ("uucp", "/var/spool/uucp"), ("proxy", "/bin"), ("www-data", "/var/www"),
    ("backup", "/var/backups"), ("list", "/var/list"), ("irc", "/run/ircd"),
    ("_apt", "/nonexistent"), ("nobody", "/nonexistent") ]

/-- The home that the environment names, which is that of the first account unless it names
another. An empty name stands for the root. -/
def ownHome (environment : Environment) : String :=
  match environment.get? "HOME" with
  | none => "/root"
  | some "" => "/"
  | some home => home

/-- The home that the first step of a path stands for, if it starts with a tilde: alone it is the
own home, and before an account the home of that account. A home can itself not start with a
tilde. -/
def home? (environment : Environment) (step : String) : Except Fault (Option String) :=
  match step.toList with
  | ['~'] =>
    let home := ownHome environment
    if home.toList.head? = some '~' then .error .noHome else .ok (some home)
  | '~' :: account =>
    if '\x00' ∈ account then .error .nullInAccount
    else
      match accountHomes.find? (·.1 == String.ofList account) with
      | some (_, home) => .ok (some home)
      | none => .error .noHome
  | _ => .ok none

def expanded (environment : Environment) (path : SettingsPath) : Except Fault SettingsPath :=
  match path with
  | ⟨"", first :: rest⟩ => do
    match ← home? environment first with
    | some home =>
      let start := ofText home
      .ok ⟨start.root, start.steps ++ rest⟩
    | none => .ok path
  | _ => .ok path

/-- The items that a value of paths holds. Null holds none, and a text is one path. -/
def items : Datum → Except Fault (List Datum)
  | .null => .ok []
  | .text path => .ok [.text path]
  | value =>
    match value.elements? with
    | some items => .ok items
    | none => .error (.notIterable value.kind)

def ofItem (environment : Environment) : Datum → Except Fault SettingsPath
  | .text path => (ofText path).expanded environment
  | other => .error (.notPath other.kind)

/-- The settings file lies where the program runs. -/
def file : SettingsPath :=
  ⟨"", [".env"]⟩

/-- The text of that path stands for it, whatever the environment holds. -/
theorem ofItem_file (environment : Environment) :
    ofItem environment (.text ".env") = .ok file := by
  rfl

end SettingsPath

end Attachments
