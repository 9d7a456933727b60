import Attachments.Supplied.Settings.Path

/-!
Contract: what lies at the places that paths lead to.

Owns:
- the directories, files and devices of a plain system, and the settings file;
- how a path is followed step by step;
- names that are too long to be looked up.

Does not own: what is read there.
-/

namespace Attachments

/-- What lies at a place. -/
inductive SettingsPlace where
  | nothing
  | directory
  | settingsFile
  | foreignFile
  | device
  | link
  deriving DecidableEq, Repr

namespace SettingsPlace

/-- The word for what lies at a place. -/
def label : SettingsPlace → String
  | .nothing => "unknown"
  | .directory => "directory"
  | .settingsFile | .foreignFile => "file"
  | .device => "char device"
  | .link => "symlink"

/-- The directories of a plain system. -/
def directories : List String :=
  [ "/bin", "/boot", "/dev", "/dev/pts", "/dev/shm", "/etc", "/home", "/lib", "/lib64", "/media",
    "/mnt", "/opt", "/proc", "/proc/self", "/root", "/run", "/sbin", "/srv", "/sys", "/tmp",
    "/usr", "/usr/bin", "/usr/games", "/usr/include", "/usr/lib", "/usr/local",
    "/usr/local/bin", "/usr/local/etc", "/usr/local/lib", "/usr/local/sbin",
    "/usr/local/share", "/usr/sbin", "/usr/share", "/usr/src", "/var", "/var/backups",
    "/var/cache", "/var/lib", "/var/local", "/var/lock", "/var/log", "/var/mail", "/var/opt",
    "/var/run", "/var/spool", "/var/tmp" ]

/-- The files of a plain system. None of them holds settings. -/
def files : List String :=
  [ "/etc/group", "/etc/hostname", "/etc/hosts", "/etc/os-release", "/etc/passwd",
    "/etc/resolv.conf", "/etc/shadow", "/bin/sh", "/proc/cpuinfo", "/proc/meminfo",
    "/proc/version" ]

/-- The devices of a plain system. -/
def devices : List String :=
  ["/dev/full", "/dev/null", "/dev/ptmx", "/dev/random", "/dev/tty", "/dev/urandom", "/dev/zero"]

/-- The names of the streams of the program, which are links. -/
def links : List String :=
  ["/dev/stderr", "/dev/stdin", "/dev/stdout"]

/-- Where one is on the way along a path: where the program runs, somewhere above that place, or
at known steps from the root. -/
inductive Stop where
  | working
  | above
  | fromRoot (steps : List String)
  deriving DecidableEq, Repr

/-- What lies one step further: a directory, or something behind which no path goes on. -/
def next (hasFile : Bool) (stop : Stop) (step : String) : Stop ⊕ SettingsPlace :=
  match stop with
  | .fromRoot steps =>
    if step == ".." then .inl (.fromRoot steps.dropLast)
    else
      let name := "/" ++ "/".intercalate (steps ++ [step])
      if name ∈ directories then .inl (.fromRoot (steps ++ [step]))
      else if name ∈ files then .inr .foreignFile
      else if name ∈ devices then .inr .device
      else if name ∈ links then .inr .link
      else .inr .nothing
  | .above => if step == ".." then .inl .above else .inr .nothing
  | .working =>
    if step == ".." then .inl .above
    else if hasFile && [step] == SettingsPath.file.steps then .inr .settingsFile
    else .inr .nothing

/-- What lies at the end of some steps. No name can be looked up that takes more than 255 bytes.
-/
def follow (hasFile : Bool) : Stop → List String → Option SettingsPlace
  | _, [] => some .directory
  | stop, step :: rest =>
    if 255 < step.utf8ByteSize then none
    else
      match next hasFile stop step with
      | .inl stop => follow hasFile stop rest
      | .inr place => some (if rest.isEmpty then place else .nothing)

/-- What lies at a path. Nothing lies at a path with a null character, and no path can be followed
that takes 4096 bytes or more. -/
def at? (hasFile : Bool) (path : SettingsPath) : Except Fault SettingsPlace :=
  if '\x00' ∈ path.shown.toList then .ok .nothing
  else if 4096 ≤ path.shown.utf8ByteSize then .error (.nameTooLong path.shown)
  else
    match follow hasFile (if path.isAbsolute then .fromRoot [] else .working) path.steps with
    | some place => .ok place
    | none => .error (.nameTooLong path.shown)

/-- Where the settings file should be lies the file, if there is one. -/
theorem at?_file (hasFile : Bool) :
    at? hasFile SettingsPath.file = .ok (if hasFile then .settingsFile else .nothing) := by
  cases hasFile <;> rfl

end SettingsPlace

end Attachments
