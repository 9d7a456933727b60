import Attachments.Supplied.Settings.Command.Reading

/-!
Contract: the values that the arguments of a command set.

Owns:
- which argument is the value of the flag before it;
- flags that are written together in one argument;
- arguments that set nothing;
- why arguments cannot be read: misuse, and values that are no texts.

Does not own: what the values mean.
-/

namespace Attachments

/-- Why the reading of arguments stops: they do not fit together, or help is asked for. -/
inductive CommandStop where
  | misuse (misuse : CommandMisuse)
  | help
  deriving DecidableEq, Repr

/-- What arguments set, in their order, and the arguments that set nothing. -/
structure CommandValues where
  settled : List (String × Datum)
  others : List Datum

/-- Values behind other ones. -/
def CommandValues.behind
    (values : CommandValues)
    (settled : List (String × Datum))
    (others : List Datum) :
    CommandValues :=
  ⟨settled ++ values.settled, others ++ values.others⟩

/-- The answer that a flag without a value gives as it is spelled. -/
def CommandFlag.answer (flag : CommandFlag) (spelling : String) : Bool :=
  match flag.role with
  | .fixed answer => answer
  | _ => saysYes spelling

namespace CommandForm

/-- How flags that are written together end: with a value, with a flag whose value is the next
argument, with text that is no flag, or with nothing. -/
inductive BundleEnd where
  | value (flag : CommandFlag) (text : String)
  | awaiting (flag : CommandFlag)
  | stray (text : String)
  | closed
  deriving DecidableEq, Repr

/-- Reads the flags that are written together behind a flag without a value. Each but the last is
one character behind the start of flags. -/
def bundle (form : CommandForm) (start : Char) (flag : CommandFlag) (spelling : String) :
    List Char → Except CommandMisuse (List (CommandFlag × String) × BundleEnd)
  | [] => .ok ([(flag, spelling)], .closed)
  | first :: rest =>
    let attached := String.ofList (first :: rest)
    if first ∈ form.starts then .error (.uselessValue flag.title attached)
    else
      let next := String.ofList [start, first]
      match form.flag? next, rest with
      | none, _ => .ok ([(flag, spelling)], .stray (String.singleton start ++ attached))
      | some flag', rest =>
        if flag'.takesValue then
          let ending := match rest with
            | [] => .awaiting flag'
            | '=' :: value => .value flag' (String.ofList value)
            | value => .value flag' (String.ofList value)
          .ok ([(flag, spelling)], ending)
        else
          match rest with
          | '=' :: value => .error (.uselessValue flag'.title (String.ofList value))
          | rest => do
            let (flags, ending) ← bundle form start flag' next rest
            .ok ((flag, spelling) :: flags, ending)

/-- The flags that an argument holds, and how they end. -/
def unbundle
    (form : CommandForm)
    (flag : CommandFlag)
    (spelling : String)
    (attached : Option AttachedValue) :
    Except CommandMisuse (List (CommandFlag × String) × BundleEnd) :=
  match attached with
  | none => .ok (if flag.takesValue then ([], .awaiting flag) else ([(flag, spelling)], .closed))
  | some ⟨text, behindSign⟩ =>
    if flag.takesValue then .ok ([], .value flag text)
    else
      match spelling.toList, text.toList with
      | [start, _], first :: rest =>
        if behindSign then .error (.uselessValue flag.title text)
        else bundle form start flag spelling (first :: rest)
      | _, _ => .error (.uselessValue flag.title text)

/-- Gathers what arguments set that have been read. Help is given as soon as it is asked for. -/
def settle (form : CommandForm) :
    List (Datum × ArgumentReading) → Except CommandStop CommandValues
  | [] => .ok ⟨[], []⟩
  | (_, .flag flag spelling attached) :: rest =>
    match form.unbundle flag spelling attached with
    | .error misuse => .error (.misuse misuse)
    | .ok (flags, ending) =>
      let said := flags.map fun pair => (pair.1.target, Datum.bool (pair.1.answer pair.2))
      let asked := flags.any (·.1.role == .asksForHelp)
      match ending, rest with
      | .awaiting flag, (value, .plain) :: rest =>
        if asked then .error .help
        else (form.settle rest).map (·.behind (said ++ [(flag.target, value)]) [])
      | .awaiting flag, _ => .error (.misuse (.missingValue flag.title))
      | .value flag text, rest =>
        if asked then .error .help
        else (form.settle rest).map (·.behind (said ++ [(flag.target, .text text)]) [])
      | .stray text, rest =>
        if asked then .error .help else (form.settle rest).map (·.behind said [.text text])
      | .closed, rest =>
        if asked then .error .help else (form.settle rest).map (·.behind said [])
  | (argument, _) :: rest => (form.settle rest).map (·.behind [] [argument])

/-- Without arguments nothing is set. -/
theorem settle_nil (form : CommandForm) : form.settle [] = .ok ⟨[], []⟩ := by
  rw [settle]

end CommandForm

end Attachments
