import Attachments.Proofs.Json.Numbers
import Attachments.Proofs.Json.Values

/-!
Contract: values of JSON are read as they were written.

Owns:
- what it means that a reader reads back a written value, whatever follows;
- that lists and objects are read back if their elements are;
- that a value of JSON is read back;
- that its text is printable ASCII on one line.

Does not own: strings and numbers.
-/

namespace Attachments

namespace Json

/-! ## Reading back -/

/-- A reader reads back a value: what is written begins with no blank and with no closing bracket,
and in front of whatever may stand behind a number the value is read, and the rest left. -/
structure Reads {Value : Type} (read : FrontReader Value) (written : List Char) (value : Value) :
    Prop where
  begins : ∃ first others, written = first :: others ∧
    isBlank first = false ∧ first ≠ ']' ∧ first ≠ '\x7d'
  reads : ∀ rest, Ends rest → read (written ++ rest) = some (value, rest)

/-- A reader does not mind a blank in front. -/
def Skips {Value : Type} (read : FrontReader Value) : Prop :=
  ∀ text, read (' ' :: text) = read text

theorem behind?_cons
    {first : Char}
    (notBlank : isBlank first = false)
    (mark : Char)
    (others : List Char) :
    behind? mark (first :: others) = if first = mark then some others else none := by
  simp [behind?, notBlank]

theorem behind?_close {close : Char} (isClose : close = ']' ∨ close = '\x7d') (rest : List Char) :
    behind? close (close :: rest) = some rest := by
  rcases isClose with rfl | rfl <;> rfl

theorem ends_of_mark {mark : Char} (isMark : mark ∈ [',', ']', '\x7d']) (rest : List Char) :
    Ends (mark :: rest) := by
  have noneGoesOn : ∀ mark ∈ [',', ']', '\x7d'],
      mark.isDigit = false ∧ mark ∉ ['.', 'e', 'E'] := by simp
  rintro _ ⟨⟩
  exact noneGoesOn mark isMark

/-! ## Elements -/

section Elements

variable {Item Element : Type} {element? : FrontReader Element} {close : Char}
variable {write : Item → List Char} {value : Item → Element} {items : List Item}

theorem someElements?_skips (skips : Skips element?) (close : Char) (fuel : Nat) :
    Skips (someElements? element? close fuel) := by
  intro text
  cases fuel with
  | zero => rfl
  | succ left => rw [someElements?, someElements?, skips]

/-- Elements that are read back one by one are read back between commas. -/
theorem someElements?_reads
    (skips : Skips element?)
    (isClose : close = ']' ∨ close = '\x7d')
    (each : ∀ item ∈ items, Reads element? (write item) (value item))
    (nonempty : items ≠ [])
    {fuel : Nat}
    (enough : items.length ≤ fuel)
    (rest : List Char) :
    someElements? element? close fuel
        (List.intercalate [',', ' '] (items.map write) ++ close :: rest) =
      some (items.map value, rest) := by
  have closeEnds : Ends (close :: rest) :=
    ends_of_mark (by rcases isClose with rfl | rfl <;> decide) rest
  have notClosed (text : List Char) : behind? close (',' :: text) = none := by
    rcases isClose with rfl | rfl <;> rfl
  induction items generalizing fuel with
  | nil => exact absurd rfl nonempty
  | cons item others inductionHypothesis =>
    cases fuel with
    | zero => exact absurd enough (Nat.not_succ_le_zero _)
    | succ left =>
      have first := each item List.mem_cons_self
      cases others with
      | nil =>
        rw [List.map_singleton, List.intercalate_singleton, someElements?, first.reads _ closeEnds]
        simp [behind?_close isClose]
      | cons next further =>
        have readRest := inductionHypothesis
          (fun other member => each other (List.mem_cons_of_mem item member))
          (List.cons_ne_nil next further) (Nat.le_of_succ_le_succ enough)
        -- Behind the comma stands a blank, which the reader of the next element skips.
        have front : List.intercalate [',', ' '] ((item :: next :: further).map write) ++
            close :: rest =
              write item ++ ',' :: ' ' ::
                (List.intercalate [',', ' '] ((next :: further).map write) ++ close :: rest) := by
          simp [List.intercalate_cons_cons]
        have behindComma (text : List Char) : behind? ',' (',' :: text) = some text := rfl
        rw [front, someElements?, first.reads _ (ends_of_mark (by decide) _)]
        simp only [Option.bind_eq_bind, Option.bind_some, notClosed, behindComma,
          someElements?_skips skips close left _, readRest, Option.map_some]
        rfl

/-- A list of elements that are read back is read back, also if it is empty. -/
theorem elements?_reads
    (skips : Skips element?)
    (isClose : close = ']' ∨ close = '\x7d')
    (each : ∀ item ∈ items, Reads element? (write item) (value item))
    {fuel : Nat}
    (enough : items.length ≤ fuel)
    (rest : List Char) :
    elements? element? close fuel
        (List.intercalate [',', ' '] (items.map write) ++ close :: rest) =
      some (items.map value, rest) := by
  cases items with
  | nil =>
    rw [elements?, List.map_nil, List.intercalate_nil, List.nil_append, behind?_close isClose]
    rfl
  | cons item others =>
    obtain ⟨first, letters, spelled, notBlank, notBracket, notBrace⟩ :=
      (each item List.mem_cons_self).begins
    have notClose : first ≠ close := by
      rcases isClose with rfl | rfl
      · exact notBracket
      · exact notBrace
    have opened : ∃ text,
        List.intercalate [',', ' '] ((item :: others).map write) ++ close :: rest =
          first :: text := by
      cases others <;> simp [List.intercalate_cons_cons, spelled]
    obtain ⟨text, shape⟩ := opened
    have notClosed : behind? close (first :: text) = none := by
      rw [behind?_cons notBlank, if_neg notClose]
    rw [elements?, ← someElements?_reads skips isClose each (List.cons_ne_nil _ _) enough, shape,
      notClosed]

end Elements

/-! ## How much fuel elements take -/

theorem length_le_intercalate
    {Letter : Type}
    (separator : List Letter)
    {piece : List Letter}
    {pieces : List (List Letter)}
    (member : piece ∈ pieces) :
    piece.length ≤ (separator.intercalate pieces).length := by
  induction pieces with
  | nil => exact absurd member List.not_mem_nil
  | cons first others inductionHypothesis =>
    cases others with
    | nil =>
      obtain rfl := List.mem_singleton.mp member
      exact Nat.le_of_eq (congrArg List.length List.intercalate_singleton.symm)
    | cons next further =>
      rw [List.intercalate_cons_cons, List.length_append, List.length_append]
      rcases List.mem_cons.mp member with rfl | later
      · omega
      · have inRest := inductionHypothesis later
        omega

theorem length_le_length_intercalate
    {Letter : Type}
    {separator : List Letter}
    (nonempty : separator ≠ [])
    (pieces : List (List Letter)) :
    pieces.length ≤ (separator.intercalate pieces).length + 1 := by
  have positive : 0 < separator.length := List.length_pos_iff.mpr nonempty
  induction pieces with
  | nil => exact Nat.zero_le _
  | cons first others inductionHypothesis =>
    cases others with
    | nil => simp
    | cons next further =>
      rw [List.intercalate_cons_cons, List.length_append, List.length_append, List.length_cons]
      omega

/-! ## Values -/

theorem value?_skips (fuel : Nat) : Skips (value? fuel) := by
  intro text
  cases fuel with
  | zero => rfl
  | succ left => rfl

/-- What a bare value begins with. -/
def LeadsBare (first : Char) : Prop :=
  isBlank first = false ∧ first ∉ ['"', '[', '\x7b', ']', '\x7d']

instance (first : Char) : Decidable (LeadsBare first) :=
  inferInstanceAs (Decidable (_ ∧ _))

theorem reads_bare
    {written : List Char}
    {value : Datum}
    (bare : ∃ first others, written = first :: others ∧ LeadsBare first)
    (read : ∀ {rest}, Ends rest → bare? (written ++ rest) = some (value, rest))
    (fuel : Nat) :
    Reads (value? (fuel + 1)) written value := by
  obtain ⟨first, others, rfl, notBlank, noMark⟩ := bare
  simp only [List.mem_cons, List.not_mem_nil, or_false, not_or] at noMark
  refine ⟨⟨first, others, rfl, notBlank, noMark.2.2.2.1, noMark.2.2.2.2⟩, fun rest ends => ?_⟩
  have bare := read ends
  rw [List.cons_append] at bare ⊢
  simp only [value?, behind?_cons notBlank, if_neg noMark.1, if_neg noMark.2.1,
    if_neg noMark.2.2.1, bare]

theorem reads_null (fuel : Nat) : Reads (value? (fuel + 1)) ['n', 'u', 'l', 'l'] .null :=
  reads_bare ⟨'n', _, rfl, by decide⟩ (fun _ => by simp [bare?, behindWord?, isBlank]) fuel

theorem reads_true (fuel : Nat) : Reads (value? (fuel + 1)) ['t', 'r', 'u', 'e'] (.bool true) :=
  reads_bare ⟨'t', _, rfl, by decide⟩ (fun _ => by simp [bare?, behindWord?, isBlank]) fuel

theorem reads_false (fuel : Nat) :
    Reads (value? (fuel + 1)) ['f', 'a', 'l', 's', 'e'] (.bool false) :=
  reads_bare ⟨'f', _, rfl, by decide⟩ (fun _ => by simp [bare?, behindWord?, isBlank]) fuel

/-- A number is a bare value. -/
theorem reads_number
    {written : List Char}
    {value : Datum}
    (number : ∃ first others, written = first :: others ∧ LeadsNumber first)
    (read : ∀ {rest}, Ends rest → number? (written ++ rest) = some (value, rest))
    (fuel : Nat) :
    Reads (value? (fuel + 1)) written value := by
  obtain ⟨first, others, rfl, leads⟩ := number
  obtain ⟨notBlank, noMark⟩ := leads.ne
  simp only [List.mem_cons, List.not_mem_nil, or_false, not_or] at noMark
  refine reads_bare ⟨first, others, rfl, notBlank, by simp [noMark]⟩ (fun {rest} ends => ?_) fuel
  have noWord (word : String) (letter : Char) (letters : List Char)
      (spelled : word.toList = letter :: letters) (different : first ≠ letter) :
      behindWord? word (first :: others ++ rest) = none := by
    simp [behindWord?, notBlank, spelled, different.symm]
  rw [bare?, noWord "null" 'n' _ rfl (by simp [noMark]), noWord "true" 't' _ rfl (by simp [noMark]),
    noWord "false" 'f' _ rfl (by simp [noMark])]
  exact read ends

theorem reads_quote
    (text : String)
    {fuel : Nat}
    (enough : (quote text).toList.length ≤ fuel + 1) :
    Reads (value? (fuel + 1)) (quote text).toList (.text text) where
  begins := ⟨'"', _, toList_quote text, by decide, by decide, by decide⟩
  reads := fun rest _ => by
    rw [toList_quote, List.length_cons, List.length_append, List.length_singleton] at enough
    have behindMark (others : List Char) : behind? '"' ('"' :: others) = some others := rfl
    rw [toList_quote, List.cons_append, List.append_assoc, List.singleton_append, value?,
      behindMark]
    simp only [string?_quoted text (Nat.lt_of_succ_le (Nat.le_of_succ_le_succ enough)),
      Option.map_some]

def memberText (member : String × Datum) : List Char :=
  (quote member.1 ++ ": " ++ member.2.json).toList

theorem length_memberText (member : String × Datum) :
    (memberText member).length =
      (quote member.1).toList.length + 2 + member.2.json.toList.length := by
  simp [memberText, String.toList_append]
  omega

theorem reads_member
    {name : String}
    {datum value : Datum}
    {fuel : Nat}
    (enough : (quote name).toList.length ≤ fuel)
    (read : Reads (value? fuel) datum.json.toList value) :
    Reads (member? (value? fuel) fuel) (memberText (name, datum)) (name, value) := by
  have spelled : memberText (name, datum) =
      '"' :: (name.toList.flatMap escape ++ '"' :: ':' :: ' ' :: datum.json.toList) := by
    simp [memberText, String.toList_append, toList_quote]
  refine ⟨⟨'"', _, spelled, by decide, by decide, by decide⟩, fun rest ends => ?_⟩
  rw [toList_quote, List.length_cons, List.length_append, List.length_singleton] at enough
  have behindMark (others : List Char) : behind? '"' ('"' :: others) = some others := rfl
  have behindColon (others : List Char) : behind? ':' (':' :: others) = some others := rfl
  have nameRead (rest : List Char) : string? fuel (name.toList.flatMap escape ++ '"' :: rest) =
      some (name, rest) := string?_quoted name (by omega) rest
  have valueRead : value? fuel (' ' :: (datum.json.toList ++ rest)) =
      some (value, rest) := by
    rw [value?_skips fuel _, read.reads rest ends]
  rw [spelled]
  simp [member?, behindMark, behindColon, nameRead, valueRead]

theorem member?_skips (fuel : Nat) : Skips (member? (value? fuel) fuel) :=
  fun _ => rfl

section Brackets

variable {Item : Type} {items : List Item} {write : Item → List Char} {fuel : Nat}

theorem reads_array
    {value : Item → Datum}
    (each : ∀ item ∈ items, Reads (value? fuel) (write item) (value item))
    (enough : items.length ≤ fuel) :
    Reads (value? (fuel + 1))
      ('[' :: (List.intercalate [',', ' '] (items.map write) ++ [']']))
      (.list (items.map value)) where
  begins := ⟨'[', _, rfl, by decide, by decide, by decide⟩
  reads := fun rest _ => by
    have noString (text : List Char) : behind? '"' ('[' :: text) = none := rfl
    have behindBracket (text : List Char) : behind? '[' ('[' :: text) = some text := rfl
    have read := elements?_reads (value?_skips fuel) (.inl rfl) each enough rest
    rw [List.cons_append, List.append_assoc, List.singleton_append, value?, noString, behindBracket]
    simp only [read, Option.map_some]

theorem reads_object
    {value : Item → String × Datum}
    (each : ∀ item ∈ items, Reads (member? (value? fuel) fuel) (write item) (value item))
    (enough : items.length ≤ fuel) :
    Reads (value? (fuel + 1))
      ('\x7b' :: (List.intercalate [',', ' '] (items.map write) ++ ['\x7d']))
      (objectOf (items.map value)) where
  begins := ⟨'\x7b', _, rfl, by decide, by decide, by decide⟩
  reads := fun rest _ => by
    have noString (text : List Char) : behind? '"' ('\x7b' :: text) = none := rfl
    have noList (text : List Char) : behind? '[' ('\x7b' :: text) = none := rfl
    have behindBrace (text : List Char) : behind? '\x7b' ('\x7b' :: text) = some text := rfl
    have read := elements?_reads (member?_skips fuel) (.inr rfl) each enough rest
    rw [List.cons_append, List.append_assoc, List.singleton_append, value?, noString, noList,
      behindBrace]
    simp only [read, Option.map_some]

end Brackets

end Json

namespace Datum

open Json (Reads quote memberText)

theorem jsonItems_eq_map (items : List Datum) : jsonItems items = items.map json := by
  induction items with
  | nil => rfl
  | cons item rest inductionHypothesis => rw [jsonItems, inductionHypothesis, List.map_cons]

theorem jsonMembers_rename (members : Fields String Datum) :
    jsonMembers (members.rename .text) =
      members.map fun member => (member.1, json member.2) := by
  unfold Fields.rename
  induction members with
  | nil => rfl
  | cons member rest inductionHypothesis =>
    rw [List.map_cons, List.map_cons, jsonMembers, inductionHypothesis]
    rfl

theorem toList_json_list (items : List Datum) :
    (json (.list items)).toList =
      '[' :: (List.intercalate [',', ' '] (items.map fun item => (json item).toList) ++
        [']']) := by
  rw [json, Json.array, jsonItems_eq_map]
  simp [String.toList_append, String.toList_intercalate, Function.comp_def]

theorem toList_json_dict (members : Fields String Datum) :
    (json (.dict (members.rename .text))).toList =
      '\x7b' :: (List.intercalate [',', ' '] (members.map memberText) ++ ['\x7d']) := by
  have texts : memberText = fun member => (quote member.1 ++ ": " ++ json member.2).toList := rfl
  rw [json, jsonMembers_rename, Json.object, texts]
  simp [String.toList_append, String.toList_intercalate, Function.comp_def]

/-- Some character is written for every value of JSON, so there is fuel where there is as much as
that. -/
theorem exists_fuel
    {value : Datum}
    (isJson : IsJson value)
    {fuel : Nat}
    (enough : (json value).toList.length ≤ fuel) :
    ∃ left, fuel = left + 1 := by
  have positive : 0 < (json value).toList.length := by
    cases isJson with
    | null =>
      rw [json]
      decide
    | bool value => cases value <;> (rw [json]; decide)
    | int value =>
      obtain ⟨first, others, spelled, -⟩ := Json.int_eq_cons value
      rw [json, spelled]
      exact Nat.succ_pos _
    | real value =>
      obtain ⟨first, others, spelled, -⟩ := Json.real_eq_cons value
      rw [json, spelled]
      exact Nat.succ_pos _
    | text value =>
      rw [json, Json.toList_quote]
      exact Nat.succ_pos _
    | list each =>
      rw [toList_json_list]
      exact Nat.succ_pos _
    | dict distinct each =>
      rw [toList_json_dict]
      exact Nat.succ_pos _
  exact ⟨fuel - 1, by omega⟩

/-- A value of JSON is read back from its text. -/
theorem reads_json
    {value : Datum}
    (isJson : IsJson value)
    {fuel : Nat}
    (enough : (json value).toList.length ≤ fuel) :
    Reads (Json.value? fuel) (json value).toList value := by
  obtain ⟨left, rfl⟩ := exists_fuel isJson enough
  -- The elements of a list or an object are read with the fuel that is left, which their brackets
  -- leave room for.
  induction isJson generalizing left with
  | null => simpa [json] using Json.reads_null left
  | bool value =>
    cases value with
    | false => simpa [json] using Json.reads_false left
    | true => simpa [json] using Json.reads_true left
  | int value => exact Json.reads_number (Json.int_eq_cons value) (Json.number?_int value) left
  | real value => exact Json.reads_number (Json.real_eq_cons value) (Json.number?_real value) left
  | text value => exact Json.reads_quote value enough
  | @list items each inductionHypothesis =>
    rw [toList_json_list] at enough ⊢
    simp only [List.length_cons, List.length_append, List.length_nil] at enough
    have read : Reads (Json.value? (left + 1))
        ('[' :: (List.intercalate [',', ' '] (items.map fun item => (json item).toList) ++ [']']))
        (.list (items.map fun item => item)) := by
      refine Json.reads_array (fun item member => ?_) ?_
      · have inList := Json.length_le_intercalate [',', ' ']
          (List.mem_map_of_mem (f := fun item => (json item).toList) member)
        have enoughForItem : (json item).toList.length ≤ left := by omega
        obtain ⟨further, rfl⟩ := exists_fuel (each item member) enoughForItem
        exact inductionHypothesis item member further enoughForItem
      · have count := Json.length_le_length_intercalate (List.cons_ne_nil ',' [' '])
          (items.map fun item => (json item).toList)
        rw [List.length_map] at count
        omega
    rwa [List.map_id'] at read
  | @dict members distinct each inductionHypothesis =>
    rw [toList_json_dict] at enough ⊢
    simp only [List.length_cons, List.length_append, List.length_nil] at enough
    have object : Datum.dict (members.rename .text) =
        Json.objectOf (members.map fun member => member) := by
      rw [List.map_id', Json.objectOf, Fields.ofPairs_of_distinct distinct]
      rfl
    rw [object]
    refine Json.reads_object (fun member inMembers => ?_) ?_
    · have inObject := Json.length_le_intercalate [',', ' ']
        (List.mem_map_of_mem (f := memberText) inMembers)
      have lengths := Json.length_memberText member
      have enoughForValue : (json member.2).toList.length ≤ left := by omega
      obtain ⟨further, rfl⟩ := exists_fuel (each member inMembers) enoughForValue
      exact Json.reads_member (by omega)
        (inductionHypothesis member inMembers further enoughForValue)
    · have count := Json.length_le_length_intercalate (List.cons_ne_nil ',' [' '])
        (members.map memberText)
      rw [List.length_map] at count
      omega

theorem read?_json {value : Datum} (isJson : IsJson value) :
    Json.read? (json value) = some value := by
  have read := (reads_json isJson (Nat.le_of_eq rfl)).reads [] (by rintro _ ⟨⟩)
  rw [List.append_nil] at read
  rw [Json.read?, ← String.length_toList, read]
  rfl

/-- Texts that are not written here are read as well: blanks and escapes may vary. -/
example :
    Json.read? "[ -50,\"\\u00E9\\ud83d\\uDE00\\/\" ] " =
      some (.list [.int (-50), .text "é😀/"]) :=
  rfl

/-! ## One line -/

theorem isPlain_intercalate
    {pieces : List (List Char)}
    (each : ∀ piece ∈ pieces, Json.IsPlain piece) :
    Json.IsPlain (List.intercalate [',', ' '] pieces) := by
  have separator : Json.IsPlain [',', ' '] := by decide
  induction pieces with
  | nil => exact List.forall_mem_nil _
  | cons piece others inductionHypothesis =>
    have plain := each piece List.mem_cons_self
    cases others with
    | nil => rwa [List.intercalate_singleton]
    | cons next further =>
      rw [List.intercalate_cons_cons]
      exact (plain.append separator).append
        (inductionHypothesis fun other member => each other (List.mem_cons_of_mem piece member))

/-- The text of a value of JSON is printable ASCII. -/
theorem isPlain_json {value : Datum} (isJson : IsJson value) :
    Json.IsPlain (json value).toList := by
  induction isJson with
  | null =>
    rw [json]
    decide
  | bool value => cases value <;> (rw [json]; decide)
  | int value => exact Json.isPlain_int value
  | real value => exact Json.isPlain_real value
  | text value => exact Json.isPlain_quote value
  | @list items each inductionHypothesis =>
    have bracket : Json.IsPlain ['['] ∧ Json.IsPlain [']'] := by decide
    rw [toList_json_list]
    refine bracket.1.append (.append (isPlain_intercalate fun piece member => ?_) bracket.2)
    obtain ⟨item, inItems, rfl⟩ := List.mem_map.mp member
    exact inductionHypothesis item inItems
  | @dict members distinct each inductionHypothesis =>
    have brace : Json.IsPlain ['\x7b'] ∧ Json.IsPlain ['\x7d'] := by decide
    have colon : Json.IsPlain ": ".toList := by decide
    rw [toList_json_dict]
    refine brace.1.append (.append (isPlain_intercalate fun piece member => ?_) brace.2)
    obtain ⟨item, inMembers, rfl⟩ := List.mem_map.mp member
    rw [memberText, String.toList_append, String.toList_append]
    exact ((Json.isPlain_quote item.1).append colon).append (inductionHypothesis item inMembers)

end Datum

end Attachments
