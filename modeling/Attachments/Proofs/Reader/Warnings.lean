import Attachments.Proofs.Json.Numbers
import Attachments.Proofs.Reader.Run
import Attachments.Proofs.Text.Quoted
import Mathlib.Data.List.Forall2

/-!
Contract: what the warnings of a reader tell, whatever the refused values hold.

Owns:
- the two refusals that reading can meet, and what a warning says of each;
- that a warning is printable throughout;
- that the text of a warning tells the position, the value and the refusal;
- the warnings of a batch: one for each record, in their order, and no others.

Does not own: the other entries of a journal, which show texts as they stand.
-/

namespace Attachments

open Text (AllPrintable allPrintable_of_isPlain isControl isPrintable quote)

namespace Reader

/-! ## Refusals -/

/-- A value that reading refuses, and its refusal. -/
inductive Refusal : Datum → Rejection → Prop where
  | missing : Refusal .null .missingInput
  | malformed (text : String) : Refusal (.text text) (.malformed (.text text) .standard)

theorem refusal_of_decode
    {allowLegacy : Bool}
    {value : Datum}
    {rejection : Rejection}
    (readable : value.isReadable = true)
    (refused : Identifier.decode allowLegacy value = .error (.rejected rejection)) :
    Refusal value rejection := by
  cases value with
  | null =>
    obtain rfl : .missingInput = rejection := Failure.rejected.inj (Except.error.inj refused)
    exact .missing
  | text text =>
    rcases Identifier.decode_text_cases allowLegacy text with ⟨identifier, decoded⟩ | malformed
    · exact absurd (decoded.symm.trans refused) (by simp)
    · rw [Identifier.malformed_text] at malformed
      obtain rfl : .malformed (.text text) .standard = rejection :=
        Failure.rejected.inj (Except.error.inj (malformed.symm.trans refused))
      exact .malformed text
  | _ => contradiction

/-! ## What a warning says -/

/-- What a warning says behind the position: the code and the message. -/
def complaint (rejection : Rejection) : String :=
  " (" ++ rejection.problemClass.code ++ "): " ++ rejection.message

theorem toList_rejectionEntry (index : Nat) (rejection : Rejection) :
    (rejectionEntry index rejection).text.toList =
      "Rejected attachment id at index ".toList ++
        (Nat.toDigits 10 index ++ (complaint rejection).toList) := by
  have spelled : (rejectionEntry index rejection).text =
      "Rejected attachment id at index " ++ toString index ++ " (" ++
        rejection.problemClass.code ++ "): " ++ rejection.message :=
    rfl
  rw [spelled, complaint]
  simp only [String.toList_append, List.append_assoc, Nat.toString_eq_repr, Nat.toList_repr]

/-- What is said of a malformed text in front of its quoted form. -/
def beforeQuoted : String :=
  " (MALFORMED_IDENTIFIER): Validation failed for 'attachment_id': " ++
    "Unable to deserialise the attachment id "

/-- What is said of a malformed text behind its quoted form. -/
def behindQuoted : String :=
  ". The attachment id needs to look like <domain>/<id> or <id>"

theorem complaint_malformed (text : String) :
    complaint (.malformed (.text text) .standard) =
      beforeQuoted ++ quote text ++ behindQuoted := by
  have before : beforeQuoted =
      " (" ++ "MALFORMED_IDENTIFIER" ++ "): " ++ ("Validation failed for '" ++ "attachment_id" ++
        "': " ++ "Unable to deserialise the attachment id ") := by
    decide
  have behind : behindQuoted =
      ". " ++ ("The attachment id needs to look like " ++ Hint.standard.joined) := by
    decide
  have spelled : complaint (.malformed (.text text) .standard) =
      " (" ++ "MALFORMED_IDENTIFIER" ++ "): " ++ ("Validation failed for '" ++ "attachment_id" ++
        "': " ++ ("Unable to deserialise the attachment id " ++ quote text ++ ". " ++
          ("The attachment id needs to look like " ++ Hint.standard.joined))) :=
    rfl
  rw [spelled, before, behind]
  simp only [String.append_assoc]

/-! ## Warnings are printable -/

theorem allPrintable_complaint
    {value : Datum}
    {rejection : Rejection}
    (refusal : Refusal value rejection) :
    AllPrintable (complaint rejection).toList := by
  cases refusal with
  | missing => exact allPrintable_of_isPlain (by decide)
  | malformed text =>
    have before : AllPrintable beforeQuoted.toList := allPrintable_of_isPlain (by decide)
    have behind : AllPrintable behindQuoted.toList := allPrintable_of_isPlain (by decide)
    rw [complaint_malformed, String.toList_append, String.toList_append]
    exact (before.append (Text.allPrintable_quote text)).append behind

theorem allPrintable_rejectionEntry
    (index : Nat)
    {value : Datum}
    {rejection : Rejection}
    (refusal : Refusal value rejection) :
    AllPrintable (rejectionEntry index rejection).text.toList := by
  have front : AllPrintable "Rejected attachment id at index ".toList :=
    allPrintable_of_isPlain (by decide)
  have digits : AllPrintable (Nat.toDigits 10 index) :=
    allPrintable_of_isPlain (Json.isPlain_of_isDigit fun _ member => Numeral.isDigit_of_mem member)
  rw [toList_rejectionEntry]
  exact front.append (digits.append (allPrintable_complaint refusal))

/-! ## Warnings tell the position and the value -/

/-- The codes tell the two refusals apart. -/
theorem complaint_missing_ne (text : String) :
    complaint .missingInput ≠ complaint (.malformed (.text text) .standard) := by
  intro same
  have codes : (complaint .missingInput).toList.take 4 ≠ beforeQuoted.toList.take 4 := by decide
  apply codes
  rw [same, complaint_malformed, String.append_assoc, String.toList_append]
  exact List.take_append_of_le_length (by decide)

/-- What a warning says behind the position tells the value and its refusal. Both texts around a
quoted form are fixed, and the quoted form tells the text. -/
theorem complaint_inj
    {value other : Datum}
    {rejection otherRejection : Rejection}
    (refusal : Refusal value rejection)
    (otherRefusal : Refusal other otherRejection)
    (same : complaint rejection = complaint otherRejection) :
    value = other ∧ rejection = otherRejection := by
  cases refusal with
  | missing =>
    cases otherRefusal with
    | missing => exact ⟨rfl, rfl⟩
    | malformed text => exact absurd same (complaint_missing_ne text)
  | malformed text =>
    cases otherRefusal with
    | missing => exact absurd same.symm (complaint_missing_ne text)
    | malformed otherText =>
      have sameQuoted : (quote text).toList ++ behindQuoted.toList =
          (quote otherText).toList ++ behindQuoted.toList := by
        rw [complaint_malformed, complaint_malformed, ← String.toList_inj] at same
        simp only [String.toList_append, List.append_assoc] at same
        exact List.append_cancel_left same
      obtain ⟨rfl, -⟩ := Text.quote_append_inj sameQuoted
      exact ⟨rfl, rfl⟩

/-- The digits of the position end where the complaint begins. -/
theorem rejectionEntry_inj
    {index otherIndex : Nat}
    {rejection otherRejection : Rejection}
    (same : (rejectionEntry index rejection).text =
      (rejectionEntry otherIndex otherRejection).text) :
    index = otherIndex ∧ complaint rejection = complaint otherRejection := by
  have ends (rejection : Rejection) (character : Char)
      (first : (complaint rejection).toList.head? = some character) :
      character.isDigit = false := by
    have begins : (complaint rejection).toList.head? = some ' ' := by
      simp only [complaint, String.toList_append, List.append_assoc]
      rfl
    obtain rfl := Option.some.inj (begins.symm.trans first)
    decide
  rw [← String.toList_inj, toList_rejectionEntry, toList_rejectionEntry] at same
  have read (index : Nat) (rejection : Rejection) :
      Json.digits? (Nat.toDigits 10 index ++ (complaint rejection).toList) =
        some (Nat.toDigits 10 index, (complaint rejection).toList) :=
    Json.digits?_append (fun _ member => Numeral.isDigit_of_mem member) Nat.toDigits_ne_nil
      (ends rejection)
  have both := read index rejection
  rw [List.append_cancel_left same, read otherIndex otherRejection] at both
  obtain ⟨sameDigits, sameRest⟩ := Prod.mk.inj (Option.some.inj both)
  have sameIndex := congrArg (fun digits => Nat.ofDigitChars 10 digits 0) sameDigits
  simp only [Nat.ofDigitChars_ten_toDigits] at sameIndex
  exact ⟨sameIndex.symm, (String.toList_injective sameRest).symm⟩

/-! ## The warnings of a batch -/

/-- A record of a refused value of a list, and the warning that the refusal calls for. -/
inductive Warned (allowLegacy : Bool) (values : List Datum) : RejectedValue → Entry → Prop where
  | refused
      {index : Nat} {value : Datum} {rejection : Rejection}
      (stands : values[index]? = some value)
      (refused : Identifier.decode allowLegacy value = .error (.rejected rejection)) :
      Warned allowLegacy values ⟨.int index, value, .rejected rejection⟩
        ⟨.warning, "Rejected attachment id at index " ++ toString index ++ " (" ++
          rejection.problemClass.code ++ "): " ++ rejection.message⟩

def warnings (journal : Journal) : Journal :=
  journal.filter fun entry => entry.level = .warning

theorem mem_warnings
    {journal : Journal}
    {entry : Entry}
    (member : entry ∈ journal)
    (isWarning : entry.level = .warning) :
    entry ∈ warnings journal :=
  List.mem_filter.mpr ⟨member, decide_eq_true isWarning⟩

theorem warnings_append (journal other : Journal) :
    warnings (journal ++ other) = warnings journal ++ warnings other :=
  List.filter_append ..

/-- Every record of a list has its warning, in the same order, and there are no other warnings. -/
theorem forall₂_warned_entriesFrom
    (reader : Reader)
    (front : List Datum)
    {values : List Datum}
    (readable : ∀ value ∈ values, value.isReadable = true) :
    List.Forall₂ (Warned reader.readsLegacy (front ++ values))
      (reader.rejectedFrom front.length values)
      (warnings (reader.entriesFrom front.length values)) := by
  induction values generalizing front with
  | nil => exact .nil
  | cons value values inductionHypothesis =>
    have stands : (front ++ value :: values)[front.length]? = some value := by simp
    have later := inductionHypothesis (front ++ [value]) fun other member =>
      readable other (by simp [member])
    rw [List.append_assoc, List.singleton_append, List.length_append,
      List.length_singleton] at later
    rw [rejectedFrom_cons, entriesFrom_cons, warnings_append]
    rcases Identifier.decode_of_isReadable reader.readsLegacy (readable value (by simp)) with
      ⟨identifier, decoded⟩ | ⟨rejection, refused⟩
    · have silent : warnings (reader.entries front.length value) = [] := by
        simp only [entries, decoded]
        split <;> rfl
      have kept : reader.rejected? front.length value = none := by
        simp only [rejected?, decoded]
      rw [silent, kept]
      exact later
    · have warned : warnings (reader.entries front.length value) =
          [rejectionEntry front.length rejection] := by
        simp only [entries, refused]
        rfl
      have rejected : reader.rejected? front.length value =
          some ⟨.int front.length, value, .rejected rejection⟩ := by
        simp only [rejected?, refused]
      rw [warned, rejected]
      exact .cons (.refused stands refused) later

theorem exists_warned_of_mem
    {allowLegacy : Bool}
    {values : List Datum}
    {records : List RejectedValue}
    {entries : Journal}
    (related : List.Forall₂ (Warned allowLegacy values) records entries)
    {entry : Entry}
    (member : entry ∈ entries) :
    ∃ record, Warned allowLegacy values record entry := by
  induction related with
  | nil => exact absurd member List.not_mem_nil
  | @cons record first _ _ warned _ inductionHypothesis =>
    rcases List.mem_cons.mp member with rfl | later
    · exact ⟨record, warned⟩
    · exact inductionHypothesis later

theorem Warned.allPrintable
    {allowLegacy : Bool}
    {values : List Datum}
    (readable : ∀ value ∈ values, value.isReadable = true)
    {record : RejectedValue}
    {entry : Entry}
    (warned : Warned allowLegacy values record entry) :
    AllPrintable entry.text.toList := by
  obtain ⟨stands, refused⟩ := warned
  have isReadable := readable _ (List.mem_of_getElem? stands)
  exact allPrintable_rejectionEntry _ (refusal_of_decode isReadable refused)

theorem Warned.record_eq
    {allowLegacy otherAllowLegacy : Bool}
    {values otherValues : List Datum}
    (readable : ∀ value ∈ values, value.isReadable = true)
    (otherReadable : ∀ value ∈ otherValues, value.isReadable = true)
    {record other : RejectedValue}
    {entry otherEntry : Entry}
    (warned : Warned allowLegacy values record entry)
    (otherWarned : Warned otherAllowLegacy otherValues other otherEntry)
    (same : entry.text = otherEntry.text) :
    record = other := by
  obtain ⟨stands, refused⟩ := warned
  obtain ⟨otherStands, otherRefused⟩ := otherWarned
  have refusal := refusal_of_decode (readable _ (List.mem_of_getElem? stands)) refused
  have otherRefusal :=
    refusal_of_decode (otherReadable _ (List.mem_of_getElem? otherStands)) otherRefused
  obtain ⟨rfl, sameComplaint⟩ := rejectionEntry_inj same
  obtain ⟨rfl, rfl⟩ := complaint_inj refusal otherRefusal sameComplaint
  rfl

/-- The warnings of a batch of texts and nulls are those of its records, in the same order. Under
every policy each warning is printable throughout, so that it stays on one line and controls
nothing, whatever the refused text holds. Its text tells the record: two warnings that read alike,
be they from one batch or from two such batches under different policies, have the same position,
the same value and the same refusal. -/
theorem readMany_warnings
    (policy : Datum)
    (values : List Datum)
    (readable : ∀ value ∈ values, value.isReadable = true) :
    ∃ batch journal,
      (Reader.mk policy).readMany (.list values) = (.ok batch, journal) ∧
      List.Forall₂ (Warned policy.truthy values) batch.rejected (warnings journal) ∧
      (∀ entry ∈ journal, entry.level = .warning → ∀ character ∈ entry.text.toList,
        isPrintable character = true ∧ isControl character = false) ∧
      ∀ (otherPolicy : Datum) (otherValues : List Datum) (record other : RejectedValue)
        (entry otherEntry : Entry),
        (∀ value ∈ otherValues, value.isReadable = true) →
        Warned policy.truthy values record entry →
        Warned otherPolicy.truthy otherValues other otherEntry →
        entry.text = otherEntry.text → record = other := by
  have related := forall₂_warned_entriesFrom (Reader.mk policy) [] readable
  have summary (batch : Batch) :
      warnings (if batch.ok then [] else [summaryEntry batch]) = [] := by
    split <;> rfl
  refine ⟨_, _, readMany_of_survive (Reader.mk policy) (survives_of_isReadable _ readable), ?_, ?_,
    ?_⟩
  · rw [warnings_append, summary, List.append_nil]
    exact related
  · intro entry member isWarning character inText
    have inWarnings := mem_warnings member isWarning
    rw [warnings_append, summary, List.append_nil] at inWarnings
    obtain ⟨record, warned⟩ := exists_warned_of_mem related inWarnings
    have printable := warned.allPrintable readable character inText
    exact ⟨printable, Text.isControl_eq_false_of_isPrintable printable⟩
  · intro otherPolicy otherValues record other entry otherEntry otherReadable warned otherWarned
      same
    exact warned.record_eq readable otherReadable otherWarned same

/-- A text that goes on behind a line break like a warning of its own, and null at two positions.
There are three warnings, each on one line, and those of the two nulls differ. -/
theorem readMany_warnings_forged :
    let values : List Datum :=
      [.null, .text "a//b\nRejected attachment id at index 0 (MISSING_INPUT): ", .null]
    (∀ value ∈ values, value.isReadable = true) ∧
      (rejectionEntry 0 .missingInput).text ≠ (rejectionEntry 2 .missingInput).text ∧
      ∃ batch journal,
        (Reader.mk (.bool false)).readMany (.list values) = (.ok batch, journal) ∧
        (warnings journal).length = 3 ∧
        ∀ entry ∈ journal, entry.level = .warning → '\n' ∉ entry.text.toList := by
  intro values
  have readable : ∀ value ∈ values, value.isReadable = true := by decide
  obtain ⟨batch, journal, returned, related, printable, tells⟩ :=
    readMany_warnings (.bool false) values readable
  have firstWarned : Warned false values ⟨.int 0, .null, .rejected .missingInput⟩
      (rejectionEntry 0 .missingInput) :=
    .refused rfl rfl
  have lastWarned : Warned false values ⟨.int 2, .null, .rejected .missingInput⟩
      (rejectionEntry 2 .missingInput) :=
    .refused rfl rfl
  have count : batch.rejected.length = 3 := by
    have evaluated : ((Reader.mk (.bool false)).readMany (.list values)).1.toOption.map
        (fun batch => batch.rejected.length) = some 3 := by
      rfl
    rw [returned] at evaluated
    exact Option.some.inj evaluated
  refine ⟨readable, ?_, batch, journal, returned, related.length_eq.symm.trans count, ?_⟩
  · intro same
    have sameRecord := tells (.bool false) values _ _ _ _ readable firstWarned lastWarned same
    simp at sameRecord
  · intro entry member isWarning lineBreak
    exact absurd (printable entry member isWarning '\n' lineBreak).2 (by decide)

end Reader

end Attachments
