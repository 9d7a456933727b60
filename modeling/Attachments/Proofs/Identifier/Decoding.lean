import Attachments.Datum.Bytes
import Attachments.Identifier.Decoding

/-!
Contract: which texts are read as identifiers, and what is reported for everything else.

Owns:
- the three shapes of a text: a token without separators, a pair around one, and texts with more;
- what comes of reading a text of each shape;
- the exact set of texts that are read, and the identifier that each of them names.

Does not own: the encoded forms that identifiers are given, and batches.
-/

namespace Attachments

/-- The component that holds nothing. -/
def Component.empty : Component :=
  ⟨"", by decide⟩

def paired (domain id : Component) : String :=
  domain.val ++ String.singleton separator ++ id.val

theorem toList_paired (domain id : Component) :
    (paired domain id).toList = domain.val.toList ++ separator :: id.val.toList := by
  simp [paired, String.toList_append]

theorem count_component (component : Component) :
    component.val.toList.count separator = 0 :=
  List.count_eq_zero.mpr component.property

theorem count_paired (domain id : Component) :
    (paired domain id).toList.count separator = 1 := by
  rw [toList_paired, List.count_append, List.count_cons_self, count_component, count_component]

theorem paired_ne_component (domain id token : Component) : paired domain id ≠ token.val := by
  intro same
  have counted := count_paired domain id
  rw [same, count_component] at counted
  contradiction

theorem pieces_paired (domain id : Component) :
    Text.pieces separator (paired domain id).toList = (domain.val.toList, [id.val.toList]) := by
  rw [toList_paired, Text.pieces_append_separator domain.property,
    Text.pieces_of_not_mem id.property]

/-- A pair is split at its separator in one way only. -/
theorem paired_inj {domain id otherDomain otherId : Component}
    (same : paired domain id = paired otherDomain otherId) :
    domain = otherDomain ∧ id = otherId := by
  have cut := pieces_paired domain id
  rw [same, pieces_paired] at cut
  obtain ⟨domains, ids⟩ := Prod.mk.inj cut
  refine ⟨Subtype.ext (String.toList_inj.mp domains.symm), Subtype.ext ?_⟩
  exact String.toList_inj.mp (List.cons.inj ids).1.symm

theorem separator_eq_paired : String.singleton separator = paired .empty .empty :=
  rfl

/-- Only a pair of empty components is the separator alone. -/
theorem paired_eq_separator_iff (domain id : Component) :
    paired domain id = String.singleton separator ↔ domain.val = "" ∧ id.val = "" := by
  constructor
  · intro same
    obtain ⟨rfl, rfl⟩ := paired_inj (same.trans separator_eq_paired)
    exact ⟨rfl, rfl⟩
  · rintro ⟨noDomain, noId⟩
    rw [paired, noDomain, noId]
    rfl

/-! ## Shapes of a text -/

/-- How often the separator stands in a text: never, once between two components, or more often. -/
inductive Shape : String → Prop where
  | token (id : Component) : Shape id.val
  | pair (domain id : Component) : Shape (paired domain id)
  | crowded {text : String} (many : 2 ≤ text.toList.count separator) : Shape text

/-- Every text has one of the three shapes. -/
theorem Shape.ofText (text : String) : Shape text := by
  have absent := Text.separator_not_mem_pieces separator text.toList
  have joined := Text.pieces_joined separator text.toList
  have counted := Text.length_pieces separator text.toList
  rcases cut : Text.pieces separator text.toList with ⟨first, others⟩
  rw [cut] at absent joined counted
  -- No piece holds the separator, so one piece is a component and two of them make a pair.
  match others with
  | [] => exact .token ⟨text, List.count_eq_zero.mp counted.symm⟩
  | [second] =>
    let domain : Component := ⟨String.ofList first, by simpa using absent.1⟩
    let id : Component := ⟨String.ofList second, by simpa using absent.2⟩
    have spelled : text = paired domain id := by
      apply String.toList_inj.mp
      rw [toList_paired, ← joined]
      simp [domain, id]
    rw [spelled]
    exact .pair domain id
  | _ :: _ :: _ =>
    apply Shape.crowded
    rw [← counted]
    simp

namespace Identifier

/-! ## Reading a text of each shape -/

/-- A text can be written, so that the refusal of a text is one. -/
theorem malformed_text (text : String) :
    malformed (.text text) = .rejected (.malformed (.text text) .standard) := by
  simp [malformed, Rejection.made, Rejection.writes, Datum.written, Datum.firstObstacle?]

/-- What is made of the parts can be changed before or after reading. -/
theorem decodeBy_map {Made Changed : Type}
    (make : Datum → Datum → Except Failure Made)
    (change : Made → Changed)
    (allowLegacy : Bool)
    (serialized : Datum) :
    decodeBy (fun domain id => (make domain id).map change) allowLegacy serialized =
      (decodeBy make allowLegacy serialized).map change := by
  have pieces (given : List Datum) :
      decodePieces (fun domain id => (make domain id).map change) allowLegacy serialized given =
        (decodePieces make allowLegacy serialized given).map change := by
    match given with
    | [] => rfl
    | [id] =>
      simp only [decodePieces]
      split <;> rfl
    | [domain, id] =>
      simp only [decodePieces]
      split <;> rfl
    | _ :: _ :: _ :: _ => rfl
  cases serialized with
  | null => rfl
  | _ =>
    simp only [decodeBy]
    split
    · exact pieces _
    · rfl

theorem decode_text (allowLegacy : Bool) (text : String) :
    decode allowLegacy (.text text) =
      decodePieces ofComponents allowLegacy (.text text)
        (((Text.pieces separator text.toList).1 :: (Text.pieces separator text.toList).2).map
          fun piece => .text (String.ofList piece)) :=
  rfl

/-- A token is the id of a legacy identifier, if it holds something and the policy allows it. -/
theorem decode_token (allowLegacy : Bool) (id : Component) :
    decode allowLegacy (.text id.val) =
      if id.val ≠ "" ∧ allowLegacy = true then .ok ⟨.empty, id⟩
      else .error (malformed (.text id.val)) := by
  have made := ofComponents_text .empty id
  rw [decode_text, Text.pieces_of_not_mem id.property]
  simp only [List.map_cons, List.map_nil, String.ofList_toList, decodePieces, Datum.truthy]
  rw [show ofComponents (.text "") (.text id.val) = .ok ⟨.empty, id⟩ from made]
  simp

/-- A pair is read under every policy, unless both of its components are empty. -/
theorem decode_pair (allowLegacy : Bool) (domain id : Component) :
    decode allowLegacy (.text (paired domain id)) =
      if domain.val = "" ∧ id.val = "" then .error (malformed (.text (paired domain id)))
      else .ok ⟨domain, id⟩ := by
  rw [decode_text, pieces_paired]
  simp only [List.map_cons, List.map_nil, String.ofList_toList, decodePieces, Datum.truthy,
    ofComponents_text]
  by_cases noDomain : domain.val = ""
  · by_cases noId : id.val = ""
    · simp [noDomain, noId]
    · simp [noDomain, noId]
  · simp [noDomain]

/-- A text with more than one separator is refused. -/
theorem decode_crowded
    (allowLegacy : Bool)
    {text : String}
    (many : 2 ≤ text.toList.count separator) :
    decode allowLegacy (.text text) = .error (malformed (.text text)) := by
  rw [← Text.length_pieces] at many
  rw [decode_text]
  rcases cut : Text.pieces separator text.toList with ⟨first, others⟩
  rw [cut] at many
  match others with
  | [] => simp at many
  | [_] => simp at many
  | _ :: _ :: _ => rfl

/-! ## The texts that are read -/

/-- A text is read, or it is refused as one that has no encoded form. -/
theorem decode_text_cases (allowLegacy : Bool) (text : String) :
    (∃ identifier, decode allowLegacy (.text text) = .ok identifier) ∨
      decode allowLegacy (.text text) = .error (malformed (.text text)) := by
  cases Shape.ofText text with
  | token id =>
    rw [decode_token]
    split
    · exact .inl ⟨_, rfl⟩
    · exact .inr rfl
  | pair domain id =>
    rw [decode_pair]
    split
    · exact .inr rfl
    · exact .inl ⟨_, rfl⟩
  | crowded many => exact .inr (decode_crowded allowLegacy many)

/-- The texts that name an identifier: its two components with the separator between them and, for
a legacy identifier under a policy that allows it, the id alone. The identifier with two empty
components is named by none. -/
theorem decode_eq_ok_iff (allowLegacy : Bool) (text : String) (identifier : Identifier) :
    decode allowLegacy (.text text) = .ok identifier ↔
      ¬ (identifier.domain.val = "" ∧ identifier.id.val = "") ∧
        (text = paired identifier.domain identifier.id ∨
          (allowLegacy = true ∧ identifier.domain.val = "" ∧ text = identifier.id.val)) := by
  obtain ⟨domain, id⟩ := identifier
  cases Shape.ofText text with
  | token token =>
    have notPaired : token.val ≠ paired domain id := (paired_ne_component domain id token).symm
    rw [decode_token]
    constructor
    · intro decoded
      split at decoded
      next granted =>
        cases decoded
        exact ⟨fun nothing => granted.1 nothing.2, .inr ⟨granted.2, rfl, rfl⟩⟩
      next => contradiction
    · rintro ⟨something, paired | ⟨allowed, noDomain, same⟩⟩
      · exact absurd paired notPaired
      · obtain rfl : token = id := Subtype.ext same
        obtain rfl : domain = .empty := Subtype.ext noDomain
        rw [if_pos ⟨fun noId => something ⟨rfl, noId⟩, allowed⟩]
  | pair first second =>
    have notToken : paired first second ≠ id.val := paired_ne_component first second id
    rw [decode_pair]
    constructor
    · intro decoded
      split at decoded
      next => contradiction
      next something =>
        cases decoded
        exact ⟨something, .inl rfl⟩
    · rintro ⟨something, same | ⟨-, -, same⟩⟩
      · obtain ⟨rfl, rfl⟩ := paired_inj same
        rw [if_neg something]
      · exact absurd same notToken
  | crowded many =>
    rw [decode_crowded allowLegacy many]
    constructor
    · intro decoded
      contradiction
    -- Both forms hold one separator at most, and this text holds more.
    · rintro ⟨-, rfl | ⟨-, -, rfl⟩⟩
      · rw [count_paired] at many
        contradiction
      · rw [count_component] at many
        contradiction

/-- A text with an encoded form holds something besides a separator, and at most one separator. -/
def HasForm (text : String) : Prop :=
  text ≠ "" ∧ text ≠ String.singleton separator ∧ text.toList.count separator ≤ 1

instance (text : String) : Decidable (HasForm text) := by
  unfold HasForm
  infer_instance

/-- Where legacy identifiers are allowed, the texts with an encoded form are read. -/
theorem decode_allowed_iff (text : String) :
    (∃ identifier, decode true (.text text) = .ok identifier) ↔ HasForm text := by
  unfold HasForm
  cases Shape.ofText text with
  | token id =>
    have notSeparator : id.val ≠ String.singleton separator :=
      (paired_ne_component .empty .empty id).symm
    rw [decode_token, count_component]
    by_cases nothing : id.val = ""
    · simp [nothing]
    · simp [nothing, notSeparator]
  | pair domain id =>
    have notEmpty : paired domain id ≠ "" := paired_ne_component domain id .empty
    rw [decode_pair, count_paired, ne_eq, ne_eq, paired_eq_separator_iff]
    by_cases nothing : domain.val = "" ∧ id.val = ""
    · simp [nothing]
    · simp [nothing, notEmpty]
  | crowded many =>
    rw [decode_crowded true many]
    simp only [reduceCtorEq, exists_false, false_iff]
    omega

/-- One separator stands between the components of the identifier, and without one the text is
the id of a legacy identifier. -/
theorem parts_of_decode
    {allowLegacy : Bool}
    {text : String}
    {identifier : Identifier}
    (decoded : decode allowLegacy (.text text) = .ok identifier) :
    (text.toList.count separator = 1 → text = paired identifier.domain identifier.id) ∧
      (text.toList.count separator ≠ 1 →
        identifier.domain.val = "" ∧ identifier.id.val = text) := by
  obtain ⟨-, rfl | ⟨-, noDomain, rfl⟩⟩ := (decode_eq_ok_iff _ _ _).mp decoded
  · exact ⟨fun _ => rfl, fun other => absurd (count_paired _ _) other⟩
  · rw [count_component]
    exact ⟨fun one => absurd one (by decide), fun _ => ⟨noDomain, rfl⟩⟩

/-- What is neither a text nor an object cannot be cut. -/
theorem cut_plain
    {value : Datum}
    (noText : ∀ text, value ≠ .text text)
    (noObject : ∀ object, value ≠ .object object) :
    cut value = .error (.noOperation value.kind "split") := by
  cases value with
  | text text => exact absurd rfl (noText text)
  | object object => exact absurd rfl (noObject object)
  | _ => rfl

/-- A value that cannot be cut ends reading with the fault of the cut, null apart. -/
theorem decode_of_cut_error
    (allowLegacy : Bool)
    {value : Datum}
    {fault : Fault}
    (notNull : value ≠ .null)
    (failed : cut value = .error fault) :
    decode allowLegacy value = .error (.fault fault) := by
  cases value with
  | null => exact absurd rfl notNull
  | _ => simp only [decode, decodeBy, failed]

/-- Where legacy identifiers are allowed, reading accepts exactly the texts that hold something
besides a separator and at most one separator, and splits them there. Every other text is refused
with the text itself and the standard shapes, and an absent value as missing. Any other value that
cannot be cut ends in the fault of the cut, and all but objects cannot be cut. Under no policy does
a text meet any other failure, so the checks of components never object to the pieces of a text. -/
theorem decode_allowed_exact (policy : Datum) (allows : policy.truthy = true) :
    (∀ text : String,
      ((∃ identifier, decode policy.truthy (.text text) = .ok identifier) ↔
        text ≠ "" ∧ text ≠ "/" ∧ text.toList.count '/' ≤ 1) ∧
      (∀ identifier, decode policy.truthy (.text text) = .ok identifier →
        (text.toList.count '/' = 1 →
          text = identifier.domain.val ++ "/" ++ identifier.id.val) ∧
        (text.toList.count '/' ≠ 1 →
          identifier.domain.val = "" ∧ identifier.id.val = text)) ∧
      (¬ (text ≠ "" ∧ text ≠ "/" ∧ text.toList.count '/' ≤ 1) →
        decode policy.truthy (.text text) =
          .error (.rejected (.malformed (.text text) .standard)))) ∧
    decode policy.truthy .null = .error (.rejected .missingInput) ∧
    (∀ (value : Datum) (fault : Fault), value ≠ .null → cut value = .error fault →
      decode policy.truthy value = .error (.fault fault)) ∧
    (∀ value : Datum, (∀ text, value ≠ .text text) → (∀ object, value ≠ .object object) →
      cut value = .error (.noOperation value.kind "split")) ∧
    (∀ (other : Datum) (text : String) (failure : Failure),
      decode other.truthy (.text text) = .error failure →
        failure = .rejected (.malformed (.text text) .standard)) := by
  rw [allows]
  refine ⟨fun text => ⟨decode_allowed_iff text, fun identifier => parts_of_decode, ?_⟩, rfl,
    fun value fault => decode_of_cut_error true, fun value => cut_plain, ?_⟩
  · intro noForm
    rcases decode_text_cases true text with decoded | refused
    · exact absurd ((decode_allowed_iff text).mp decoded) noForm
    · rw [refused, malformed_text]
  · intro other text failure failed
    rcases decode_text_cases other.truthy text with ⟨identifier, decoded⟩ | refused
    · rw [decoded] at failed
      contradiction
    · rw [refused, malformed_text] at failed
      exact (Except.error.inj failed).symm

/-- A policy given as a word counts as true whatever the word. Two separators in a row are refused,
and a leading one is read. -/
theorem decode_allowed_exact_word :
    (Datum.text "off").truthy = true ∧
      decode (Datum.text "off").truthy (.text "a//b") =
        .error (.rejected (.malformed (.text "a//b") .standard)) ∧
      (∃ identifier, decode (Datum.text "off").truthy (.text "/b") = .ok identifier) ∧
      decode (Datum.text "off").truthy (.int 5) = .error (.fault (.noOperation .int "split")) := by
  have exact := decode_allowed_exact (.text "off") (by decide)
  refine ⟨by decide, (exact.1 "a//b").2.2 (by decide), (exact.1 "/b").1.mpr (by decide), ?_⟩
  exact exact.2.2.1 (.int 5) _ (by simp) (exact.2.2.2.1 (.int 5) (by simp) (by simp))

/-- Neither a text nor null makes a value one without pieces: a byte string can be cut, at bytes
only, and refuses a text with a fault of its own. -/
theorem decode_byteString :
    decode true (.bytes [97, 47, 98]) =
        .error (.fault (.own "TypeError" "a bytes-like object is required, not 'str'")) ∧
      ¬ ∀ value : Datum, (∀ text, value ≠ .text text) → value ≠ .null →
        ∃ operation, decode true value = .error (.fault (.noOperation value.kind operation)) := by
  refine ⟨rfl, fun always => ?_⟩
  obtain ⟨operation, refused⟩ :=
    always (.bytes [97, 47, 98]) (by simp [Datum.bytes]) (by simp [Datum.bytes])
  cases refused

end Identifier

end Attachments
