import Attachments.Text.DecodingFault

/-!
Contract: texts whose characters take one byte or several.

Owns:
- what the bytes at some place stand for, with what has been switched on before them;
- the reading of bytes step by step.

Does not own: any particular encoding.
-/

namespace Attachments.Text

/-- What the bytes at some place stand for: characters, and what is switched on behind them; or
nothing, because a character breaks off, because there is no such character, or because no rule
tells. Counts are of the bytes behind the first one. -/
inductive ReadingStep (State : Type) where
  | reads (text : List Char) (further : Nat) (state : State)
  | noCharacter (further : Nat)
  | cutOff
  | broken

def readSteps {State : Type}
    (scheme : String)
    (step : State → UInt8 → List UInt8 → ReadingStep State)
    (state : State)
    (position : Nat) :
    List UInt8 → Except DecodingFault (List Char)
  | [] => .ok []
  | byte :: rest =>
    match step state byte rest with
    | .reads text further state =>
      (readSteps scheme step state (position + further + 1) (rest.drop further)).map (text ++ ·)
    | .noCharacter further =>
      .error (.unreadable scheme (byte :: rest.take further) position .noCharacter)
    | .cutOff => .error (.unreadable scheme (byte :: rest) position .characterCutOff)
    | .broken => .error .unruled
termination_by bytes => bytes.length
decreasing_by
  simp only [List.length_cons, List.length_drop]
  omega

/-- A step that reads what one or two bytes stand for. -/
def ReadingStep.ofText? (text? : Option (List Char)) (further : Nat) : ReadingStep Unit :=
  match text? with
  | some text => .reads text further ()
  | none => .noCharacter 0

/-- A step of one byte. -/
def ReadingStep.single (character : Char) : ReadingStep Unit :=
  .reads [character] 0 ()

/-- A step of two bytes, the first of which is known. -/
def ReadingStep.pair (text? : Nat → Option (List Char)) : List UInt8 → ReadingStep Unit
  | [] => .cutOff
  | second :: _ => .ofText? (text? second.toNat) 1

end Attachments.Text
