import Attachments.Fault

/-!
Contract: values of classes that are not built in.

Owns:
- what such a value answers to the operations that are tried on values of unknown shape.

Does not own: the built-in values.
-/

namespace Attachments

/-- A value of a class of its own, told by what its operations answer. Two of them are equal if they
have the same identity, and none equals a value of another kind. `obstacle?` is the reason for which
it cannot be written as a text, if there is one; `split` cuts it at the separator, `lower` puts it
into small letters, and `holds` looks for a text in it. -/
structure Foreign (Item : Type) where
  className : String
  identity : Nat
  isTrue : Bool
  isHashable : Bool
  plain : String
  literal : String
  obstacle? : Option String
  elements? : Option (List Item)
  split : Except Fault (List Item)
  lower : Except Fault Item
  holds : String → Except Fault Bool

namespace Foreign

variable {Item : Type}

/-- A value whose class offers none of the operations beyond what every value can do. -/
def inert (className : String) (identity : Nat) (text : String) : Foreign Item where
  className := className
  identity := identity
  isTrue := true
  isHashable := true
  plain := text
  literal := text
  obstacle? := none
  elements? := none
  split := .error (.noOperation (.object className) "split")
  lower := .error (.noOperation (.object className) "lower")
  holds := fun _ => .error (.notContainer (.object className))

end Foreign

end Attachments
