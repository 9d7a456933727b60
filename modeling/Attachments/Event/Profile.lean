import Attachments.Event.Call
import Attachments.Event.Dressing

/-!
Contract: what a configuration that was made makes of a call.

Owns:
- what comes of a call: nothing below the threshold, else one dressed event in the format.

Does not own: which configuration a logger follows.
-/

namespace Attachments

/-- What comes of a call: printed text, nothing, or an event that is passed on to the steps that the
library takes where logging was not configured. -/
inductive Emission where
  | printed (text : Text.Points)
  | silent
  | passedOn (level : Level) (event : Event)

namespace Profile

def write (library : LogLibrary) (profile : Profile) (event : Event) :
    Except Fault Text.Points :=
  match profile.format with
  | .json => library.writeJson event
  | .console => library.writeConsole event

/-- What comes of a call under the configuration. Below the threshold a call that is taken has no
effect, and its message is not filled. -/
def emit
    (library : LogLibrary)
    (profile : Profile)
    (context : Event)
    (time : String)
    (bound : Event)
    (call : Call) :
    Except Fault Emission :=
  if profile.shows call.method.level then do
    let event ← call.event bound
    let dressed ← event.dressed library context call.method.level time call.handled?
    let text ← profile.write library dressed
    .ok (.printed text)
  else
    (call.taken false).map fun _ => .silent

end Profile

end Attachments
