import Attachments.Event.Redaction
import Attachments.Identifier.Construction

/-!
Contract: the names under which the parts of the library are offered.

Owns:
- the names that each package exports, in alphabetical order.

Does not own: what stands behind the names.
-/

namespace Attachments

/-- What a package exports. -/
structure Package where
  name : String
  exports : List String
  deriving DecidableEq, Repr

namespace Package

/-- Identifiers, their constants, and all classes of problems. -/
def domain : Package :=
  ⟨"domain",
    (["ATTACHMENT_PART_SEPARATOR", "EXPECTED_SHAPES", Kind.identifier.name]
      ++ ProblemClass.all.map ProblemClass.name).mergeSort⟩

/-- Readers and what comes of reading. -/
def application : Package :=
  ⟨"application", ["AttachmentIdParseResult", "AttachmentIdParser", "RejectedAttachmentId"]⟩

/-- The settings of readers and the readers that follow them. -/
def attachments : Package :=
  ⟨"attachments",
    ["AttachmentIdSettings", "create_attachment_id_parser", "get_attachment_id_settings"]⟩

def observability : Package :=
  ⟨"observability",
    ["LoggingSettings", "SensitiveDataProcessor", "configure_logging", "get_logger",
      "get_logging_settings"]⟩

def all : List Package :=
  [domain, application, attachments, observability]

end Package

end Attachments
