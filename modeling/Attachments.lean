import Attachments.Text.Case
import Attachments.Text.Blank
import Attachments.Level
import Attachments.Problem.Call
import Attachments.Identifier.Sorting
import Attachments.Identifier.Operand
import Attachments.Reader.Basic
import Attachments.Datum.Json
import Attachments.Settings.Legacy
import Attachments.Settings.Logging
import Attachments.Settings.Cache
import Attachments.Event.Redaction
import Attachments.Event.Basic
import Attachments.Event.Template.Filling
import Attachments.Event.Logger
import Attachments.Session.Run
import Attachments.Exports
import Attachments.Supplied.Event.Library
import Attachments.Supplied.Settings.Library
import Attachments.Proofs.Identifier.Decoding
import Attachments.Proofs.Identifier.Encoding
import Attachments.Proofs.Reader.Run
import Attachments.Proofs.Reader.LegacyPolicy
import Attachments.Proofs.Identifier.Order
import Attachments.Proofs.Reader.Partition
import Attachments.Proofs.Reader.Journal
import Attachments.Proofs.Event.Library
import Attachments.Proofs.Event.Secrecy
import Attachments.Proofs.Reader.PolicySwitch
import Attachments.Proofs.Session.EncodedIndex
import Attachments.Proofs.Session.StoredIdentifiers
import Attachments.Proofs.Session.KeptSettings
import Attachments.Proofs.Identifier.NormalForm
import Attachments.Proofs.Reader.Resubmission
import Attachments.Proofs.Problem.Refusal
import Attachments.Proofs.Event.JsonLine
import Attachments.Proofs.Settings.Sources
import Attachments.Proofs.Settings.FileVariables
import Attachments.Proofs.Settings.Answers
import Attachments.Proofs.Settings.Documented
import Attachments.Proofs.Settings.Precedence
import Attachments.Proofs.Event.SensitiveNames
import Attachments.Proofs.Event.Nesting
import Attachments.Proofs.Event.LoggerHistory
import Attachments.Proofs.Session.Loggers
import Attachments.Proofs.Identifier.Construction
import Attachments.Proofs.Event.Masking
import Attachments.Proofs.Text.Quoted
import Attachments.Proofs.Reader.Warnings
import Attachments.Proofs.Sorting.Arrangement
import Attachments.Proofs.Sorting.Run
import Attachments.Proofs.Sorting.Merge
import Attachments.Proofs.Sorting.Schedule
import Attachments.Proofs.Identifier.Sorting
import Attachments.Proofs.Text.Case
import Attachments.Proofs.Event.NameSpaces
import Attachments.Proofs.Settings.Severity
import Attachments.Proofs.Settings.Logging
