import Rampart.Audit.Incident
import Rampart.Json.Decode
import Rampart.Json.Reader
import Rampart.Refusal

/-!
# Failures

A request fails because it is refused, or because the payload, the disk, a signature or the
configuration is not as it should be.  Operations report what they put on record and what they hand
to the audit log beside their result.
-/

namespace Rampart

/-- What can be wrong with a payload that is not refused. -/
inductive PayloadFault
  | malformed (e : Json.SyntaxError)
  | tooDeep (depth limit : Nat)
  /-- The type tag of some object is not a string. -/
  | tagNotText (found : Text)
  | untagged
  /-- The payload is tagged with another type than the one asked for. -/
  | otherType (declared requested : Text)
  /-- The decoder of a trusted type gave a value of another type. -/
  | unexpectedType (declared : Text)
  | mismatch (m : Json.Mismatch)
  deriving DecidableEq, Repr

/-- The words for a fault of a payload. -/
def PayloadFault.message : PayloadFault → Text
  | .malformed e => e.message
  | .tooDeep depth limit =>
    "payload nesting depth " ++ Text.ofNat depth ++ " exceeds the maximum of " ++ Text.ofNat limit
  | .tagNotText found => "'$type' must be a string, found " ++ found
  | .untagged => "payload root carries no '$type'"
  | .otherType declared requested =>
    "payload declares '" ++ declared ++ "' but '" ++ requested ++ "' was requested"
  | .unexpectedType declared => "decoder for '" ++ declared ++ "' produced an unexpected type"
  | .mismatch m => m.message

/-- What can go wrong with files and with the audit log. -/
inductive IoFault
  | notFound
  | exists
  | notDirectory
  | isDirectory
  | nameTooLong
  | noSpace
  /-- Lack of space, remembered from an earlier write. -/
  | storageFull
  /-- A path holds the character that ends texts for the machine. -/
  | nullCharacter
  | notUtf8
  | verifierFailed
  | auditClosed
  | auditStopped
  deriving DecidableEq, Repr

/-- The words for a fault of the machine. -/
def IoFault.message : IoFault → Text
  | .notFound => "No such file or directory (os error 2)"
  | .exists => "File exists (os error 17)"
  | .notDirectory => "Not a directory (os error 20)"
  | .isDirectory => "Is a directory (os error 21)"
  | .nameTooLong => "File name too long (os error 36)"
  | .noSpace => "No space left on device (os error 28)"
  | .storageFull => "no storage space"
  | .nullCharacter => "file name contained an unexpected NUL byte"
  | .notUtf8 => "stream did not contain valid UTF-8"
  | .verifierFailed => "signature verifier failed"
  | .auditClosed => "audit channel closed"
  | .auditStopped => "audit task stopped before flushing"

/-- What can be wrong with a configuration. -/
inductive ConfigFault
  | fileNotFound (path : Text)
  | unsupportedFormat
  | illegiblePath (path : Text)
  /-- A document cannot be read, or a setting has a value of the wrong kind. -/
  | unusable
  /-- A filter for log records names a level that there is not. -/
  | badFilter
  /-- A filter for log records cannot be read. -/
  | badDirective
  | alreadyLogging
  deriving DecidableEq, Repr

/-- The words for a faulty configuration.  An unusable document has none of its own. -/
def ConfigFault.message? : ConfigFault → Option Text
  | .fileNotFound path => some ("configuration file not found: " ++ path)
  | .unsupportedFormat =>
    some "unsupported configuration file format, use .toml, .yaml, .yml, or .json".toList
  | .illegiblePath path => some ("non UTF-8 configuration path: " ++ path)
  | .unusable => none
  | .badFilter =>
    some ("Invalid log level: error parsing level filter: expected one of \"off\", \"error\", " ++
      "\"warn\", \"info\", \"debug\", \"trace\", or a number 0-5").toList
  | .badDirective => some "Invalid log level: invalid filter directive".toList
  | .alreadyLogging => some "a global default trace dispatcher has already been set".toList

/-- The ways in which an operation fails. -/
inductive Failure
  | refused (r : Refusal)
  | payload (f : PayloadFault)
  | io (f : IoFault)
  | signature (path : Text)
  | config (f : ConfigFault)
  deriving DecidableEq, Repr

namespace Failure

/-- Whether the failure points at an attack. -/
def isCritical : Failure → Bool
  | .refused r => r.kind.isCritical
  | .signature _ => true
  | _ => false

/-- The word that stands for the kind of failure. -/
def category : Failure → Text
  | .refused r => r.kind.category
  | .payload _ => "deserialization"
  | .io _ => "io_error"
  | .signature _ => "signature_rejected"
  | .config _ => "configuration_error"

/-- The full wording, if the failure has one of its own. -/
def message? : Failure → Option Text
  | .refused r => some r.message
  | .payload f => some ("Deserialization failed: " ++ f.message)
  | .io f => some ("I/O error: " ++ f.message)
  | .signature path => some ("Signature verification failed: " ++ path)
  | .config f => f.message?.map fun m => "Configuration error: " ++ m

end Failure

/-- The result of an operation, with what it put on record and what it handed to the audit log, in
order. -/
structure Report (α : Type) where
  result : Except Failure α
  records : List Record := []
  incidents : List Audit.Incident := []

namespace Report

variable {α β : Type}

/-- A result about which there is nothing to tell. -/
def ofResult (result : Except Failure α) : Report α := { result }

/-- A record and nothing else. -/
def note (r : Record) : Report Unit := { result := .ok (), records := [r] }

/-- An operation and then another that takes up its result.  A failure ends the matter, and what was
told until then stays told. -/
def andThen (first : Report α) (next : α → Report β) : Report β :=
  match first.result with
  | .error f => { result := .error f, records := first.records, incidents := first.incidents }
  | .ok a =>
    { result := (next a).result
      records := first.records ++ (next a).records
      incidents := first.incidents ++ (next a).incidents }

instance : Monad Report where
  pure a := ofResult (.ok a)
  bind := andThen

end Report

end Rampart
