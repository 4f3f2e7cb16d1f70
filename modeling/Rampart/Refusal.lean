import Rampart.Path.Rejection

/-!
# Refusals

Everything that is refused for the sake of security, and the faulty arguments that stop a request
before it is looked at.
-/

namespace Rampart

/-- The reasons for refusing a request. -/
inductive Refusal
  | path (r : Path.Rejection)
  | blankPayload
  /-- No list of trusted types was given. -/
  | noCandidates
  /-- The list of trusted types is empty. -/
  | emptyCandidates
  /-- A type that should be trusted is known to be exploitable. -/
  | exploitable (identity fragment : Text)
  /-- A payload names a type that is not trusted. -/
  | unknownType (identity name : Text)
  /-- Type names were asked for without a list of trusted types. -/
  | insecure (details : Text)
  deriving DecidableEq, Repr

namespace Refusal

/-- The kind of a refusal. -/
def kind : Refusal → Kind
  | .path r => r.kind
  | .blankPayload | .noCandidates | .emptyCandidates => .invalidArgument
  | .exploitable .. => .knownExploitableType
  | .unknownType .. => .unknownType
  | .insecure _ => .insecureConfiguration

/-- The full wording. -/
def message : Refusal → Text
  | .path r => r.message
  | .blankPayload => "Invalid argument 'payload': value must not be empty or whitespace"
  | .noCandidates => "Invalid argument 'candidate_types': candidate type list is required"
  | .emptyCandidates =>
    "Invalid argument 'candidate_types': at least one candidate type is required"
  | .exploitable identity fragment =>
    "Known exploitable type rejected: '" ++ identity ++ "' matches '" ++ fragment ++ "'"
  | .unknownType identity name =>
    "Type '" ++ name ++ "' from '" ++ identity ++ "' is not in the allow-list"
  | .insecure details => "Insecure serializer configuration: " ++ details

end Refusal

end Rampart
