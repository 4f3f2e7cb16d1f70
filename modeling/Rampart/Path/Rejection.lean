import Rampart.Path.Style
import Rampart.Record

/-!
# Why a path is refused

Each cause has its own constructor.  The kind of error, its wording and whether it is put on record
are functions of the cause.
-/

namespace Rampart

/-- The kinds of refusal, which decide how serious one is. -/
inductive Kind
  | invalidArgument
  | invalidPath
  | traversalRejected
  | knownExploitableType
  | unknownType
  | insecureConfiguration
  deriving DecidableEq, Repr

namespace Kind

/-- The word that stands for the kind in records and events. -/
def category : Kind → Text
  | .invalidArgument => "invalid_argument"
  | .invalidPath => "invalid_path"
  | .traversalRejected => "traversal_rejected"
  | .knownExploitableType => "known_exploitable_type"
  | .unknownType => "unknown_type"
  | .insecureConfiguration => "insecure_configuration"

/-- Whether the kind points at an attack rather than at a mistake. -/
def isCritical : Kind → Bool
  | .invalidArgument | .invalidPath => false
  | .traversalRejected | .knownExploitableType | .unknownType | .insecureConfiguration => true

/-- Whether something was refused for the sake of security. -/
def isSecurityRejection : Kind → Bool
  | .invalidArgument => false
  | _ => true

end Kind

namespace Path

/-- The parameters that a blank value can be refused for. -/
inductive Argument
  | basePath
  | fileName
  | relativePath
  | segments
  | path
  deriving DecidableEq, Repr

/-- The name of a parameter. -/
def Argument.name : Argument → Text
  | .basePath => "base_path"
  | .fileName => "file_name"
  | .relativePath => "relative_path"
  | .segments => "segments"
  | .path => "path"

/-- The part of a request that a check looks at. -/
inductive Subject
  | base
  | relativePath
  | segment
  | fileName
  deriving DecidableEq, Repr

/-- What a part of a request is called in messages. -/
def Subject.name : Subject → Text
  | .base => "base path"
  | .relativePath => "relative_path"
  | .segment => "segments"
  | .fileName => "file name"

/-- The reasons for refusing to build a path. -/
inductive Rejection
  /-- An argument is blank. -/
  | blank (argument : Argument)
  /-- A segment list lacks a base or a file name. -/
  | tooFewSegments (count : Nat)
  /-- A reserved character stands in `value`. -/
  | reserved (subject : Subject) (char : Char) (value : Text)
  /-- The base itself climbs. -/
  | climbingBase (value : Text)
  /-- A volume separator stands elsewhere than behind a leading drive letter. -/
  | strayVolume (subject : Subject) (char : Char) (value : Text)
  /-- Two `%` could stand for the expansion of a variable. -/
  | manyPercents (value : Text)
  /-- A network path lacks its server or its share. -/
  | incompleteShare (value : Text)
  /-- A path is relative and its style is not the one of this machine. -/
  | unqualified (style : Style)
  /-- The working directory no longer exists. -/
  | noWorkingDirectory
  /-- The working directory has a name that is not text. -/
  | illegibleWorkingDirectory
  /-- A name or tail holds `..`. -/
  | climbing (subject : Subject) (value : Text)
  /-- A file name holds a separator or a volume. -/
  | notBare (value : Text)
  /-- The result does not lie below the base as asked. -/
  | outside (result base : Text)
  deriving DecidableEq, Repr

namespace Rejection

/-- The kind of a rejection. -/
def kind : Rejection → Kind
  | .blank _ | .tooFewSegments _ => .invalidArgument
  | .reserved .. | .climbingBase _ | .strayVolume .. | .manyPercents _ | .incompleteShare _
  | .unqualified _ | .noWorkingDirectory | .illegibleWorkingDirectory => .invalidPath
  | .climbing .. | .notBare _ | .outside .. => .traversalRejected

/-- What went wrong, without the words for the kind. -/
def detail : Rejection → Text
  | .blank _ => "value must not be empty or whitespace"
  | .tooFewSegments n =>
    "at least a base path and a file name are required, got " ++ Text.ofNat n ++ " segment(s)"
  | .reserved s c v => s.name ++ " contains reserved character " ++ Text.quotedChar c ++ ": " ++ v
  | .climbingBase v => "base path contains '..': " ++ v
  | .strayVolume s c v =>
    s.name ++ " contains " ++ Text.quotedChar c ++ " outside a drive prefix: " ++ v
  | .manyPercents v => "more than one '%' in: " ++ v
  | .incompleteShare v => "network path must name a server and a share: " ++ v
  | .unqualified s =>
    "path is not fully qualified and cannot be resolved for " ++ s.name ++ " style"
  | .noWorkingDirectory =>
    "cannot resolve working directory: No such file or directory (os error 2)"
  | .illegibleWorkingDirectory => "working directory is not valid UTF-8"
  | .climbing s v => s.name ++ " contains '..': " ++ v
  | .notBare v => "file name must not name a directory or volume: " ++ v
  | .outside r b => r ++ " resolves outside of " ++ b

/-- The argument at fault, for the causes that blame one. -/
def argument : Rejection → Text
  | .blank a => a.name
  | _ => "segments"

/-- The full wording. -/
def message (r : Rejection) : Text :=
  match r.kind with
  | .invalidArgument => "Invalid argument '" ++ r.argument ++ "': " ++ r.detail
  | .traversalRejected => "Path traversal rejected: " ++ r.detail
  | _ => "Invalid path: " ++ r.detail

/-- Whether the cause is put on record.  Faulty arguments and paths that cannot be resolved are
only returned. -/
def isRecorded : Rejection → Bool
  | .blank _ | .tooFewSegments _ | .incompleteShare _ | .unqualified _
  | .noWorkingDirectory | .illegibleWorkingDirectory => false
  | _ => true

/-- What is put on record when a path of style `s` is refused. -/
def records (s : Style) (r : Rejection) : List Record :=
  if r.isRecorded then
    [{ level := .warn
       target := "warden_core::path"
       message := r.detail
       fields := [("category", .word r.kind.category), ("style", .shown s.name)] }]
  else []

end Rejection

end Path

end Rampart
