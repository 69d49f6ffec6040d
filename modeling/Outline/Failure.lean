import Outline.FileSystem
import Outline.Number

/-!
Why a run fails, and the words for it.
-/

set_option autoImplicit false

namespace Outline

/-- A failure of the code outside that reads documents and environment files. -/
inductive Fault
  | notFound (message : Text)
  | malformed (message : Text)
  /-- A failure of any other kind, by the name of the kind. -/
  | other (kind message : Text)
  deriving DecidableEq, Repr

namespace Fault

def message : Fault → Text
  | .notFound message | .malformed message | .other _ message => message

end Fault

/-- What a value is needed for that was not given. -/
inductive Failure.Need
  | existence
  | path
  | level
  deriving DecidableEq, Repr

inductive Failure
  | configuration (message : Text)
  | file (error : FileError)
  | foreign (fault : Fault)
  | number (flaw : Integer.Flaw)
  | unencodable (error : Utf8.EncodeError)
  | missing (need : Failure.Need)
  | fileNotFound (path : Text)
  | directoryNotFound (path : Text)
  | sourceNotFound (path : Text)
  /-- A file does not have the extension of a source file. -/
  | notSource (path : Text) (extensions : List Text)
  | overflow
  | notBytes (typeName : Text)
  deriving DecidableEq, Repr

namespace Failure

def Need.message : Need → Text
  | .existence => "stat: path should be string, bytes, os.PathLike or integer, not list"
  | .path => "expected str, bytes or os.PathLike object, not list"
  | .level => "attribute name must be string, not 'list'"

def message : Failure → Text
  | .configuration message => message
  | .file error => error.message
  | .foreign fault => fault.message
  | .number flaw => flaw.message
  | .unencodable error => error.message
  | .missing need => need.message
  | .fileNotFound path => Text.join ["File not found: ", path]
  | .directoryNotFound path => Text.join ["Directory not found: ", path]
  | .sourceNotFound path => Text.join ["Source not found: ", path]
  | .notSource path extensions =>
    Text.join ["File ", path, " is not a C# source file. Expected one of: ",
      Text.Quoted.quoteList (Text.sort extensions)]
  | .overflow => "Python int too large to convert to C int"
  | .notBytes typeName => Text.join ["Source must be bytes, got ", typeName]

def isNotFound : Failure → Bool
  | .file error => decide (error.cause = .notFound)
  | .foreign (.notFound _) => true
  | .fileNotFound _ | .directoryNotFound _ | .sourceNotFound _ => true
  | _ => false

/-- Whether a file cannot be a source, rather than fail unexpectedly. -/
def isInvalidFile : Failure → Bool
  | .notSource .. | .unencodable _ => true
  | .file error => !error.cause.isFromSystem || decide (error.cause = .notFound)
  | other => other.isNotFound

end Failure

end Outline
