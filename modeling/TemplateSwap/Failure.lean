import TemplateSwap.ConfigError
import TemplateSwap.Markup.Fault

namespace TemplateSwap

open TemplateSwap.Text (quoted hexadecimal escapeCode Code ofCodes)

/-- What the file system refuses. -/
inductive SystemError
  | notDirectory (path : String)
  | missing (path : String)
  | isDirectory (path : String)
  | tooManyLinks (path : String)
  | listingDenied (path : String)
  | denied (text : String)
  deriving DecidableEq, Repr

def SystemError.message : SystemError → String
  | notDirectory path => "[Errno 20] Not a directory: " ++ quoted path
  | missing path => "[Errno 2] No such file or directory: " ++ quoted path
  | isDirectory path => "[Errno 21] Is a directory: " ++ quoted path
  | tooManyLinks path => "[Errno 40] Too many levels of symbolic links: " ++ quoted path
  | listingDenied path => "[Errno 13] Permission denied: " ++ quoted path
  | denied text => text

/-- What an application was doing when the file system refused. -/
inductive Activity
  | rewriting
  | walking
  deriving DecidableEq, Repr

/-- An application that was cut short at a path. -/
structure ApplyError where
  activity : Activity
  path : String
  cause : SystemError
  deriving DecidableEq, Repr

namespace ApplyError

def message (e : ApplyError) : String :=
  (match e.activity with
    | .rewriting => "Failed to rewrite "
    | .walking => "Failed to walk ")
    ++ e.path ++ ": " ++ e.cause.message

end ApplyError

/-- Bytes that are no text in an encoding: from the first to before the last position. -/
structure DecodeError where
  encoding : String
  byte : UInt8
  first : Nat
  last : Nat
  reason : String
  deriving DecidableEq, Repr

namespace DecodeError

def message (e : DecodeError) : String :=
  "'" ++ e.encoding ++ "' codec can't decode "
    ++ (if e.first + 1 = e.last then
        "byte 0x" ++ String.ofList (hexadecimal 2 e.byte.toNat) ++ " in position " ++ toString e.first
      else "bytes in position " ++ toString e.first ++ "-" ++ toString (e.last - 1))
    ++ ": " ++ e.reason

end DecodeError

/-- Characters that an encoding has no bytes for: from the first to before the last position. -/
structure EncodeError where
  encoding : String
  character : Code
  first : Nat
  last : Nat
  reason : String
  deriving DecidableEq, Repr

namespace EncodeError

def message (e : EncodeError) : String :=
  "'" ++ e.encoding ++ "' codec can't encode "
    ++ (if e.first + 1 = e.last then
        "character '" ++ String.ofList (escapeCode e.character) ++ "' in position " ++ toString e.first
      else "characters in position " ++ toString e.first ++ "-" ++ toString (e.last - 1))
    ++ ": " ++ e.reason

end EncodeError

/-- Why there is no text for bytes or no bytes for text: no encoding has the name, or it refuses them. -/
inductive CodecError
  | unknown (name : String)
  | undecodable (error : DecodeError)
  | unencodable (error : EncodeError)
  | other (text : String)
  deriving DecidableEq, Repr

inductive Failure
  | config (error : ConfigError)
  | irreversible (error : ConfigError)
  | apply (error : ApplyError)
  | system (error : SystemError)
  | undecodable (error : DecodeError)
  | unencodable (error : EncodeError)
  | unknownEncoding (name : String)
  | unusableEncoding (text : String)
  | numberTooLarge
  | bothModes
  | unreadableText
  | badScalar (fault : Markup.ScalarFault)
  | missingField (key : String)
  | unknownKind (kind : Value) (available : List String)
  | wrongType
  | wrongShape

namespace Failure

def message : Failure → String
  | config error => error.message
  | irreversible error => error.message
  | apply error => error.message
  | system error => error.message
  | undecodable error => error.message
  | unencodable error => error.message
  | unknownEncoding name => "unknown encoding: " ++ name
  | unusableEncoding text => text
  | badScalar (.notTruthValue text) => quoted text
  | badScalar .emptyNumber => "string index out of range"
  | missingField key => quoted key
  | unknownKind kind available => unknownKindText kind available
  | _ => ""

/-- A refused pattern, where a fault in its text is reported in the given way. -/
def ofRefusal (defect : Pattern.Error → ConfigError) : Pattern.Refusal → Failure
  | .faulty error => config (defect error)
  | .numberTooLarge => numberTooLarge
  | .bothModes => bothModes

def ofCodec : CodecError → Failure
  | .unknown name => unknownEncoding name
  | .undecodable error => undecodable error
  | .unencodable error => unencodable error
  | .other text => unusableEncoding text

end Failure

end TemplateSwap
