import TemplateSwap.Text.Encoding

namespace TemplateSwap

open TemplateSwap.Text (Encoding Codec)

/-- What a run meets: failures that are put in the way of file operations, and the codecs that there are. -/
structure Environment where
  /-- Paths that cannot be opened for reading, with the text of the refusal. -/
  reading : List (String × String) := []
  writing : List (String × String) := []
  /-- Directories that cannot be listed. -/
  listing : List String := []
  /-- What the names of all other encodings stand for. -/
  codecs : String → Except CodecError Codec := fun name => .error (.unknown name)

/-- The codec of a name, or why there is none. -/
def Environment.codec (env : Environment) (name : String) : Except CodecError Codec :=
  match Encoding.ofName? name with
  | some e => .ok e.codec
  | none => env.codecs name

end TemplateSwap
