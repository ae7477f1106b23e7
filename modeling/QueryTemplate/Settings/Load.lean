import QueryTemplate.Document.Merge
import QueryTemplate.Json.Reader
import QueryTemplate.Settings.Decode
import QueryTemplate.Settings.Environment
import QueryTemplate.Toml.Reader

/-!
# Loading settings

Settings are read from a text or a file in one of two formats. The document in it is laid over the
document of the default settings, and the settings are those of the result.
-/

set_option autoImplicit false

namespace QueryTemplate

inductive SettingsFormat where
  | toml
  | json
  deriving DecidableEq, Repr

namespace SettingsFormat

def name : SettingsFormat → Text
  | toml => "TOML".toList
  | json => "JSON".toList

/-- The document that a text in the format holds, if it is one. -/
def read? : SettingsFormat → Text → Option Document
  | toml, text => Toml.read? text
  | json, text => Json.read? text

end SettingsFormat

inductive FileProblem where
  | missing
  | notText
  deriving DecidableEq, Repr

namespace FileProblem

def message : FileProblem → Text
  | missing => "No such file or directory (os error 2)".toList
  | notText => "stream did not contain valid UTF-8".toList

end FileProblem

inductive SettingsError where
  /-- The file is not there or is no text. -/
  | unreadable (format : SettingsFormat) (file : Text) (problem : FileProblem)
  | malformed (format : SettingsFormat)
  | mismatched (format : SettingsFormat) (mismatch : Mismatch)

namespace SettingsError

/-- The report of an error in words. What makes a text malformed is not told. -/
def message : SettingsError → Text
  | unreadable format file problem =>
    "Failed to read ".toList ++ format.name ++ " file '".toList ++ file ++ "': ".toList ++
      problem.message
  | malformed format => "Failed to parse ".toList ++ format.name
  | mismatched format mismatch =>
    "Failed to deserialize settings from ".toList ++ format.name ++ ": ".toList ++
      mismatch.message

end SettingsError

inductive FileContent where
  | missing
  | bytes (bytes : ByteArray)

namespace Settings

/-- The settings that a document says, with defaults for all that it leaves out. -/
def ofDocumentOverDefaults (document : Document) : Except Mismatch Settings :=
  ofDocument (Document.merge (toDocument {}) document)

def ofText (format : SettingsFormat) (text : Text) : Except SettingsError Settings :=
  match format.read? text with
  | none => .error (.malformed format)
  | some document =>
    match ofDocumentOverDefaults document with
    | .ok settings => .ok settings
    | .error mismatch => .error (.mismatched format mismatch)

def ofFile (format : SettingsFormat) (file : Text) (content : FileContent) :
    Except SettingsError Settings :=
  match content with
  | .missing => .error (.unreadable format file .missing)
  | .bytes bytes =>
    match Text.ofUtf8? bytes with
    | none => .error (.unreadable format file .notText)
    | some text => ofText format text

end Settings

end QueryTemplate
