import MarkerManifests.Json.Printer
import MarkerManifests.Text.Pieces
import MarkerManifests.Yaml.Printer

/-!
# Artifacts

Generated documents in named groups, and the texts in which they are published. In YAML, a line of
three dashes stands between the documents of a group; in JSON, a single document stands for itself
and other groups are arrays. A group without documents is not published.
-/

namespace MarkerManifests

/-- The formats of artifacts. -/
inductive OutputFormat where
  | yaml
  | json
  deriving DecidableEq

namespace OutputFormat

/-- The name of a format, which is also the extension of its files. -/
def word : OutputFormat → String
  | yaml => "yaml"
  | json => "json"

/-- The format with a name. -/
def ofWord? (word : String) : Option OutputFormat :=
  [yaml, json].find? (OutputFormat.word · = word)

end OutputFormat

/-- A named group of documents. -/
structure Artifact where
  name : String
  documents : List Json

namespace Artifact

/-- The file of an artifact. -/
def fileName (artifact : Artifact) (format : OutputFormat) : String :=
  artifact.name ++ "." ++ format.word

/-- The line between documents. -/
def separator : List Char :=
  ['-', '-', '-', '\n']

/-- The text of documents in YAML. -/
def yamlText (documents : List Json) : List Char :=
  Text.joined separator (documents.map Yaml.render)

/-- The text of documents in JSON. -/
def jsonText : List Json → List Char
  | [only] => only.indented 0 ++ ['\n']
  | documents => (Json.array documents).indented 0 ++ ['\n']

/-- The text of an artifact in a format. -/
def render (artifact : Artifact) : OutputFormat → String
  | .yaml => String.ofList (yamlText artifact.documents)
  | .json => String.ofList (jsonText artifact.documents)

/-- The artifacts that are published. -/
def published (artifacts : List Artifact) : List Artifact :=
  artifacts.filter fun artifact => !artifact.documents.isEmpty

/-- The files of artifacts with their texts. -/
def files (format : OutputFormat) (artifacts : List Artifact) : List (String × String) :=
  (published artifacts).map fun artifact => (artifact.fileName format, artifact.render format)

/-- The text of files in a stream: a line with the name of the file comes before its text. -/
def streamText (files : List (String × String)) : String :=
  String.join (files.map fun (name, text) => "# " ++ name ++ "\n" ++ text)

/-- The text of artifacts in a stream. -/
def stream (format : OutputFormat) (artifacts : List Artifact) : String :=
  streamText (files format artifacts)

end Artifact
end MarkerManifests
