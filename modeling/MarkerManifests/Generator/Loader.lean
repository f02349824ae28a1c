import MarkerManifests.Generator.Host
import MarkerManifests.Graph.Document
import MarkerManifests.Json.Reader
import MarkerManifests.Yaml.Reader

/-!
# Loading type graphs

Every input is a document with one package or a list of packages. The extension of its path names its
format. The packages of all inputs, in order, form one type graph.
-/

namespace MarkerManifests

/-- Why a document was not read. -/
inductive LoadError where
  | unsupportedFormat (path : String)
  | unreadable (path : String) (error : HostError)
  | malformed (path : String)
  | noInputs
  deriving DecidableEq

/-- The wording of an error. -/
def LoadError.message : LoadError → String
  | unsupportedFormat path => path ++ ": unsupported extension (expected .yaml, .yml or .json)"
  | unreadable path error => path ++ ": " ++ error.message
  | malformed path => path ++ ": malformed document"
  | noInputs => "no input documents given"

/-- The formats of documents. -/
inductive DocumentFormat where
  | yaml
  | json
  deriving DecidableEq

namespace DocumentFormat

/-- The format of the document at a path. -/
def ofPath? (path : String) : Option DocumentFormat :=
  match FilePath.extension? path with
  | some "yaml" => some yaml
  | some "yml" => some yaml
  | some "json" => some json
  | _ => none

/-- The document that a text spells; objects keep repeated keys. -/
def read? (format : DocumentFormat) (text : String) : Option Json :=
  match format with
  | yaml => (Yaml.read? text.toList).bind Yaml.Tree.toJson?
  | json => Json.readRaw? text.toList

end DocumentFormat

namespace Package

/-- The packages of a document in a format. -/
def listOfText? (format : DocumentFormat) (text : String) : Option (List Package) :=
  (format.read? text).bind Package.listOfJson?

variable {Action : Type → Type} [Monad Action]

/-- The packages of the document at a path. -/
def load (host : Host Action) (path : String) :
    Action (Except LoadError (List Package)) := do
  match DocumentFormat.ofPath? path with
  | none => return .error (.unsupportedFormat path)
  | some format =>
    match ← host.read path with
    | .error error => return .error (.unreadable path error)
    | .ok text =>
      match listOfText? format text with
      | none => return .error (.malformed path)
      | some packages => return .ok packages

/-- The packages of the documents at paths; the first document that is not read stops this. -/
def loadAll (host : Host Action) : List String → Action (Except LoadError (List Package))
  | [] => return .ok []
  | path :: rest => do
    match ← load host path with
    | .error error => return .error error
    | .ok packages =>
      match ← loadAll host rest with
      | .error error => return .error error
      | .ok others => return .ok (packages ++ others)

/-- The packages of the inputs of a run; there must be an input. -/
def loadInputs (host : Host Action) :
    List String → Action (Except LoadError (List Package))
  | [] => return .error .noInputs
  | paths => loadAll host paths

end Package
end MarkerManifests
