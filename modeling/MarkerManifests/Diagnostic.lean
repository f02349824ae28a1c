import MarkerManifests.Location

/-!
# Diagnostics

Failures that concern one comment only and do not stop a run. They are collected in the order in
which they are found.
-/

namespace MarkerManifests

/-- The kinds of failures. -/
inductive DiagnosticKind where
  /-- A malformed marker, argument or gate expression. -/
  | syntactic
  /-- A marker in a kind of comment that it does not support. -/
  | applicability
  /-- A reference to a type that is not declared. -/
  | resolution
  /-- A contradictory or invalid meaning. -/
  | semantic
  deriving DecidableEq

/-- The word for a kind of failure. -/
def DiagnosticKind.word : DiagnosticKind → String
  | syntactic => "syntax"
  | applicability => "applicability"
  | resolution => "resolution"
  | semantic => "semantic"

/-- A failure and the comment in which it was found. -/
structure Diagnostic where
  kind : DiagnosticKind
  location : Location
  message : String
  deriving DecidableEq

/-- The line that reports a failure. -/
def Diagnostic.text (diagnostic : Diagnostic) : String :=
  s!"{diagnostic.kind.word} error at {diagnostic.location.text}: {diagnostic.message}"

/-- Failures in the order in which they were found. -/
abbrev Diagnostics := List Diagnostic

namespace Diagnostics

/-- The failures of one kind. -/
def ofKind (diagnostics : Diagnostics) (kind : DiagnosticKind) : Diagnostics :=
  diagnostics.filter (·.kind = kind)

/-- The failures in one comment. -/
def located (diagnostics : Diagnostics) (location : Location) : Diagnostics :=
  diagnostics.filter (·.location = location)

/-- The reports, on lines of their own. -/
def text (diagnostics : Diagnostics) : String :=
  "\n".intercalate (diagnostics.map Diagnostic.text)

/-- The number of failures in words. -/
def countText : Nat → String
  | 0 => "no diagnostics"
  | 1 => "1 diagnostic"
  | count => s!"{count} diagnostics"

/-- The reports followed by their number, every line ended. -/
def report (diagnostics : Diagnostics) : String :=
  String.join (diagnostics.map fun diagnostic => diagnostic.text ++ "\n") ++
    countText diagnostics.length ++ "\n"

end Diagnostics
end MarkerManifests
