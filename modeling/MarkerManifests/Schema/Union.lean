import MarkerManifests.Marker.Basic
import MarkerManifests.Schema.Error
import MarkerManifests.Vocabulary.Schema

/-!
# Unions

Markers on a record group its properties into unions. Every union is recorded, and those that demand
at least one member become compositions of the schema. Members that were left out of the record are
left out of its unions.
-/

namespace MarkerManifests

namespace UnionPolicy

/-- The policy that a marker demands. -/
def ofMarker? (name : String) : Option UnionPolicy :=
  if name = Vocabulary.exactlyOneOf then some exactlyOne
  else if name = Vocabulary.atMostOneOf then some atMostOne
  else if name = Vocabulary.atLeastOneOf then some atLeastOne
  else none

end UnionPolicy

namespace SchemaNode

/-- The members of a union after those before them: listed keys without repetitions and without
the keys that were left out. -/
def unionMembers (node : SchemaNode) (skipped members : List String) :
    List String → Except SynthesisError (List String)
  | [] => .ok members
  | key :: rest =>
    if key ∈ skipped then node.unionMembers skipped members rest
    else if node.hasProperty key then
      node.unionMembers skipped (if key ∈ members then members else members ++ [key]) rest
    else .error (.unknownUnionMember key)

/-- The conflict of a union with the first earlier one that shares members with it and has another
policy. -/
def unionConflict? (policy : UnionPolicy) (members : List String) :
    List UnionGroup → Option SynthesisError
  | [] => none
  | group :: rest =>
    let shared := members.filter (· ∈ group.members)
    if shared ≠ [] ∧ group.policy ≠ policy then
      some (.unionConflict shared group.policy policy)
    else
      unionConflict? policy members rest

/-- One schema for each member, which demands the member. -/
def clauses (members : List String) : List SchemaNode :=
  members.map fun member => { required := [member] }

/-- Adds the composition that a union demands. The first union of a kind is composed in the node
itself and later ones in nodes of their own. -/
def compose (node : SchemaNode) (policy : UnionPolicy) (members : List String) : SchemaNode :=
  match policy with
  | .exactlyOne =>
    if node.oneOf.isEmpty then { node with oneOf := clauses members }
    else { node with allOf := node.allOf ++ [{ oneOf := clauses members }] }
  | .atLeastOne =>
    if node.anyOf.isEmpty then { node with anyOf := clauses members }
    else { node with allOf := node.allOf ++ [{ anyOf := clauses members }] }
  | .atMostOne => node

/-- Adds a union, unless it has no members or is there already. -/
def addUnion (node : SchemaNode) (policy : UnionPolicy) (members : List String) :
    Except SynthesisError SchemaNode :=
  if members = [] then
    .ok node
  else
    match unionConflict? policy members node.unions with
    | some error => .error error
    | none =>
      if ⟨policy, members⟩ ∈ node.unions then
        .ok node
      else
        let composed := node.compose policy members
        .ok { composed with unions := composed.unions ++ [⟨policy, members⟩] }

/-- Adds the union that a marker describes; other markers change nothing. -/
def addUnionMarker (node : SchemaNode) (skipped : List String) (marker : Marker) :
    Except SynthesisError SchemaNode :=
  match UnionPolicy.ofMarker? marker.name with
  | none => .ok node
  | some policy =>
    match node.unionMembers skipped [] (marker.list Definition.unnamed) with
    | .error error => .error error
    | .ok members => node.addUnion policy members

/-- Adds the unions that the markers of a record describe. -/
def addUnions (node : SchemaNode) (skipped : List String) :
    Markers → Except SynthesisError SchemaNode
  | [] => .ok node
  | marker :: rest =>
    match node.addUnionMarker skipped marker with
    | .error error => .error error
    | .ok node => node.addUnions skipped rest

end SchemaNode
end MarkerManifests
