import MarkerManifests.Graph.Basic
import MarkerManifests.Proofs.Outcomes

/-!
# Declarations of a package

A declaration that is moved into a package is completed: it gets the path of the package, its
references without a package get the path, at any depth, and its fields without a key get their name
as key. All else stays as it is. There is exactly one way to complete a declaration.
-/

namespace MarkerManifests

/-- A reference and the one in which a path stands in place of the missing packages. -/
inductive TypeRef.Completes (path : String) : TypeRef → TypeRef → Prop where
  | scalar (kind : ScalarKind) : Completes path (.scalar kind) (.scalar kind)
  /-- A declaration without a package is in the package with the path. -/
  | within (name : String) : Completes path (.named ⟨"", name⟩) (.named ⟨path, name⟩)
  /-- A declaration of a package stays the one of that package. -/
  | across {target : TypeId}
      (hasPackage : target.package ≠ "") :
      Completes path (.named target) (.named target)
  | list {element completed : TypeRef}
      (completes : Completes path element completed) :
      Completes path (.list element) (.list completed)
  | map {value completed : TypeRef}
      (completes : Completes path value completed) :
      Completes path (.map value) (.map completed)
  | pointer {target completed : TypeRef}
      (completes : Completes path target completed) :
      Completes path (.pointer target) (.pointer completed)

/-- A field and the one with a completed type and a key. -/
structure Field.Completes (path : String) (field completed : Field) : Prop where
  name : completed.name = field.name
  type : field.type.Completes path completed.type
  /-- The name is the key of a field that has none. -/
  key : completed.key = if field.key = "" then field.name else field.key
  optional : completed.optional = field.optional
  inline : completed.inline = field.inline
  doc : completed.doc = field.doc

/-- A shape and the one with completed fields, or with a completed type. -/
inductive Shape.Completes (path : String) : Shape → Shape → Prop where
  | record {fields completed : List Field}
      (completes : List.Forall₂ (Field.Completes path) fields completed) :
      Completes path (.record fields) (.record completed)
  | synonym {target completed : TypeRef}
      (completes : target.Completes path completed) :
      Completes path (.synonym target) (.synonym completed)
  | enumeration (base : ScalarKind) (members : List EnumMember) :
      Completes path (.enumeration base members) (.enumeration base members)
  | scalar (kind : ScalarKind) : Completes path (.scalar kind) (.scalar kind)

/-- A declaration and the one in the package with a path. -/
structure Declaration.Completes (path : String) (declaration completed : Declaration) : Prop where
  name : completed.name = declaration.name
  package : completed.package = path
  doc : completed.doc = declaration.doc
  shape : declaration.shape.Completes path completed.shape

variable {path : String}

theorem TypeRef.completes_qualify (path : String) (type : TypeRef) :
    type.Completes path (type.qualify path) := by
  induction type with
  | scalar kind => exact .scalar kind
  | named target =>
      obtain ⟨package, name⟩ := target
      rw [qualify]
      split
      · rename_i noPackage
        obtain rfl : package = "" := noPackage
        exact .within name
      · rename_i hasPackage
        exact .across hasPackage
  | list element inductionHypothesis => exact .list inductionHypothesis
  | map value inductionHypothesis => exact .map inductionHypothesis
  | pointer target inductionHypothesis => exact .pointer inductionHypothesis

/-- A reference is completed by qualification, and in no other way. -/
theorem TypeRef.completes_iff_eq_qualify {type completed : TypeRef} :
    type.Completes path completed ↔ completed = type.qualify path := by
  constructor
  · intro completes
    induction completes with
    | scalar kind => rfl
    | within name => rfl
    | across hasPackage => rw [qualify, if_neg hasPackage]
    | list _ inductionHypothesis => rw [qualify, inductionHypothesis]
    | map _ inductionHypothesis => rw [qualify, inductionHypothesis]
    | pointer _ inductionHypothesis => rw [qualify, inductionHypothesis]
  · rintro rfl
    exact type.completes_qualify path

theorem Field.completes_iff_eq_qualify {field completed : Field} :
    field.Completes path completed ↔ completed = field.qualify path := by
  constructor
  · intro completes
    obtain ⟨name, type, key, optional, inline, doc⟩ := completed
    obtain ⟨rfl, completesType, rfl, rfl, rfl, rfl⟩ := completes
    rw [qualify, ← TypeRef.completes_iff_eq_qualify.mp completesType]
  · rintro rfl
    exact ⟨rfl, field.type.completes_qualify path, rfl, rfl, rfl, rfl⟩

theorem Shape.completes_iff_eq_qualify {shape completed : Shape} :
    shape.Completes path completed ↔ completed = shape.qualify path := by
  have ofFields {fields completed : List Field} :
      List.Forall₂ (Field.Completes path) fields completed ↔
        completed = fields.map (·.qualify path) := by
    refine forall₂_iff_eq_map fun field _ completed => ?_
    exact Field.completes_iff_eq_qualify
  constructor
  · intro completes
    cases completes with
    | record completes => rw [qualify, ofFields.mp completes]
    | synonym completes => rw [qualify, TypeRef.completes_iff_eq_qualify.mp completes]
    | enumeration base members => rfl
    | scalar kind => rfl
  · rintro rfl
    cases shape with
    | record fields => exact .record (ofFields.mpr rfl)
    | synonym target => exact .synonym (target.completes_qualify path)
    | enumeration base members => exact .enumeration base members
    | scalar kind => exact .scalar kind

/-- A declaration is moved into a package by completing it, and this changes nothing else. -/
theorem Declaration.completes_iff_eq_qualify {declaration completed : Declaration} :
    declaration.Completes path completed ↔ completed = declaration.qualify path := by
  constructor
  · intro completes
    obtain ⟨name, package, doc, shape⟩ := completed
    obtain ⟨rfl, rfl, rfl, completesShape⟩ := completes
    rw [qualify, ← Shape.completes_iff_eq_qualify.mp completesShape]
  · rintro rfl
    exact ⟨rfl, rfl, rfl, Shape.completes_iff_eq_qualify.mpr rfl⟩

/-- Declarations of one package are completed one after the other. -/
theorem Declaration.forall₂_completes_iff {declarations completed : List Declaration} :
    List.Forall₂ (Declaration.Completes path) declarations completed ↔
      completed = declarations.map (·.qualify path) := by
  refine forall₂_iff_eq_map fun declaration _ completed => ?_
  exact Declaration.completes_iff_eq_qualify

end MarkerManifests
