import MarkerManifests.Access.Role
import MarkerManifests.Generator.Artifact
import MarkerManifests.Webhook.Configuration
import MarkerManifests.Yaml.Reader

/-!
# Generator configurations

Which documents are read, which gates are on, which generators run and where their results go. A
configuration document may leave out every key; other values replace what a configuration says.
-/

namespace MarkerManifests

/-- Where results go. -/
structure OutputSettings where
  /-- The directory for results; without one they are printed. -/
  directory : Option String := none
  format : OutputFormat := .yaml
  deriving DecidableEq

/-- The settings of resource definitions. -/
structure ResourceSettings where
  enabled : Bool := true
  /-- The number of characters to which descriptions are cut. -/
  descriptionLimit : Option UInt64 := none
  deriving DecidableEq

/-- The settings of roles. -/
structure RoleSettings where
  enabled : Bool := true
  roleName : String := AccessRules.defaultRoleName
  deriving DecidableEq

/-- The settings of webhooks. -/
structure WebhookSettings where
  enabled : Bool := true
  names : WebhookNames := {}
  deriving DecidableEq

/-- The settings of metrics. -/
structure MetricsSettings where
  enabled : Bool := true
  deriving DecidableEq

/-- The configuration of a run. -/
structure GeneratorConfiguration where
  /-- The paths of the documents that are read. -/
  inputs : List String := []
  featureGates : String := ""
  output : OutputSettings := {}
  resources : ResourceSettings := {}
  roles : RoleSettings := {}
  webhooks : WebhookSettings := {}
  metrics : MetricsSettings := {}
  deriving DecidableEq

/-- Values that replace those of a configuration. -/
structure Overrides where
  /-- Documents to read in place of others, if there are any. -/
  inputs : List String := []
  featureGates : Option String := none
  directory : Option String := none
  format : Option OutputFormat := none
  deriving DecidableEq

namespace GeneratorConfiguration

/-- Applies overrides. -/
def override (configuration : GeneratorConfiguration) (overrides : Overrides) :
    GeneratorConfiguration :=
  { configuration with
    inputs := if overrides.inputs.isEmpty then configuration.inputs else overrides.inputs
    featureGates := overrides.featureGates.getD configuration.featureGates
    output := {
      directory := overrides.directory.or configuration.output.directory
      format := overrides.format.getD configuration.output.format } }

/-- Changes the paths of a configuration. -/
def mapPaths (configuration : GeneratorConfiguration) (change : String → String) :
    GeneratorConfiguration :=
  { configuration with
    inputs := configuration.inputs.map change
    output := {
      configuration.output with
      directory := configuration.output.directory.map change } }

/-! ## Reading -/

/-- The values of keys in a mapping, in which no key occurs twice. Other keys are ignored, but every
key is a scalar. -/
def values? (keys : List String) (tree : Yaml.Tree) : Option (List (Option Yaml.Tree)) := do
  let entries ← (← tree.entries?).mapM fun (key, value) => do return (← key.text?, value)
  keys.mapM fun key =>
    match entries.filter (·.1 = key) with
    | [] => some none
    | [(_, value)] => some (some value)
    | _ => none

/-- Reads a value, or takes the default if it is missing. -/
def readOr {Value : Type} (read? : Yaml.Tree → Option Value) (default : Value) :
    Option Yaml.Tree → Option Value
  | none => some default
  | some tree => read? tree

/-- Reads a value where null means that it is absent. -/
def nullable? {Value : Type} (read? : Yaml.Tree → Option Value) (tree : Yaml.Tree) :
    Option (Option Value) :=
  if tree.isNull then some none else (read? tree).map some

/-- A natural number of 64 bits. -/
def natural? (tree : Yaml.Tree) : Option UInt64 := do
  let value ← tree.integer?
  if 0 ≤ value ∧ value < Nat.pow 2 64 then some value.toNat.toUInt64 else none

/-- A list of texts. -/
def texts? (tree : Yaml.Tree) : Option (List String) := do
  (← tree.items?).mapM Yaml.Tree.text?

/-- Reads where results go. -/
def outputOf? (tree : Yaml.Tree) : Option OutputSettings := do
  match ← values? ["dir", "format"] tree with
  | [directory, format] => return {
      directory := ← readOr (nullable? Yaml.Tree.text?) none directory
      format := ← readOr (fun tree => tree.text?.bind OutputFormat.ofWord?) .yaml format }
  | _ => none

/-- Reads the settings of resource definitions. -/
def resourcesOf? (tree : Yaml.Tree) : Option ResourceSettings := do
  match ← values? ["enabled", "maxDescriptionLength"] tree with
  | [enabled, limit] => return {
      enabled := ← readOr Yaml.Tree.bool? true enabled
      descriptionLimit := ← readOr (nullable? natural?) none limit }
  | _ => none

/-- Reads the settings of roles. -/
def rolesOf? (tree : Yaml.Tree) : Option RoleSettings := do
  match ← values? ["enabled", "roleName"] tree with
  | [enabled, name] => return {
      enabled := ← readOr Yaml.Tree.bool? true enabled
      roleName := ← readOr Yaml.Tree.text? AccessRules.defaultRoleName name }
  | _ => none

/-- Reads the settings of webhooks. -/
def webhooksOf? (tree : Yaml.Tree) : Option WebhookSettings := do
  let names : WebhookNames := {}
  match ← values? ["enabled", "configName", "serviceName", "serviceNamespace"] tree with
  | [enabled, configuration, service, serviceNamespace] => return {
      enabled := ← readOr Yaml.Tree.bool? true enabled
      names := {
        configuration := ← readOr Yaml.Tree.text? names.configuration configuration
        service := ← readOr Yaml.Tree.text? names.service service
        serviceNamespace := ← readOr Yaml.Tree.text? names.serviceNamespace serviceNamespace } }
  | _ => none

/-- Reads the settings of metrics. -/
def metricsOf? (tree : Yaml.Tree) : Option MetricsSettings := do
  match ← values? ["enabled"] tree with
  | [enabled] => return { enabled := ← readOr Yaml.Tree.bool? true enabled }
  | _ => none

/-- The keys of a configuration document. -/
def keys : List String :=
  ["inputs", "featureGates", "output", "crd", "rbac", "webhook", "metrics"]

/-- Reads a configuration. -/
def ofTree? (tree : Yaml.Tree) : Option GeneratorConfiguration := do
  match ← values? keys tree with
  | [inputs, featureGates, output, resources, roles, webhooks, metrics] => return {
      inputs := ← readOr texts? [] inputs
      featureGates := ← readOr Yaml.Tree.text? "" featureGates
      output := ← readOr outputOf? {} output
      resources := ← readOr resourcesOf? {} resources
      roles := ← readOr rolesOf? {} roles
      webhooks := ← readOr webhooksOf? {} webhooks
      metrics := ← readOr metricsOf? {} metrics }
  | _ => none

/-- The configuration that a document describes. -/
def ofYaml? (text : String) : Option GeneratorConfiguration := do
  ofTree? (← Yaml.read? text.toList)

/-! ## Writing -/

/-- A value that may be absent, which is written as null. -/
def nullableJson {Value : Type} (toJson : Value → Json) : Option Value → Json
  | none => .null
  | some value => toJson value

/-- Writes a configuration. -/
def toJson (configuration : GeneratorConfiguration) : Json :=
  let names := configuration.webhooks.names
  .object [
    ("inputs", .strings configuration.inputs),
    ("featureGates", .string configuration.featureGates),
    ("output", .object [
      ("dir", nullableJson .string configuration.output.directory),
      ("format", .string configuration.output.format.word)]),
    ("crd", .object [
      ("enabled", .bool configuration.resources.enabled),
      ("maxDescriptionLength",
        nullableJson Json.ofUInt64 configuration.resources.descriptionLimit)]),
    ("rbac", .object [
      ("enabled", .bool configuration.roles.enabled),
      ("roleName", .string configuration.roles.roleName)]),
    ("webhook", .object [
      ("enabled", .bool configuration.webhooks.enabled),
      ("configName", .string names.configuration),
      ("serviceName", .string names.service),
      ("serviceNamespace", .string names.serviceNamespace)]),
    ("metrics", .object [("enabled", .bool configuration.metrics.enabled)])]

end GeneratorConfiguration
end MarkerManifests
