import MarkerManifests.Marker.Registry
import MarkerManifests.Text.Displayed

/-!
# Help

The catalog of the markers of a registry, by categories in alphabetical order.
-/

namespace MarkerManifests

/-- There is no category with a name. -/
structure UnknownCategory where
  name : String
  /-- The names of all categories. -/
  known : List String
  deriving DecidableEq

/-- The wording of the error. -/
def UnknownCategory.message (error : UnknownCategory) : String :=
  "unknown marker category '" ++ error.name ++ "' (known: " ++
    Text.displayedList error.known ++ ")"

/-- The lines of an entry. Its details come last, if they are asked for. -/
def HelpEntry.render (details : Bool) (entry : HelpEntry) : String :=
  "  +" ++ entry.name ++ " (" ++ entry.applicability.word ++ "): " ++ entry.summary ++ "\n" ++
    String.join (entry.arguments.map fun argument => "      " ++ argument ++ "\n") ++
    if details && entry.details != "" then "      " ++ entry.details ++ "\n" else ""

namespace Registry

/-- The lines of a category. -/
def categoryHelp (registry : Registry) (details : Bool) (category : String) : String :=
  category ++ "\n" ++ String.join ((registry.helpFor category).map (HelpEntry.render details))

/-- The categories that are shown: all, or one by its name. -/
def shownCategories (registry : Registry) : Option String → Except UnknownCategory (List String)
  | none => .ok registry.categories.toList
  | some category =>
    if category ∈ registry.categories then .ok [category]
    else .error ⟨category, registry.categories.toList⟩

/-- The lines of the categories that are shown, with an empty line between categories. -/
def help (registry : Registry) (category : Option String) (details : Bool) :
    Except UnknownCategory String :=
  (registry.shownCategories category).map fun categories =>
    "\n".intercalate (categories.map (registry.categoryHelp details))

end Registry
end MarkerManifests
