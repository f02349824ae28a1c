import MarkerManifests.Marker.Index
import MarkerManifests.Vocabulary.Schema

/-!
# Groups and versions of packages

The comment of a package names the group of its resources and the version that it describes.
-/

namespace MarkerManifests
namespace MarkerIndex

/-- The group and the version that a package comment names. -/
def groupVersion? (index : MarkerIndex) (package : Package) : Option (String × String) := do
  let markers := index.package package.name
  let group ← (markers.first? Vocabulary.groupName).bind (·.string? Definition.unnamed)
  let version ← (markers.first? Vocabulary.versionName).bind (·.string? Definition.unnamed)
  return (group, version)

end MarkerIndex
end MarkerManifests
