import StableFleet.Error
import StableFleet.Json.Complaint
import StableFleet.Json.Layout
import StableFleet.Json.Reader
import StableFleet.Json.Shape
import StableFleet.Manifest.Order

/-!
# Manifests as documents

A manifest is written in canonical order, indented by tabs, with a line end at
the end; a section without entries and a model that is empty are left out. When
it is read, members that name nothing are passed over, and a section may also be
null.
-/

namespace StableFleet

open Json (Complaint Value Shape)

namespace EntryKey

/-- A key as a value. -/
def toValue (key : EntryKey) : Value :=
  .ofMembers <|
    ("buildTarget", .ofMembers [("name", .ofText key.buildTarget)]) ::
      if key.model.isEmpty then [] else [("modelId", .ofMembers [("value", .ofText key.model)])]

/-- The shape of a key. -/
def shape : Shape EntryKey :=
  Shape.record [
    Shape.field "buildTarget" (Shape.record [Shape.field "name" Shape.text fun _ name => name] "")
      fun key name => { key with buildTarget := name },
    Shape.field "modelId" (Shape.record [Shape.field "value" Shape.text fun _ name => name] "")
      fun key name => { key with model := name }] {}

end EntryKey

namespace VersionEntry

/-- An entry as a value. -/
def toValue (entry : VersionEntry) : Value :=
  .ofMembers [("key", entry.key.toValue), ("version", .ofText entry.version)]

/-- The shape of an entry. -/
def shape : Shape VersionEntry :=
  Shape.record [
    Shape.field "key" EntryKey.shape fun entry key => { entry with key := key },
    Shape.field "version" Shape.text fun entry version => { entry with version := version }] {}

end VersionEntry

namespace Manifest

/-- A section as a member, or nothing when it has no entry. -/
def sectionMember (manifest : Manifest) (part : Section) : Option (String × Value) :=
  if (manifest.entries part).isEmpty then none
  else some (part.name, .array ((manifest.entries part).map VersionEntry.toValue))

/-- A manifest as a value, its entries in the order they have. -/
def toValue (manifest : Manifest) : Value :=
  .ofMembers (Section.all.filterMap manifest.sectionMember)

/-- The shape of a section: its entries, or null for none. -/
def sectionShape : Shape (List VersionEntry) := fun value =>
  (Shape.nullable (Shape.list VersionEntry.shape) value).map (·.getD [])

/-- The shape of a manifest. -/
def shape : Shape Manifest :=
  Shape.record
    (Section.all.map fun part =>
      Shape.field part.name sectionShape fun manifest entries => manifest.modify part fun _ => entries)
    {}

/-- The failure of bytes that are no manifest. -/
def undecodable (reason : String) : Error :=
  .decode ("cannot decode stable version manifest: " ++ reason)

/-- The manifest that some bytes hold. -/
def decode [Complaint] (bytes : Bytes) : Except Error Manifest :=
  match Value.parse? bytes with
  | none => .error (undecodable (Complaint.about "manifest" bytes))
  | some value =>
    match shape value with
    | .ok manifest => .ok manifest
    | .error _ => .error (undecodable (Complaint.about "manifest" bytes))

/-- The canonical bytes of a manifest. -/
def encode (manifest : Manifest) : Bytes :=
  manifest.sort.toValue.writeTabbed ++ [Json.ascii '\n']

end Manifest

end StableFleet
