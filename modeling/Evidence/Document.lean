import Evidence.Artifact
import Evidence.Yaml.Printer

/-!
# Documents as artifacts

Storing a resource as a YAML document in the directory of a test.

Main definitions:

- `Document.artifactName` and `Document.artifacts`: the artifact that a document becomes.
- `Document.store`: storing a resource, which may refuse to be written as a document.
-/

namespace Evidence.Document

/-- The name of the artifact with the document of a resource. -/
def artifactName (name : Text) : Text :=
  name ++ ".yaml".toList

/-- The one artifact that the document of a resource becomes. -/
def artifacts (name : Text) (value : Yaml.Value) : Artifacts :=
  .single (artifactName name) (Utf8.encode (Yaml.render value))

/-- Store a resource in the directory of a test.  A resource that refuses to be written leaves
the tree as it was. -/
def store (resource : Except Text Yaml.Value) (name : Text) (settings : Settings)
    (testName : Option Text) (cwd : Location) (tree : FileTree) : FileTree × Option StoreError :=
  match resource with
  | .ok value => (artifacts name value).store cwd (settings.testDir testName) tree
  | .error reason => (tree, some (.yaml name reason))

end Evidence.Document
