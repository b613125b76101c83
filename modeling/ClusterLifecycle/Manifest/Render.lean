import ClusterLifecycle.Manifest.Library
import ClusterLifecycle.Manifest.View
import ClusterLifecycle.Template.Evaluation
import ClusterLifecycle.Text.Blank
import ClusterLifecycle.Text.Property

/-!
Rendering what is handed to the tools: the values of a release, or a bundle of manifests. In a bundle
every document is introduced by a line of three hyphens and ends with one line break.
-/

namespace ClusterLifecycle.Manifest

open Text
open Template (Scope)

def separator : List Char := ['-', '-', '-', '\n']

def bundle (documents : List (List Char)) : List Char :=
  documents.flatMap fun document => separator ++ trimEnd document ++ ['\n']

def kindField : List Char := ['k', 'i', 'n', 'd', ':']

/-- The kinds of the documents in a text, from the lines that begin with that field. -/
def kinds (text : List Char) : List (List Char) :=
  (lines text).filterMap fun line => (after? kindField line).map trim

def loggedList (texts : List (List Char)) : List Char :=
  '[' :: [',', ' '].intercalate (texts.map shownText) ++ [']']

/-- The text that a template of a library makes of the variables in sight. -/
def renderTemplate (library : Library) (name : String) (scope : Scope) :
    Except Template.Failure (List Char) :=
  match library name with
  | .error .notFound => .error (.notFound name)
  | .error _ => .error (.render name .invalidOperation)
  | .ok source =>
    match Template.Statement.ofText source.toList with
    | .error fault => .error (.render name fault)
    | .ok statements =>
      match Template.Statement.renderAll scope statements with
      | .error fault => .error (.render name fault)
      | .ok (_, text) => .ok text

/-- Where the templates come from, and the address of the identity service for the manifests. -/
structure Renderer where
  library : Library
  authUrl : Option String

namespace Renderer

def document (renderer : Renderer) (scope : Scope) (name : String) : Except Failure (List Char) :=
  orFail .template (renderTemplate renderer.library name scope)

def values (renderer : Renderer) (cluster : Cluster) (template : ClusterTemplate) :
    Except Failure String := do
  let scope ← cluster.context (some template) none
  .ok (String.ofList (← renderer.document scope valuesName))

/-- The documents of a bundle; without a template there is only the cluster itself. -/
def documentNames : Option ClusterTemplate → List String
  | some _ => [secretName, templateName, clusterName]
  | none => [clusterName]

def manifests (renderer : Renderer) (cluster : Cluster) (template : Option ClusterTemplate) :
    Except Failure String := do
  let scope ← cluster.context template renderer.authUrl
  let documents ← (documentNames template).mapM (renderer.document scope)
  .ok (String.ofList (bundle documents))

end Renderer

end ClusterLifecycle.Manifest
