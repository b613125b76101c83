import ClusterLifecycle.Manifest.Render
import ClusterLifecycle.Proofs.TemplateLines

/-!
The templates that come with the program, line by line. Each of them is read as the statements of its
lines.
-/

namespace ClusterLifecycle.Template

namespace Expression

mutual

/-- The tokens of an expression, which is a variable with its fields and filters. -/
def tokens : Expression → List Token
  | .name word _ => [.name word]
  | .field record word => tokens record ++ [.mark ".", .name word]
  | .filter word operand [] => tokens operand ++ [.mark "|", .name word]
  | .filter word operand arguments =>
    tokens operand ++ [.mark "|", .name word, .mark "("] ++ tokensAll arguments ++ [.mark ")"]
  | _ => []

def tokensAll : List Expression → List Token
  | [] => []
  | expression :: rest => tokens expression ++ tokensAll rest

end

end Expression

namespace Statement

def tag (line : Nat) (inner : List Token) : List Placed :=
  (.openStatement, line) :: inner.map (·, line) ++ [(.closeStatement, line)]

mutual

/-- The tokens of a statement that begins on a line, and the line it ends on. Where a statement has a
line for itself, the text after it begins on the next one. -/
def tokens (line : Nat) : Statement → List Placed × Nat
  | .plain content => ([(.plain content, line)], line + breaks content)
  | .output value =>
    ((.openOutput, line) :: value.tokens.map (·, line) ++ [(.closeOutput, line)], line)
  | .capture name body =>
    let (inner, last) := tokensAll (line + 1) body
    (tag line [.name "set", .name name] ++ inner ++ tag last [.name "endset"], last + 1)
  | .choose condition yes _ =>
    let (inner, last) := tokensAll (line + 1) yes
    (tag line (.name "if" :: condition.tokens) ++ inner ++ tag last [.name "endif"], last + 1)
  | .each name elements body _ =>
    let (inner, last) := tokensAll (line + 1) body
    (tag line (.name "for" :: .name name :: .name "in" :: elements.tokens) ++ inner ++
      tag last [.name "endfor"], last + 1)
  | _ => ([], line)

def tokensAll (line : Nat) : List Statement → List Placed × Nat
  | [] => ([], line)
  | statement :: rest =>
    let (first, next) := tokens line statement
    let (more, last) := tokensAll next rest
    (first ++ more, last)

end

end Statement

end ClusterLifecycle.Template

namespace ClusterLifecycle.Manifest

open Template Text

/-! ### Lines -/

/-- The column of the lines on a group of workers, and the names in them besides its own and that of
its scaling. -/
structure GroupNames where
  column : Nat
  flavor : String
  count : String
  lower : String
  upper : String
  deep : 2 ≤ column := by decide
  plain : ∀ name ∈ [flavor, count, lower, upper], Line.isPlainName name.toList := by decide
  apart : ["name", flavor, count, "autoscale", lower, upper].Nodup := by decide

def groupHead (names : GroupNames) (line : Nat) : List (Line Slot) := [
  .entry names.column true "name" (some (quotation "group" line ["name"])),
  .entry names.column false names.flavor (some (quotation "group" (line + 1) ["flavor"])),
  .entry names.column false names.count (some (printed "group" (line + 2) ["count"])),
  .entry names.column false "autoscale" (some (printed "group" (line + 3) ["autoscale"]))]

def groupBounds (names : GroupNames) (line : Nat) : List (Line Slot) := [
  .entry names.column false names.lower (some (orElse "group" line "min_count" "count")),
  .entry names.column false names.upper (some (orElse "group" (line + 1) "max_count" "count"))]

def groupBody (names : GroupNames) (line : Nat) : List Statement :=
  statements [] (groupHead names (line + 1)) ++
    [.choose (fields "group" (line + 5) ["autoscale"]) (statements [] (groupBounds names (line + 6))) []]

def groupLoop (names : GroupNames) (line : Nat) : Statement :=
  .each "group" (fields "cluster" line ["node_groups"]) (groupBody names line) []

def valuesHead : List (Line Slot) := [
  .remark "# Helm values for the Cluster API openstack-cluster chart,",
  .remark "# or any chart that supports the same interface",
  .remark "",
  .remark "# From the template",
  .entry 0 false "kubernetesVersion" (some (quotation "template" 5 ["kubernetes_version"])),
  .entry 0 false "machineImage" (some (quotation "template" 6 ["image"])),
  .remark "",
  .remark "# Cluster specific, or inherited",
  .entry 0 false "cloudCredentialsSecretName" (some (quotation "cluster" 9 ["credentials_secret"])),
  .remark "",
  .entry 0 false "controlPlane" none,
  .entry 2 false "machineFlavor" (some (quotation "cluster" 12 ["control_plane", "flavor"])),
  .entry 2 false "machineCount" (some (printed "cluster" 13 ["control_plane", "count"])),
  .remark "",
  .entry 0 false "nodeGroups" none]

def valuesNames : GroupNames where
  column := 4
  flavor := "machineFlavor"
  count := "machineCount"
  lower := "machineCountMin"
  upper := "machineCountMax"

def valuesStatements : List Statement := statements [] valuesHead ++ [groupLoop valuesNames 16]

def templateHead : List (Line Slot) := [
  .entry 0 false "apiVersion" (some (.word "azimuth.stackhpc.com/v1alpha1")),
  .entry 0 false "kind" (some (.word "ClusterTemplate")),
  .entry 0 false "metadata" none,
  .entry 2 false "name" (some (quotation "template" 4 ["uuid"])),
  .entry 0 false "spec" none,
  .entry 2 false "label" (some (quotation "template" 6 ["name"])),
  .entry 2 false "deprecated" (some (printed "template" 7 ["deprecated"])),
  .entry 2 false "values" none,
  .entry 4 false "kubernetesVersion" (some (quotation "template" 9 ["kubernetes_version"])),
  .entry 4 false "machineImage" (some (quotation "template" 10 ["image"]))]

def clusterHead : List (Line Slot) := [
  .entry 0 false "apiVersion" (some (.word "azimuth.stackhpc.com/v1alpha1")),
  .entry 0 false "kind" (some (.word "Cluster")),
  .entry 0 false "metadata" none,
  .entry 2 false "name" (some (quotation "cluster" 4 ["uuid"])),
  .entry 2 false "labels" none,
  .entry 4 false "capstan.io/project" (some (quotation "cluster" 6 ["project_id"])),
  .entry 0 false "spec" none,
  .entry 2 false "label" (some (quotation "cluster" 8 ["name"])),
  .entry 2 false "templateName" (some (quotation "cluster" 9 ["template_name"])),
  .entry 2 false "cloudCredentialsSecretName" (some (quotation "cluster" 10 ["cloud_credentials_secret"])),
  .entry 2 false "controlPlaneMachineSize" (some (quotation "cluster" 11 ["control_plane", "flavor"])),
  .entry 2 false "controlPlaneMachineCount" (some (printed "cluster" 12 ["control_plane", "count"])),
  .entry 2 false "nodeGroups" none]

def clusterNames : GroupNames where
  column := 6
  flavor := "machineSize"
  count := "count"
  lower := "minCount"
  upper := "maxCount"

def clusterStatements : List Statement := statements [] clusterHead ++ [groupLoop clusterNames 14]

def templateStatements : List Statement := (statements [] templateHead).dropLast

def cloudsLines : List (Line Slot) := [
  .entry 0 false "clouds" none,
  .entry 2 false "openstack" none,
  .entry 4 false "auth" none,
  .entry 6 false "auth_url" (some (.output (.filter "tojson" (.filter "required" (.name "auth_url" 5) []) []))),
  .entry 6 false "user_id" (some (quotation "cluster" 6 ["credentials", "trustee_user_id"])),
  .entry 6 false "password" (some (quotation "cluster" 7 ["credentials", "trustee_password"])),
  .entry 6 false "trust_id" (some (quotation "cluster" 8 ["credentials", "trust_id"])),
  .entry 4 false "auth_type" (some (.word "password")),
  .entry 4 false "identity_api_version" (some (.word "3")),
  .entry 4 false "interface" (some (.word "public"))]

def secretHead : List (Line Slot) := [
  .entry 0 false "apiVersion" (some (.word "v1")),
  .entry 0 false "kind" (some (.word "Secret")),
  .entry 0 false "metadata" none,
  .entry 2 false "name" (some (quotation "cluster" 16 ["cloud_credentials_secret"])),
  .entry 2 false "labels" none,
  .entry 4 false "capstan.io/cluster" (some (quotation "cluster" 18 ["uuid"])),
  .entry 0 false "type" (some (.word "Opaque")),
  .entry 0 false "data" none,
  .entry 2 false "clouds.yaml" (some (.output (.filter "tojson" (.filter "base64_encode" (.name "clouds" 21) []) [])))]

def secretStatements : List Statement :=
  .capture "clouds" (statements [] cloudsLines) :: (statements [] secretHead).dropLast

/-! ### Reading -/

/-- The characters of lines, each with its line break. -/
inductive Spelled : List String → List Char → Prop
  | nil : Spelled [] []
  | cons {line : String} {chars : List Char} {lines : List String} {text : List Char}
    (spelled : line = String.ofList chars) (more : Spelled lines text) :
    Spelled (line :: lines) (chars ++ '\n' :: text)

theorem Spelled.toList_textOf {lines : List String} {text : List Char} (spelled : Spelled lines text) :
    (textOf lines).toList = text := by
  rw [textOf, String.toList_ofList]
  induction spelled with
  | nil => rfl
  | cons first _ ih => rw [List.flatMap_cons, ih, first, String.toList_ofList, List.append_assoc]; rfl

/-- A template is read as statements if their tokens are those of its text. -/
theorem ofText_textOf {lines : List String} {text : List Char} {found : List Statement}
    (spelled : Spelled lines text) (scanned : Token.ofText text = (Statement.tokensAll 1 found).1)
    (read : Statement.readBody (3 * ((Statement.tokensAll 1 found).1.length + 1)) 0
      (Statement.tokensAll 1 found).1 = .ok (found, [])) :
    Statement.ofText (textOf lines).toList = .ok found := by
  rw [spelled.toList_textOf, Statement.ofText, scanned, read]
  rfl

set_option maxRecDepth 20000

theorem ofText_values : Statement.ofText (textOf valuesLines).toList = .ok valuesStatements := by
  apply ofText_textOf
  · unfold valuesLines
    repeat' first | exact .nil | exact rfl | apply Spelled.cons
  · decide +kernel
  · cbv

theorem ofText_secret : Statement.ofText (textOf secretLines).toList = .ok secretStatements := by
  apply ofText_textOf
  · unfold secretLines
    repeat' first | exact .nil | exact rfl | apply Spelled.cons
  · decide +kernel
  · cbv

theorem ofText_template : Statement.ofText (textOf templateLines).toList = .ok templateStatements := by
  apply ofText_textOf
  · unfold templateLines
    repeat' first | exact .nil | exact rfl | apply Spelled.cons
  · decide +kernel
  · cbv

theorem ofText_cluster : Statement.ofText (textOf clusterLines).toList = .ok clusterStatements := by
  apply ofText_textOf
  · unfold clusterLines
    repeat' first | exact .nil | exact rfl | apply Spelled.cons
  · decide +kernel
  · cbv

end ClusterLifecycle.Manifest
