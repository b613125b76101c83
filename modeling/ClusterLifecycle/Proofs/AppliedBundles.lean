import ClusterLifecycle.Proofs.BundleDocuments

/-!
The bundles that operations hand to the tool. What is applied has the cluster refer to a template by
the identifier on its record, and brings along the template that the record has with it.
-/

namespace ClusterLifecycle.Driver

open Program Plan Manifest Text

variable {driver : Driver} {cluster after : Cluster} {operation : Operation} {events : List Plan.Event}
  {result : Except Failure Unit} {command : Command} {answer : RunResult}

theorem issued_by_operation (run : (driver.perform operation cluster).Yields events (result, after))
    (issued : ran command answer ∈ events) :
    ∃ call, driver.submission cluster operation = .ok call ∧ command = call.command := by
  cases operated run with
  | refused reason => cases issued
  | @failed call _ _ call_eq read =>
    obtain ⟨rfl, -⟩ := by simpa using issued
    exact ⟨call, call_eq, rfl⟩
  | @handedOver call _ _ call_eq read =>
    obtain ⟨rfl, -⟩ := by simpa using issued
    exact ⟨call, call_eq, rfl⟩

theorem manifests_of_desired {text : String} (backend : driver.config.backend = .manifests)
    (desired : driver.desired cluster = .ok text) :
    ∃ template, cluster.template = some template ∧
      driver.renderer.manifests cluster (some template) = .ok text := by
  obtain ⟨template, required, rendered⟩ := bind_eq_ok.1 desired
  have own : cluster.template = some template := by
    unfold requiredTemplate at required
    cases given : cluster.template with
    | none => rw [given] at required; cases required
    | some given' =>
      rw [given] at required
      exact congrArg some (Except.ok.inj required)
  refine ⟨template, own, ?_⟩
  unfold render at rendered
  rw [backend] at rendered
  exact rendered

theorem submission_manifests {call : Call Unit} (backend : driver.config.backend = .manifests)
    (submitted : driver.submission cluster operation = .ok call) :
    ∃ text,
      (operation ≠ .delete ∧ call.command = (Kubectl.apply driver.config text).command ∧
        ∃ template, cluster.template = some template ∧
          driver.renderer.manifests cluster (some template) = .ok text) ∨
      (operation = .delete ∧ call.command = (Kubectl.delete driver.config text).command ∧
        driver.renderer.manifests cluster none = .ok text) := by
  cases operation with
  | create =>
    simp only [submission, backend] at submitted
    obtain ⟨text, desired, same⟩ := bind_eq_ok.1 submitted
    rw [← Except.ok.inj same]
    exact ⟨text, .inl ⟨by decide, rfl, manifests_of_desired backend desired⟩⟩
  | update =>
    simp only [submission, backend] at submitted
    obtain ⟨text, desired, same⟩ := bind_eq_ok.1 submitted
    rw [← Except.ok.inj same]
    exact ⟨text, .inl ⟨by decide, rfl, manifests_of_desired backend desired⟩⟩
  | delete =>
    simp only [submission, backend] at submitted
    obtain ⟨text, rendered, same⟩ := bind_eq_ok.1 submitted
    rw [← Except.ok.inj same]
    exact ⟨text, .inr ⟨rfl, rfl, rendered⟩⟩

theorem scalar_injective {s t : String} (same : scalar s = scalar t) : s = t := by
  have read := quotedText?_scalar s
  rw [same, quotedText?_scalar] at read
  exact (Option.some.inj read).symm

theorem toString_injective {uuid other : Uuid} (same : toString uuid = toString other) : uuid = other := by
  refine Uuid.toText_injective ?_
  rw [← Uuid.toList_toString, same, Uuid.toList_toString]

/-- The template that an applied cluster refers to is the one applied with it exactly where the
record refers to the template that it has with it, which no check asks for. -/
theorem applied_template_named_iff (library : driver.renderer.library = builtIn)
    (backend : driver.config.backend = .manifests) (applies : operation ≠ .delete)
    (run : (driver.perform operation cluster).Yields events (result, after))
    (issued : ran command answer ∈ events) :
    ∃ template text referred name, cluster.validate = .ok () ∧ cluster.template = some template ∧
      command = (Kubectl.apply driver.config text).command ∧
      bundled? "Cluster" ["spec", "templateName"] text.toList = some referred ∧
      bundled? "ClusterTemplate" ["metadata", "name"] text.toList = some name ∧
      quotedText? referred = some (toString cluster.templateId) ∧
      quotedText? name = some (toString template.uuid) ∧
      (referred = name ↔ cluster.templateId = template.uuid) := by
  obtain ⟨call, submitted, rfl⟩ := issued_by_operation run issued
  obtain ⟨text, ⟨-, command, template, own, rendered⟩ | ⟨deletes, -⟩⟩ :=
    submission_manifests backend submitted
  · obtain ⟨refers, -, bundled⟩ := bundled?_manifests library rendered
    have named := (bundled template rfl).2
    refine ⟨template, text, _, _, (complete_of_manifests library rendered).1, own, command, refers, named,
      quotedText?_scalar _, quotedText?_scalar _, ?_⟩
    constructor
    · intro same
      exact toString_injective (scalar_injective same)
    · intro same
      rw [same]
  · exact absurd deletes applies

def manifesting : Driver :=
  ⟨{ Config.initial with backend := .manifests }, ⟨builtIn, some "identity"⟩⟩

def applied (text : String) (cluster : Cluster) : List Plan.Event :=
  [ran (Kubectl.apply manifesting.config text).command (.ok ⟨"", ""⟩),
    kept (submitted cluster .create) (.ok ())]

theorem yields_applied {template : ClusterTemplate} (valid : cluster.validate = .ok ())
    (own : cluster.template = some template) (versioned : template.kubernetesVersion.isSome) :
    ∃ text, manifesting.renderer.manifests cluster (some template) = .ok text ∧
      (manifesting.perform .create cluster).Yields (applied text cluster)
        (.ok (), submitted cluster .create) := by
  obtain ⟨controlPlane, plane⟩ := exists_controlPlane valid
  obtain ⟨version, versioned⟩ := Option.isSome_iff_exists.1 versioned
  have complete : Complete manifesting.renderer version "identity" (some template) := ⟨versioned, rfl⟩
  obtain ⟨_, texts, -, -, rendered, -⟩ := manifests_of_valid rfl valid plane complete
  have desired : manifesting.desired cluster = .ok (String.ofList (bundle texts)) := by
    unfold desired requiredTemplate
    rw [own]
    exact rendered
  have submission : manifesting.submission cluster .create =
      .ok (Kubectl.apply manifesting.config (String.ofList (bundle texts))).outcome := by
    unfold submission
    rw [desired]
    rfl
  refine ⟨String.ofList (bundle texts), rendered, yields_operation.2 ?_⟩
  rw [submission]
  exact ⟨.ok ⟨"", ""⟩, .ok (), rfl, rfl, rfl⟩

theorem applied_template_named_iff_awkward :
    ∃ text referred name, (manifesting.perform .create awkward).Yields (applied text awkward)
        (.ok (), submitted awkward .create) ∧
      bundled? "Cluster" ["spec", "templateName"] text.toList = some referred ∧
      bundled? "ClusterTemplate" ["metadata", "name"] text.toList = some name ∧ referred = name := by
  have valid : awkward.validate = .ok () := by decide
  obtain ⟨text, -, run⟩ := yields_applied valid rfl (by decide)
  obtain ⟨template, _, referred, name, -, own, same, refers, named, -, -, iff⟩ :=
    applied_template_named_iff rfl rfl (by decide) run (List.mem_cons_self ..)
  obtain rfl := Option.some.inj (congrArg Command.input same)
  obtain rfl := Option.some.inj own
  exact ⟨text, referred, name, run, refers, named, iff.2 rfl⟩

/-- A cluster whose record refers to another template than the one it has with it. -/
def astray : Cluster :=
  { awkward with templateId := ⟨1⟩ }

/-- An applied cluster does not always refer to the template that is applied with it. -/
theorem not_applied_template_named :
    ¬ ∀ (driver : Driver) (cluster after : Cluster) (operation : Operation) (events : List Plan.Event)
      (result : Except Failure Unit) (text : String) (answer : RunResult) (referred name : List Char),
      driver.renderer.library = builtIn → driver.config.backend = .manifests → cluster.validate = .ok () →
        (driver.perform operation cluster).Yields events (result, after) →
        ran (Kubectl.apply driver.config text).command answer ∈ events →
        bundled? "Cluster" ["spec", "templateName"] text.toList = some referred →
        bundled? "ClusterTemplate" ["metadata", "name"] text.toList = some name → referred = name := by
  intro claim
  have valid : astray.validate = .ok () := by decide
  obtain ⟨text, rendered, run⟩ := yields_applied valid rfl (by decide)
  obtain ⟨refers, -, bundled⟩ := bundled?_manifests rfl rendered
  have same := claim _ _ _ _ _ _ _ _ _ _ rfl rfl valid run (List.mem_cons_self ..) refers (bundled _ rfl).2
  exact absurd (toString_injective (scalar_injective same)) (by decide)

end ClusterLifecycle.Driver
