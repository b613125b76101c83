import ClusterLifecycle.Proofs.OperationEffects
import ClusterLifecycle.Proofs.TaskReports

/-!
What is shown of a cluster is what is submitted for it. Rendering a file prints the very text that the
tool is fed when the record in it is created or updated, and without the template the one that it is
fed when the cluster is deleted. Where nothing can be shown nothing is submitted, for the same reason.
-/

namespace ClusterLifecycle

open Program Host

namespace Driver

open Plan Manifest

variable {driver : Driver} {cluster after : Cluster} {operation : Operation} {events : List Plan.Event}
  {result : Except Failure Unit} {given : Except Failure String}

/-- An operation that has to render a text feeds this text to its command, or is refused with the
failure to render it. -/
def Feeds (config : Config) (cluster : Cluster) (operation : Operation) (given : Except Failure String)
    (events : List Plan.Event) (result : Except Failure Unit) (after : Cluster) : Prop :=
  match given with
  | .ok text => Plan.commands events = [order config cluster.uuid operation (some text)]
  | .error failure => events = [] ∧ result = .error failure ∧ after = cluster

theorem feeds_of_operation (offers : Offers driver.config.backend operation)
    (templated : Templated cluster operation) (needs : driver.rendering? cluster operation = some given)
    (run : (driver.perform operation cluster).Yields events (result, after)) :
    Feeds driver.config cluster operation given events result after := by
  have effects := operation_commands run
  rw [hindrance?, if_pos offers, if_pos templated, needs] at effects
  cases given with
  | error failure => exact effects
  | ok text =>
    obtain ⟨input, rendered, commands⟩ := effects
    cases input with
    | none => cases rendered
    | some fed =>
      obtain rfl := Except.ok.inj (Option.some.inj rendered)
      exact commands

def brought (operation : Operation) (template : ClusterTemplate) : Option ClusterTemplate :=
  if operation = .delete then none else some template

/-- What creating a cluster feeds to its command, and with manifests every operation, is what is
rendered with the template that it brings along. -/
theorem feeds_rendered {template : ClusterTemplate} (own : cluster.template = some template)
    (fed : operation = .create ∨ driver.config.backend = .manifests)
    (run : (driver.perform operation cluster).Yields events (result, after)) :
    Feeds driver.config cluster operation (driver.render cluster (brought operation template)) events
      result after := by
  have offers : Offers driver.config.backend operation := by
    rintro ⟨release, rfl⟩
    rcases fed with other | manifests
    · cases other
    · cases release.symm.trans manifests
  have templated : Templated cluster operation := .inr (by rw [own]; rfl)
  refine feeds_of_operation offers templated ?_ run
  cases operation with
  | create => exact congrArg (fun template => some (driver.render cluster template)) own
  | update => exact congrArg (fun template => some (driver.render cluster template)) own
  | delete =>
    have manifests := fed.resolve_left nofun
    simp only [rendering?, manifests]
    rfl

end Driver

namespace CommandLine

open StateDirectory Manifest

variable {α : Type} {config : Config} {cluster : Cluster} {template : ClusterTemplate}
  {template? : Option ClusterTemplate} {path text : String}
  {directory : String → Option Manifest.Library} {events : List Host.Event}

def commands (events : List Host.Event) : List Command :=
  events.filterMap fun event => match event.1 with
    | .run command => some command
    | _ => none

theorem commands_append (first second : List Host.Event) :
    commands (first ++ second) = commands first ++ commands second :=
  List.filterMap_append ..

/-- A host says what stands in a file and what templates there are in a directory. -/
structure Tells (directory : String → Option Manifest.Library) (path text : String)
    (events : List Host.Event) : Prop where
  file : ∀ answer, ⟨.readText path, answer⟩ ∈ events → answer = .ok text
  templates : ∀ place answer, ⟨.openTemplates place, answer⟩ ∈ events → answer = directory place

theorem Tells.left {first second : List Host.Event} (tells : Tells directory path text (first ++ second)) :
    Tells directory path text first where
  file answer member := tells.file answer (List.mem_append_left _ member)
  templates place answer member := tells.templates place answer (List.mem_append_left _ member)

theorem Tells.right {first second : List Host.Event} (tells : Tells directory path text (first ++ second)) :
    Tells directory path text second where
  file answer member := tells.file answer (List.mem_append_right _ member)
  templates place answer member := tells.templates place answer (List.mem_append_right _ member)

theorem rendering_eq (config : Config) (renderer : Manifest.Renderer) (cluster : Cluster)
    (template : Option ClusterTemplate) :
    rendering config renderer cluster template = (Driver.mk config renderer).render cluster template := by
  unfold rendering Driver.render
  cases config.backend with
  | manifests => rfl
  | release =>
    cases template with
    | none => rfl
    | some template => rfl

/-- What is shown of a cluster under a configuration, with a template or without one. -/
def shown (directory : String → Option Manifest.Library) (config : Config) (cluster : Cluster)
    (template : Option ClusterTemplate) : Except Failure String := do
  (← Driver.ofConfig directory config).render cluster template

theorem shown_eq : shown directory config cluster template? =
    (Driver.renderer? directory config).bind (rendering config · cluster template?) := by
  rw [shown, Driver.ofConfig]
  cases Driver.renderer? directory config with
  | error failure => rfl
  | ok renderer => exact (rendering_eq config renderer cluster template?).symm

theorem shown_manifests (own : config.templatesDirectory = none) (backend : config.backend = .manifests) :
    shown directory config cluster template? =
      (Renderer.mk Manifest.builtIn config.authUrl).manifests cluster template? := by
  have found : Driver.renderer? directory config = .ok ⟨Manifest.builtIn, config.authUrl⟩ := by
    simp only [Driver.renderer?, own]
  rw [shown_eq, found]
  show rendering config _ cluster template? = _
  unfold rendering
  rw [backend]

theorem openRenderer_told {result : Except TaskFault Manifest.Renderer}
    (run : (openRenderer config).Yields events result) (tells : Tells directory path text events) :
    result = (Driver.renderer? directory config).mapError .failure ∧ commands events = [] := by
  have opened := yields_openRenderer.1 run
  cases custom : config.templatesDirectory with
  | none =>
    simp only [custom] at opened
    obtain ⟨rfl, rfl⟩ := opened
    have found : Driver.renderer? directory config = .ok ⟨Manifest.builtIn, config.authUrl⟩ := by
      simp only [Driver.renderer?, custom]
    exact ⟨by rw [found]; rfl, rfl⟩
  | some place =>
    simp only [custom] at opened
    obtain ⟨library, rfl, rfl⟩ := opened
    have answered : library = directory place := tells.templates place library (List.mem_singleton_self _)
    have found : Driver.renderer? (fun _ => library) config = Driver.renderer? directory config := by
      simp only [Driver.renderer?, custom, answered]
    exact ⟨by rw [found], rfl⟩

theorem openDriver_told {result : Except TaskFault Driver} (run : (openDriver config).Yields events result)
    (tells : Tells directory path text events) :
    result = (Driver.ofConfig directory config).mapError .failure ∧ commands events = [] := by
  obtain ⟨opened, opening, rfl⟩ := yields_openDriver.1 run
  obtain ⟨rfl, alone⟩ := openRenderer_told opening tells
  refine ⟨?_, alone⟩
  rw [Driver.ofConfig]
  cases Driver.renderer? directory config with
  | ok renderer => rfl
  | error failure => rfl

theorem readCluster_told {result : Except TaskFault Cluster} (run : (readCluster path).Yields events result)
    (tells : Tells directory path text events) (found : Cluster.ofText? text = some cluster) :
    result = .ok cluster ∧ commands events = [] ∧ printed events = [] := by
  obtain ⟨answer, _, _, rfl, first, last⟩ := yields_bind.1 run
  obtain rfl := yields_query.1 first
  obtain rfl := tells.file answer (by simp)
  dsimp only at last
  rw [found] at last
  obtain ⟨rfl, rfl⟩ := yields_done.1 last
  exact ⟨rfl, rfl, rfl⟩

theorem loadCluster_told {result : Except TaskFault Cluster}
    (run : (loadCluster config cluster.uuid).Yields events result)
    (tells : Tells directory (recordPath config.stateDirectory cluster.uuid) text events)
    (found : Cluster.ofStored? text = some cluster) : result = .ok cluster ∧ commands events = [] := by
  obtain ⟨_, _, after, rfl, first, last⟩ := yields_bind.1 run
  obtain ⟨rfl, rfl⟩ := yields_ofExcept.1 last
  rcases yields_load.1 first with ⟨read, rfl, rfl⟩ | ⟨cause, rfl, rfl⟩
  · obtain rfl := Except.ok.inj (tells.file (.ok read) (by simp))
    have checked : check (recordPath config.stateDirectory cluster.uuid) cluster.uuid read = .ok cluster := by
      rw [check, found]
      exact if_pos rfl
    exact ⟨by rw [checked]; rfl, rfl⟩
  · cases tells.file _ (List.mem_append_left _ (List.mem_singleton_self _))

theorem commands_onHost {directory : String} {planned : List Plan.Event}
    (carried : Plan.OnHost directory planned events) : commands events = Plan.commands planned := by
  induction planned generalizing events with
  | nil =>
    rw [Plan.onHost_nil.1 carried]
    rfl
  | cons event rest ih =>
    obtain ⟨effect, answer⟩ := event
    cases effect with
    | run command =>
      obtain ⟨others, rfl, later⟩ := Plan.onHost_ran.1 carried
      exact congrArg (command :: ·) (ih later)
    | save record =>
      obtain ⟨saving, others, rfl, saves, later⟩ := Plan.onHost_kept.1 carried
      have silent : commands saving = [] := by
        rcases yields_save.1 saves with ⟨rfl, -⟩ | ⟨cause, rfl, -⟩ | ⟨cause, rfl, -⟩ | ⟨cause, rfl, -⟩ <;> rfl
      rw [commands_append, silent, List.nil_append]
      exact ih later

/-- What is said at the end of a task that shows something: the text, or why there is none. -/
def Prints (given : Except Failure String) (events : List Host.Event) (result : Except TaskFault Unit) : Prop :=
  match given with
  | .ok text => printed events = [text] ∧ result = .ok ()
  | .error failure => printed events = [] ∧ result = .error (.failure failure)

theorem prints_renderFile {withoutTemplate : Bool} {result : Except TaskFault Unit}
    (found : Cluster.ofText? text = some cluster)
    (run : (renderFile config path withoutTemplate).Yields events result)
    (tells : Tells directory path text events) :
    commands events = [] ∧
      Prints (shown directory config cluster (if withoutTemplate then none else cluster.template)) events result := by
  rcases andThen_cases run with ⟨fault, reading, rfl⟩ | ⟨read, ahead, _, rfl, reading, afterRead⟩
  · cases (readCluster_told reading tells found).1
  obtain ⟨same, quietly, silent⟩ := readCluster_told reading tells.left found
  obtain rfl := Except.ok.inj same
  rw [shown_eq]
  rcases andThen_cases afterRead with ⟨fault, opening, rfl⟩ | ⟨renderer, opened, _, rfl, opening, afterOpen⟩
  · obtain ⟨failed, alone⟩ := openRenderer_told opening tells.right
    rw [commands_append, quietly, alone]
    obtain ⟨failure, missing, rfl⟩ := mapError_eq_error.1 failed.symm
    rw [missing]
    exact ⟨rfl, by rw [printed_append, silent, (traceless_openRenderer opening).unprinted]; rfl, rfl⟩
  obtain ⟨given, alone⟩ := openRenderer_told opening tells.right.left
  rw [mapError_eq_ok.1 given.symm, commands_append, quietly, commands_append, alone]
  rcases andThen_cases afterOpen with ⟨fault, rendering, rfl⟩ | ⟨text, rendered, _, rfl, rendering, printing⟩
  · obtain ⟨rfl, failed⟩ := yields_ofExcept.1 rendering
    obtain ⟨failure, hindered, rfl⟩ := mapError_eq_error.1 failed.symm
    refine ⟨rfl, ?_⟩
    show Prints (CommandLine.rendering config renderer read _) _ _
    rw [hindered]
    exact ⟨by rw [printed_append, silent, List.append_nil, (traceless_openRenderer opening).unprinted]; rfl, rfl⟩
  · obtain ⟨rfl, outcome⟩ := yields_ofExcept.1 rendering
    obtain ⟨rfl, rfl⟩ := yields_print.1 printing
    refine ⟨rfl, ?_⟩
    show Prints (CommandLine.rendering config renderer read _) _ _
    rw [mapError_eq_ok.1 outcome.symm]
    refine ⟨?_, rfl⟩
    rw [printed_append, silent, printed_append, (traceless_openRenderer opening).unprinted]
    rfl

/-- The one command of a task is fed the text that it was to be given; without one there is none. -/
def Delivers (config : Config) (cluster : Cluster) (operation : Operation) (given : Except Failure String)
    (events : List Host.Event) (result : Except TaskFault Unit) : Prop :=
  match given with
  | .ok text => commands events = [Driver.order config cluster.uuid operation (some text)]
  | .error failure => commands events = [] ∧ result = .error (.failure failure)

theorem feeds_carried {driver : Driver} {operation : Operation} {given : Except Failure String}
    {next : Unit × Cluster → Outcome Unit} {result : Except TaskFault Unit}
    (quiet : ∀ done events result, (next done).Yields events result → commands events = [])
    (feeds : ∀ {planned outcome after}, (driver.perform operation cluster).Yields planned (outcome, after) →
      Driver.Feeds config cluster operation given planned outcome after)
    (run : ((carryOut config (driver.perform operation cluster)).andThen next).Yields events result) :
    Delivers config cluster operation given events result := by
  rcases andThen_cases run with ⟨fault, carrying, rfl⟩ | ⟨value, lower, report, rfl, carrying, reporting⟩
  · obtain ⟨planned, outcome, after, plan, onHost, came⟩ := carryOut_cases carrying
    have fed := feeds plan
    unfold Delivers
    rw [commands_onHost onHost]
    cases given with
    | ok text => exact fed
    | error failure =>
      obtain ⟨rfl, rfl, rfl⟩ := fed
      obtain rfl := Except.error.inj came
      exact ⟨rfl, rfl⟩
  · obtain ⟨planned, outcome, after, plan, onHost, came⟩ := carryOut_cases carrying
    have fed := feeds plan
    unfold Delivers
    rw [commands_append, commands_onHost onHost, quiet _ _ _ reporting, List.append_nil]
    cases given with
    | ok text => exact fed
    | error failure =>
      obtain ⟨rfl, rfl, rfl⟩ := fed
      cases came

theorem feeds_submit {operation : Operation} {result : Except TaskFault Unit}
    (own : cluster.template = some template) (fed : operation = .create ∨ config.backend = .manifests)
    (found : Cluster.ofStored? text = some cluster)
    (run : (submit config operation cluster.uuid).Yields events result)
    (tells : Tells directory (recordPath config.stateDirectory cluster.uuid) text events) :
    Delivers config cluster operation (shown directory config cluster (Driver.brought operation template))
      events result := by
  rcases andThen_cases run with ⟨fault, opening, rfl⟩ | ⟨driver, opened, _, rfl, opening, afterOpen⟩
  · obtain ⟨failed, alone⟩ := openDriver_told opening tells
    obtain ⟨failure, missing, rfl⟩ := mapError_eq_error.1 failed.symm
    unfold Delivers
    rw [shown, missing]
    exact ⟨alone, rfl⟩
  obtain ⟨given, alone⟩ := openDriver_told opening tells.left
  have of_driver : shown directory config cluster (Driver.brought operation template) =
      driver.render cluster (Driver.brought operation template) := by
    rw [shown, mapError_eq_ok.1 given.symm]
    rfl
  have own_config : driver.config = config := openDriver_ok opening
  rcases andThen_cases afterOpen with ⟨fault, loading, rfl⟩ | ⟨loaded, loads, _, rfl, loading, afterLoad⟩
  · cases (loadCluster_told loading tells.right found).1
  obtain ⟨same, quietly⟩ := loadCluster_told loading tells.right.left found
  obtain rfl := Except.ok.inj same
  unfold Delivers
  rw [of_driver, commands_append, alone, commands_append, quietly, List.nil_append, List.nil_append]
  refine feeds_carried ?_ ?_ afterLoad
  · intro done printed result reporting
    obtain ⟨rfl, rfl⟩ := yields_print.1 reporting
    rfl
  · intro planned outcome after plan
    have feeds := Driver.feeds_rendered own (own_config ▸ fed) plan
    rwa [own_config] at feeds

/-- What is shown of a cluster tells what is submitted for it, on the host and by a driver. -/
structure Foreshown (directory : String → Option Manifest.Library) (config : Config) (cluster : Cluster)
    (template : ClusterTemplate) : Prop where
  printed : ∀ {path text withoutTemplate events result}, Cluster.ofText? text = some cluster →
    (Task.run config (.render path withoutTemplate)).Yields events result → Tells directory path text events →
    commands events = [] ∧
      Prints (shown directory config cluster (if withoutTemplate then none else some template)) events result
  performed : ∀ {driver operation events result after}, Driver.ofConfig directory config = .ok driver →
    (operation = .create ∨ config.backend = .manifests) →
    (driver.perform operation cluster).Yields events (result, after) →
    shown directory config cluster (some template) = driver.render cluster (some template) ∧
      Driver.Feeds config cluster operation (shown directory config cluster (Driver.brought operation template))
        events result after
  submitted : ∀ {text operation events result}, Cluster.ofStored? text = some cluster →
    (operation = .create ∨ config.backend = .manifests) →
    (Task.run config (.perform operation cluster.uuid)).Yields events result →
    Tells directory (recordPath config.stateDirectory cluster.uuid) text events →
    match shown directory config cluster (Driver.brought operation template) with
    | .ok given => commands events = [Driver.order config cluster.uuid operation (some given)]
    | .error failure => commands events = [] ∧ result = .error (.failure failure)

/-- The text that is shown of a cluster is the one that is submitted for it. -/
theorem shown_as_submitted (directory : String → Option Manifest.Library) (config : Config)
    (own : cluster.template = some template) : Foreshown directory config cluster template where
  printed := by
    intro path text withoutTemplate events result found run tells
    rw [← own]
    exact prints_renderFile found run tells
  performed := by
    intro driver operation events result after opened fed run
    obtain ⟨renderer, -, same⟩ := bind_eq_ok.1 opened
    have own_config : driver.config = config := by rw [← Except.ok.inj same]
    have of_driver : ∀ template?, shown directory config cluster template? = driver.render cluster template? := by
      intro template?
      rw [shown, opened]
      rfl
    refine ⟨of_driver _, ?_⟩
    rw [of_driver, ← own_config]
    exact Driver.feeds_rendered own (own_config.symm ▸ fed) run
  submitted := by
    intro text operation events result found fed run tells
    exact feeds_submit own fed found run tells

def templatedFile : List Char :=
  ["uuid: 00000000000000000000000000000000",
    "name: demo",
    "project_id: p",
    "cluster_template_id: 00000000000000000000000000000001",
    "cluster_template:",
    "  uuid: 00000000000000000000000000000001",
    "  name: base",
    "  image_id: ubuntu",
    "  kube_version: v1.29.0",
    "node_groups:",
    "- uuid: 00000000000000000000000000000000",
    "  name: a",
    "  role: control_plane",
    "  flavor_id: f",
    "  node_count: 1",
    "- uuid: 00000000000000000000000000000000",
    "  name: b",
    "  flavor_id: f",
    "  node_count: 1",
    "  is_default: true"].flatMap fun line => line.toList ++ ['\n']

def templateOfFile : ClusterTemplate :=
  ⟨⟨1⟩, "base", "ubuntu", some "v1.29.0", .empty, false⟩

def templated : Cluster where
  uuid := default
  name := "demo"
  project := "p"
  status := default
  statusReason := none
  stack := none
  templateId := ⟨1⟩
  template := some templateOfFile
  nodeGroups := [⟨default, "a", .controlPlane, "f", 1, none, none, false, false⟩,
    ⟨default, "b", .worker, "f", 1, none, none, true, false⟩]
  credentials := default

theorem ofText?_templatedFile : Cluster.ofText? (String.ofList templatedFile) = some templated := by
  rw [Cluster.ofText?, Yaml.Node.ofText?, Yaml.tokens?, Yaml.Place.ofText?, String.toList_ofList]
  decide +kernel

def bundling : Config :=
  { Config.initial with backend := .manifests, authUrl := some "identity" }

/-- The file is shown by a text, and any way of creating its cluster feeds this text to the tool. -/
theorem shown_as_submitted_templated :
    templated.template = some templateOfFile ∧
      Cluster.ofText? (String.ofList templatedFile) = some templated ∧
      ∃ text, shown (fun _ => none) bundling templated (some templateOfFile) = .ok text ∧
        (∀ events result, (Task.run bundling (.render "cluster.yaml" false)).Yields events result →
          Tells (fun _ => none) "cluster.yaml" (String.ofList templatedFile) events → printed events = [text]) ∧
        ∀ events result after,
          (Driver.perform ⟨bundling, Manifest.builtIn, bundling.authUrl⟩ .create templated).Yields events
            (result, after) → Plan.commands events = [Driver.order bundling default .create (some text)] := by
  obtain ⟨controlPlane, plane⟩ := exists_controlPlane (show templated.validate = .ok () by decide)
  have complete : Complete ⟨Manifest.builtIn, bundling.authUrl⟩ "v1.29.0" "identity" (some templateOfFile) :=
    ⟨by decide, rfl⟩
  obtain ⟨_, texts, -, -, rendered, -⟩ := manifests_of_valid rfl (by decide) plane complete
  have given : shown (fun _ => none) bundling templated (some templateOfFile) =
      .ok (String.ofList (bundle texts)) := by
    rw [shown_manifests rfl rfl, rendered]
  have foreshown : Foreshown (fun _ => none) bundling templated templateOfFile :=
    shown_as_submitted (fun _ => none) bundling rfl
  refine ⟨rfl, ofText?_templatedFile, _, given, ?_, ?_⟩
  · intro events result run tells
    have prints := (foreshown.printed ofText?_templatedFile run tells).2
    rw [if_neg Bool.false_ne_true, given] at prints
    exact prints.1
  · intro events result after run
    have feeds := (foreshown.performed rfl (Or.inl (rfl : Operation.create = .create)) run).2
    rw [Driver.brought, if_neg nofun, given] at feeds
    exact feeds

end CommandLine

end ClusterLifecycle
