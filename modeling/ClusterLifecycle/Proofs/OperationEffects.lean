import ClusterLifecycle.Proofs.AppliedBundles

/-!
Everything that an operation can do. It runs at most one command, for which all that it needs has to
be there, and only when the tool has done what it was told is the marked record handed to the store.
What fails first is what the operation answers with.
-/

namespace ClusterLifecycle.Driver

open Program Plan Manifest

/-! ### What comes before the command -/

def Offers (backend : Backend) (operation : Operation) : Prop :=
  ¬ (backend = .release ∧ operation = .update)

def Templated (cluster : Cluster) (operation : Operation) : Prop :=
  operation = .delete ∨ cluster.template.isSome = true

instance (backend : Backend) (operation : Operation) : Decidable (Offers backend operation) :=
  inferInstanceAs (Decidable (¬ _))

instance (cluster : Cluster) (operation : Operation) : Decidable (Templated cluster operation) :=
  inferInstanceAs (Decidable (_ ∨ _))

def rendering? (driver : Driver) (cluster : Cluster) (operation : Operation) : Option (Except Failure String) :=
  match operation, driver.config.backend with
  | .delete, .release => none
  | .delete, .manifests => some (driver.render cluster none)
  | .create, _ | .update, _ => some (driver.render cluster cluster.template)

/-- The first of the things that an operation needs and that is not there. -/
def hindrance? (driver : Driver) (cluster : Cluster) (operation : Operation) : Option Failure :=
  if Offers driver.config.backend operation then
    if Templated cluster operation then
      match driver.rendering? cluster operation with
      | some (.error failure) => some failure
      | _ => none
    else some (.validation cluster.uuid .noTemplate)
  else some (.unsupported "update_cluster" .later)

def order (config : Config) (uuid : Uuid) (operation : Operation) (input : Option String) : Command where
  program := match config.backend with
    | .manifests => config.kubectl
    | .release => config.helm
  arguments := (match config.backend, operation with
    | .manifests, .delete => ["delete", "--ignore-not-found=true", "-f", "-"]
    | .manifests, _ => ["apply", "-f", "-"]
    | .release, .delete =>
      ["uninstall", toString uuid, "--output", "json", "--timeout", config.releaseWait]
    | .release, _ =>
      ["install", toString uuid, config.chart, "--output", "json", "--timeout", config.releaseWait,
        "--values", "-"]) ++ config.connection
  input := input
  limit := match config.backend with
    | .manifests => config.applyLimit
    | .release => config.releaseLimit

instance (output : Output) : Decidable (Legible output) :=
  inferInstanceAs (Decidable (_ ∨ _))

/-- Why the result of the command is not taken for its success, if it is not. -/
def refusal? (config : Config) (operation : Operation) : RunResult → Option RunFault
  | .error fault =>
    if config.backend = .release ∧ operation = .delete ∧ fault.isNotFound Helm.notFoundMarker = true then none
    else some fault
  | .ok output =>
    if config.backend = .release ∧ ¬ Legible output then
      some (.invalidOutput config.helm (if operation = .delete then .uninstallNotJson else .installNotJson))
    else none

variable {driver : Driver} {config : Config} {cluster after : Cluster} {operation : Operation}
  {events : List Plan.Event} {result : Except Failure Unit} {answer : RunResult} {command : Command}

theorem hindrance?_eq_none_iff :
    driver.hindrance? cluster operation = none ↔ Offers driver.config.backend operation ∧
      Templated cluster operation ∧ ∀ rendered ∈ driver.rendering? cluster operation, ∃ text, rendered = .ok text := by
  unfold hindrance?
  by_cases offers : Offers driver.config.backend operation
  · by_cases templated : Templated cluster operation
    · rw [if_pos offers, if_pos templated]
      cases rendered : driver.rendering? cluster operation with
      | none => simp [offers, templated]
      | some outcome =>
        cases outcome with
        | ok text => simp [offers, templated]
        | error failure => simp
    · simp [offers, templated]
  · simp [offers]

/-- A reading of results as success or failure. -/
def verdict : Option RunFault → Except RunFault Unit
  | none => .ok ()
  | some fault => .error fault

theorem readOutput_eq (defect : OutputDefect) (output : Output) :
    (Helm.readOutput config defect output).map (fun _ => ()) =
      if Legible output then .ok () else .error (.invalidOutput config.helm defect) := by
  by_cases blank : (Text.trim output.stdout.toList).isEmpty = true
  · rw [Helm.readOutput, if_pos blank, if_pos (.inl blank)]
    rfl
  · rw [Helm.readOutput, if_neg blank]
    cases value : Json.Value.ofText? output.stdout with
    | none =>
      have illegible : ¬ Legible output := by simp [Legible, blank, value]
      rw [if_neg illegible]
      rfl
    | some value =>
      have legible : Legible output := .inr (by rw [value]; rfl)
      rw [if_pos legible]
      rfl

/-- A call that is the command of an operation, and that takes results as this operation does. -/
structure Orders (config : Config) (uuid : Uuid) (operation : Operation) (input : Option String)
    (call : Call Unit) : Prop where
  command : call.command = order config uuid operation input
  read : ∀ answer, call.read answer = verdict (refusal? config operation answer)

theorem orders_plain {plain : Call Output} {input : Option String} (backend : config.backend = .manifests)
    (command : plain.command = order config cluster.uuid operation input) (whole : plain.read = id) :
    Orders config cluster.uuid operation input plain.outcome where
  command := command
  read answer := by
    cases answer with
    | ok output => simp [Call.outcome, Call.map, whole, refusal?, backend, verdict, Except.map]
    | error fault => simp [Call.outcome, Call.map, whole, refusal?, backend, verdict, Except.map]

theorem orders_apply (backend : config.backend = .manifests) (applies : operation ≠ .delete) (text : String) :
    Orders config cluster.uuid operation (some text) (Kubectl.apply config text).outcome := by
  refine orders_plain backend ?_ rfl
  cases operation with
  | create => simp [Kubectl.apply, Kubectl.command, order, backend]
  | update => simp [Kubectl.apply, Kubectl.command, order, backend]
  | delete => exact absurd rfl applies

theorem orders_delete (backend : config.backend = .manifests) (text : String) :
    Orders config cluster.uuid .delete (some text) (Kubectl.delete config text).outcome :=
  orders_plain backend (by simp [Kubectl.delete, Kubectl.command, order, backend]) rfl

theorem verdict_output (backend : config.backend = .release) (output : Output) :
    verdict (refusal? config operation (.ok output)) =
      if Legible output then .ok ()
      else .error (.invalidOutput config.helm
        (if operation = .delete then .uninstallNotJson else .installNotJson)) := by
  by_cases legible : Legible output
  · simp [refusal?, verdict, legible]
  · simp [refusal?, verdict, legible, backend]

theorem orders_install (backend : config.backend = .release) (text : String) :
    Orders config cluster.uuid .create (some text)
      (Helm.install config (toString cluster.uuid) text).outcome where
  command := by simp [Call.outcome, Call.map, Helm.install, Helm.command, order, backend]
  read answer := by
    cases answer with
    | error fault =>
      simp only [refusal?, reduceCtorEq, false_and, and_false, if_false]
      rfl
    | ok output =>
      rw [verdict_output backend]
      exact readOutput_eq .installNotJson output

theorem orders_uninstall (backend : config.backend = .release) :
    Orders config cluster.uuid .delete none (Helm.uninstall config (toString cluster.uuid)).outcome where
  command := by simp [Call.outcome, Call.map, Helm.uninstall, Helm.command, order, backend]
  read answer := by
    cases answer with
    | error fault =>
      by_cases absent : fault.isNotFound Helm.notFoundMarker = true
      · simp [Call.outcome, Call.map, Helm.uninstall, Helm.readUninstall, refusal?, verdict, backend, absent,
          Except.map]
      · simp [Call.outcome, Call.map, Helm.uninstall, Helm.readUninstall, refusal?, verdict, absent, Except.map]
    | ok output =>
      rw [verdict_output backend, if_pos rfl, ← readOutput_eq .uninstallNotJson output]
      cases read : Helm.readOutput config .uninstallNotJson output with
      | ok value => simp only [Call.outcome, Call.map, Helm.uninstall, Helm.readUninstall, read]; rfl
      | error fault => simp only [Call.outcome, Call.map, Helm.uninstall, Helm.readUninstall, read]; rfl

theorem desired_eq (driver : Driver) (cluster : Cluster) :
    driver.desired cluster =
      if cluster.template.isSome then driver.render cluster cluster.template
      else .error (.validation cluster.uuid .noTemplate) := by
  rw [desired, requiredTemplate]
  cases cluster.template <;> rfl

/-- An operation comes down to its own command where all that it needs is there, and is refused for
the first thing that is not. -/
def Submits (driver : Driver) (cluster : Cluster) (operation : Operation) : Prop :=
  match driver.submission cluster operation with
  | .error failure => driver.hindrance? cluster operation = some failure
  | .ok call => driver.hindrance? cluster operation = none ∧ ∃ input,
    driver.rendering? cluster operation = input.map .ok ∧
      Orders driver.config cluster.uuid operation input call

theorem submits_rendered {rendered : Except Failure String} {call : String → Call Unit}
    (offers : Offers driver.config.backend operation) (templated : Templated cluster operation)
    (needs : driver.rendering? cluster operation = some rendered)
    (orders : ∀ text, Orders driver.config cluster.uuid operation (some text) (call text))
    (same : driver.submission cluster operation = rendered >>= fun text => .ok (call text)) :
    driver.Submits cluster operation := by
  have hindrance : driver.hindrance? cluster operation =
      match some rendered with
      | some (.error failure) => some failure
      | _ => none := by
    rw [hindrance?, if_pos offers, if_pos templated, needs]
  rw [Submits, same, hindrance, needs]
  cases rendered with
  | error failure => rfl
  | ok text => exact ⟨rfl, some text, rfl, orders text⟩

theorem submits_untemplated (offers : Offers driver.config.backend operation)
    (untemplated : ¬ Templated cluster operation)
    (same : driver.submission cluster operation = .error (.validation cluster.uuid .noTemplate)) :
    driver.Submits cluster operation := by
  rw [Submits, same]
  dsimp only
  rw [hindrance?, if_pos offers, if_neg untemplated]

theorem submits_create (driver : Driver) (cluster : Cluster) : driver.Submits cluster .create := by
  have offers : Offers driver.config.backend .create := nofun
  have desired := desired_eq driver cluster
  by_cases own : cluster.template.isSome = true
  · rw [if_pos own] at desired
    cases backend : driver.config.backend with
    | manifests =>
      exact submits_rendered offers (.inr own) rfl (orders_apply backend (by decide))
        (by simp only [submission, desired, backend])
    | release =>
      exact submits_rendered offers (.inr own) rfl (orders_install backend)
        (by simp only [submission, desired, backend])
  · rw [if_neg own] at desired
    exact submits_untemplated offers (by simpa [Templated] using own) (by rw [submission, desired]; rfl)

theorem submits_update (driver : Driver) (cluster : Cluster) : driver.Submits cluster .update := by
  cases backend : driver.config.backend with
  | release =>
    have refused : ¬ Offers driver.config.backend .update := by simp [Offers, backend]
    have same : driver.submission cluster .update = .error (.unsupported "update_cluster" .later) := by
      simp only [submission, backend]
    rw [Submits, same]
    dsimp only
    rw [hindrance?, if_neg refused]
  | manifests =>
    have offers : Offers driver.config.backend .update := by simp [Offers, backend]
    have desired := desired_eq driver cluster
    by_cases own : cluster.template.isSome = true
    · rw [if_pos own] at desired
      exact submits_rendered offers (.inr own) rfl (orders_apply backend (by decide))
        (by simp only [submission, desired, backend])
    · rw [if_neg own] at desired
      refine submits_untemplated offers (by simpa [Templated] using own) ?_
      simp only [submission, desired, backend]
      rfl

theorem offers_delete (backend : Backend) : Offers backend .delete := nofun

theorem submits_delete (driver : Driver) (cluster : Cluster) : driver.Submits cluster .delete := by
  have offers := offers_delete driver.config.backend
  cases backend : driver.config.backend with
  | manifests =>
    have needs : driver.rendering? cluster .delete = some (driver.renderer.manifests cluster none) := by
      simp only [rendering?, render, backend]
    exact submits_rendered offers (.inl rfl) needs (orders_delete backend)
      (by simp only [submission, backend])
  | release =>
    have same : driver.submission cluster .delete =
        .ok (Helm.uninstall driver.config (toString cluster.uuid)).outcome := by
      simp only [submission, backend]
    have needless : driver.rendering? cluster .delete = none := by simp only [rendering?, backend]
    rw [Submits, same]
    refine ⟨?_, none, needless, orders_uninstall backend⟩
    rw [hindrance?, if_pos offers, if_pos (.inl rfl), needless]

theorem submits (driver : Driver) (cluster : Cluster) (operation : Operation) :
    driver.Submits cluster operation := by
  cases operation with
  | create => exact submits_create driver cluster
  | update => exact submits_update driver cluster
  | delete => exact submits_delete driver cluster

/-! ### Effects -/

theorem operation_commands (run : (driver.perform operation cluster).Yields events (result, after)) :
    match driver.hindrance? cluster operation with
    | some failure => events = [] ∧ result = .error failure ∧ after = cluster
    | none => ∃ input, driver.rendering? cluster operation = input.map .ok ∧
      Plan.commands events = [order driver.config cluster.uuid operation input] := by
  have submits := submits driver cluster operation
  unfold Submits at submits
  cases operated run with
  | @refused failure reason =>
    rw [reason] at submits
    dsimp only at submits
    rw [submits]
    exact ⟨rfl, rfl, rfl⟩
  | @failed call answer fault call_eq read =>
    rw [call_eq] at submits
    obtain ⟨free, input, rendered, orders⟩ := submits
    rw [free]
    exact ⟨input, rendered, by simp [orders.command]⟩
  | @handedOver call answer saved call_eq read =>
    rw [call_eq] at submits
    obtain ⟨free, input, rendered, orders⟩ := submits
    rw [free]
    exact ⟨input, rendered, by simp [orders.command]⟩

/-- The command that an operation runs: it has been fed what was rendered for it, it names the cluster,
and it has the connection and the time that the configuration gives it. -/
structure Issued (driver : Driver) (cluster : Cluster) (operation : Operation) (command : Command) : Prop where
  fed : ∃ input, command = order driver.config cluster.uuid operation input ∧
    driver.rendering? cluster operation = input.map .ok
  named : match driver.config.backend with
    | .release => command.arguments[1]? = some (toString cluster.uuid)
    | .manifests => driver.renderer.library = builtIn → ∃ text, command.input = some text ∧
      bundled? "Cluster" ["metadata", "name"] text.toList = some (scalar (toString cluster.uuid))
  connected : driver.config.connection <:+ command.arguments
  limited : command.limit = match driver.config.backend with
    | .release => driver.config.releaseLimit
    | .manifests => driver.config.applyLimit

theorem bundled?_clusterName {renderer : Renderer} {template : Option ClusterTemplate} {text : String}
    (library : renderer.library = builtIn) (rendered : renderer.manifests cluster template = .ok text) :
    bundled? "Cluster" ["metadata", "name"] text.toList = some (scalar (toString cluster.uuid)) := by
  obtain ⟨controlPlane, version, url, texts, rfl, shows⟩ := shows_of_manifests library rendered
  rw [String.toList_ofList, bundled?_bundle shows isManifest_bundle]
  cases template with
  | none => rfl
  | some given => rfl

theorem issued_of_orders {input : Option String} {call : Call Unit}
    (offers : Offers driver.config.backend operation)
    (rendered : driver.rendering? cluster operation = input.map .ok)
    (orders : Orders driver.config cluster.uuid operation input call) :
    driver.Issued cluster operation call.command := by
  rw [orders.command]
  constructor
  case fed => exact ⟨input, rfl, rendered⟩
  case connected => exact List.suffix_append ..
  case limited => cases backend : driver.config.backend <;> simp only [order, backend]
  case named =>
    cases backend : driver.config.backend with
    | release =>
      cases operation with
      | create => simp [order, backend]
      | update => exact absurd ⟨backend, rfl⟩ offers
      | delete => simp [order, backend]
    | manifests =>
      intro library
      -- a bundle has been rendered whatever the operation, with or without a template
      obtain ⟨template, bundle⟩ : ∃ template, driver.rendering? cluster operation =
          some (driver.renderer.manifests cluster template) := by
        cases operation with
        | create => exact ⟨cluster.template, by simp only [rendering?, render, backend]⟩
        | update => exact ⟨cluster.template, by simp only [rendering?, render, backend]⟩
        | delete => exact ⟨none, by simp only [rendering?, render, backend]⟩
      rw [bundle] at rendered
      cases input with
      | none => cases rendered
      | some text => exact ⟨text, rfl, bundled?_clusterName library (Option.some.inj rendered)⟩

/-- All that an operation has done by the time it is over, and what it answers with. -/
structure OperationEffects (driver : Driver) (cluster : Cluster) (operation : Operation)
    (events : List Plan.Event) (result : Except Failure Unit) : Prop where
  /-- First one command, then one save, and nothing else. -/
  order : events = [] ∨ (∃ command answer, events = [ran command answer]) ∨
    ∃ command answer record saved, events = [ran command answer, kept record saved]
  issued_iff : (∃ command answer, ran command answer ∈ events) ↔
    Offers driver.config.backend operation ∧ Templated cluster operation ∧
      ∀ rendered ∈ driver.rendering? cluster operation, ∃ text, rendered = .ok text
  issued : ∀ command answer, ran command answer ∈ events → driver.Issued cluster operation command
  kept_iff : (∃ record saved, kept record saved ∈ events) ↔
    ∃ command answer, ran command answer ∈ events ∧ refusal? driver.config operation answer = none
  kept : ∀ record saved, kept record saved ∈ events →
    record = { cluster with
      status := ⟨operation, .inProgress⟩
      statusReason := none
      stack := if operation = .create then none else cluster.stack }
  /-- What fails first is what is answered. -/
  answered : match driver.hindrance? cluster operation with
    | some failure => result = .error failure
    | none => ∃ command answer, ran command answer ∈ events ∧
      match refusal? driver.config operation answer with
      | some fault => result = .error (.execution fault)
      | none => ∃ record saved, Plan.kept record saved ∈ events ∧
        result = orFail (.persistence cluster.uuid) saved

theorem verdict_eq_ok {refusal : Option RunFault} : verdict refusal = .ok () ↔ refusal = none := by
  cases refusal with
  | none => exact ⟨fun _ => rfl, fun _ => rfl⟩
  | some fault => exact ⟨nofun, nofun⟩

theorem verdict_eq_error {refusal : Option RunFault} {fault : RunFault} :
    verdict refusal = .error fault ↔ refusal = some fault := by
  cases refusal with
  | none => exact ⟨nofun, nofun⟩
  | some other => simp [verdict]

theorem submitted_eq (cluster : Cluster) (operation : Operation) :
    submitted cluster operation = { cluster with
      status := ⟨operation, .inProgress⟩
      statusReason := none
      stack := if operation = .create then none else cluster.stack } := by
  cases operation <;> rfl

theorem operationEffects (run : (driver.perform operation cluster).Yields events (result, after)) :
    driver.OperationEffects cluster operation events result := by
  have submits := submits driver cluster operation
  unfold Submits at submits
  have ready : driver.hindrance? cluster operation = none ↔ _ := hindrance?_eq_none_iff
  cases operated run with
  | @refused failure reason =>
    rw [reason] at submits
    have hindered : driver.hindrance? cluster operation = some failure := submits
    rw [hindered] at ready
    constructor
    case order => exact .inl rfl
    case issued_iff => simpa using ready
    case issued => simp
    case kept_iff => simp
    case kept => simp
    case answered => rw [hindered]
  | @failed call answer fault call_eq read =>
    rw [call_eq] at submits
    obtain ⟨free, input, rendered, orders⟩ := submits
    have refused : refusal? driver.config operation answer = some fault :=
      verdict_eq_error.1 (orders.read answer ▸ read)
    constructor
    case order => exact .inr (.inl ⟨_, _, rfl⟩)
    case issued_iff => exact ⟨fun _ => ready.1 free, fun _ => ⟨_, _, List.mem_singleton_self _⟩⟩
    case issued =>
      intro command answer' member
      obtain ⟨rfl, rfl⟩ := by simpa using member
      exact issued_of_orders (ready.1 free).1 rendered orders
    case kept_iff => simp [refused]
    case kept => simp
    case answered =>
      rw [free]
      exact ⟨_, _, List.mem_singleton_self _, by rw [refused]⟩
  | @handedOver call answer saved call_eq read =>
    rw [call_eq] at submits
    obtain ⟨free, input, rendered, orders⟩ := submits
    have taken : refusal? driver.config operation answer = none :=
      verdict_eq_ok.1 (orders.read answer ▸ read)
    constructor
    case order => exact .inr (.inr ⟨_, _, _, _, rfl⟩)
    case issued_iff => exact ⟨fun _ => ready.1 free, fun _ => ⟨_, _, List.mem_cons_self ..⟩⟩
    case issued =>
      intro command answer' member
      obtain ⟨rfl, rfl⟩ := by simpa using member
      exact issued_of_orders (ready.1 free).1 rendered orders
    case kept_iff => simp [taken]
    case kept =>
      intro record saved' member
      obtain ⟨rfl, rfl⟩ := by simpa using member
      exact submitted_eq cluster operation
    case answered =>
      rw [free]
      refine ⟨_, _, List.mem_cons_self .., ?_⟩
      rw [taken]
      exact ⟨_, _, List.mem_cons_of_mem _ (List.mem_singleton_self _), rfl⟩

/-- In every world an operation comes to an end, with exactly these effects. -/
theorem operation_effects {σ : Type} (world : (effect : Effect) → σ → effect.Answer × σ) (state : σ)
    (driver : Driver) (cluster : Cluster) (operation : Operation) :
    driver.OperationEffects cluster operation ((driver.perform operation cluster).trace world state)
      ((driver.perform operation cluster).run world state).1.1 :=
  operationEffects (yields_run world (driver.perform operation cluster) state)

end ClusterLifecycle.Driver
