import ClusterLifecycle.Proofs.OperationEffects
import ClusterLifecycle.Proofs.StatusPassEffects

/-!
The credentials of a cluster and the address of the identity service are seen in its secret and nowhere
else. Two records that differ in nothing but their credentials have the same values and the same other
manifests, and they are deleted and looked after with the same commands.
-/

namespace ClusterLifecycle

/-- What may be seen of a record: all of it but the credentials, and but what operations and passes
leave in it. -/
def Cluster.overt (cluster : Cluster) : Cluster :=
  { cluster with credentials := default, status := default, statusReason := none, stack := none }

/-- What may be seen of a configuration: all of it but the address of the identity service. -/
def Config.overt (config : Config) : Config :=
  { config with authUrl := none }

namespace Manifest

open Template Text

variable {cluster other : Cluster} {controlPlane : NodeGroup} {template : Option ClusterTemplate}
  {given : ClusterTemplate} {failure : Failure} {first second renderer : Renderer}

/-! ### What templates see -/

def obscured? (cluster : Cluster) (template : Option ClusterTemplate) : Option Failure :=
  match cluster.validate with
  | .error defect => some (.validation cluster.uuid defect)
  | .ok () => template.bind fun given =>
    if given.kubernetesVersion.isSome then none else some (.validation given.uuid .noVersion)

theorem obscured?_overt : obscured? cluster.overt template = obscured? cluster template := rfl

theorem context_obscured (obscured : obscured? cluster template = some failure) (url : Option String) :
    cluster.context template url = .error failure := by
  unfold obscured? at obscured
  cases valid : cluster.validate with
  | error defect =>
    rw [valid] at obscured
    obtain rfl := Option.some.inj obscured
    unfold Cluster.context Cluster.view
    rw [valid]
    rfl
  | ok _ =>
    rw [valid] at obscured
    obtain ⟨controlPlane, plane⟩ := exists_controlPlane valid
    cases template with
    | none => cases obscured
    | some given =>
      cases versioned : given.kubernetesVersion with
      | some version => simp [versioned] at obscured
      | none =>
        obtain rfl : Failure.validation given.uuid .noVersion = failure := by
          simpa [versioned] using obscured
        have unseen : given.view = .error (.validation given.uuid .noVersion) := by
          rw [ClusterTemplate.view, versioned]
        unfold Cluster.context
        rw [view_cluster valid plane, ok_bind]
        simp only [unseen]
        rfl

theorem clear (unobscured : obscured? cluster template = none) :
    cluster.validate = .ok () ∧ ∀ given ∈ template, ∃ version, given.kubernetesVersion = some version := by
  unfold obscured? at unobscured
  cases valid : cluster.validate with
  | error defect =>
    rw [valid] at unobscured
    cases unobscured
  | ok _ =>
    refine ⟨rfl, ?_⟩
    rintro given ⟨⟩
    rw [valid] at unobscured
    cases versioned : given.kubernetesVersion with
    | some version => exact ⟨version, rfl⟩
    | none => simp [versioned] at unobscured

theorem values_overt (library : first.library = builtIn) (library' : second.library = builtIn) :
    first.values cluster given = second.values cluster.overt given := by
  cases obscured : obscured? cluster (some given) with
  | some failure =>
    rw [Renderer.values, Renderer.values, context_obscured obscured,
      context_obscured (obscured?_overt.trans obscured)]
    rfl
  | none =>
    obtain ⟨valid, versioned⟩ := clear obscured
    obtain ⟨controlPlane, plane⟩ := exists_controlPlane valid
    obtain ⟨version, versioned⟩ := versioned given rfl
    have valid' : cluster.overt.validate = .ok () := valid
    have plane' : cluster.overt.controlPlane = .ok controlPlane := plane
    rw [values_of_valid library valid plane versioned, values_of_valid library' valid' plane' versioned]
    rfl

theorem values_alike (library : first.library = builtIn) (library' : second.library = builtIn)
    (alike : cluster.overt = other.overt) : first.values cluster given = second.values other given := by
  rw [values_overt library library, alike, ← values_overt library' library]

/-! ### The documents of a bundle -/

def Renderer.piece (renderer : Renderer) (cluster : Cluster) (template : Option ClusterTemplate) (name : String) :
    Except Failure (List Char) := do
  renderer.document (← cluster.context template renderer.authUrl) name

theorem piece_of_context {scope : Scope} (context : cluster.context template renderer.authUrl = .ok scope)
    (name : String) : renderer.piece cluster template name = renderer.document scope name := by
  rw [Renderer.piece, context, ok_bind]

theorem piece_obscured (obscured : obscured? cluster template = some failure) (name : String) :
    renderer.piece cluster template name = .error failure := by
  rw [Renderer.piece, context_obscured obscured]
  rfl

theorem manifests_obscured (obscured : obscured? cluster template = some failure) :
    renderer.manifests cluster template = .error failure := by
  rw [Renderer.manifests, context_obscured obscured]
  rfl

theorem clusterPiece_overt (library : first.library = builtIn) (library' : second.library = builtIn) :
    first.piece cluster template clusterName = second.piece cluster.overt template clusterName := by
  cases obscured : obscured? cluster template with
  | some failure => rw [piece_obscured obscured, piece_obscured (obscured?_overt.trans obscured)]
  | none =>
    obtain ⟨valid, versioned⟩ := clear obscured
    obtain ⟨controlPlane, plane⟩ := exists_controlPlane valid
    have valid' : cluster.overt.validate = .ok () := valid
    have plane' : cluster.overt.controlPlane = .ok controlPlane := plane
    cases template with
    | none =>
      rw [piece_of_context (context_alone valid plane _), piece_of_context (context_alone valid' plane' _),
        document_of_ok library (renderTemplate_cluster ..), document_of_ok library' (renderTemplate_cluster ..)]
      rfl
    | some given =>
      obtain ⟨version, versioned⟩ := versioned given rfl
      rw [piece_of_context (context_template valid plane versioned _),
        piece_of_context (context_template valid' plane' versioned _),
        document_of_ok library (renderTemplate_cluster ..), document_of_ok library' (renderTemplate_cluster ..)]
      rfl

theorem clusterPiece_alike (library : first.library = builtIn) (library' : second.library = builtIn)
    (alike : cluster.overt = other.overt) :
    first.piece cluster template clusterName = second.piece other template clusterName := by
  rw [clusterPiece_overt library library, alike, ← clusterPiece_overt library' library]

theorem templatePiece_overt (library : first.library = builtIn) (library' : second.library = builtIn) :
    first.piece cluster (some given) templateName = second.piece cluster.overt (some given) templateName := by
  cases obscured : obscured? cluster (some given) with
  | some failure => rw [piece_obscured obscured, piece_obscured (obscured?_overt.trans obscured)]
  | none =>
    obtain ⟨valid, versioned⟩ := clear obscured
    obtain ⟨controlPlane, plane⟩ := exists_controlPlane valid
    obtain ⟨version, versioned⟩ := versioned given rfl
    have valid' : cluster.overt.validate = .ok () := valid
    have plane' : cluster.overt.controlPlane = .ok controlPlane := plane
    obtain ⟨text, rendered, whole⟩ := renderTemplate_template cluster controlPlane given version
      (addressValues first.authUrl)
    obtain ⟨text', rendered', whole'⟩ := renderTemplate_template cluster.overt controlPlane given version
      (addressValues second.authUrl)
    rw [piece_of_context (context_template valid plane versioned _),
      piece_of_context (context_template valid' plane' versioned _),
      document_of_ok library rendered, document_of_ok library' rendered',
      List.append_cancel_right (whole.trans whole'.symm)]

theorem templatePiece_alike (library : first.library = builtIn) (library' : second.library = builtIn)
    (alike : cluster.overt = other.overt) :
    first.piece cluster (some given) templateName = second.piece other (some given) templateName := by
  rw [templatePiece_overt library library, alike, ← templatePiece_overt library' library]

theorem manifests_alone (renderer : Renderer) (cluster : Cluster) :
    renderer.manifests cluster none =
      (renderer.piece cluster none clusterName).map fun text => String.ofList (bundle [text]) := by
  rw [Renderer.manifests, Renderer.piece]
  cases cluster.context none renderer.authUrl with
  | error failure => rfl
  | ok scope =>
    rw [ok_bind, ok_bind, Renderer.documentNames, List.mapM_cons, List.mapM_nil]
    cases renderer.document scope clusterName with
    | error failure => rfl
    | ok text => rfl

theorem rendered_of_mapM {scope : Scope} {names : List String} {texts : List (List Char)}
    (rendered : names.mapM (renderer.document scope) = .ok texts) :
    List.Forall₂ (fun name text => renderer.document scope name = .ok text) names texts := by
  induction names generalizing texts with
  | nil =>
    obtain rfl := Except.ok.inj rendered
    exact .nil
  | cons name rest ih =>
    rw [List.mapM_cons] at rendered
    obtain ⟨text, first, rendered⟩ := bind_eq_ok.1 rendered
    obtain ⟨more, others, same⟩ := bind_eq_ok.1 rendered
    obtain rfl := Except.ok.inj same
    exact .cons first (ih others)

/-- A bundle that is whole is made of the secret and of the two other documents, into which it falls
when it is cut. -/
theorem manifests_pieces (library : renderer.library = builtIn) (address : renderer.authUrl.isSome = true)
    (unobscured : obscured? cluster (some given) = none) :
    ∃ secret middle last, renderer.piece cluster (some given) templateName = .ok middle ∧
      renderer.piece cluster (some given) clusterName = .ok last ∧
      renderer.manifests cluster (some given) = .ok (String.ofList (bundle [secret, middle, last])) ∧
      cut (bundle [secret, middle, last]) = [[], lines secret, lines middle, lines last] := by
  obtain ⟨valid, versioned⟩ := clear unobscured
  obtain ⟨controlPlane, plane⟩ := exists_controlPlane valid
  obtain ⟨version, versioned⟩ := versioned given rfl
  obtain ⟨url, address⟩ := Option.isSome_iff_exists.1 address
  have complete : Complete renderer version url (some given) := ⟨versioned, address⟩
  obtain ⟨scope, texts, context, rendered, bundled, shows⟩ := manifests_of_valid library valid plane complete
  have parts := cut_bundle shows isManifest_bundle
  rw [← map_lines_texts shows isManifest_bundle] at parts
  have piece_eq := piece_of_context context
  cases rendered_of_mapM rendered with
  | cons _ later =>
    cases later with
    | cons middle later =>
      cases later with
      | cons last later =>
        cases later with
        | nil => exact ⟨_, _, _, (piece_eq _).trans middle, (piece_eq _).trans last, bundled, parts⟩

theorem bundles_overt (library : first.library = builtIn) (library' : second.library = builtIn)
    (address : first.authUrl.isSome = true) (address' : second.authUrl.isSome = true)
    (alike : cluster.overt = other.overt) :
    (∃ failure, first.manifests cluster (some given) = .error failure ∧
      second.manifests other (some given) = .error failure) ∨
    ∃ secret secret' middle last,
      first.manifests cluster (some given) = .ok (String.ofList (bundle [secret, middle, last])) ∧
      second.manifests other (some given) = .ok (String.ofList (bundle [secret', middle, last])) ∧
      cut (bundle [secret, middle, last]) = [[], lines secret, lines middle, lines last] ∧
      cut (bundle [secret', middle, last]) = [[], lines secret', lines middle, lines last] := by
  have obscured_eq : obscured? other (some given) = obscured? cluster (some given) := by
    rw [← obscured?_overt, ← alike, obscured?_overt]
  cases obscured : obscured? cluster (some given) with
  | some failure =>
    exact .inl ⟨failure, manifests_obscured obscured, manifests_obscured (obscured_eq.trans obscured)⟩
  | none =>
    obtain ⟨secret, middle, last, middlePiece, lastPiece, bundled, parts⟩ :=
      manifests_pieces library address obscured
    obtain ⟨secret', middle', last', middlePiece', lastPiece', bundled', parts'⟩ :=
      manifests_pieces library' address' (obscured_eq.trans obscured)
    rw [templatePiece_alike library library' alike, middlePiece'] at middlePiece
    rw [clusterPiece_alike library library' alike, lastPiece'] at lastPiece
    obtain rfl := Except.ok.inj middlePiece
    obtain rfl := Except.ok.inj lastPiece
    exact .inr ⟨secret, secret', _, _, bundled, bundled', parts, parts'⟩

end Manifest

namespace Driver

open Plan Manifest Text

variable {driver first second : Driver} {cluster other after after' : Cluster}
  {events events' looking looking' rest rest' : List Plan.Event} {seen seen' : Option Observation}

/-! ### Commands -/

theorem order_overt (config : Config) (uuid : Uuid) (operation : Operation) (input : Option String) :
    order config.overt uuid operation input = order config uuid operation input := rfl

theorem inspection_overt (config : Config) (uuid : Uuid) : inspection config.overt uuid = inspection config uuid :=
  rfl

theorem observed_overt (config : Config) (answer : RunResult) :
    observed config.overt answer = observed config answer := rfl

theorem secretRemoval_overt (config : Config) (uuid : Uuid) :
    secretRemoval config.overt uuid = secretRemoval config uuid := rfl

theorem deletion_commands {result : Except Failure Unit}
    (run : (driver.perform .delete cluster).Yields events (result, after)) :
    Plan.commands events = match driver.config.backend with
      | .release => [order driver.config cluster.uuid .delete none]
      | .manifests => match driver.renderer.manifests cluster none with
        | .ok text => [order driver.config cluster.uuid .delete (some text)]
        | .error _ => [] := by
  have effects := operation_commands run
  rw [hindrance?, if_pos (offers_delete driver.config.backend),
    if_pos (show Templated cluster .delete from .inl rfl)] at effects
  simp only [rendering?, render] at effects
  cases backend : driver.config.backend with
  | release =>
    simp only [backend] at effects
    obtain ⟨input, none_eq, commands⟩ := effects
    cases input with
    | none => exact commands
    | some text => cases none_eq
  | manifests =>
    simp only [backend] at effects
    cases rendered : driver.renderer.manifests cluster none with
    | error failure =>
      simp only [rendered] at effects
      rw [effects.1]
      rfl
    | ok text =>
      simp only [rendered] at effects
      obtain ⟨input, some_eq, commands⟩ := effects
      cases input with
      | none => cases some_eq
      | some fed =>
        obtain rfl := Except.ok.inj (Option.some.inj some_eq)
        exact commands

/-- Whether a cluster that has been looked at is at the end of its deletion, and its credentials are
with the manifests. -/
def Departs (config : Config) (status : Status) (seen : Option Observation) : Prop :=
  config.backend = .manifests ∧
    (status.transition (seen.getD .error)).map Prod.fst = some ⟨.delete, .complete⟩

instance (config : Config) (status : Status) (seen : Option Observation) : Decidable (Departs config status seen) :=
  inferInstanceAs (Decidable (_ ∧ _))

theorem departs_overt {config : Config} {status : Status} :
    Departs config.overt status seen ↔ Departs config status seen := Iff.rfl

theorem moves_commands {result : Except Failure PassOutcome} (moves : driver.Moves cluster seen rest result after) :
    Plan.commands rest = (if Departs driver.config cluster.status seen ∧ (savings rest).head? = some (.ok ())
      then [secretRemoval driver.config cluster.uuid] else []) ∧
      (Departs driver.config cluster.status seen → savings rest ≠ []) := by
  unfold Moves at moves
  cases move : cluster.status.transition (seen.getD .error) with
  | none =>
    rw [move] at moves
    obtain ⟨rfl, -, -⟩ := moves
    have stays : ¬ Departs driver.config cluster.status seen := by simp [Departs, move]
    simp [stays]
  | some target =>
    obtain ⟨status, reason⟩ := target
    rw [move] at moves
    have departs_iff : Departs driver.config cluster.status seen ↔
        driver.config.backend = .manifests ∧ status = ⟨.delete, .complete⟩ := by
      simp [Departs, move]
    obtain ⟨rfl, ⟨fault, rfl, -⟩ | ⟨more, rfl, clears⟩⟩ := moves
    · simp
    · unfold Clears at clears
      split_ifs at clears with departs
      · obtain ⟨answer, rfl, -⟩ := clears
        simp [departs_iff.2 departs]
      · obtain ⟨rfl, -⟩ := clears
        simp [mt departs_iff.1 departs]

/-! ### Two runs side by side -/

theorem head?_of_begins {α : Type} {front whole : List α} (begins : front <+: whole) (some : front ≠ []) :
    front.head? = whole.head? := by
  obtain ⟨back, rfl⟩ := begins
  rw [List.head?_append_of_ne_nil _ some]

variable {tool : List RunResult} {store : List (Except StorageFault Unit)}

theorem looks_alike (configs : first.config.overt = second.config.overt) (uuid : cluster.uuid = other.uuid)
    (status : cluster.status = other.status) (looks : first.Looks cluster looking seen)
    (looks' : second.Looks other looking' seen') (said : results looking <+: tool)
    (said' : results looking' <+: tool) :
    Plan.commands looking = Plan.commands looking' ∧ seen = seen' ∧ savings looking = [] ∧ savings looking' = [] := by
  unfold Looks at looks looks'
  rw [← status] at looks'
  split_ifs at looks looks'
  · obtain ⟨answer, rfl, rfl⟩ := looks
    obtain ⟨answer', rfl, rfl⟩ := looks'
    have answers : some answer = some answer' :=
      (head?_of_begins said nofun).trans (head?_of_begins said' nofun).symm
    obtain rfl := Option.some.inj answers
    rw [← inspection_overt, configs, inspection_overt, uuid, ← observed_overt, configs, observed_overt]
    exact ⟨rfl, rfl, rfl, rfl⟩
  · obtain ⟨rfl, rfl⟩ := looks
    obtain ⟨rfl, rfl⟩ := looks'
    exact ⟨rfl, rfl, rfl, rfl⟩

theorem moves_alike {result result' : Except Failure PassOutcome}
    (configs : first.config.overt = second.config.overt) (uuid : cluster.uuid = other.uuid)
    (status : cluster.status = other.status) (moves : first.Moves cluster seen rest result after)
    (moves' : second.Moves other seen rest' result' after') :
    (Plan.commands rest <+: Plan.commands rest' ∨ Plan.commands rest' <+: Plan.commands rest) ∧
      ∀ store, savings rest <+: store → savings rest' <+: store → Plan.commands rest = Plan.commands rest' := by
  obtain ⟨commands, saves⟩ := moves_commands moves
  obtain ⟨commands', saves'⟩ := moves_commands moves'
  have removal_eq : secretRemoval second.config other.uuid = secretRemoval first.config cluster.uuid := by
    rw [← secretRemoval_overt, ← configs, secretRemoval_overt, uuid]
  have departs_iff : Departs second.config other.status seen ↔ Departs first.config cluster.status seen := by
    rw [← departs_overt, ← configs, departs_overt, status]
  simp only [removal_eq, departs_iff] at commands' saves'
  rw [commands, commands']
  by_cases departs : Departs first.config cluster.status seen
  · refine ⟨?_, fun store kept kept' => ?_⟩
    · split_ifs <;> simp
    · rw [head?_of_begins kept (saves departs), head?_of_begins kept' (saves' departs)]
  · simp [departs]

/-- Two passes over records of the same identifier and status run the same commands when their tools
say the same; where the stores do not, one of them may stop short. -/
theorem passes_alike {result result' : Except Failure PassOutcome}
    (configs : first.config.overt = second.config.overt) (uuid : cluster.uuid = other.uuid)
    (status : cluster.status = other.status)
    (run : (first.statusPass cluster).Yields events (result, after))
    (run' : (second.statusPass other).Yields events' (result', after'))
    (said : results events <+: tool) (said' : results events' <+: tool) :
    (Plan.commands events <+: Plan.commands events' ∨ Plan.commands events' <+: Plan.commands events) ∧
      ∀ store, savings events <+: store → savings events' <+: store →
        Plan.commands events = Plan.commands events' := by
  obtain ⟨looking, rest, seen, rfl, looks, moves⟩ := yields_statusPass.1 run
  obtain ⟨looking', rest', seen', rfl, looks', moves'⟩ := yields_statusPass.1 run'
  rw [results_append] at said said'
  obtain ⟨looked, rfl, quiet, quiet'⟩ := looks_alike configs uuid status looks looks'
    ((List.prefix_append ..).trans said) ((List.prefix_append ..).trans said')
  obtain ⟨begins, same⟩ := moves_alike configs uuid status moves moves'
  simp only [commands_append, savings_append, quiet, quiet', looked, List.nil_append, List.prefix_append_right_inj,
    List.append_cancel_left_eq]
  exact ⟨begins, same⟩

theorem driver_of_builtIn {config : Config} {directory : String → Option Library}
    (own : config.templatesDirectory = none) (opened : Driver.ofConfig directory config = .ok driver) :
    driver = ⟨config, builtIn, config.authUrl⟩ := by
  have found : Driver.renderer? directory config = .ok ⟨builtIn, config.authUrl⟩ := by
    simp only [Driver.renderer?, own]
  rw [Driver.ofConfig, found] at opened
  exact (Except.ok.inj opened).symm

/-- What two drivers with a record each show and run, as far as it can be told apart: the secrets in
their bundles only. -/
structure Indistinct (first second : Driver) (cluster other : Cluster) : Prop where
  values : ∀ template, first.renderer.values cluster template = second.renderer.values other template
  alone : first.renderer.manifests cluster none = second.renderer.manifests other none
  documents : ∀ template, ∀ name ∈ [templateName, clusterName],
    first.renderer.piece cluster (some template) name = second.renderer.piece other (some template) name
  bundles : ∀ template,
    (∃ failure, first.renderer.manifests cluster (some template) = .error failure ∧
      second.renderer.manifests other (some template) = .error failure) ∨
    ∃ secret secret' middle last,
      first.renderer.manifests cluster (some template) = .ok (String.ofList (bundle [secret, middle, last])) ∧
      second.renderer.manifests other (some template) = .ok (String.ofList (bundle [secret', middle, last])) ∧
      cut (bundle [secret, middle, last]) = [[], lines secret, lines middle, lines last] ∧
      cut (bundle [secret', middle, last]) = [[], lines secret', lines middle, lines last]
  deletions : ∀ {events events' result result' after after'},
    (first.perform .delete cluster).Yields events (result, after) →
    (second.perform .delete other).Yields events' (result', after') →
    Plan.commands events = Plan.commands events'
  passes : cluster.status = other.status → ∀ {events events' result result' after after' tool},
    (first.statusPass cluster).Yields events (result, after) →
    (second.statusPass other).Yields events' (result', after') →
    results events <+: tool → results events' <+: tool →
    (Plan.commands events <+: Plan.commands events' ∨ Plan.commands events' <+: Plan.commands events) ∧
      ∀ store, savings events <+: store → savings events' <+: store →
        Plan.commands events = Plan.commands events'

/-- With the templates that come along, credentials and the address of the identity service are in
the secret and nowhere else. -/
theorem credentials_in_secret_only {config config' : Config} {directory directory' : String → Option Library}
    (own : config.templatesDirectory = none) (configs : config.overt = config'.overt)
    (address : config.authUrl.isSome = true) (address' : config'.authUrl.isSome = true)
    (opened : Driver.ofConfig directory config = .ok first) (opened' : Driver.ofConfig directory' config' = .ok second)
    (records : cluster.overt = other.overt) : Indistinct first second cluster other := by
  have own' : config'.templatesDirectory = none := (congrArg Config.templatesDirectory configs).symm.trans own
  obtain rfl := driver_of_builtIn own opened
  obtain rfl := driver_of_builtIn own' opened'
  have library : (Renderer.mk builtIn config.authUrl).library = builtIn := rfl
  have library' : (Renderer.mk builtIn config'.authUrl).library = builtIn := rfl
  have uuid : cluster.uuid = other.uuid := by
    have same := congrArg Cluster.uuid records
    exact same
  have backend : config.backend = config'.backend := by
    have same := congrArg Config.backend configs
    exact same
  have alone : Renderer.manifests ⟨builtIn, config.authUrl⟩ cluster none =
      Renderer.manifests ⟨builtIn, config'.authUrl⟩ other none := by
    rw [manifests_alone, manifests_alone, clusterPiece_alike library library' records]
  constructor
  case values => exact fun template => values_alike library library' records
  case alone => exact alone
  case documents =>
    intro template name member
    rcases List.mem_pair.1 member with rfl | rfl
    · exact templatePiece_alike library library' records
    · exact clusterPiece_alike library library' records
  case bundles => exact fun template => bundles_overt library library' address address' records
  case deletions =>
    intro events events' result result' after after' run run'
    have order_eq : ∀ input, order config cluster.uuid .delete input = order config' other.uuid .delete input := by
      intro input
      rw [← order_overt, configs, order_overt, uuid]
    rw [deletion_commands run, deletion_commands run']
    dsimp only
    rw [alone, backend]
    simp only [order_eq]
  case passes =>
    intro status events events' result result' after after' tool run run' said said'
    exact passes_alike configs uuid status run run' said said'

def guarded (credentials : Credentials) : Cluster :=
  { awkward with credentials := credentials, status := ⟨.delete, .inProgress⟩ }

def addressed (url : String) : Config :=
  { Config.initial with backend := .manifests, authUrl := some url }

theorem credentials_in_secret_only_guarded :
    (addressed "here").overt = (addressed "there").overt ∧
      (guarded ⟨some "trust", some "user", some "\"\n---\n"⟩).overt = (guarded default).overt ∧
      Indistinct ⟨addressed "here", builtIn, some "here"⟩ ⟨addressed "there", builtIn, some "there"⟩
        (guarded ⟨some "trust", some "user", some "\"\n---\n"⟩) (guarded default) ∧
      ∃ text, Renderer.values ⟨builtIn, some "here"⟩ (guarded ⟨some "trust", some "user", some "\"\n---\n"⟩)
          awkwardTemplate = .ok text ∧
        Renderer.values ⟨builtIn, some "there"⟩ (guarded default) awkwardTemplate = .ok text := by
  have alike : Indistinct ⟨addressed "here", builtIn, some "here"⟩ ⟨addressed "there", builtIn, some "there"⟩
      (guarded ⟨some "trust", some "user", some "\"\n---\n"⟩) (guarded default) :=
    @credentials_in_secret_only _ _ _ _ (addressed "here") (addressed "there") (fun _ => none) (fun _ => none)
      rfl rfl rfl rfl rfl rfl rfl
  have valid : (guarded default).validate = .ok () := by decide
  obtain ⟨controlPlane, plane⟩ := exists_controlPlane valid
  have versioned : awkwardTemplate.kubernetesVersion = some "v1.29.0" := by decide
  have rendered : Renderer.values ⟨builtIn, some "there"⟩ (guarded default) awkwardTemplate = _ :=
    values_of_valid rfl valid plane versioned
  exact ⟨rfl, rfl, alike, _, (alike.values awkwardTemplate).trans rendered, rendered⟩

end Driver

end ClusterLifecycle
