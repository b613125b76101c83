import ClusterLifecycle.CommandLine.Task
import ClusterLifecycle.Proofs.HostReactions
import ClusterLifecycle.Proofs.RecordRoundTrip
import Mathlib.Data.List.TakeWhile

/-!
Where the values of a configuration come from. The options of a line lie over the environment, the
environment over a file and the file over the initial values, and every field is taken from the uppermost
of these that has a value for it. A variable that is not understood leaves the environment cut off before it.
-/

namespace ClusterLifecycle

open Record

namespace Config

/-- What one place has to say about a configuration: a value for each field that it speaks of. -/
structure Layer where
  backend : Option Backend := none
  kubectl : Option String := none
  helm : Option String := none
  kubeconfig : Option (Option String) := none
  kubeNamespace : Option (Option String) := none
  applyTimeout : Option UInt64 := none
  releaseTimeout : Option UInt64 := none
  releaseWait : Option String := none
  chart : Option String := none
  resourceKind : Option String := none
  handledKey : Option String := none
  authUrl : Option (Option String) := none
  templatesDirectory : Option (Option String) := none
  stateDirectory : Option String := none

def written {δ α : Type} (fields : List (String × δ)) (name : String) (read : δ → Option α) : Option (Option α) :=
  match fields.lookup name with
  | none => some none
  | some data => (read data).map some

/-- The value of a variable that is set to something which is understood. -/
def given {α : Type} (lookup : String → Option String) (parse : String → Except ConfigFault α) (name : String) :
    Option α :=
  (nonempty lookup name).bind fun value => (parse value).toOption

namespace Layer

def onto (layer : Layer) (config : Config) : Config where
  backend := layer.backend.getD config.backend
  kubectl := layer.kubectl.getD config.kubectl
  helm := layer.helm.getD config.helm
  kubeconfig := layer.kubeconfig.getD config.kubeconfig
  kubeNamespace := layer.kubeNamespace.getD config.kubeNamespace
  applyTimeout := layer.applyTimeout.getD config.applyTimeout
  releaseTimeout := layer.releaseTimeout.getD config.releaseTimeout
  releaseWait := layer.releaseWait.getD config.releaseWait
  chart := layer.chart.getD config.chart
  resourceKind := layer.resourceKind.getD config.resourceKind
  handledKey := layer.handledKey.getD config.handledKey
  authUrl := layer.authUrl.getD config.authUrl
  templatesDirectory := layer.templatesDirectory.getD config.templatesDirectory
  stateDirectory := layer.stateDirectory.getD config.stateDirectory

/-- What data says: each field that it has, as it is read. One that cannot be read spoils it all. -/
def read {δ : Type} (source : Source δ) (data : δ) : Option Layer := do
  let fields ← source.record fieldNames data
  let text := fun name => written fields name source.text
  let optional := fun name => written fields name (source.optional source.text)
  let backend ← written fields "backend" (Backend.read source)
  let kubectl ← text "kubectl"
  let helm ← text "helm"
  let kubeconfig ← optional "kubeconfig"
  let kubeNamespace ← optional "namespace"
  let applyTimeout ← written fields "apply_timeout_secs" source.unsigned64
  let releaseTimeout ← written fields "release_timeout_secs" source.unsigned64
  let releaseWait ← text "release_wait"
  let chart ← text "chart_ref"
  let resourceKind ← text "cluster_resource_kind"
  let handledKey ← text "last_handled_annotation"
  let authUrl ← optional "auth_url"
  let templatesDirectory ← optional "templates_dir"
  let stateDirectory ← text "state_dir"
  some { backend, kubectl, helm, kubeconfig, kubeNamespace, applyTimeout, releaseTimeout,
         releaseWait, chart, resourceKind, handledKey, authUrl, templatesDirectory, stateDirectory }

def ofText? (text : String) : Option Layer :=
  Yaml.Node.ofText? text >>= read Yaml.Node.source

/-- What an environment says: every field has a variable of its own. -/
def ofEnvironment (lookup : String → Option String) : Layer where
  backend := given lookup Backend.parse "CAPSTAN_BACKEND"
  kubectl := nonempty lookup "CAPSTAN_KUBECTL"
  helm := nonempty lookup "CAPSTAN_HELM"
  kubeconfig := (nonempty lookup "CAPSTAN_KUBECONFIG").map some
  kubeNamespace := (nonempty lookup "CAPSTAN_NAMESPACE").map some
  applyTimeout := given lookup (seconds "CAPSTAN_APPLY_TIMEOUT_SECS") "CAPSTAN_APPLY_TIMEOUT_SECS"
  releaseTimeout := given lookup (seconds "CAPSTAN_RELEASE_TIMEOUT_SECS") "CAPSTAN_RELEASE_TIMEOUT_SECS"
  releaseWait := nonempty lookup "CAPSTAN_RELEASE_WAIT"
  chart := nonempty lookup "CAPSTAN_CHART_REF"
  resourceKind := nonempty lookup "CAPSTAN_CLUSTER_RESOURCE_KIND"
  handledKey := nonempty lookup "CAPSTAN_LAST_HANDLED_ANNOTATION"
  authUrl := (nonempty lookup "CAPSTAN_AUTH_URL").map some
  templatesDirectory := (nonempty lookup "CAPSTAN_TEMPLATES_DIR").map some
  stateDirectory := nonempty lookup "CAPSTAN_STATE_DIR"

def ofArguments (arguments : CommandLine.Arguments) : Layer where
  backend := arguments.backend
  kubeconfig := arguments.kubeconfig.map some
  kubeNamespace := arguments.kubeNamespace.map some
  stateDirectory := arguments.stateDirectory

variable {layer : Layer} {config : Config}

theorem getD_getD {α : Type} (value : Option α) (fallback : α) :
    value.getD (value.getD fallback) = value.getD fallback := by
  cases value <;> rfl

theorem onto_onto (layer : Layer) (config : Config) : layer.onto (layer.onto config) = layer.onto config := by
  simp only [onto, getD_getD]

theorem ofArguments_onto (arguments : CommandLine.Arguments) (config : Config) :
    (ofArguments arguments).onto config = arguments.override config := by
  unfold onto ofArguments CommandLine.Arguments.override
  cases arguments.kubeconfig <;> cases arguments.kubeNamespace <;> rfl

theorem bind_map {α β γ : Type} {found : Option α} {next : α → Option γ} {other : α → Option β} {put : β → γ}
    (same : ∀ value, next value = (other value).map put) : (found >>= next) = (found >>= other).map put := by
  cases found with
  | none => rfl
  | some value => exact same value

theorem bind_defaulted {δ α β γ : Type} {fields : List (String × δ)} {name : String} {fallback : α}
    {read : δ → Option α} {next : α → Option γ} {other : Option α → Option β} {put : β → γ}
    (same : ∀ value, next (value.getD fallback) = (other value).map put) :
    (defaulted fields name fallback read >>= next) = (written fields name read >>= other).map put := by
  unfold defaulted written
  cases fields.lookup name with
  | none => exact same none
  | some data =>
    dsimp only
    cases read data with
    | none => rfl
    | some value => exact same (some value)

theorem read_eq {δ : Type} (source : Source δ) (data : δ) :
    Config.read source data = (read source data).map (·.onto initial) := by
  refine bind_map fun fields => ?_
  iterate 14 refine bind_defaulted fun _ => ?_
  rfl

theorem ofText_eq (text : String) :
    Config.ofText text = ((ofText? text).map (·.onto initial)).elim (.error .invalid) .ok := by
  unfold Config.ofText ofText?
  cases Yaml.Node.ofText? text with
  | none => rfl
  | some node =>
    have same : (some node >>= Config.read Yaml.Node.source) = (read Yaml.Node.source node).map (·.onto initial) :=
      read_eq Yaml.Node.source node
    rw [same, Option.bind_eq_bind, Option.bind_some]
    cases read Yaml.Node.source node <;> rfl

end Layer

/-! ### The environment -/

def variableNames : List String :=
  overrides.map (·.name)

def faultIn {α : Type} (parse : String → Except ConfigFault α) (value : String) : Option ConfigFault :=
  match parse value with
  | .ok _ => none
  | .error fault => some fault

theorem faultIn_eq_some_iff {α : Type} {parse : String → Except ConfigFault α} {value : String} {fault : ConfigFault} :
    faultIn parse value = some fault ↔ parse value = .error fault := by
  unfold faultIn
  cases parse value <;> simp

theorem faultIn_eq_none_iff {α : Type} {parse : String → Except ConfigFault α} {value : String} :
    faultIn parse value = none ↔ ∃ found, parse value = .ok found := by
  unfold faultIn
  cases parse value <;> simp

/-- What is wrong with a variable that is set to something. Most variables take any text. -/
def fault? (lookup : String → Option String) (name : String) : Option ConfigFault :=
  (nonempty lookup name).bind fun value =>
    if name = "CAPSTAN_BACKEND" then faultIn Backend.parse value
    else if name = "CAPSTAN_APPLY_TIMEOUT_SECS" ∨ name = "CAPSTAN_RELEASE_TIMEOUT_SECS" then
      faultIn (seconds name) value
    else none

def Understood (lookup : String → Option String) : Prop :=
  ∀ name, fault? lookup name = none

/-- An environment without a variable and those that are looked at after it. -/
def before (lookup : String → Option String) (name : String) : String → Option String :=
  fun other => if other ∈ variableNames.takeWhile (· ≠ name) then lookup other else none

/-- The first variable that is not understood, and what is wrong with it. -/
structure Stops (lookup : String → Option String) (name : String) (fault : ConfigFault) : Prop where
  faulty : fault? lookup name = some fault
  earlier : Understood (before lookup name)

variable {lookup other : String → Option String} {config changed : Config} {name : String} {fault : ConfigFault}
  {rest front : List Override}

theorem given_ok (lookup : String → Option String) (name : String) : given lookup .ok name = nonempty lookup name := by
  unfold given
  cases nonempty lookup name <;> rfl

theorem applyOverrides_cons {α : Type} {apply : String → Config → Except ConfigFault Config}
    {parse : String → Except ConfigFault α} (put : Option α → Config → Config)
    (unset : put none config = config)
    (set : ∀ value, apply value config = (parse value).map fun found => put (some found) config)
    (fine : (nonempty lookup name).bind (faultIn parse) = none) :
    applyOverrides lookup config (⟨name, apply⟩ :: rest) =
      applyOverrides lookup (put (given lookup parse name) config) rest := by
  rw [applyOverrides, given]
  cases found : nonempty lookup name with
  | none => rw [Option.bind_none, unset]
  | some value =>
    rw [found, Option.bind_some] at fine
    obtain ⟨found', parsed⟩ := faultIn_eq_none_iff.1 fine
    dsimp only
    rw [set, Option.bind_some, parsed]
    rfl

theorem applyOverrides_text {set : String → Config → Config} (put : Option String → Config → Config)
    (unset : put none config = config) (same : ∀ value, set value config = put (some value) config) :
    applyOverrides lookup config (textOverride name set :: rest) =
      applyOverrides lookup (put (nonempty lookup name) config) rest := by
  rw [← given_ok]
  refine applyOverrides_cons put unset (fun value => congrArg Except.ok (same value)) ?_
  cases nonempty lookup name <;> rfl

theorem applyOverrides_seconds {set : UInt64 → Config → Config} (put : Option UInt64 → Config → Config)
    (unset : put none config = config) (same : ∀ value, set value config = put (some value) config)
    (fine : (nonempty lookup name).bind (faultIn (seconds name)) = none) :
    applyOverrides lookup config (secondsOverride name set :: rest) =
      applyOverrides lookup (put (given lookup (seconds name) name) config) rest := by
  refine applyOverrides_cons put unset (fun value => ?_) fine
  simp only [← same]
  cases seconds name value <;> rfl

theorem withEnvironment_of_understood (understood : Understood lookup) (config : Config) :
    config.withEnvironment lookup = ((Layer.ofEnvironment lookup).onto config, none) := by
  unfold withEnvironment overrides
  rw [applyOverrides_cons (fun x config => { config with backend := x.getD config.backend }) rfl (fun _ => rfl)
      (understood "CAPSTAN_BACKEND"),
    applyOverrides_text (fun x config => { config with kubectl := x.getD config.kubectl }) rfl fun _ => rfl,
    applyOverrides_text (fun x config => { config with helm := x.getD config.helm }) rfl fun _ => rfl,
    applyOverrides_text (fun x config => { config with kubeconfig := (x.map some).getD config.kubeconfig }) rfl
      fun _ => rfl,
    applyOverrides_text (fun x config => { config with kubeNamespace := (x.map some).getD config.kubeNamespace }) rfl
      fun _ => rfl,
    applyOverrides_seconds (fun x config => { config with applyTimeout := x.getD config.applyTimeout }) rfl
      (fun _ => rfl) (understood "CAPSTAN_APPLY_TIMEOUT_SECS"),
    applyOverrides_seconds (fun x config => { config with releaseTimeout := x.getD config.releaseTimeout }) rfl
      (fun _ => rfl) (understood "CAPSTAN_RELEASE_TIMEOUT_SECS"),
    applyOverrides_text (fun x config => { config with releaseWait := x.getD config.releaseWait }) rfl fun _ => rfl,
    applyOverrides_text (fun x config => { config with chart := x.getD config.chart }) rfl fun _ => rfl,
    applyOverrides_text (fun x config => { config with resourceKind := x.getD config.resourceKind }) rfl fun _ => rfl,
    applyOverrides_text (fun x config => { config with handledKey := x.getD config.handledKey }) rfl fun _ => rfl,
    applyOverrides_text (fun x config => { config with authUrl := (x.map some).getD config.authUrl }) rfl fun _ => rfl,
    applyOverrides_text
      (fun x config => { config with templatesDirectory := (x.map some).getD config.templatesDirectory }) rfl
      fun _ => rfl,
    applyOverrides_text (fun x config => { config with stateDirectory := x.getD config.stateDirectory }) rfl fun _ => rfl]
  rfl

theorem applyOverrides_append (lookup : String → Option String) (config : Config) (front rest : List Override) :
    applyOverrides lookup config (front ++ rest) =
      match applyOverrides lookup config front with
      | (changed, none) => applyOverrides lookup changed rest
      | (changed, some fault) => (changed, some fault) := by
  induction front generalizing config with
  | nil => rfl
  | cons override front ih =>
    rw [List.cons_append, applyOverrides, applyOverrides]
    cases nonempty lookup override.name with
    | none => exact ih config
    | some value =>
      dsimp only
      cases override.apply value config with
      | ok next => exact ih next
      | error fault => rfl

theorem applyOverrides_congr (same : ∀ override ∈ front, lookup override.name = other override.name) :
    applyOverrides lookup config front = applyOverrides other config front := by
  induction front generalizing config with
  | nil => rfl
  | cons override front ih =>
    obtain ⟨here, later⟩ := List.forall_mem_cons.1 same
    have alike : nonempty lookup override.name = nonempty other override.name := by
      rw [nonempty, nonempty, here]
    simp only [applyOverrides, alike, ih later]

theorem applyOverrides_unset (unset : ∀ override ∈ rest, lookup override.name = none) :
    applyOverrides lookup config rest = (config, none) := by
  induction rest with
  | nil => rfl
  | cons override rest ih =>
    obtain ⟨here, later⟩ := List.forall_mem_cons.1 unset
    rw [applyOverrides, nonempty, here]
    exact ih later

theorem apply_of_fault {override : Override} (listed : override ∈ overrides)
    (faulty : fault? lookup override.name = some fault) :
    ∃ value, nonempty lookup override.name = some value ∧ ∀ config, override.apply value config = .error fault := by
  obtain ⟨value, set, wrong⟩ := Option.bind_eq_some_iff.1 faulty
  refine ⟨value, set, fun config => ?_⟩
  have stuck : ∀ {α : Type} {parse : String → Except ConfigFault α} (next : α → Except ConfigFault Config),
      faultIn parse value = some fault → parse value >>= next = .error fault := by
    intro α parse next wrong
    rw [faultIn_eq_some_iff.1 wrong]
    rfl
  clear set faulty
  revert override
  simp only [overrides, List.forall_mem_cons, textOverride, secondsOverride, String.reduceEq, if_true, if_false,
    or_false, or_true, reduceCtorEq, false_implies, List.not_mem_nil, implies_true, and_true, true_and]
  exact ⟨stuck _, stuck _, stuck _⟩

theorem nodup_variableNames : variableNames.Nodup := by decide

theorem mem_variableNames (faulty : fault? lookup name = some fault) : name ∈ variableNames := by
  obtain ⟨value, -, wrong⟩ := Option.bind_eq_some_iff.1 faulty
  split_ifs at wrong with backend timeout
  · rw [backend]
    decide
  · rcases timeout with rfl | rfl
    · decide
    · decide

theorem before_eq {front back : List String} (split : variableNames = front ++ name :: back) (other : String) :
    before lookup name other = if other ∈ front then lookup other else none := by
  have apart := nodup_variableNames
  rw [split] at apart
  have front_ne : ∀ entry ∈ front, entry ≠ name := fun entry member =>
    (List.nodup_append.1 apart).2.2 entry member name (List.mem_cons_self ..)
  have looked : variableNames.takeWhile (· ≠ name) = front := by
    rw [split, List.takeWhile_append_of_pos (by simpa using front_ne)]
    simp
  rw [before, looked]

/-- What is wrong with a variable cuts the environment off before it. -/
theorem withEnvironment_of_stops (stops : Stops lookup name fault) (config : Config) :
    config.withEnvironment lookup = ((Layer.ofEnvironment (before lookup name)).onto config, some fault) := by
  obtain ⟨faulty, earlier⟩ := stops
  obtain ⟨override, listed, rfl⟩ := List.mem_map.1 (mem_variableNames faulty)
  obtain ⟨value, set, stuck⟩ := apply_of_fault listed faulty
  obtain ⟨front, back, split⟩ := List.append_of_mem listed
  have names : variableNames = front.map (·.name) ++ override.name :: back.map (·.name) := by
    rw [variableNames, split, List.map_append, List.map_cons]
  have inFront : ∀ entry ∈ front, lookup entry.name = before lookup override.name entry.name := by
    intro entry member
    rw [before_eq names, if_pos (List.mem_map_of_mem member)]
  have behind : ∀ entry ∈ override :: back, before lookup override.name entry.name = none := by
    intro entry member
    rw [before_eq names, if_neg]
    intro early
    have apart := nodup_variableNames
    rw [names] at apart
    exact (List.nodup_append.1 apart).2.2 _ early _ (List.mem_map_of_mem (f := Override.name) member) rfl
  have whole := withEnvironment_of_understood earlier config
  rw [withEnvironment, split, applyOverrides_append, ← applyOverrides_congr inFront] at whole
  rw [withEnvironment, split, applyOverrides_append]
  cases applied : applyOverrides lookup config front with
  | mk changed found =>
    rw [applied] at whole
    cases found with
    | some cause => cases (Prod.mk.inj whole).2
    | none =>
      dsimp only at whole ⊢
      rw [applyOverrides_unset behind] at whole
      rw [applyOverrides, set]
      dsimp only
      rw [stuck, (Prod.mk.inj whole).1]

theorem understood_or_stops (lookup : String → Option String) :
    Understood lookup ∨ ∃ name fault, Stops lookup name fault := by
  cases first : variableNames.find? fun name => (fault? lookup name).isSome with
  | none =>
    refine .inl fun name => ?_
    cases faulty : fault? lookup name with
    | none => rfl
    | some fault =>
      have fine := List.find?_eq_none.1 first name (mem_variableNames faulty)
      rw [faulty] at fine
      exact absurd rfl fine
  | some name =>
    obtain ⟨wrong, front, back, split, fine⟩ := List.find?_eq_some_iff_append.1 first
    obtain ⟨fault, faulty⟩ := Option.isSome_iff_exists.1 wrong
    refine .inr ⟨name, fault, faulty, fun other => ?_⟩
    rw [fault?, nonempty, before_eq split]
    by_cases early : other ∈ front
    · rw [if_pos early]
      have none : fault? lookup other = none := by simpa using fine other early
      exact none
    · rw [if_neg early]
      rfl

theorem withEnvironment_ok_iff :
    config.withEnvironment lookup = (changed, none) ↔
      Understood lookup ∧ changed = (Layer.ofEnvironment lookup).onto config := by
  constructor
  · intro same
    rcases understood_or_stops lookup with understood | ⟨name, fault, stops⟩
    · rw [withEnvironment_of_understood understood] at same
      exact ⟨understood, (Prod.mk.inj same).1.symm⟩
    · rw [withEnvironment_of_stops stops] at same
      cases (Prod.mk.inj same).2
  · intro way
    obtain ⟨understood, rfl⟩ := way
    exact withEnvironment_of_understood understood config

theorem withEnvironment_error_iff :
    config.withEnvironment lookup = (changed, some fault) ↔
      ∃ name, Stops lookup name fault ∧ changed = (Layer.ofEnvironment (before lookup name)).onto config := by
  constructor
  · intro same
    rcases understood_or_stops lookup with understood | ⟨name, cause, stops⟩
    · rw [withEnvironment_of_understood understood] at same
      cases (Prod.mk.inj same).2
    · rw [withEnvironment_of_stops stops] at same
      obtain ⟨rfl, cause⟩ := Prod.mk.inj same
      obtain rfl := Option.some.inj cause
      exact ⟨name, stops, rfl⟩
  · intro way
    obtain ⟨name, stops, rfl⟩ := way
    exact withEnvironment_of_stops stops config

theorem withEnvironment_again (lookup : String → Option String) (config : Config) :
    (config.withEnvironment lookup).1.withEnvironment lookup = config.withEnvironment lookup := by
  rcases understood_or_stops lookup with understood | ⟨name, fault, stops⟩
  · rw [withEnvironment_of_understood understood, withEnvironment_of_understood understood, Layer.onto_onto]
  · rw [withEnvironment_of_stops stops, withEnvironment_of_stops stops, Layer.onto_onto]

/-! ### Values of variables -/

theorem parse_eq_ok_iff {value : String} {backend : Backend} :
    Backend.parse value = .ok backend ↔ value.toList.map Char.toLower = backend.name.toList := by
  have named : Backend.ofName? (Backend.folded value) = some backend ↔ backend.name = Backend.folded value := by
    constructor
    · intro found
      simpa using List.find?_some found
    · intro same
      rw [← same, Backend.ofName?_name]
  have lower : backend.name = Backend.folded value ↔ value.toList.map Char.toLower = backend.name.toList := by
    rw [Backend.folded, ← String.toList_inj, String.toList_ofList, eq_comm]
  rw [← lower, ← named, Backend.parse]
  cases Backend.ofName? (Backend.folded value) <;> simp

theorem after_plus {text digits : List Char} (decimal : ∀ c ∈ digits, Text.isDecimal c = true) :
    (Text.after? ['+'] text).getD text = digits ↔ text = digits ∨ text = '+' :: digits := by
  cases text with
  | nil => simp [Text.after?]
  | cons c rest =>
    by_cases plus : '+' = c
    · subst plus
      have other : '+' :: rest ≠ digits := by
        rintro rfl
        exact absurd (decimal '+' (List.mem_cons_self ..)) (by decide)
      simp [Text.after?, other]
    · have other : c ≠ '+' := fun same => plus same.symm
      simp [Text.after?, plus, other]

theorem seconds_eq_ok_iff {value : String} {n : UInt64} :
    seconds name value = .ok n ↔ ∃ digits, (value.toList = digits ∨ value.toList = '+' :: digits) ∧ digits ≠ [] ∧
      (∀ c ∈ digits, Text.isDecimal c = true) ∧ Nat.ofDigitChars 10 digits 0 = n.toNat := by
  have read : seconds name value = .ok n ↔
      Text.natural? 10 ((Text.after? ['+'] value.toList).getD value.toList) = some n.toNat := by
    unfold seconds
    dsimp only
    cases Text.natural? 10 ((Text.after? ['+'] value.toList).getD value.toList) with
    | none => simp
    | some m =>
      dsimp only
      split_ifs with small
      · rw [Except.ok.injEq, Option.some.injEq]
        constructor
        · intro same
          rw [← same, UInt64.toNat_ofNat_of_lt' small]
        · intro same
          rw [same, UInt64.ofNat_toNat]
      · have large : m ≠ n.toNat := fun same => small (same ▸ n.toNat_lt)
        simp [large]
  rw [read, Text.natural?_ten_eq_some_iff]
  constructor
  · intro found
    exact ⟨_, (after_plus found.2.1).1 rfl, found⟩
  · intro found
    obtain ⟨digits, place, found⟩ := found
    rw [(after_plus found.2.1).2 place]
    exact found

/-! ### The whole -/

/-- What the configuration file says, if there is one. -/
inductive FileGives : Option String → List Host.Event → Except ConfigFault Layer → Prop where
  | noFile : FileGives none [] (.ok {})
  | unreadable (path : String) (cause : SystemError) :
      FileGives (some path) [⟨.readText path, .error cause⟩] (.error (.unreadable path cause))
  | invalid (path : String) {text : String} (wrong : Layer.ofText? text = none) :
      FileGives (some path) [⟨.readText path, .ok text⟩] (.error .invalid)
  | layer (path : String) {text : String} {file : Layer} (right : Layer.ofText? text = some file) :
      FileGives (some path) [⟨.readText path, .ok text⟩] (.ok file)

def shown? (field : String) (config : Config) : Option Json.Document :=
  (Json.Document.members? config.toDocument).bind (·.lookup field)

theorem named : variableNames = fieldNames.map fun field => "CAPSTAN_" ++ field.toUpper := by decide +kernel

theorem yields_ofFile {path : Option String} {events : List Host.Event} {result : Except ConfigFault Config} :
    (ofFile path).Yields events result ↔ ∃ said, FileGives path events said ∧ result = said.map (·.onto initial) := by
  cases path with
  | none =>
    constructor
    · intro run
      obtain ⟨rfl, rfl⟩ := Program.yields_done.1 run
      exact ⟨_, .noFile, rfl⟩
    · intro way
      obtain ⟨said, file, rfl⟩ := way
      cases file
      exact .done _
  | some path =>
    constructor
    · intro run
      obtain ⟨answer, _, after, rfl, asked, rest⟩ := Program.yields_bind.1 run
      obtain rfl := Program.yields_query.1 asked
      cases answer with
      | error cause =>
        obtain ⟨rfl, rfl⟩ := Program.yields_done.1 rest
        exact ⟨_, .unreadable path cause, rfl⟩
      | ok text =>
        obtain ⟨rfl, rfl⟩ := Program.yields_done.1 rest
        rw [Layer.ofText_eq]
        cases said : Layer.ofText? text with
        | none => exact ⟨_, .invalid path said, rfl⟩
        | some file => exact ⟨_, .layer path said, rfl⟩
    · intro way
      obtain ⟨said, file, rfl⟩ := way
      refine Program.yields_bind.2 ?_
      cases file with
      | unreadable _ cause => exact ⟨.error cause, _, [], rfl, Program.yields_query.2 rfl, .done _⟩
      | @invalid _ text wrong =>
        refine ⟨.ok text, _, [], rfl, Program.yields_query.2 rfl, Program.yields_done.2 ⟨rfl, ?_⟩⟩
        rw [Layer.ofText_eq, wrong]
        rfl
      | @layer _ text _ right =>
        refine ⟨.ok text, _, [], rfl, Program.yields_query.2 rfl, Program.yields_done.2 ⟨rfl, ?_⟩⟩
        rw [Layer.ofText_eq, right]
        rfl

theorem underEnvironment_ok_iff :
    config.underEnvironment lookup = .ok changed ↔
      Understood lookup ∧ changed = (Layer.ofEnvironment lookup).onto config := by
  rw [← withEnvironment_ok_iff, underEnvironment]
  cases config.withEnvironment lookup with
  | mk next found => cases found <;> simp

theorem underEnvironment_error_iff :
    config.underEnvironment lookup = .error fault ↔ ∃ name, Stops lookup name fault := by
  have cut : config.underEnvironment lookup = .error fault ↔
      ∃ changed, config.withEnvironment lookup = (changed, some fault) := by
    rw [underEnvironment]
    cases config.withEnvironment lookup with
    | mk next found => cases found <;> simp
  rw [cut]
  simp only [withEnvironment_error_iff]
  constructor
  · intro way
    obtain ⟨_, name, stops, -⟩ := way
    exact ⟨name, stops⟩
  · intro way
    obtain ⟨name, stops⟩ := way
    exact ⟨_, name, stops, rfl⟩

/-- Where the values of a configuration come from. -/
structure Precedence (lookup : String → Option String) (arguments : CommandLine.Arguments) : Prop where
  /-- There is a configuration exactly where the file can be read and nothing is wrong with the variables,
  whatever the options are. Every field is then given by the options, else by its variable, else by the
  file, and else it has its initial value. -/
  ok_iff : ∀ events config, (arguments.configuration lookup).Yields events (.ok config) ↔
    ∃ file, FileGives arguments.config events (.ok file) ∧ Understood lookup ∧
      config = (Layer.ofArguments arguments).onto ((Layer.ofEnvironment lookup).onto (file.onto initial))
  /-- Otherwise the fault is that of the file, or of the first variable with which something is wrong. -/
  error_iff : ∀ events fault, (arguments.configuration lookup).Yields events (.error fault) ↔
    FileGives arguments.config events (.error fault) ∨
      ∃ file name, FileGives arguments.config events (.ok file) ∧ Stops lookup name fault
  /-- A variable is called as its field, and the variables are looked at in the order of the fields. -/
  variableNames_eq : variableNames = fieldNames.map fun field => "CAPSTAN_" ++ field.toUpper
  /-- No variable has to do with the field of another. -/
  separate : ∀ (other : String → Option String) (config before after : Config),
    config.withEnvironment lookup = (before, none) → config.withEnvironment other = (after, none) →
    ∀ pair ∈ fieldNames.zip variableNames,
      nonempty lookup pair.2 = nonempty other pair.2 → shown? pair.1 before = shown? pair.1 after
  /-- What is understood of the variables that do not take any text. -/
  backend_iff : ∀ value backend, Backend.parse value = .ok backend ↔
    value.toList.map Char.toLower = backend.name.toList
  seconds_iff : ∀ name value (n : UInt64), seconds name value = .ok n ↔
    ∃ digits, (value.toList = digits ∨ value.toList = '+' :: digits) ∧ digits ≠ [] ∧
      (∀ c ∈ digits, Text.isDecimal c = true) ∧ Nat.ofDigitChars 10 digits 0 = n.toNat
  /-- With a variable with which something is wrong, those before it are put in and no others. -/
  stopped_iff : ∀ (config changed : Config) fault, config.withEnvironment lookup = (changed, some fault) ↔
    ∃ name, Stops lookup name fault ∧ changed = (Layer.ofEnvironment (before lookup name)).onto config
  /-- Nothing changes when the variables are put in a second time. -/
  again : ∀ config : Config, (config.withEnvironment lookup).1.withEnvironment lookup = config.withEnvironment lookup

theorem shown?_onto (lookup other : String → Option String) (config : Config) :
    ∀ pair ∈ fieldNames.zip variableNames, nonempty lookup pair.2 = nonempty other pair.2 →
      shown? pair.1 ((Layer.ofEnvironment lookup).onto config) =
        shown? pair.1 ((Layer.ofEnvironment other).onto config) := by
  have members (fields : List (String × Json.Document)) : Json.Document.members? (.record fields) = some fields :=
    Json.named_map_some fields
  simp only [fieldNames, variableNames, overrides, textOverride, secondsOverride, List.map_cons, List.map_nil,
    List.zip_cons_cons, List.zip_nil_right, List.forall_mem_cons, List.not_mem_nil, false_implies, implies_true,
    and_true]
  refine ⟨?_, ?_, ?_, ?_, ?_, ?_, ?_, ?_, ?_, ?_, ?_, ?_, ?_, ?_⟩
  all_goals
    intro same
    simp only [shown?, toDocument, members, Option.bind_some, List.lookup_cons, String.reduceBEq, Layer.onto,
      Layer.ofEnvironment, given, same]

theorem underEnvironment_onto (file : Layer) :
    ((Except.ok file : Except ConfigFault Layer).map (·.onto initial)).bind (underEnvironment lookup) =
      (file.onto initial).underEnvironment lookup := by
  rw [Except.map, Except.bind]

/-- The layers one over the other, up to the first that is not there. -/
theorem yields_configuration {arguments : CommandLine.Arguments} {events : List Host.Event}
    {result : Except ConfigFault Config} :
    (arguments.configuration lookup).Yields events result ↔ ∃ said, FileGives arguments.config events said ∧
      result = ((said.map (·.onto initial)).bind (underEnvironment lookup)).map arguments.override := by
  simp only [CommandLine.Arguments.configuration, load, Program.yields_bind, Program.yields_done, yields_ofFile]
  constructor
  · intro run
    obtain ⟨_, _, _, rfl, ⟨_, _, _, rfl, ⟨said, file, rfl⟩, rfl, rfl⟩, rfl, rfl⟩ := run
    rw [List.append_nil, List.append_nil]
    exact ⟨said, file, rfl⟩
  · intro way
    obtain ⟨said, file, rfl⟩ := way
    have whole : events = events ++ [] := (List.append_nil events).symm
    exact ⟨_, events, [], whole, ⟨_, events, [], whole, ⟨said, file, rfl⟩, rfl, rfl⟩, rfl, rfl⟩

section Layers

variable {arguments : CommandLine.Arguments} {said : Except ConfigFault Layer}

theorem layers_ok_iff :
    ((said.map (·.onto initial)).bind (underEnvironment lookup)).map arguments.override = .ok config ↔
      ∃ file, said = .ok file ∧ Understood lookup ∧
        config = (Layer.ofArguments arguments).onto ((Layer.ofEnvironment lookup).onto (file.onto initial)) := by
  simp only [Layer.ofArguments_onto]
  constructor
  · intro same
    cases said with
    | error cause => cases same
    | ok file =>
      rw [underEnvironment_onto] at same
      cases put : (file.onto initial).underEnvironment lookup with
      | error cause =>
        rw [put] at same
        cases same
      | ok under =>
        obtain ⟨understood, rfl⟩ := underEnvironment_ok_iff.1 put
        rw [put] at same
        exact ⟨file, rfl, understood, (Except.ok.inj same).symm⟩
  · intro way
    obtain ⟨file, rfl, understood, rfl⟩ := way
    rw [underEnvironment_onto, underEnvironment_ok_iff.2 ⟨understood, rfl⟩]
    rfl

theorem layers_error_iff :
    ((said.map (·.onto initial)).bind (underEnvironment lookup)).map arguments.override = .error fault ↔
      said = .error fault ∨ ∃ file name, said = .ok file ∧ Stops lookup name fault := by
  constructor
  · intro same
    cases said with
    | error cause =>
      obtain rfl := Except.error.inj same
      exact .inl rfl
    | ok file =>
      rw [underEnvironment_onto] at same
      cases put : (file.onto initial).underEnvironment lookup with
      | ok under =>
        rw [put] at same
        cases same
      | error cause =>
        rw [put] at same
        obtain rfl := Except.error.inj same
        obtain ⟨name, stops⟩ := underEnvironment_error_iff.1 put
        exact .inr ⟨file, name, rfl, stops⟩
  · intro way
    rcases way with rfl | ⟨file, name, rfl, stops⟩
    · rfl
    · rw [underEnvironment_onto, underEnvironment_error_iff.2 ⟨name, stops⟩]
      rfl

end Layers

/-- The values of every configuration come from its layers in their order. -/
theorem configuration_precedence (lookup : String → Option String) (arguments : CommandLine.Arguments) :
    Precedence lookup arguments := by
  constructor
  case ok_iff =>
    intro events config
    simp only [yields_configuration, eq_comm (a := Except.ok config), layers_ok_iff]
    constructor
    · intro way
      obtain ⟨_, given, file, rfl, understood, same⟩ := way
      exact ⟨file, given, understood, same⟩
    · intro way
      obtain ⟨file, given, understood, same⟩ := way
      exact ⟨_, given, file, rfl, understood, same⟩
  case error_iff =>
    intro events fault
    simp only [yields_configuration, eq_comm (a := Except.error fault), layers_error_iff]
    constructor
    · intro way
      obtain ⟨_, given, rfl | ⟨file, name, rfl, stops⟩⟩ := way
      · exact .inl given
      · exact .inr ⟨file, name, given, stops⟩
    · intro way
      rcases way with given | ⟨file, name, given, stops⟩
      · exact ⟨_, given, .inl rfl⟩
      · exact ⟨_, given, .inr ⟨file, name, rfl, stops⟩⟩
  case variableNames_eq => exact named
  case separate =>
    intro other config before after here there
    obtain ⟨-, rfl⟩ := withEnvironment_ok_iff.1 here
    obtain ⟨-, rfl⟩ := withEnvironment_ok_iff.1 there
    exact shown?_onto lookup other config
  case backend_iff => exact fun _ _ => parse_eq_ok_iff
  case seconds_iff => exact fun _ _ _ => seconds_eq_ok_iff
  case stopped_iff => exact fun _ _ _ => withEnvironment_error_iff
  case again => exact withEnvironment_again lookup

end Config

end ClusterLifecycle
