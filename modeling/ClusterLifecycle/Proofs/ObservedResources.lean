import ClusterLifecycle.Command.Basic
import ClusterLifecycle.Proofs.OperationOutcome
import ClusterLifecycle.Proofs.RecordRoundTrip
import ClusterLifecycle.Proofs.ResourceDocuments
import ClusterLifecycle.Proofs.StatusPassEffects

/-!
What a look at the resource behind a cluster comes to, told by the answer of the tool alone: by how its
run ended, and by the document in its output. Data in the document is compared as data, and a resource
whose operator lags behind is not taken at its word, whatever it says.
-/

namespace ClusterLifecycle

open Json

/-! ### Answers -/

def Fetched (answer : RunResult) (document : Document) : Prop :=
  ∃ output, answer = .ok output ∧ Document.ofText? output.stdout.toList = some document ∧
    (Resource.ofDocument? document).isSome = true

def Missing (answer : RunResult) : Prop :=
  ∃ program stdout stderr, answer = .error (.failed program (some 1) stdout stderr) ∧
    "Error from server (NotFound)".toList <:+: stderr.toList

structure SeenIn (key : String) (answer : RunResult) (seen : Observation) : Prop where
  notFound_iff : seen = .notFound ↔ Missing answer
  ready_iff : seen = .ready ↔ ∃ document, Fetched answer document ∧
    document.phase? = some "Ready" ∧ document.Handled key
  error_iff : seen = .error ↔
    (∃ document, Fetched answer document ∧
      (document.phase? = some "Failed" ∨ document.phase? = some "Unhealthy") ∧ document.Handled key) ∨
    (¬ Missing answer ∧ ∀ document, ¬ Fetched answer document)
  pending_iff : seen = .pending ↔ ∃ document, Fetched answer document ∧
    (document.phase? = none ∨ ¬ document.Handled key ∨
      ∃ phase, document.phase? = some phase ∧ phase ∉ ["Ready", "Failed", "Unhealthy"])

section Answers

variable {key : String} {answer : RunResult} {document : Document} {resource : Resource} {seen other : Observation}

theorem isNotFound_iff {marker : String} {fault : RunFault} : fault.isNotFound marker = true ↔
    ∃ program stdout stderr, fault = .failed program (some 1) stdout stderr ∧ marker.toList <:+: stderr.toList := by
  cases fault with
  | failed program code stdout stderr =>
    simp [RunFault.isNotFound, RunFault.exitCode, RunFault.stderr, Text.occursIn_iff]
  | _ => simp [RunFault.isNotFound, RunFault.exitCode]

theorem missing_error_iff {fault : RunFault} :
    Missing (.error fault) ↔ fault.isNotFound Kubectl.notFoundMarker = true := by
  simp [Missing, isNotFound_iff, Kubectl.notFoundMarker]

theorem not_missing_ok (output : Output) : ¬ Missing (.ok output) := nofun

theorem not_fetched_error (fault : RunFault) (document : Document) : ¬ Fetched (.error fault) document := nofun

theorem Fetched.unique {document' : Document} (fetched : Fetched answer document)
    (again : Fetched answer document') : document' = document := by
  obtain ⟨output, rfl, read, -⟩ := fetched
  obtain ⟨_, same, read', -⟩ := again
  obtain rfl := Except.ok.inj same
  exact Option.some.inj (read'.symm.trans read)

theorem SeenIn.unique (first : SeenIn key answer seen) (second : SeenIn key answer other) : seen = other := by
  cases seen with
  | ready => exact (second.ready_iff.2 (first.ready_iff.1 rfl)).symm
  | pending => exact (second.pending_iff.2 (first.pending_iff.1 rfl)).symm
  | error => exact (second.error_iff.2 (first.error_iff.1 rfl)).symm
  | notFound => exact (second.notFound_iff.2 (first.notFound_iff.1 rfl)).symm

theorem seenIn_error (fault : RunFault) :
    SeenIn key (.error fault) (if fault.isNotFound Kubectl.notFoundMarker then .notFound else .error) := by
  by_cases missing : fault.isNotFound Kubectl.notFoundMarker = true
  · rw [if_pos missing]
    constructor <;> simp [missing_error_iff, missing, not_fetched_error]
  · rw [if_neg missing]
    constructor <;> simp [missing_error_iff, missing, not_fetched_error]

theorem seenIn_unread {output : Output} (unread : Resource.ofText? output.stdout = none) :
    SeenIn key (.ok output) .error := by
  have nothing : ∀ document, ¬ Fetched (.ok output) document := by
    intro document fetched
    obtain ⟨_, same, read, holds⟩ := fetched
    obtain rfl := Except.ok.inj same
    rw [Resource.ofText?, read, Option.bind_eq_bind, Option.bind_some] at unread
    rw [unread] at holds
    cases holds
  constructor <;> simp [nothing, not_missing_ok]

theorem seenIn_classify (fetched : Fetched answer document) (found : Resource.ofDocument? document = some resource) :
    SeenIn key answer (.classify key (some resource)) := by
  have only : ∀ document', Fetched answer document' ↔ document' = document := by
    intro document'
    refine ⟨fetched.unique, ?_⟩
    rintro rfl
    exact fetched
  have there : ¬ Missing answer := by
    obtain ⟨output, rfl, -⟩ := fetched
    exact not_missing_ok output
  unfold Observation.classify
  dsimp only
  rw [Resource.phase?_eq found]
  cases phase : document.phase? with
  | none => constructor <;> simp [only, there, phase]
  | some text =>
    by_cases handled : document.Handled key
    · dsimp only
      rw [if_pos ((Resource.isHandled_iff found).2 handled), Observation.ofPhase]
      split_ifs with ready failed
      · constructor <;> simp [only, there, phase, handled, ready]
      · rcases failed with rfl | rfl
        · constructor <;> simp [only, there, phase, handled]
        · constructor <;> simp [only, there, phase, handled]
      · obtain ⟨notFailed, notUnhealthy⟩ := not_or.1 failed
        constructor <;> simp [only, there, phase, handled, ready, notFailed, notUnhealthy]
    · dsimp only
      rw [if_neg fun same => handled ((Resource.isHandled_iff found).1 same)]
      constructor <;> simp [only, there, phase, handled]

/-- However the output with a document is laid out, it is taken for the same. -/
theorem seenIn_relaid {output output' : Output} {document' : Document} (fetched : Fetched (.ok output) document)
    (fetched' : Fetched (.ok output') document') (relaid : Relaid output.stdout output'.stdout)
    (saw : SeenIn key (.ok output) seen) : SeenIn key (.ok output') seen := by
  obtain ⟨_, same, read, holds⟩ := id fetched
  obtain rfl := Except.ok.inj same
  obtain ⟨_, same, read', holds'⟩ := id fetched'
  obtain rfl := Except.ok.inj same
  obtain ⟨resource, found⟩ := Option.isSome_iff_exists.1 holds
  obtain ⟨resource', found'⟩ := Option.isSome_iff_exists.1 holds'
  have rearranged := relaid.rearranged read read'
  have handled : resource.isHandled key = resource'.isHandled key := by
    rw [Bool.eq_iff_iff, Resource.isHandled_iff found, Resource.isHandled_iff found', handled_rearranged found rearranged]
  have phase : resource.phase? = resource'.phase? := by
    rw [Resource.phase?_eq found, Resource.phase?_eq found', phase?_rearranged rearranged]
  have alike : Observation.classify key (some resource) = .classify key (some resource') := by
    unfold Observation.classify
    dsimp only
    rw [handled, phase]
  rw [saw.unique (seenIn_classify fetched found), alike]
  exact seenIn_classify fetched' found'

end Answers

/-! ### Attempts -/

theorem missing_conclude {command : Command} {attempt : Attempt} : Missing (command.conclude attempt) ↔
    ∃ stdout stderr, attempt = .ended (.exited 1) stdout stderr ∧
      "Error from server (NotFound)".toList <:+: (readable stderr).toList := by
  constructor
  · intro missing
    obtain ⟨program, out, err, failed, marked⟩ := missing
    unfold Command.conclude at failed
    split at failed
    · cases failed
    · cases failed
    · split at failed
      · cases failed
      · cases failed
    · rename_i ending stdout stderr _
      injection failed with failed
      injection failed with _ code _ same
      subst same
      cases ending with
      | exited status =>
        obtain rfl : status = 1 := by exact_mod_cast Option.some.inj code
        exact ⟨stdout, stderr, rfl, marked⟩
      | killed signal => cases code
  · intro missing
    obtain ⟨stdout, stderr, rfl, marked⟩ := missing
    exact ⟨_, _, _, rfl, marked⟩

theorem fetched_conclude {command : Command} {attempt : Attempt} {document : Document} :
    Fetched (command.conclude attempt) document ↔ ∃ stdout stderr text,
      attempt = .ended (.exited 0) stdout stderr ∧ Text.Utf8.decode? stdout = some text ∧
      Document.ofText? text = some document ∧ (Resource.ofDocument? document).isSome = true := by
  constructor
  · intro fetched
    obtain ⟨output, succeeded, read, holds⟩ := fetched
    unfold Command.conclude at succeeded
    split at succeeded
    · cases succeeded
    · cases succeeded
    · rename_i stdout stderr
      split at succeeded
      · rename_i text decoded
        obtain rfl := Except.ok.inj succeeded
        exact ⟨stdout, stderr, text, rfl, decoded, by simpa using read, holds⟩
      · cases succeeded
    · cases succeeded
  · intro fetched
    obtain ⟨stdout, stderr, text, rfl, decoded, read, holds⟩ := fetched
    refine ⟨⟨String.ofList text, readable stderr⟩, ?_, by simpa using read, holds⟩
    rw [Command.conclude, decoded]

namespace Driver

open Program Plan

variable {driver : Driver} {config : Config} {cluster after : Cluster} {events rest : List Plan.Event}
  {result : Except Failure PassOutcome} {answer : RunResult}

theorem seenIn_observed (manifests : config.backend = .manifests) (answer : RunResult) :
    SeenIn config.handledKey answer (observed config answer) := by
  unfold observed absenceMarker inspected?
  rw [manifests]
  cases answer with
  | error fault => exact seenIn_error fault
  | ok output =>
    cases read : Resource.ofText? output.stdout with
    | none =>
      dsimp only
      rw [read]
      exact seenIn_unread read
    | some resource =>
      obtain ⟨document, held, found⟩ := Option.bind_eq_some_iff.1 read
      dsimp only
      rw [read]
      exact seenIn_classify ⟨output, rfl, held, by rw [found]; rfl⟩ found

/-- All that there is to say of looking at a cluster. -/
structure ObservedExactly (driver : Driver) (cluster : Cluster) : Prop where
  /-- Every answer is taken for one thing. -/
  total : ∀ answer, ∃! seen, SeenIn driver.config.handledKey answer seen
  /-- Looking takes one command, and comes to what its answer is taken for. -/
  seen_iff : ∀ events seen, (driver.observe cluster).Yields events seen ↔
    ∃ answer, events = [ran (inspection driver.config cluster.uuid) answer] ∧
      SeenIn driver.config.handledKey answer seen
  /-- A pass looks once, and goes by what it has seen. -/
  passed : ∀ events result after, (driver.statusPass cluster).Yields events (result, after) →
    ∃ answer rest seen, events = ran (inspection driver.config cluster.uuid) answer :: rest ∧
      SeenIn driver.config.handledKey answer seen ∧ driver.Moves cluster (some seen) rest result after
  /-- A resource that lags behind moves nothing, whatever its phase. -/
  stale : ∀ answer document rest result after, Fetched answer document →
    ¬ document.Handled driver.config.handledKey →
    (driver.statusPass cluster).Yields (ran (inspection driver.config cluster.uuid) answer :: rest) (result, after) →
    rest = [] ∧ after = cluster ∧ result = .ok ⟨cluster.status, cluster.status, some .pending, false⟩
  /-- The layout of the output makes no difference. -/
  output_relaid : ∀ output output' document document' seen, Fetched (.ok output) document →
    Fetched (.ok output') document' → Relaid output.stdout output'.stdout →
    (SeenIn driver.config.handledKey (.ok output) seen ↔ SeenIn driver.config.handledKey (.ok output') seen)
  /-- Nor does the layout of an annotation. -/
  annotation_relaid : ∀ (answer : RunResult) (document record record' : Document) (text text' : String),
    Fetched answer document → record.HeldBy text → record'.HeldBy text' → Relaid text text' →
    (Agrees record.spec document.spec ↔ Agrees record'.spec document.spec)
  /-- A resource is fetched by a run that ends well only. -/
  fetched_iff : ∀ attempt document,
    Fetched ((inspection driver.config cluster.uuid).conclude attempt) document ↔ ∃ stdout stderr text,
      attempt = .ended (.exited 0) stdout stderr ∧ Text.Utf8.decode? stdout = some text ∧
      Document.ofText? text = some document ∧ (Resource.ofDocument? document).isSome = true
  /-- It is missing after an end with code 1 only. -/
  missing_iff : ∀ attempt, Missing ((inspection driver.config cluster.uuid).conclude attempt) ↔
    ∃ stdout stderr, attempt = .ended (.exited 1) stdout stderr ∧
      "Error from server (NotFound)".toList <:+: (readable stderr).toList

theorem transition_pending {status : Status} (progress : status.isInProgress = true) :
    status.transition .pending = none := by
  obtain ⟨operation, stage⟩ := status
  cases stage with
  | inProgress => cases operation <;> rfl
  | complete => cases progress
  | failed => cases progress

theorem passed_of_yields (progress : cluster.status.isInProgress = true)
    (run : (driver.statusPass cluster).Yields events (result, after)) :
    ∃ answer rest, events = ran (inspection driver.config cluster.uuid) answer :: rest ∧
      driver.Moves cluster (some (observed driver.config answer)) rest result after := by
  obtain ⟨looking, rest, seen, rfl, looks, moves⟩ := yields_statusPass.1 run
  rw [Looks, if_pos progress] at looks
  obtain ⟨answer, rfl, rfl⟩ := looks
  exact ⟨answer, rest, rfl, moves⟩

/-- With a cluster in progress, every answer is taken for exactly what it says. -/
theorem observed_exactly (manifests : driver.config.backend = .manifests)
    (progress : cluster.status.isInProgress = true) : driver.ObservedExactly cluster := by
  have classified : ∀ answer, SeenIn driver.config.handledKey answer (observed driver.config answer) :=
    seenIn_observed manifests
  constructor
  case total => exact fun answer => ⟨_, classified answer, fun _ other => other.unique (classified answer)⟩
  case seen_iff =>
    intro events seen
    rw [yields_observe]
    constructor
    · intro looked
      obtain ⟨answer, rfl, rfl⟩ := looked
      exact ⟨answer, rfl, classified answer⟩
    · intro saw
      obtain ⟨answer, rfl, saw⟩ := saw
      exact ⟨answer, rfl, saw.unique (classified answer)⟩
  case passed =>
    intro events result after run
    obtain ⟨answer, rest, rfl, moves⟩ := passed_of_yields progress run
    exact ⟨answer, rest, _, rfl, classified answer, moves⟩
  case stale =>
    intro answer document rest result after fetched lags run
    obtain ⟨_, _, same, moves⟩ := passed_of_yields progress run
    obtain ⟨first, rfl⟩ := List.cons.inj same
    obtain ⟨-, rfl⟩ := ran_inj.1 first
    have pending : observed driver.config answer = .pending :=
      (classified answer).pending_iff.2 ⟨document, fetched, .inr (.inl lags)⟩
    rw [Moves, Option.getD_some, pending, transition_pending progress] at moves
    exact ⟨moves.1, moves.2.2, moves.2.1⟩
  case output_relaid =>
    intro output output' document document' seen fetched fetched' relaid
    have moved := seenIn_relaid fetched fetched' relaid (classified (.ok output))
    constructor
    · intro saw
      rwa [saw.unique (classified _)]
    · intro saw
      rw [saw.unique moved]
      exact classified _
  case annotation_relaid =>
    intro answer document record record' text text' fetched held held' relaid
    obtain ⟨_, -, -, holds⟩ := fetched
    obtain ⟨resource, found⟩ := Option.isSome_iff_exists.1 holds
    obtain ⟨_, desired⟩ := Resource.exists_desired found
    obtain ⟨value, given⟩ := Option.isSome_iff_exists.1 held.2
    obtain ⟨_, spec⟩ := Resource.exists_spec given
    exact agrees_rearranged spec desired (spec_rearranged (relaid.rearranged held.1 held'.1)) (.refl _)
  case fetched_iff => exact fun attempt document => fetched_conclude
  case missing_iff => exact fun attempt => missing_conclude

def sizeRecord (size : String) : Document :=
  .record [("spec", .text size)]

/-- A resource that says it is ready, of one size asked for and one size handled. -/
def sized (key asked handled : String) : Document :=
  .record [
    ("metadata", .record [
      ("annotations", .record [(key, .text (String.ofList (sizeRecord handled).pretty))])]),
    ("spec", .text asked),
    ("status", .record [("phase", .text "Ready")])]

theorem sound_sizeRecord (size : String) : (sizeRecord size).Sound :=
  sound_record (by simp [sound_text])

theorem fetched_sized (key asked handled : String) :
    Fetched (.ok ⟨String.ofList (sized key asked handled).pretty, ""⟩) (sized key asked handled) := by
  have sound : (sized key asked handled).Sound := by
    refine sound_record ?_
    simp [sound_text, sound_record]
  refine ⟨_, rfl, by simpa using ofText?_pretty sound, ?_⟩
  simp [sized, Document.record, Resource.ofDocument?, Resource.metadataKey, Value.ofMembers?, nestingLimit,
    Value.ofDocument?, Document.text, Resource.fitsMembers, Resource.fitsNamed, Resource.metadataShapes,
    Resource.fits, TextMap.read, Document.source, Document.members?, Document.named, Document.text?]

theorem phase?_sized (key asked handled : String) : (sized key asked handled).phase? = some "Ready" := rfl

theorem handled_sized_iff {key asked handled : String} :
    (sized key asked handled).Handled key ↔ handled = asked := by
  have recorded : (sized key asked handled).annotation? key = some (String.ofList (sizeRecord handled).pretty) := by
    simp [sized, Document.annotation?, Document.member?, Document.record, Document.text, Document.text?, lastOf,
      List.lookup_cons]
  have read : Document.ofText? (String.ofList (sizeRecord handled).pretty).toList = some (sizeRecord handled) := by
    simpa using ofText?_pretty (sound_sizeRecord handled)
  constructor
  · intro held
    obtain ⟨text, record, annotated, ⟨found, -⟩, agrees⟩ := held
    obtain rfl := Option.some.inj (recorded.symm.trans annotated)
    obtain rfl := Option.some.inj (read.symm.trans found)
    have agrees : Agrees (.text handled) (.text asked) := agrees
    cases agrees
    rfl
  · rintro rfl
    exact ⟨_, _, recorded, ⟨read, rfl⟩, .string _⟩

def fetching : Driver :=
  { initial with config := { Config.initial with backend := .manifests } }

def answered (asked handled : String) : RunResult :=
  .ok ⟨String.ofList (sized fetching.config.handledKey asked handled).pretty, ""⟩

theorem observed_exactly_sized :
    fetching.config.backend = .manifests ∧ (default : Cluster).status.isInProgress = true ∧
      fetching.ObservedExactly default ∧
      SeenIn fetching.config.handledKey (answered "large" "large") .ready ∧
      SeenIn fetching.config.handledKey (answered "large" "small") .pending := by
  have exact : fetching.ObservedExactly default := observed_exactly rfl rfl
  refine ⟨rfl, rfl, exact, ?_, ?_⟩
  · obtain ⟨seen, saw, -⟩ := exact.total (answered "large" "large")
    obtain rfl := saw.ready_iff.2 ⟨_, fetched_sized _ _ _, phase?_sized _ _ _, handled_sized_iff.2 rfl⟩
    exact saw
  · obtain ⟨seen, saw, -⟩ := exact.total (answered "large" "small")
    have lags := (@handled_sized_iff fetching.config.handledKey "large" "small").not.2 (by decide)
    obtain rfl := saw.pending_iff.2 ⟨_, fetched_sized _ _ _, .inr (.inl lags)⟩
    exact saw

end Driver

end ClusterLifecycle
