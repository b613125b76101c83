import ClusterLifecycle.Proofs.AppliedBundles
import ClusterLifecycle.Proofs.StatusPassEffects

/-!
When the credentials of a cluster are taken away. Whatever operations and passes go on over any number
of clusters, a secret is removed last of all: by the pass that has found its cluster gone and has had
the end of the deletion kept. No other cluster and no project has a secret of that name.
-/

namespace ClusterLifecycle

open Text

/-! ### Names of secrets -/

namespace Uuid

theorem mem_fixedHex {width n : Nat} {c : Char} (member : c ∈ fixedHex width n) :
    ∃ digit < 16, c = hexDigit digit := by
  induction width generalizing n with
  | zero => cases member
  | succ width ih =>
    rcases List.mem_append.1 member with front | last
    · exact ih front
    · exact ⟨n % 16, Nat.mod_lt _ (by decide), List.mem_singleton.1 last⟩

theorem exists_digit (uuid : Uuid) :
    ∃ digit < 16, ∃ rest, uuid.toText = hexDigit digit :: rest := by
  obtain ⟨c, more, shown⟩ := List.exists_cons_of_length_eq_add_one (length_digits uuid)
  have member : c ∈ fixedHex 32 uuid.value.toNat := by
    rw [← digits, shown]
    exact List.mem_cons_self ..
  obtain ⟨digit, small, rfl⟩ := mem_fixedHex member
  exact ⟨digit, small, _, by rw [toText, shown, hyphenate]; rfl⟩

end Uuid

namespace Cluster

theorem toList_credentialsSecret (cluster : Cluster) :
    cluster.credentialsSecret.toList = cluster.uuid.toText ++ "-cloud-credentials".toList := by
  have joined : cluster.credentialsSecret = toString cluster.uuid ++ "-cloud-credentials" := by
    simp [credentialsSecret]
    rfl
  rw [joined, String.toList_append, Uuid.toList_toString]

theorem credentialsSecret_ne {cluster other : Cluster} (apart : other.uuid ≠ cluster.uuid) :
    other.credentialsSecret ≠ cluster.credentialsSecret := by
  intro same
  have texts := congrArg String.toList same
  rw [toList_credentialsSecret, toList_credentialsSecret] at texts
  exact apart (Uuid.toText_injective (List.append_cancel_right texts))

theorem projectSecret_ne (cluster : Cluster) (project : String) :
    projectSecret project ≠ cluster.credentialsSecret := by
  intro same
  have texts := congrArg String.toList same
  obtain ⟨digit, small, rest, shown⟩ := cluster.uuid.exists_digit
  have opening : (projectSecret project).toList = 'p' :: "roject-".toList ++ project.toList :=
    String.toList_append
  have other : ∀ digit < 16, hexDigit digit ≠ 'p' := by decide
  rw [toList_credentialsSecret, shown, opening] at texts
  exact other digit small (List.cons.inj texts).1.symm

end Cluster

def Command.RemovesSecret (command : Command) (name : String) : Prop :=
  command.arguments.take 3 = ["delete", "secret", name]

def Command.Deletes (command : Command) : Prop :=
  command.arguments.head? = some "delete"

theorem Command.RemovesSecret.deletes {command : Command} {name : String}
    (removes : command.RemovesSecret name) : command.Deletes := by
  unfold RemovesSecret at removes
  unfold Deletes
  cases arguments : command.arguments with
  | nil => simp [arguments] at removes
  | cons first rest =>
    rw [arguments] at removes
    exact congrArg some (List.cons.inj removes).1

namespace Driver

open Program Plan Manifest

variable {driver : Driver} {cluster after : Cluster} {operation : Operation} {events looking rest : List Plan.Event}
  {command : Command} {answer : RunResult} {name : String}

/-! ### Operations -/

theorem deletes_of_operation {result : Except Failure Unit}
    (run : (driver.perform operation cluster).Yields events (result, after))
    (issued : ran command answer ∈ events) (deletes : command.Deletes) :
    ∃ text, command = (Kubectl.delete driver.config text).command ∧
      driver.renderer.manifests cluster none = .ok text := by
  obtain ⟨call, submitted, rfl⟩ := issued_by_operation run issued
  unfold Command.Deletes at deletes
  cases backend : driver.config.backend with
  | manifests =>
    obtain ⟨text, ⟨-, same, -⟩ | ⟨-, same, rendered⟩⟩ := submission_manifests backend submitted
    · simp [same, Kubectl.apply, Kubectl.command] at deletes
    · exact ⟨text, same, rendered⟩
  | release =>
    rcases submission_cases submitted with ⟨other, -⟩ | ⟨-, -, values, rfl⟩ | ⟨-, -, rfl⟩
    · cases other.symm.trans backend
    · simp [Call.outcome, Call.map, Helm.install, Helm.command] at deletes
    · simp [Call.outcome, Call.map, Helm.uninstall, Helm.command] at deletes

theorem not_removesSecret_of_operation {result : Except Failure Unit}
    (run : (driver.perform operation cluster).Yields events (result, after))
    (issued : ran command answer ∈ events) : ¬ command.RemovesSecret name := by
  intro removes
  obtain ⟨text, same, -⟩ := deletes_of_operation run issued removes.deletes
  rw [same] at removes
  simp [Command.RemovesSecret, Kubectl.delete, Kubectl.command] at removes

theorem kinds_deleted_by_operation {result : Except Failure Unit} {text : String}
    (library : driver.renderer.library = builtIn)
    (run : (driver.perform operation cluster).Yields events (result, after))
    (issued : ran command answer ∈ events) (deletes : command.Deletes) (fed : command.input = some text) :
    kinds text.toList = ["Cluster".toList] := by
  obtain ⟨given, same, rendered⟩ := deletes_of_operation run issued deletes
  rw [same] at fed
  obtain rfl := Option.some.inj fed
  exact kinds_manifests_alone library rendered

/-! ### Passes -/

theorem classify_some_ne_notFound (key : String) (resource : Resource) :
    Observation.classify key (some resource) ≠ .notFound := by
  unfold Observation.classify Observation.ofPhase
  dsimp only
  split
  · decide
  · split_ifs <;> decide

theorem absent_of_observed {config : Config} (absent : observed config answer = .notFound) :
    ∃ missing, answer = .error missing ∧ missing.isNotFound (absenceMarker config.backend) = true := by
  unfold observed at absent
  cases answer with
  | ok output =>
    dsimp only at absent
    split at absent
    · exact absurd absent (classify_some_ne_notFound _ _)
    · cases absent
  | error missing =>
    refine ⟨missing, rfl, ?_⟩
    dsimp only at absent
    split_ifs at absent with told
    exact told

theorem leaving_of_transition {status : Status} {observation : Observation} {reason : StatusReason}
    (moved : status.transition observation = some (⟨.delete, .complete⟩, reason)) :
    status = ⟨.delete, .inProgress⟩ ∧ observation = .notFound := by
  obtain ⟨operation, stage⟩ := status
  cases stage with
  | inProgress =>
    unfold Status.transition at moved
    dsimp only at moved
    split_ifs at moved with arrived failed
    · obtain rfl : operation = .delete := by simpa using congrArg (fun pair => pair.1.operation) (Option.some.inj moved)
      exact ⟨rfl, arrived⟩
    · cases moved
  | complete => cases moved
  | failed => cases moved

theorem inspection_manifests {config : Config} (backend : config.backend = .manifests) (uuid : Uuid) :
    inspection config uuid = (Kubectl.get config config.resourceKind (toString uuid)).command := by
  unfold inspection
  rw [backend]
  rfl

theorem not_deletes_of_looks {seen : Option Observation} (looks : driver.Looks cluster looking seen)
    (issued : ran command answer ∈ looking) : ¬ command.Deletes := by
  unfold Looks at looks
  split at looks
  · obtain ⟨_, rfl, -⟩ := looks
    obtain ⟨rfl, -⟩ := by simpa using issued
    unfold Command.Deletes inspection
    cases driver.config.backend <;> simp
  · obtain ⟨rfl, -⟩ := looks
    cases issued

theorem removesSecret_secretRemoval (config : Config) (cluster : Cluster) :
    (secretRemoval config cluster.uuid).RemovesSecret cluster.credentialsSecret := by
  simp [Command.RemovesSecret, secretRemoval, Cluster.credentialsSecret]
  rfl

theorem name_of_secretRemoval (removes : (secretRemoval driver.config cluster.uuid).RemovesSecret name) :
    name = cluster.credentialsSecret := by
  have same : ["delete", "secret", name] = ["delete", "secret", cluster.credentialsSecret] :=
    removes.symm.trans (removesSecret_secretRemoval driver.config cluster)
  simpa using same

/-- The one way in which a pass takes something away, and it is a secret: the cluster was on its way
out, has been looked at and found gone, and the end of the deletion has been kept. -/
theorem deletes_of_pass {result : Except Failure PassOutcome}
    (run : (driver.statusPass cluster).Yields events (result, after)) (issued : ran command answer ∈ events)
    (deletes : command.Deletes) :
    driver.config.backend = .manifests ∧ cluster.status = ⟨.delete, .inProgress⟩ ∧
      command = secretRemoval driver.config cluster.uuid ∧
      ∃ word reason, observed driver.config word = .notFound ∧
        after = cluster.transitioned ⟨.delete, .complete⟩ reason ∧
        events = [ran (inspection driver.config cluster.uuid) word, kept after (.ok ()),
          ran command answer] := by
  obtain ⟨looking, rest, seen, rfl, looks, moves⟩ := yields_statusPass.1 run
  have inRest : ran command answer ∈ rest :=
    (List.mem_append.1 issued).resolve_left fun member => not_deletes_of_looks looks member deletes
  cases Moves.moved moves with
  | stays still => cases inRest
  | refused move => simp at inRest
  | settled move nothingLeft => simp at inRest
  | @cleared reason _ move backend =>
    obtain ⟨rfl, rfl⟩ := by simpa using inRest
    obtain ⟨leaving, found⟩ := leaving_of_transition move
    -- on its way out, the cluster has been looked at
    have progress : cluster.status.isInProgress = true := by rw [leaving]; rfl
    obtain ⟨word, rfl, rfl⟩ : ∃ word, looking = [ran (inspection driver.config cluster.uuid) word] ∧
        seen = some (observed driver.config word) := by simpa [Looks, progress] using looks
    exact ⟨backend, leaving, rfl, word, reason, found, rfl, rfl⟩

theorem removal_of_pass {result : Except Failure PassOutcome}
    (run : (driver.statusPass cluster).Yields events (result, after)) (issued : ran command answer ∈ events)
    (removes : command.RemovesSecret name) :
    cluster.status = ⟨.delete, .inProgress⟩ ∧ name = cluster.credentialsSecret ∧
      after.uuid = cluster.uuid ∧ after.status = ⟨.delete, .complete⟩ ∧
      ∃ missing, missing.isNotFound Kubectl.notFoundMarker = true ∧
        events = [
          ran (Kubectl.get driver.config driver.config.resourceKind (toString cluster.uuid)).command
            (.error missing),
          kept after (.ok ()), ran command answer] := by
  obtain ⟨backend, leaving, rfl, word, reason, found, rfl, rfl⟩ := deletes_of_pass run issued removes.deletes
  obtain ⟨missing, rfl, told⟩ := absent_of_observed found
  rw [backend] at told
  rw [inspection_manifests backend]
  exact ⟨leaving, name_of_secretRemoval removes, rfl, rfl, missing, told, rfl⟩

theorem unfed_of_pass {result : Except Failure PassOutcome}
    (run : (driver.statusPass cluster).Yields events (result, after)) (issued : ran command answer ∈ events)
    (deletes : command.Deletes) : command.input = none := by
  obtain ⟨-, -, rfl, -⟩ := deletes_of_pass run issued deletes
  rfl

/-! ### Runs -/

/-- The records in hand, each under its own identifier. -/
structure Fleet where
  held : Uuid → Option Cluster
  named : ∀ {uuid cluster}, held uuid = some cluster → cluster.uuid = uuid

def Fleet.put (fleet : Fleet) (cluster : Cluster) : Fleet where
  held uuid := if uuid = cluster.uuid then some cluster else fleet.held uuid
  named := by
    intro uuid found held
    split_ifs at held with own
    · rw [← Option.some.inj held, own]
    · exact fleet.named held

/-- What is done to one record: an operation or, where none is asked for, a pass over its status. -/
structure Turn where
  work : Option Operation
  before : Cluster
  events : List Plan.Event
  after : Cluster

def Turn.Goes (driver : Driver) (turn : Turn) : Prop :=
  match turn.work with
  | some operation => ∃ result, (driver.perform operation turn.before).Yields turn.events (result, turn.after)
  | none => ∃ result, (driver.statusPass turn.before).Yields turn.events (result, turn.after)

/-- Runs over any number of clusters, the latest turn first. Records may come in from elsewhere, also
in the place of others, and the tools and the store may answer anything. -/
inductive Run (driver : Driver) (start : Fleet) : List Turn → Fleet → Prop where
  | start : Run driver start [] start
  | given {turns : List Turn} {fleet : Fleet} (earlier : Run driver start turns fleet) (record : Cluster) :
      Run driver start turns (fleet.put record)
  | turn {turns : List Turn} {fleet : Fleet} {turn : Turn} (earlier : Run driver start turns fleet)
      (held : fleet.held turn.before.uuid = some turn.before) (goes : turn.Goes driver) :
      Run driver start (turn :: turns) (fleet.put turn.after)

variable {start fleet past : Fleet} {turns : List Turn} {turn : Turn}

theorem Run.reached (run : Run driver start turns fleet) (member : turn ∈ turns) :
    ∃ later earlier past, turns = later ++ turn :: earlier ∧ Run driver start earlier past ∧
      past.held turn.before.uuid = some turn.before ∧ turn.Goes driver := by
  induction run with
  | start => cases member
  | given earlier record ih => exact ih member
  | @turn turns fleet latest earlier held goes ih =>
    rcases List.mem_cons.1 member with rfl | before
    · exact ⟨[], turns, fleet, rfl, earlier, held, goes⟩
    · obtain ⟨later, past, rest, rfl, reached⟩ := ih before
      exact ⟨latest :: later, past, rest, rfl, reached⟩

/-- All that stands behind a command that takes a secret away, `past` being the records in hand when
its turn begins. -/
structure Warranted (driver : Driver) (past : Fleet) (turn : Turn) (command : Command) (name : String) :
    Prop where
  pass : turn.work = none
  held : past.held turn.before.uuid = some turn.before
  leaving : turn.before.status = ⟨.delete, .inProgress⟩
  own : name = turn.before.credentialsSecret
  order : ∃ missing gone, missing.isNotFound Kubectl.notFoundMarker = true ∧ turn.events = [
    ran (Kubectl.get driver.config driver.config.resourceKind (toString turn.before.uuid)).command
      (.error missing),
    kept turn.after (.ok ()), ran command gone]
  left : turn.after.uuid = turn.before.uuid ∧ turn.after.status = ⟨.delete, .complete⟩
  /-- It is the secret that the manifests of the cluster bring along and refer to. -/
  bundled : ∀ (renderer : Renderer) (record : Cluster) (template : Option ClusterTemplate) (text : String),
    renderer.library = builtIn → record.uuid = turn.before.uuid →
    renderer.manifests record template = .ok text →
      bundled? "Cluster" ["spec", "cloudCredentialsSecretName"] text.toList = some (scalar name) ∧
        (template.isSome → bundled? "Secret" ["metadata", "name"] text.toList = some (scalar name))
  others : ∀ other : Cluster, other.uuid ≠ turn.before.uuid → other.credentialsSecret ≠ name
  projects : ∀ project, projectSecret project ≠ name
  /-- No record in hand that is left with this secret is one of a live cluster. -/
  unused : ∀ uuid record, (past.put turn.after).held uuid = some record →
    record.credentialsSecret = name → record.status = ⟨.delete, .complete⟩

theorem warranted (goes : turn.Goes driver) (held : past.held turn.before.uuid = some turn.before)
    (issued : ran command answer ∈ turn.events) (removes : command.RemovesSecret name) :
    Warranted driver past turn command name := by
  have pass : turn.work = none := by
    unfold Turn.Goes at goes
    cases work : turn.work with
    | none => rfl
    | some operation =>
      rw [work] at goes
      obtain ⟨result, run⟩ := goes
      exact absurd removes (not_removesSecret_of_operation run issued)
  unfold Turn.Goes at goes
  rw [pass] at goes
  obtain ⟨result, run⟩ := goes
  obtain ⟨leaving, rfl, same, left, missing, told, order⟩ := removal_of_pass run issued removes
  constructor
  case pass => exact pass
  case held => exact held
  case leaving => exact leaving
  case own => rfl
  case order => exact ⟨missing, answer, told, order⟩
  case left => exact ⟨same, left⟩
  case others => exact fun other apart => Cluster.credentialsSecret_ne apart
  case projects => exact Cluster.projectSecret_ne turn.before
  case bundled =>
    intro renderer record template text library alike rendered
    have named : record.credentialsSecret = turn.before.credentialsSecret := by
      rw [Cluster.credentialsSecret, alike, Cluster.credentialsSecret]
    obtain ⟨-, refers, brings⟩ := bundled?_manifests library rendered
    rw [named] at refers brings
    refine ⟨refers, fun some => ?_⟩
    obtain ⟨given, rfl⟩ := Option.isSome_iff_exists.1 some
    exact (brings given rfl).1
  case unused =>
    intro uuid record found named
    have its : record.uuid = turn.before.uuid := by
      by_contra apart
      exact Cluster.credentialsSecret_ne apart named
    have place : uuid = turn.after.uuid := by
      rw [← (past.put turn.after).named found, its, same]
    have latest : some turn.after = some record := (if_pos place).symm.trans found
    rw [← Option.some.inj latest, left]

/-- The credentials of a live cluster are never taken away: in every run, whatever it is answered, a
secret goes last of all, by its own cluster's pass, and no bundle that is deleted contains one. -/
theorem secret_removed_last (library : driver.renderer.library = builtIn)
    (run : Run driver start turns fleet) (member : turn ∈ turns) (issued : ran command answer ∈ turn.events) :
    (∀ name, command.RemovesSecret name →
      ∃ later earlier past, turns = later ++ turn :: earlier ∧ Run driver start earlier past ∧
        Warranted driver past turn command name) ∧
    ∀ text, command.Deletes → command.input = some text → "Secret".toList ∉ kinds text.toList := by
  obtain ⟨later, earlier, past, parts, before, held, goes⟩ := run.reached member
  refine ⟨fun name removes => ⟨later, earlier, past, parts, before, warranted goes held issued removes⟩, ?_⟩
  intro text deletes fed
  unfold Turn.Goes at goes
  cases work : turn.work with
  | none =>
    rw [work] at goes
    obtain ⟨result, pass⟩ := goes
    cases (unfed_of_pass pass issued deletes).symm.trans fed
  | some operation =>
    rw [work] at goes
    obtain ⟨result, operated⟩ := goes
    rw [kinds_deleted_by_operation library operated issued deletes fed]
    decide

def departing : Cluster :=
  { awkward with status := ⟨.delete, .inProgress⟩ }

def onlyDeparting : Fleet where
  held uuid := if uuid = departing.uuid then some departing else none
  named := by
    intro uuid found held
    split_ifs at held with own
    rw [← Option.some.inj held, own]

def nowhere : RunFault :=
  .failed "kubectl" (some 1) "" "Error from server (NotFound): not found"

def lastTurn : Turn where
  work := none
  before := departing
  events := [ran (inspection manifesting.config departing.uuid) (.error nowhere),
    kept (departing.transitioned ⟨.delete, .complete⟩ .deleted) (.ok ()),
    ran (secretRemoval manifesting.config departing.uuid) (.ok ⟨"", ""⟩)]
  after := departing.transitioned ⟨.delete, .complete⟩ .deleted

theorem goes_lastTurn : lastTurn.Goes manifesting := by
  have absent : observed manifesting.config (.error nowhere) = .notFound := by decide +kernel
  have looks : manifesting.Looks departing [ran (inspection manifesting.config departing.uuid) (.error nowhere)]
      (some .notFound) := ⟨.error nowhere, rfl, by rw [absent]⟩
  exact ⟨.ok ⟨⟨.delete, .inProgress⟩, ⟨.delete, .complete⟩, some .notFound, true⟩,
    yields_statusPass.2 ⟨_, _, _, rfl, looks, rfl, .inr ⟨_, rfl, .ok ⟨"", ""⟩, rfl, rfl⟩⟩⟩

theorem secret_removed_last_departing :
    manifesting.Run onlyDeparting [lastTurn] (onlyDeparting.put lastTurn.after) ∧
      ∃ later earlier past, [lastTurn] = later ++ lastTurn :: earlier ∧
        manifesting.Run onlyDeparting earlier past ∧
        Warranted manifesting past lastTurn (secretRemoval manifesting.config departing.uuid)
          departing.credentialsSecret := by
  have held : onlyDeparting.held departing.uuid = some departing := by simp [onlyDeparting]
  have run : manifesting.Run onlyDeparting [lastTurn] (onlyDeparting.put lastTurn.after) :=
    .turn .start held goes_lastTurn
  have issued : ran (secretRemoval manifesting.config departing.uuid) (.ok ⟨"", ""⟩) ∈ lastTurn.events := by
    simp [lastTurn]
  have removal := (secret_removed_last rfl run (List.mem_singleton_self _) issued).1
  exact ⟨run, removal _ (removesSecret_secretRemoval manifesting.config departing)⟩

end Driver

end ClusterLifecycle
