import ClusterLifecycle.Lifecycle.StatusPass
import ClusterLifecycle.Proofs.PlanEvents

/-!
Everything that a pass over the status of a cluster can do. It looks at the cluster only where the
status is in progress, keeps the record only where it moves on, and takes the credentials away only
after the end of a deletion has been kept.
-/

namespace ClusterLifecycle.Driver

open Program Plan

def inspection (config : Config) (uuid : Uuid) : Command :=
  match config.backend with
  | .manifests =>
    { program := config.kubectl
      arguments := ["get", config.resourceKind, toString uuid, "-o", "json"] ++ config.connection
      input := none
      limit := config.applyLimit }
  | .release =>
    { program := config.helm
      arguments := ["status", toString uuid, "--output", "json"] ++ config.connection
      input := none
      limit := config.applyLimit }

def secretRemoval (config : Config) (uuid : Uuid) : Command where
  program := config.kubectl
  arguments :=
    ["delete", "secret", toString uuid ++ "-cloud-credentials", "--ignore-not-found=true"] ++
      config.connection
  input := none
  limit := config.applyLimit

/-- What the tool of a backend writes about something that is not there. -/
def absenceMarker : Backend → String
  | .manifests => Kubectl.notFoundMarker
  | .release => Helm.notFoundMarker

def inspected? (config : Config) (output : Output) : Option Resource :=
  match config.backend with
  | .manifests => Resource.ofText? output.stdout
  | .release => (Release.ofText? output.stdout).map fun release => release.toResource config.handledKey

/-- What the result of an inspection says of the cluster. Whatever is neither a resource nor its
absence is an error of the cluster. -/
def observed (config : Config) : RunResult → Observation
  | .error fault => if fault.isNotFound (absenceMarker config.backend) then .notFound else .error
  | .ok output =>
    match inspected? config output with
    | some resource => .classify config.handledKey (some resource)
    | none => .error

variable {driver : Driver} {config : Config} {cluster after : Cluster} {events : List Plan.Event}
  {result : Except Failure PassOutcome} {seen : Option Observation}

theorem observe_command : (cluster.observe config).command = inspection config cluster.uuid := by
  unfold Cluster.observe Resource.fetch inspection
  cases config.backend <;> rfl

theorem observe_read (cluster : Cluster) (answer : RunResult) :
    ((cluster.observe config).read answer).toOption.getD .error = observed config answer := by
  unfold Cluster.observe Resource.fetch observed inspected? absenceMarker
  cases backend : config.backend with
  | manifests =>
    cases answer with
    | error fault =>
      by_cases absent : fault.isNotFound Kubectl.notFoundMarker = true
      · simp [Call.map, Kubectl.get, Kubectl.readResource, absent, Except.map, Except.toOption,
          Observation.classify]
      · simp [Call.map, Kubectl.get, Kubectl.readResource, absent, Except.map, Except.toOption]
    | ok output =>
      cases found : Resource.ofText? output.stdout with
      | none => simp [Call.map, Kubectl.get, Kubectl.readResource, found, Except.map, Except.toOption]
      | some resource =>
        simp [Call.map, Kubectl.get, Kubectl.readResource, found, Except.map, Except.toOption]
  | release =>
    cases answer with
    | error fault =>
      by_cases absent : fault.isNotFound Helm.notFoundMarker = true
      · simp [Call.map, Helm.status, Helm.readStatus, absent, Except.map, Except.toOption,
          Observation.classify]
      · simp [Call.map, Helm.status, Helm.readStatus, absent, Except.map, Except.toOption]
    | ok output =>
      cases found : Release.ofText? output.stdout with
      | none => simp [Call.map, Helm.status, Helm.readStatus, found, Except.map, Except.toOption]
      | some release =>
        simp [Call.map, Helm.status, Helm.readStatus, found, Except.map, Except.toOption]

theorem yields_observe {observation : Observation} :
    (driver.observe cluster).Yields events observation ↔
      ∃ answer, events = [ran (inspection driver.config cluster.uuid) answer] ∧
        observation = observed driver.config answer := by
  simp only [observe, yields_bind, yields_perform, observe_command]
  constructor
  · intro way
    obtain ⟨_, _, later, rfl, ⟨answer, rfl, rfl⟩, last⟩ := way
    refine ⟨answer, ?_⟩
    rw [← observe_read cluster]
    cases read : (cluster.observe driver.config).read answer with
    | ok value =>
      obtain ⟨rfl, rfl⟩ := yields_done.1 (by simpa only [read, orFail_ok] using last)
      exact ⟨rfl, rfl⟩
    | error fault =>
      obtain ⟨rfl, rfl⟩ := yields_done.1 (by simpa only [read, orFail_error] using last)
      exact ⟨rfl, rfl⟩
  · intro way
    obtain ⟨answer, rfl, rfl⟩ := way
    refine ⟨_, _, [], rfl, ⟨answer, rfl, rfl⟩, ?_⟩
    rw [← observe_read cluster]
    cases read : (cluster.observe driver.config).read answer with
    | ok value => exact .done value
    | error fault => exact .done Observation.error

/-- What a cluster is taken for: looked at with one command where its status is in progress, and
otherwise not at all. -/
def Looks (driver : Driver) (cluster : Cluster) (events : List Plan.Event) (seen : Option Observation) : Prop :=
  if cluster.status.isInProgress = true then
    ∃ answer, events = [ran (inspection driver.config cluster.uuid) answer] ∧
      seen = some (observed driver.config answer)
  else events = [] ∧ seen = none

/-- Taking the credentials of a cluster away where a pass has brought it to this status. -/
def Clears (driver : Driver) (cluster : Cluster) (status : Status) (outcome : PassOutcome)
    (events : List Plan.Event) (result : Except Failure PassOutcome) : Prop :=
  if driver.config.backend = .manifests ∧ status = ⟨.delete, .complete⟩ then
    ∃ answer, events = [ran (secretRemoval driver.config cluster.uuid) answer] ∧
      result = (orFail .execution answer).map fun _ => outcome
  else events = [] ∧ result = .ok outcome

def Moves (driver : Driver) (cluster : Cluster) (seen : Option Observation) (events : List Plan.Event)
    (result : Except Failure PassOutcome) (after : Cluster) : Prop :=
  match cluster.status.transition (seen.getD .error) with
  | none => events = [] ∧ result = .ok ⟨cluster.status, cluster.status, seen, false⟩ ∧ after = cluster
  | some (status, reason) => after = cluster.transitioned status reason ∧
    ((∃ fault, events = [kept after (.error fault)] ∧ result = .error (.persistence cluster.uuid fault)) ∨
      ∃ rest, events = kept after (.ok ()) :: rest ∧
        driver.Clears cluster status ⟨cluster.status, status, seen, true⟩ rest result)

theorem yields_removal {done : Except Failure Unit} :
    (carryOut (Kubectl.deleteNamed config "secret" cluster.credentialsSecret)).Yields events done ↔
      ∃ answer, events = [ran (secretRemoval config cluster.uuid) answer] ∧
        done = (orFail .execution answer).map fun _ => () := by
  have command : (Kubectl.deleteNamed config "secret" cluster.credentialsSecret).outcome.command =
      secretRemoval config cluster.uuid := by
    simp [Call.outcome, Call.map, Kubectl.deleteNamed, Kubectl.command, secretRemoval,
      Cluster.credentialsSecret]
    rfl
  rw [yields_carryOut, yields_perform, command]
  constructor
  · intro way
    obtain ⟨answer, rfl, rfl⟩ := way
    exact ⟨answer, rfl, by cases answer <;> rfl⟩
  · intro way
    obtain ⟨answer, rfl, rfl⟩ := way
    exact ⟨answer, rfl, by cases answer <;> rfl⟩

@[simp] theorem transitioned_uuid (cluster : Cluster) (status : Status) (reason : StatusReason) :
    (cluster.transitioned status reason).uuid = cluster.uuid := rfl

theorem yields_advance :
    (advance cluster seen).Yields events (result, after) ↔
      match cluster.status.transition (seen.getD .error) with
      | none => events = [] ∧ result = .ok ⟨cluster.status, cluster.status, seen, false⟩ ∧ after = cluster
      | some (status, reason) => after = cluster.transitioned status reason ∧ ∃ saved,
        events = [kept after saved] ∧ result = (orFail (.persistence cluster.uuid) saved).map fun _ =>
          ⟨cluster.status, status, seen, true⟩ := by
  unfold advance
  cases cluster.status.transition (seen.getD .error) with
  | none => simp
  | some move =>
    obtain ⟨status, reason⟩ := move
    simp only [yields_bind, yields_keep]
    constructor
    · intro way
      obtain ⟨_, _, later, rfl, ⟨saved, rfl, rfl⟩, last⟩ := way
      cases saved with
      | ok value =>
        obtain ⟨rfl, same⟩ := yields_done.1 last
        obtain ⟨rfl, rfl⟩ := Prod.mk.inj same
        exact ⟨rfl, .ok value, rfl, rfl⟩
      | error fault =>
        obtain ⟨rfl, same⟩ := yields_done.1 last
        obtain ⟨rfl, rfl⟩ := Prod.mk.inj same
        exact ⟨rfl, .error fault, rfl, rfl⟩
    · intro way
      obtain ⟨rfl, saved, rfl, rfl⟩ := way
      refine ⟨_, _, [], rfl, ⟨saved, rfl, rfl⟩, ?_⟩
      cases saved with
      | ok value => exact .done _
      | error fault => exact .done _

theorem yields_reconcile :
    (driver.reconcile cluster).Yields events (result, after) ↔ ∃ looking rest seen,
      events = looking ++ rest ∧ driver.Looks cluster looking seen ∧
        (advance cluster seen).Yields rest (result, after) := by
  unfold reconcile Looks
  by_cases progress : cluster.status.isInProgress = true
  · rw [if_pos progress]
    simp only [progress, if_true, yields_bind, yields_observe]
    constructor
    · intro way
      obtain ⟨_, before, later, rfl, ⟨answer, rfl, rfl⟩, last⟩ := way
      exact ⟨_, later, _, rfl, ⟨answer, rfl, rfl⟩, last⟩
    · intro way
      obtain ⟨_, later, _, rfl, ⟨answer, rfl, rfl⟩, last⟩ := way
      exact ⟨_, _, later, rfl, ⟨answer, rfl, rfl⟩, last⟩
  · rw [if_neg progress]
    simp only [progress, Bool.false_eq_true, if_false]
    constructor
    · intro run
      exact ⟨[], events, none, rfl, ⟨rfl, rfl⟩, run⟩
    · intro way
      obtain ⟨_, _, _, rfl, ⟨rfl, rfl⟩, run⟩ := way
      exact run

/-- The part of a pass after the record has been kept, or has been found to stay as it is. -/
def tidy (driver : Driver) : Except Failure PassOutcome × Cluster → Plan (Except Failure PassOutcome × Cluster)
  | (.error failure, after) => .done (.error failure, after)
  | (.ok outcome, after) =>
    if driver.leavesSecret outcome then
      (carryOut (Kubectl.deleteNamed driver.config "secret" after.credentialsSecret)).bind fun
        | .ok () => .done (.ok outcome, after)
        | .error failure => .done (.error failure, after)
    else .done (.ok outcome, after)

theorem statusPass_eq : driver.statusPass cluster = (driver.reconcile cluster).bind driver.tidy := by
  rfl

theorem yields_tidy {moved : Cluster} {status : Status} (same : moved.uuid = cluster.uuid) :
    (driver.tidy (.ok ⟨cluster.status, status, seen, true⟩, moved)).Yields events (result, after) ↔
      driver.Clears cluster status ⟨cluster.status, status, seen, true⟩ events result ∧ after = moved := by
  unfold tidy Clears
  by_cases left : driver.config.backend = .manifests ∧ status = ⟨.delete, .complete⟩
  · have leaves : driver.leavesSecret ⟨cluster.status, status, seen, true⟩ = true := by
      simp [leavesSecret, left]
    simp only [leaves, if_true, if_pos left, yields_bind, yields_removal, same]
    constructor
    · intro way
      obtain ⟨_, _, later, rfl, ⟨answer, rfl, rfl⟩, last⟩ := way
      cases answer with
      | ok output =>
        obtain ⟨rfl, pair⟩ := yields_done.1 last
        obtain ⟨rfl, rfl⟩ := Prod.mk.inj pair
        exact ⟨⟨.ok output, rfl, rfl⟩, rfl⟩
      | error fault =>
        obtain ⟨rfl, pair⟩ := yields_done.1 last
        obtain ⟨rfl, rfl⟩ := Prod.mk.inj pair
        exact ⟨⟨.error fault, rfl, rfl⟩, rfl⟩
    · intro way
      obtain ⟨⟨answer, rfl, rfl⟩, rfl⟩ := way
      refine ⟨_, _, [], rfl, ⟨answer, rfl, rfl⟩, ?_⟩
      cases answer with
      | ok output => exact .done _
      | error fault => exact .done _
  · have leaves : driver.leavesSecret ⟨cluster.status, status, seen, true⟩ = false := by
      simpa [leavesSecret] using left
    simp [leaves, if_neg left, and_assoc]

theorem yields_statusPass :
    (driver.statusPass cluster).Yields events (result, after) ↔ ∃ looking rest seen,
      events = looking ++ rest ∧ driver.Looks cluster looking seen ∧
        driver.Moves cluster seen rest result after := by
  rw [statusPass_eq, yields_bind]
  constructor
  · intro way
    obtain ⟨⟨first, middle⟩, _, later, rfl, run, last⟩ := way
    obtain ⟨looking, rest, seen, rfl, looks, run⟩ := yields_reconcile.1 run
    refine ⟨looking, rest ++ later, seen, List.append_assoc .., looks, ?_⟩
    have advanced := yields_advance.1 run
    unfold Moves
    cases move : cluster.status.transition (seen.getD .error) with
    | none =>
      obtain ⟨rfl, rfl, rfl⟩ := by simpa only [move] using advanced
      simpa [tidy, leavesSecret] using last
    | some target =>
      obtain ⟨rfl, saved, rfl, rfl⟩ := by simpa only [move] using advanced
      cases saved with
      | ok value =>
        obtain ⟨clears, rfl⟩ := (yields_tidy (transitioned_uuid cluster target.1 target.2)).1 last
        exact ⟨rfl, .inr ⟨later, rfl, clears⟩⟩
      | error fault =>
        obtain ⟨rfl, pair⟩ := yields_done.1 last
        obtain ⟨rfl, rfl⟩ := Prod.mk.inj pair
        exact ⟨rfl, .inl ⟨fault, rfl, rfl⟩⟩
  · intro way
    obtain ⟨looking, rest, seen, rfl, looks, moves⟩ := way
    unfold Moves at moves
    cases move : cluster.status.transition (seen.getD .error) with
    | none =>
      obtain ⟨rfl, rfl, same⟩ := by simpa only [move] using moves
      rw [same]
      have run : (advance cluster seen).Yields [] (.ok ⟨cluster.status, cluster.status, seen, false⟩, cluster) :=
        yields_advance.2 (by simp only [move, and_self])
      exact ⟨_, looking, [], by simp, yields_reconcile.2 ⟨looking, [], seen, by simp, looks, run⟩,
        by simp [tidy, leavesSecret]⟩
    | some target =>
      obtain ⟨rfl, way⟩ := by simpa only [move] using moves
      obtain ⟨saved, later, rfl, second⟩ : ∃ saved later,
          rest = kept (cluster.transitioned target.1 target.2) saved :: later ∧
          (driver.tidy ((orFail (.persistence cluster.uuid) saved).map fun _ =>
            (⟨cluster.status, target.1, seen, true⟩ : PassOutcome), cluster.transitioned target.1 target.2)).Yields
              later (result, cluster.transitioned target.1 target.2) := by
        rcases way with ⟨fault, rfl, rfl⟩ | ⟨later, rfl, clears⟩
        · exact ⟨.error fault, [], rfl, .done _⟩
        · exact ⟨.ok (), later, rfl, (yields_tidy (transitioned_uuid cluster target.1 target.2)).2 ⟨clears, rfl⟩⟩
      have run : (advance cluster seen).Yields [kept (cluster.transitioned target.1 target.2) saved]
          ((orFail (.persistence cluster.uuid) saved).map fun _ => ⟨cluster.status, target.1, seen, true⟩,
            cluster.transitioned target.1 target.2) :=
        yields_advance.2 (by
          simp only [move]
          exact ⟨trivial, saved, rfl, rfl⟩)
      exact ⟨_, looking ++ [kept (cluster.transitioned target.1 target.2) saved], later, by simp,
        yields_reconcile.2 ⟨looking, _, seen, rfl, looks, run⟩, second⟩

/-- All that a pass has done by the time it is over. -/
structure PassEffects (driver : Driver) (cluster : Cluster) (events : List Plan.Event)
    (result : Except Failure PassOutcome) (after : Cluster) : Prop where
  /-- A status that is not in progress is not looked into, but kept as failed. -/
  unexpected : cluster.status.isInProgress = false →
    after = { cluster with status := ⟨.update, .failed⟩, statusReason := some "unexpected state!" } ∧
      ∃ saved, events = [kept after saved]
  /-- A status in progress is looked into once, and the record is kept where that moves it on. -/
  expected : cluster.status.isInProgress = true →
    ∃ answer rest, events = ran (inspection driver.config cluster.uuid) answer :: rest ∧
      match cluster.status.transition (observed driver.config answer) with
      | none => rest = [] ∧ after = cluster ∧
        result = .ok ⟨cluster.status, cluster.status, some (observed driver.config answer), false⟩
      | some (status, reason) =>
        after = { cluster with status := status, statusReason := some reason.message } ∧
          ∃ saved removal, rest = kept after saved :: removal ∧
            (removal = [] ∨ ∃ gone, removal = [ran (secretRemoval driver.config cluster.uuid) gone])
  /-- The credentials are taken away exactly where the end of a deletion has been kept. -/
  removed_iff : (∃ gone, ran (secretRemoval driver.config cluster.uuid) gone ∈ events) ↔
    driver.config.backend = .manifests ∧
      ∃ record, kept record (.ok ()) ∈ events ∧ record.status = ⟨.delete, .complete⟩
  /-- They are taken away last. -/
  removed_last : ∀ gone, ran (secretRemoval driver.config cluster.uuid) gone ∈ events →
    ∃ before, events =
      before ++ [kept after (.ok ()), ran (secretRemoval driver.config cluster.uuid) gone]
  failed_iff : (∃ failure, result = .error failure) ↔
    (∃ record fault, kept record (.error fault) ∈ events) ∨
      ∃ fault, ran (secretRemoval driver.config cluster.uuid) (.error fault) ∈ events
  outcome : ∀ outcome, result = .ok outcome → outcome.previous = cluster.status ∧
    outcome.status = after.status ∧ (outcome.saved = true ↔ ∃ record, kept record (.ok ()) ∈ events)

theorem inspection_ne_secretRemoval (config : Config) (uuid : Uuid) :
    inspection config uuid ≠ secretRemoval config uuid := by
  intro same
  have arguments := congrArg (fun command => command.arguments.head?) same
  unfold inspection secretRemoval at arguments
  cases backend : config.backend with
  | manifests => simp [backend] at arguments
  | release => simp [backend] at arguments

theorem transition_at_rest {status : Status} (rest : status.isInProgress = false) (observation : Observation) :
    status.transition observation = some (⟨.update, .failed⟩, .unexpectedState) := by
  unfold Status.transition
  cases stage : status.stage with
  | inProgress => simp [Status.isInProgress, stage] at rest
  | complete => rfl
  | failed => rfl

variable {looking rest : List Plan.Event}

theorem Looks.not_kept (looks : driver.Looks cluster looking seen) (record : Cluster)
    (saved : Except StorageFault Unit) : kept record saved ∉ looking := by
  unfold Looks at looks
  split at looks
  · obtain ⟨answer, rfl, -⟩ := looks
    simp
  · obtain ⟨rfl, -⟩ := looks
    simp

theorem Looks.not_removed (looks : driver.Looks cluster looking seen) (gone : RunResult) :
    ran (secretRemoval driver.config cluster.uuid) gone ∉ looking := by
  unfold Looks at looks
  split at looks
  · obtain ⟨answer, rfl, -⟩ := looks
    simp [(inspection_ne_secretRemoval driver.config cluster.uuid).symm]
  · obtain ⟨rfl, -⟩ := looks
    simp

/-- The ways the record can go once the cluster has been looked at. -/
inductive Moved (driver : Driver) (cluster : Cluster) (seen : Option Observation) :
    List Plan.Event → Except Failure PassOutcome → Cluster → Prop where
  | stays (still : cluster.status.transition (seen.getD .error) = none) :
      Moved driver cluster seen [] (.ok ⟨cluster.status, cluster.status, seen, false⟩) cluster
  | refused {status : Status} {reason : StatusReason} {fault : StorageFault}
      (move : cluster.status.transition (seen.getD .error) = some (status, reason)) :
      Moved driver cluster seen [kept (cluster.transitioned status reason) (.error fault)]
        (.error (.persistence cluster.uuid fault)) (cluster.transitioned status reason)
  | settled {status : Status} {reason : StatusReason}
      (move : cluster.status.transition (seen.getD .error) = some (status, reason))
      (nothingLeft : ¬ (driver.config.backend = .manifests ∧ status = ⟨.delete, .complete⟩)) :
      Moved driver cluster seen [kept (cluster.transitioned status reason) (.ok ())]
        (.ok ⟨cluster.status, status, seen, true⟩) (cluster.transitioned status reason)
  | cleared {reason : StatusReason} {answer : RunResult}
      (move : cluster.status.transition (seen.getD .error) = some (⟨.delete, .complete⟩, reason))
      (backend : driver.config.backend = .manifests) :
      Moved driver cluster seen
        [kept (cluster.transitioned ⟨.delete, .complete⟩ reason) (.ok ()),
          ran (secretRemoval driver.config cluster.uuid) answer]
        ((orFail .execution answer).map fun _ => ⟨cluster.status, ⟨.delete, .complete⟩, seen, true⟩)
        (cluster.transitioned ⟨.delete, .complete⟩ reason)

theorem Moves.moved (moves : driver.Moves cluster seen rest result after) :
    driver.Moved cluster seen rest result after := by
  unfold Moves at moves
  cases move : cluster.status.transition (seen.getD .error) with
  | none =>
    obtain ⟨rfl, rfl, rfl⟩ := by simpa only [move] using moves
    exact .stays move
  | some target =>
    obtain ⟨status, reason⟩ := target
    obtain ⟨rfl, ⟨fault, rfl, rfl⟩ | ⟨later, rfl, clears⟩⟩ := by simpa only [move] using moves
    · exact .refused move
    · unfold Clears at clears
      split at clears
      next left =>
        obtain ⟨answer, rfl, rfl⟩ := clears
        obtain ⟨backend, rfl⟩ := left
        exact .cleared move backend
      next left =>
        obtain ⟨rfl, rfl⟩ := clears
        exact .settled move left

theorem Moved.removed_iff (moved : driver.Moved cluster seen rest result after) :
    (∃ gone, ran (secretRemoval driver.config cluster.uuid) gone ∈ rest) ↔
      driver.config.backend = .manifests ∧
        ∃ record, kept record (.ok ()) ∈ rest ∧ record.status = ⟨.delete, .complete⟩ := by
  cases moved with
  | stays still => simp
  | refused move => simp
  | settled move nothingLeft => simpa [Cluster.transitioned] using nothingLeft
  | cleared move backend => simp [backend, Cluster.transitioned]

theorem Moved.removed_last (moved : driver.Moved cluster seen rest result after) (gone : RunResult)
    (member : ran (secretRemoval driver.config cluster.uuid) gone ∈ rest) :
    rest = [kept after (.ok ()), ran (secretRemoval driver.config cluster.uuid) gone] := by
  cases moved with
  | stays still => simp at member
  | refused move => simp at member
  | settled move nothingLeft => simp at member
  | @cleared reason answer move backend =>
    obtain rfl : gone = answer := by simpa using member
    rfl

theorem Moved.failed_iff (moved : driver.Moved cluster seen rest result after) :
    (∃ failure, result = .error failure) ↔
      (∃ record fault, kept record (.error fault) ∈ rest) ∨
        ∃ fault, ran (secretRemoval driver.config cluster.uuid) (.error fault) ∈ rest := by
  cases moved with
  | stays still => simp
  | refused move => simp
  | settled move nothingLeft => simp
  | @cleared reason answer move backend =>
    cases answer with
    | ok output => simp [Except.map]
    | error fault => simp [Except.map]

theorem Moved.outcome (moved : driver.Moved cluster seen rest result after) {outcome : PassOutcome}
    (succeeded : result = .ok outcome) :
    outcome.previous = cluster.status ∧ outcome.status = after.status ∧
      (outcome.saved = true ↔ ∃ record, kept record (.ok ()) ∈ rest) := by
  cases moved with
  | stays still =>
    obtain rfl := Except.ok.inj succeeded
    simp
  | refused move => cases succeeded
  | settled move nothingLeft =>
    obtain rfl := Except.ok.inj succeeded
    simp [Cluster.transitioned]
  | @cleared reason answer move backend =>
    cases answer with
    | ok output =>
      obtain rfl := Except.ok.inj succeeded
      simp [Cluster.transitioned]
    | error fault => cases succeeded

theorem passEffects (run : (driver.statusPass cluster).Yields events (result, after)) :
    driver.PassEffects cluster events result after := by
  obtain ⟨looking, rest, seen, rfl, looks, moves⟩ := yields_statusPass.1 run
  have moved := Moves.moved moves
  -- looking at the cluster keeps nothing and takes nothing away, so the rest decides
  have kept_iff : ∀ record saved, kept record saved ∈ looking ++ rest ↔ kept record saved ∈ rest := by
    simp [looks.not_kept]
  have removed_iff : ∀ gone, ran (secretRemoval driver.config cluster.uuid) gone ∈ looking ++ rest ↔
      ran (secretRemoval driver.config cluster.uuid) gone ∈ rest := by
    simp [looks.not_removed]
  constructor
  case unexpected =>
    intro still
    obtain ⟨rfl, rfl⟩ : looking = [] ∧ seen = none := by simpa [Looks, still] using looks
    cases moved with
    | stays none =>
      rw [transition_at_rest still] at none
      cases none
    | refused move =>
      rw [transition_at_rest still] at move
      cases move
      exact ⟨rfl, _, rfl⟩
    | settled move nothingLeft =>
      rw [transition_at_rest still] at move
      cases move
      exact ⟨rfl, _, rfl⟩
    | cleared move backend =>
      rw [transition_at_rest still] at move
      cases move
  case expected =>
    intro progress
    obtain ⟨answer, rfl, rfl⟩ : ∃ answer, looking = [ran (inspection driver.config cluster.uuid) answer] ∧
        seen = some (observed driver.config answer) := by simpa [Looks, progress] using looks
    refine ⟨answer, rest, rfl, ?_⟩
    cases moved with
    | stays none =>
      rw [Option.getD_some] at none
      rw [none]
      exact ⟨rfl, rfl, rfl⟩
    | refused move =>
      rw [Option.getD_some] at move
      rw [move]
      exact ⟨rfl, _, [], rfl, .inl rfl⟩
    | settled move nothingLeft =>
      rw [Option.getD_some] at move
      rw [move]
      exact ⟨rfl, _, [], rfl, .inl rfl⟩
    | @cleared reason gone move backend =>
      rw [Option.getD_some] at move
      rw [move]
      exact ⟨rfl, _, [ran (secretRemoval driver.config cluster.uuid) gone], rfl, .inr ⟨gone, rfl⟩⟩
  case removed_iff =>
    simp only [kept_iff, removed_iff]
    exact moved.removed_iff
  case removed_last =>
    intro gone member
    rw [moved.removed_last gone ((removed_iff gone).1 member)]
    exact ⟨looking, rfl⟩
  case failed_iff =>
    simp only [kept_iff, removed_iff]
    exact moved.failed_iff
  case outcome =>
    intro outcome succeeded
    simp only [kept_iff]
    exact moved.outcome succeeded

/-- In every world a pass comes to an end, with exactly these effects. -/
theorem statusPass_effects {σ : Type} (world : (effect : Effect) → σ → effect.Answer × σ) (state : σ)
    (driver : Driver) (cluster : Cluster) :
    driver.PassEffects cluster ((driver.statusPass cluster).trace world state)
      ((driver.statusPass cluster).run world state).1.1
      ((driver.statusPass cluster).run world state).1.2 :=
  passEffects (yields_run world (driver.statusPass cluster) state)

end ClusterLifecycle.Driver
