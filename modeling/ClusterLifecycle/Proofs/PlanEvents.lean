import ClusterLifecycle.Lifecycle.Operation
import ClusterLifecycle.Proofs.Interaction
import ClusterLifecycle.Resource.Inspection

/-!
What happens in a plan: commands are run and records are kept, each with its answer. An operation
comes down to one call or to none, and this call decides whether a record is kept at all.
-/

namespace ClusterLifecycle

open Program

@[simp] theorem orFail_ok {ε α : Type} (wrap : ε → Failure) (value : α) :
    orFail wrap (.ok value : Except ε α) = .ok value := rfl

@[simp] theorem orFail_error {ε α : Type} (wrap : ε → Failure) (fault : ε) :
    orFail wrap (.error fault : Except ε α) = .error (wrap fault) := rfl

theorem orFail_eq_ok {ε α : Type} {wrap : ε → Failure} {given : Except ε α} {value : α} :
    orFail wrap given = .ok value ↔ given = .ok value := by
  cases given <;> simp

namespace Plan

abbrev Event := Program.Event Effect.Answer

def ran (command : Command) (result : RunResult) : Event := ⟨.run command, result⟩

def kept (cluster : Cluster) (result : Except StorageFault Unit) : Event := ⟨.save cluster, result⟩

variable {command other : Command} {answer answer' : RunResult} {cluster record : Cluster}
  {saved saved' : Except StorageFault Unit}

@[simp] theorem ran_inj : ran command answer = ran other answer' ↔ command = other ∧ answer = answer' := by
  constructor
  · intro same
    cases same
    exact ⟨rfl, rfl⟩
  · intro way
    obtain ⟨rfl, rfl⟩ := way
    rfl

@[simp] theorem kept_inj : kept cluster saved = kept record saved' ↔ cluster = record ∧ saved = saved' := by
  constructor
  · intro same
    cases same
    exact ⟨rfl, rfl⟩
  · intro way
    obtain ⟨rfl, rfl⟩ := way
    rfl

@[simp] theorem ran_ne_kept : ran command answer ≠ kept cluster saved := nofun

@[simp] theorem kept_ne_ran : kept cluster saved ≠ ran command answer := nofun

variable {α : Type} {events : List Event}

def commands (events : List Event) : List Command :=
  events.filterMap fun event => match event.1 with
    | .run command => some command
    | .save _ => none

def results (events : List Event) : List RunResult :=
  events.filterMap fun event => match event with
    | ⟨.run _, answer⟩ => some answer
    | ⟨.save _, _⟩ => none

def savings (events : List Event) : List (Except StorageFault Unit) :=
  events.filterMap fun event => match event with
    | ⟨.run _, _⟩ => none
    | ⟨.save _, saved⟩ => some saved

theorem commands_append (front back : List Event) : commands (front ++ back) = commands front ++ commands back :=
  List.filterMap_append ..

theorem results_append (front back : List Event) : results (front ++ back) = results front ++ results back :=
  List.filterMap_append ..

theorem savings_append (front back : List Event) : savings (front ++ back) = savings front ++ savings back :=
  List.filterMap_append ..

@[simp] theorem commands_nil : commands [] = [] := rfl

@[simp] theorem commands_ran : commands (ran command answer :: events) = command :: commands events := rfl

@[simp] theorem commands_kept : commands (kept cluster saved :: events) = commands events := rfl

@[simp] theorem results_nil : results [] = [] := rfl

@[simp] theorem results_ran : results (ran command answer :: events) = answer :: results events := rfl

@[simp] theorem results_kept : results (kept cluster saved :: events) = results events := rfl

@[simp] theorem savings_nil : savings [] = [] := rfl

@[simp] theorem savings_ran : savings (ran command answer :: events) = savings events := rfl

@[simp] theorem savings_kept : savings (kept cluster saved :: events) = saved :: savings events := rfl

theorem yields_perform {call : Call α} {result : Except Failure α} :
    (perform call).Yields events result ↔
      ∃ answer, events = [ran call.command answer] ∧ result = orFail .execution (call.read answer) := by
  simp only [perform, yields_ask, yields_done]
  constructor
  · intro way
    obtain ⟨answer, rest, rfl, rfl, rfl⟩ := way
    exact ⟨answer, rfl, rfl⟩
  · intro way
    obtain ⟨answer, rfl, rfl⟩ := way
    exact ⟨answer, [], rfl, rfl, rfl⟩

theorem yields_keep {result : Except Failure Unit} :
    (keep cluster).Yields events result ↔
      ∃ saved, events = [kept cluster saved] ∧ result = orFail (.persistence cluster.uuid) saved := by
  simp only [keep, yields_ask, yields_done]
  constructor
  · intro way
    obtain ⟨saved, rest, rfl, rfl, rfl⟩ := way
    exact ⟨saved, rfl, rfl⟩
  · intro way
    obtain ⟨saved, rfl, rfl⟩ := way
    exact ⟨saved, [], rfl, rfl, rfl⟩

end Plan

namespace Call

def outcome {α : Type} (call : Call α) : Call Unit :=
  call.map fun _ => ()

end Call

namespace Driver

open Plan

variable {events : List Plan.Event} {result : Except Failure Unit}

theorem yields_carryOut {α : Type} {call : Call α} :
    (carryOut call).Yields events result ↔ (Plan.perform call.outcome).Yields events result := by
  simp only [carryOut, andThen, yields_bind, yields_perform]
  constructor
  · intro way
    obtain ⟨_, _, after, rfl, ⟨answer, rfl, rfl⟩, last⟩ := way
    refine ⟨answer, ?_⟩
    cases read : call.read answer with
    | ok value =>
      obtain ⟨rfl, rfl⟩ := yields_done.1 (by simpa only [read, orFail_ok, orFail_error] using last)
      exact ⟨rfl, by simp [Call.outcome, Call.map, read, Except.map]⟩
    | error fault =>
      obtain ⟨rfl, rfl⟩ := yields_done.1 (by simpa only [read, orFail_ok, orFail_error] using last)
      exact ⟨rfl, by simp [Call.outcome, Call.map, read, Except.map]⟩
  · intro way
    obtain ⟨answer, rfl, rfl⟩ := way
    refine ⟨_, _, [], rfl, ⟨answer, rfl, rfl⟩, ?_⟩
    cases read : call.read answer with
    | ok value => simp [Call.outcome, Call.map, read, Except.map]
    | error fault => simp [Call.outcome, Call.map, read, Except.map]

theorem yields_handOver {α : Type} {rendered : Except Failure String} {call : String → Call α} :
    (handOver rendered call).Yields events result ↔
      match (rendered.map fun text => (call text).outcome) with
      | .error failure => events = [] ∧ result = .error failure
      | .ok call => (Plan.perform call).Yields events result := by
  cases rendered with
  | error failure => exact yields_done
  | ok text => exact yields_carryOut

/-- What creating or updating a cluster from its own template hands to the tool. -/
def desired (driver : Driver) (cluster : Cluster) : Except Failure String := do
  driver.render cluster (some (← requiredTemplate cluster))

/-- The call that an operation comes down to, or why it is refused before anything is run. -/
def submission (driver : Driver) (cluster : Cluster) : Operation → Except Failure (Call Unit)
  | .create => do
    let text ← driver.desired cluster
    match driver.config.backend with
    | .manifests => .ok (Kubectl.apply driver.config text).outcome
    | .release => .ok (Helm.install driver.config (toString cluster.uuid) text).outcome
  | .update =>
    match driver.config.backend with
    | .manifests => do .ok (Kubectl.apply driver.config (← driver.desired cluster)).outcome
    | .release => .error (.unsupported "update_cluster" .later)
  | .delete =>
    match driver.config.backend with
    | .manifests => do
      .ok (Kubectl.delete driver.config (← driver.renderer.manifests cluster none)).outcome
    | .release => .ok (Helm.uninstall driver.config (toString cluster.uuid)).outcome

variable {driver : Driver} {cluster after : Cluster} {operation : Operation}

theorem yields_submit :
    (driver.submit cluster operation).Yields events result ↔
      match driver.submission cluster operation with
      | .error failure => events = [] ∧ result = .error failure
      | .ok call => (Plan.perform call).Yields events result := by
  cases operation with
  | create =>
    unfold submit submitCreate submission desired render
    cases requiredTemplate cluster with
    | error failure => exact yields_done
    | ok template =>
      cases driver.config.backend with
      | manifests => exact yields_handOver
      | release => exact yields_handOver
  | update =>
    unfold submit submitUpdate submission desired render
    cases driver.config.backend with
    | release => exact yields_done
    | manifests =>
      cases requiredTemplate cluster with
      | error failure => exact yields_done
      | ok template => exact yields_handOver
  | delete =>
    unfold submit submitDelete submission
    cases driver.config.backend with
    | release => exact yields_carryOut
    | manifests => exact yields_handOver

@[simp] theorem submitted_uuid (cluster : Cluster) (operation : Operation) :
    (submitted cluster operation).uuid = cluster.uuid := by
  cases operation <;> rfl

/-- The ways an operation can go: refused, failed by its call, or through with the call and up to
the store. -/
theorem yields_operation {result : Except Failure Unit} :
    (driver.perform operation cluster).Yields events (result, after) ↔
      match driver.submission cluster operation with
      | .error failure => events = [] ∧ result = .error failure ∧ after = cluster
      | .ok call => ∃ answer,
        match call.read answer with
        | .error fault =>
          events = [ran call.command answer] ∧ result = .error (.execution fault) ∧ after = cluster
        | .ok () => ∃ saved,
          events = [ran call.command answer, kept (submitted cluster operation) saved] ∧
            result = orFail (.persistence cluster.uuid) saved ∧ after = submitted cluster operation := by
  simp only [perform, yields_bind, yields_submit]
  cases submission driver cluster operation with
  | error failure =>
    constructor
    · intro way
      obtain ⟨_, _, later, rfl, ⟨rfl, rfl⟩, last⟩ := way
      obtain ⟨rfl, same⟩ := yields_done.1 last
      exact ⟨rfl, Prod.mk.inj same⟩
    · intro way
      obtain ⟨rfl, rfl, rfl⟩ := way
      exact ⟨_, [], [], rfl, ⟨rfl, rfl⟩, .done _⟩
  | ok call =>
    constructor
    · intro way
      obtain ⟨_, _, later, rfl, first, last⟩ := way
      obtain ⟨answer, rfl, rfl⟩ := yields_perform.1 first
      refine ⟨answer, ?_⟩
      cases read : call.read answer with
      | error fault =>
        obtain ⟨rfl, same⟩ := yields_done.1 (by simpa only [read, orFail_error] using last)
        exact ⟨rfl, Prod.mk.inj same⟩
      | ok value =>
        simp only [read, orFail_ok, yields_bind, yields_keep, yields_done] at last
        obtain ⟨_, _, _, rfl, ⟨saved, rfl, rfl⟩, rfl, same⟩ := last
        obtain ⟨rfl, rfl⟩ := Prod.mk.inj same
        exact ⟨saved, rfl, by rw [submitted_uuid], rfl⟩
    · intro way
      obtain ⟨answer, outcome⟩ := way
      have first : (Plan.perform call).Yields [ran call.command answer]
          (orFail .execution (call.read answer)) := yields_perform.2 ⟨answer, rfl, rfl⟩
      cases read : call.read answer with
      | error fault =>
        obtain ⟨rfl, rfl, rfl⟩ := by simpa only [read] using outcome
        exact ⟨_, _, [], rfl, first, by simpa only [read, orFail_error] using yields_done.2 ⟨rfl, rfl⟩⟩
      | ok value =>
        obtain ⟨saved, rfl, rfl, rfl⟩ := by simpa only [read] using outcome
        refine ⟨_, _, [kept (submitted cluster operation) saved], rfl, first, ?_⟩
        simp only [read, orFail_ok]
        rw [← submitted_uuid cluster operation]
        exact (yields_keep.2 ⟨saved, rfl, rfl⟩).bind (.done _)

/-- What an operation has done by the time it is over, what it answers, and the record then. -/
inductive Operated (driver : Driver) (cluster : Cluster) (operation : Operation) :
    List Plan.Event → Except Failure Unit → Cluster → Prop where
  | refused {failure : Failure} (reason : driver.submission cluster operation = .error failure) :
      Operated driver cluster operation [] (.error failure) cluster
  | failed {call : Call Unit} {answer : RunResult} {fault : RunFault}
      (call_eq : driver.submission cluster operation = .ok call) (read : call.read answer = .error fault) :
      Operated driver cluster operation [ran call.command answer] (.error (.execution fault)) cluster
  | handedOver {call : Call Unit} {answer : RunResult} {saved : Except StorageFault Unit}
      (call_eq : driver.submission cluster operation = .ok call) (read : call.read answer = .ok ()) :
      Operated driver cluster operation
        [ran call.command answer, kept (submitted cluster operation) saved]
        (orFail (.persistence cluster.uuid) saved) (submitted cluster operation)

theorem operated {result : Except Failure Unit}
    (run : (driver.perform operation cluster).Yields events (result, after)) :
    Operated driver cluster operation events result after := by
  have ways := yields_operation.1 run
  cases call : driver.submission cluster operation with
  | error failure =>
    obtain ⟨rfl, rfl, rfl⟩ := by simpa only [call] using ways
    exact .refused call
  | ok call' =>
    obtain ⟨answer, way⟩ := by simpa only [call] using ways
    cases read : call'.read answer with
    | error fault =>
      obtain ⟨rfl, rfl, rfl⟩ := by simpa only [read] using way
      exact .failed call read
    | ok value =>
      obtain ⟨saved, rfl, rfl, rfl⟩ := by simpa only [read] using way
      exact .handedOver call read

end Driver

end ClusterLifecycle
