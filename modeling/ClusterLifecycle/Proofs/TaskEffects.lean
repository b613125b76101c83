import ClusterLifecycle.CommandLine.Task
import ClusterLifecycle.Proofs.StateDirectorySteps
import ClusterLifecycle.Proofs.StatusPassEffects

/-!
What a task of the command line does to the records of a state directory. It hands at most one
record to the store; what it has read and looked at before that says why this record.
-/

namespace ClusterLifecycle

open Program Host StateDirectory

namespace Plan

variable {directory : String} {events : List Plan.Event} {lower : List Host.Event} {record : Cluster}
  {saved : Except StorageFault Unit}

abbrev OnHost (directory : String) : List Plan.Event → List Host.Event → Prop :=
  CarriedOut (Effect.onHost directory)

theorem onHost_nil : OnHost directory [] lower ↔ lower = [] := by
  constructor
  · intro carried
    cases carried
    rfl
  · intro same
    subst same
    exact .nil

theorem onHost_ran {command : Command} {answer : RunResult} :
    OnHost directory (ran command answer :: events) lower ↔
      ∃ rest, lower = ⟨.run command, answer⟩ :: rest ∧ OnHost directory events rest := by
  constructor
  · intro carried
    cases carried with
    | cons first others =>
      obtain rfl := yields_query.1 first
      exact ⟨_, rfl, others⟩
  · intro way
    obtain ⟨rest, rfl, others⟩ := way
    have first : (Effect.onHost directory (.run command)).Yields [⟨.run command, answer⟩] answer :=
      yields_query.2 rfl
    exact .cons first others

theorem onHost_kept :
    OnHost directory (kept record saved :: events) lower ↔
      ∃ saving rest, lower = saving ++ rest ∧ (save directory record).Yields saving saved ∧
        OnHost directory events rest := by
  constructor
  · intro carried
    cases carried with
    | cons first others => exact ⟨_, _, rfl, first, others⟩
  · intro way
    obtain ⟨saving, rest, rfl, first, others⟩ := way
    exact .cons first others

def OnlyRuns (events : List Plan.Event) : Prop := ∀ record saved, kept record saved ∉ events

theorem onHost_onlyRuns (runs : OnlyRuns events) (carried : OnHost directory events lower) :
    Quiet lower ∧ ∀ command answer, ran command answer ∈ events → ⟨.run command, answer⟩ ∈ lower := by
  induction events generalizing lower with
  | nil =>
    rw [onHost_nil] at carried
    rw [carried]
    exact ⟨quiet_nil, nofun⟩
  | cons event rest ih =>
    obtain ⟨effect, answer⟩ := event
    cases effect with
    | save record => exact absurd (List.mem_cons_self ..) (runs record answer)
    | run command =>
      obtain ⟨others, rfl, later⟩ := onHost_ran.1 carried
      have restRuns : OnlyRuns rest := fun record saved member => runs record saved (List.mem_cons_of_mem _ member)
      obtain ⟨quiet, found⟩ := ih restRuns later
      constructor
      · intro event member
        rcases List.mem_cons.1 member with rfl | further
        · rfl
        · exact quiet event further
      · intro command' answer' member
        rcases List.mem_cons.1 member with same | further
        · cases same
          exact List.mem_cons_self ..
        · exact List.mem_cons_of_mem _ (found command' answer' further)

theorem onHost_around {first last : List Plan.Event} (ahead : OnlyRuns first) (behind : OnlyRuns last)
    (carried : OnHost directory (first ++ kept record saved :: last) lower) :
    ∃ before saving after, lower = before ++ (saving ++ after) ∧ Quiet before ∧ Quiet after ∧
      (save directory record).Yields saving saved ∧
      ∀ command answer, ran command answer ∈ first → ⟨.run command, answer⟩ ∈ before := by
  obtain ⟨before, _, rfl, early, late⟩ := carriedOut_append.1 carried
  obtain ⟨saving, after, rfl, saves, rest⟩ := onHost_kept.1 late
  obtain ⟨quiet, found⟩ := onHost_onlyRuns ahead early
  exact ⟨before, saving, after, rfl, quiet, (onHost_onlyRuns behind rest).1, saves, found⟩

end Plan

namespace Driver

open Plan

variable {driver : Driver} {cluster after : Cluster} {operation : Operation} {events : List Plan.Event}

theorem operation_saves {result : Except Failure Unit}
    (run : (driver.perform operation cluster).Yields events (result, after)) :
    OnlyRuns events ∨ ∃ first saved, events = first ++ [kept (submitted cluster operation) saved] ∧
      OnlyRuns first ∧ (saved = .ok () → result = .ok ()) := by
  cases operated run with
  | refused reason => exact .inl (by simp [OnlyRuns])
  | failed call read => exact .inl (by simp [OnlyRuns])
  | @handedOver call answer saved call_eq read =>
    refine .inr ⟨[ran call.command answer], saved, rfl, by simp [OnlyRuns], ?_⟩
    intro same
    subst same
    rfl

theorem pass_saves {result : Except Failure PassOutcome}
    (run : (driver.statusPass cluster).Yields events (result, after)) :
    OnlyRuns events ∨ ∃ looking saved last seen status reason,
      events = looking ++ kept (cluster.transitioned status reason) saved :: last ∧
        OnlyRuns looking ∧ OnlyRuns last ∧ driver.Looks cluster looking seen ∧
        cluster.status.transition (seen.getD .error) = some (status, reason) := by
  obtain ⟨looking, rest, seen, rfl, looks, moves⟩ := yields_statusPass.1 run
  cases Moves.moved moves with
  | stays still =>
    rw [List.append_nil]
    exact .inl looks.not_kept
  | @refused status reason fault move =>
    exact .inr ⟨looking, .error fault, [], seen, status, reason, rfl, looks.not_kept, by simp [OnlyRuns], looks,
      move⟩
  | @settled status reason move nothingLeft =>
    exact .inr ⟨looking, .ok (), [], seen, status, reason, rfl, looks.not_kept, by simp [OnlyRuns], looks, move⟩
  | @cleared reason answer move backend =>
    exact .inr ⟨looking, .ok (), [ran (secretRemoval driver.config cluster.uuid) answer], seen, _, reason, rfl,
      looks.not_kept, by simp [OnlyRuns], looks, move⟩

end Driver

namespace CommandLine

variable {α β : Type} {events : List Host.Event}

theorem andThen_cases {outcome : Outcome α} {next : α → Outcome β} {result : Except TaskFault β}
    (run : (outcome.andThen next).Yields events result) :
    (∃ fault, outcome.Yields events (.error fault) ∧ result = .error fault) ∨
      ∃ value before after, events = before ++ after ∧ outcome.Yields before (.ok value) ∧
        (next value).Yields after result := by
  obtain ⟨first, before, after, rfl, early, late⟩ := yields_bind.1 run
  cases first with
  | ok value => exact .inr ⟨value, before, after, rfl, early, late⟩
  | error fault =>
    obtain ⟨rfl, rfl⟩ := yields_done.1 late
    exact .inl ⟨fault, by rwa [List.append_nil], rfl⟩

theorem yields_ofExcept {given : Except Failure α} {result : Except TaskFault α} :
    (Outcome.ofExcept given).Yields events result ↔ events = [] ∧ result = given.mapError .failure :=
  yields_done

theorem mapError_eq_ok {given : Except Failure α} {value : α} :
    given.mapError TaskFault.failure = .ok value ↔ given = .ok value := by
  cases given with
  | ok value' =>
    constructor
    · intro same
      rw [Except.ok.inj same]
    · intro same
      rw [Except.ok.inj same]
      rfl
  | error failure =>
    constructor
    · intro same
      cases same
    · intro same
      cases same

theorem mapError_eq_error {given : Except Failure α} {fault : TaskFault} :
    given.mapError TaskFault.failure = .error fault ↔ ∃ failure, given = .error failure ∧ fault = .failure failure := by
  cases given with
  | ok value =>
    constructor
    · intro same
      cases same
    · intro found
      obtain ⟨_, same, -⟩ := found
      cases same
  | error failure =>
    constructor
    · intro same
      exact ⟨failure, rfl, (Except.error.inj same).symm⟩
    · intro found
      obtain ⟨_, same, rfl⟩ := found
      obtain rfl := Except.error.inj same
      rfl

theorem yields_print {text : String} {result : Except TaskFault Unit} :
    (print text).Yields events result ↔ events = [⟨.print text, ()⟩] ∧ result = .ok () := by
  constructor
  · intro run
    obtain ⟨_, _, _, rfl, first, last⟩ := yields_bind.1 run
    obtain rfl := yields_query.1 first
    obtain ⟨rfl, rfl⟩ := yields_done.1 last
    exact ⟨rfl, rfl⟩
  · intro way
    obtain ⟨rfl, rfl⟩ := way
    exact Yields.bind (yields_query.2 rfl) (.done _)

def printed (events : List Host.Event) : List String :=
  events.filterMap fun event => match event.1 with
    | .print text => some text
    | _ => none

theorem printed_append (first second : List Host.Event) :
    printed (first ++ second) = printed first ++ printed second :=
  List.filterMap_append ..

/-- Events that leave no trace: no text is put anywhere, and nothing is printed. -/
structure Traceless (events : List Host.Event) : Prop where
  quiet : Quiet events
  unprinted : printed events = []

theorem Traceless.append {first second : List Host.Event} (front : Traceless first) (back : Traceless second) :
    Traceless (first ++ second) where
  quiet := quiet_append front.quiet back.quiet
  unprinted := by rw [printed_append, front.unprinted, back.unprinted, List.append_nil]

variable {config : Config} {uuid : Uuid} {path : String}

theorem yields_openRenderer {result : Except TaskFault Manifest.Renderer} :
    (openRenderer config).Yields events result ↔
      match config.templatesDirectory with
      | none => events = [] ∧ result = .ok ⟨Manifest.builtIn, config.authUrl⟩
      | some place => ∃ library, events = [⟨.openTemplates place, library⟩] ∧
        result = (Driver.renderer? (fun _ => library) config).mapError .failure := by
  unfold openRenderer
  cases custom : config.templatesDirectory with
  | none =>
    have found : Driver.renderer? (fun _ => none) config = .ok ⟨Manifest.builtIn, config.authUrl⟩ := by
      simp only [Driver.renderer?, custom]
    rw [yields_ofExcept, found]
    rfl
  | some place =>
    constructor
    · intro run
      obtain ⟨library, _, after, rfl, first, last⟩ := yields_bind.1 run
      obtain rfl := yields_query.1 first
      obtain ⟨rfl, rfl⟩ := yields_ofExcept.1 last
      exact ⟨library, rfl, rfl⟩
    · intro found
      obtain ⟨library, rfl, rfl⟩ := found
      exact (yields_query.2 rfl).bind (yields_ofExcept.2 ⟨rfl, rfl⟩)

theorem traceless_openRenderer {result : Except TaskFault Manifest.Renderer}
    (run : (openRenderer config).Yields events result) : Traceless events := by
  have opened := yields_openRenderer.1 run
  split at opened
  · rw [opened.1]
    exact ⟨quiet_nil, rfl⟩
  · obtain ⟨library, rfl, -⟩ := opened
    exact ⟨by simp [Quiet, Request.writes], rfl⟩

theorem yields_openDriver {result : Except TaskFault Driver} :
    (openDriver config).Yields events result ↔
      ∃ opened, (openRenderer config).Yields events opened ∧ result = opened.map (⟨config, ·⟩) := by
  constructor
  · intro run
    rcases andThen_cases run with ⟨fault, opening, rfl⟩ | ⟨renderer, opened, _, rfl, opening, last⟩
    · exact ⟨_, opening, rfl⟩
    · obtain ⟨rfl, rfl⟩ := yields_done.1 last
      exact ⟨_, by rwa [List.append_nil], rfl⟩
  · intro run
    obtain ⟨opened, opening, rfl⟩ := run
    rw [← List.append_nil events]
    refine opening.bind ?_
    cases opened with
    | ok renderer => exact .done _
    | error fault => exact .done _

theorem traceless_openDriver {result : Except TaskFault Driver} (run : (openDriver config).Yields events result) :
    Traceless events := by
  obtain ⟨opened, opening, -⟩ := yields_openDriver.1 run
  exact traceless_openRenderer opening

theorem openDriver_ok {driver : Driver} (run : (openDriver config).Yields events (.ok driver)) :
    driver.config = config := by
  obtain ⟨opened, -, same⟩ := yields_openDriver.1 run
  cases opened with
  | ok renderer => rw [Except.ok.inj same]
  | error fault => cases same

theorem traceless_loadCluster {result : Except TaskFault Cluster}
    (run : (loadCluster config uuid).Yields events result) : Traceless events := by
  obtain ⟨_, _, after, rfl, first, last⟩ := yields_bind.1 run
  rw [(yields_ofExcept.1 last).1]
  rcases yields_load.1 first with ⟨text, rfl, -⟩ | ⟨cause, rfl, -⟩
  · exact ⟨by simp [Quiet, Request.writes], rfl⟩
  · exact ⟨by simp [Quiet, Request.writes], rfl⟩

theorem loadCluster_ok {cluster : Cluster} (run : (loadCluster config uuid).Yields events (.ok cluster)) :
    ∃ text, ⟨.readText (recordPath config.stateDirectory uuid), .ok text⟩ ∈ events ∧
      Cluster.ofStored? text = some cluster ∧ cluster.uuid = uuid := by
  obtain ⟨_, _, after, rfl, first, last⟩ := yields_bind.1 run
  obtain ⟨rfl, found⟩ := yields_ofExcept.1 last
  have loaded := orFail_eq_ok.1 (mapError_eq_ok.1 found.symm)
  rcases yields_load.1 first with ⟨text, rfl, rfl⟩ | ⟨cause, rfl, rfl⟩
  · exact ⟨text, by simp, check_eq_ok loaded⟩
  · cases loaded

theorem readCluster_cases {result : Except TaskFault Cluster} (run : (readCluster path).Yields events result) :
    ∃ answer, events = [⟨.readText path, answer⟩] ∧
      ∀ cluster, result = .ok cluster → ∃ text, answer = .ok text ∧ Cluster.ofText? text = some cluster := by
  obtain ⟨answer, _, _, rfl, first, last⟩ := yields_bind.1 run
  obtain rfl := yields_query.1 first
  cases answer with
  | error cause =>
    obtain ⟨rfl, rfl⟩ := yields_done.1 last
    refine ⟨.error cause, rfl, fun other wrong => ?_⟩
    cases wrong
  | ok text =>
    dsimp only at last
    split at last
    next cluster found =>
      obtain ⟨rfl, rfl⟩ := yields_done.1 last
      refine ⟨.ok text, rfl, fun other same => ⟨text, rfl, ?_⟩⟩
      rw [found, Except.ok.inj same]
    · obtain ⟨rfl, rfl⟩ := yields_done.1 last
      refine ⟨.ok text, rfl, fun other wrong => ?_⟩
      cases wrong

theorem quiet_readCluster {result : Except TaskFault Cluster} (run : (readCluster path).Yields events result) :
    Quiet events := by
  obtain ⟨answer, rfl, -⟩ := readCluster_cases run
  simp [Quiet, Request.writes]

/-- Why a task hands a record to the store, from what it has been told before. -/
inductive Grounds (config : Config) : Task → List Host.Event → Cluster → Prop where
  /-- The record is that of a file, and it is valid. -/
  | adopted {path text : String} {cluster : Cluster} {events : List Host.Event}
      (read : ⟨.readText path, .ok text⟩ ∈ events) (found : Cluster.ofText? text = some cluster)
      (valid : cluster.validate = .ok ()) : Grounds config (.adopt path) events cluster
  /-- The stored record has been submitted to an operation. -/
  | submitted {operation : Operation} {uuid : Uuid} {text : String} {loaded : Cluster}
      {events : List Host.Event}
      (read : ⟨.readText (recordPath config.stateDirectory uuid), .ok text⟩ ∈ events)
      (found : Cluster.ofStored? text = some loaded) (same : loaded.uuid = uuid) :
      Grounds config (.perform operation uuid) events (Driver.submitted loaded operation)
  /-- The stored record has moved on by what was observed, or without a look where it was at rest. -/
  | moved {uuid : Uuid} {text : String} {loaded : Cluster} {seen : Option Observation} {status : Status}
      {reason : StatusReason} {events : List Host.Event}
      (read : ⟨.readText (recordPath config.stateDirectory uuid), .ok text⟩ ∈ events)
      (found : Cluster.ofStored? text = some loaded) (same : loaded.uuid = uuid)
      (looked : loaded.status.isInProgress = true → ∃ answer,
        ⟨.run (Driver.inspection config uuid), answer⟩ ∈ events ∧ seen = some (Driver.observed config answer))
      (move : loaded.status.transition (seen.getD .error) = some (status, reason)) :
      Grounds config (.reconcile uuid) events (loaded.transitioned status reason)

/-- A task that hands a record to the store, which happens once. Where this is kept, only a pass can
still fail. -/
def Saves (config : Config) (task : Task) (events : List Host.Event) (result : Except TaskFault Unit) : Prop :=
  ∃ before saving after cluster saved, events = before ++ (saving ++ after) ∧ Quiet before ∧ Quiet after ∧
    (save config.stateDirectory cluster).Yields saving saved ∧ Grounds config task before cluster ∧
    (saved = .ok () → (∃ uuid, task = .reconcile uuid) ∨ result = .ok ())

theorem carryOut_cases {plan : Plan (Except Failure α × Cluster)} {result : Except TaskFault (α × Cluster)}
    (run : (carryOut config plan).Yields events result) :
    ∃ planned outcome after, plan.Yields planned (outcome, after) ∧
      Plan.OnHost config.stateDirectory planned events ∧
      result = (outcome.map (·, after)).mapError .failure := by
  obtain ⟨⟨outcome, after⟩, lower, _, rfl, first, last⟩ := yields_bind.1 run
  obtain ⟨rfl, given⟩ := yields_ofExcept.1 last
  obtain ⟨planned, runs, onHost⟩ := yields_refine.1 first
  exact ⟨planned, outcome, after, runs, by rwa [List.append_nil], given⟩

theorem planned_cases {plan : Driver → Cluster → Plan (Except Failure α × Cluster)}
    {line : α × Cluster → String} {result : Except TaskFault Unit}
    (run : ((openDriver config).andThen fun driver => (loadCluster config uuid).andThen fun cluster =>
      (carryOut config (plan driver cluster)).andThen fun done => print (line done)).Yields events result) :
    (Quiet events ∧ ∃ fault, result = .error fault) ∨
      ∃ driver loaded text ahead planned lower report outcome after,
        events = ahead ++ (lower ++ report) ∧ Quiet ahead ∧ Quiet report ∧ driver.config = config ∧
          ⟨.readText (recordPath config.stateDirectory uuid), .ok text⟩ ∈ ahead ∧
          Cluster.ofStored? text = some loaded ∧ loaded.uuid = uuid ∧
          (plan driver loaded).Yields planned (outcome, after) ∧
          Plan.OnHost config.stateDirectory planned lower ∧ printed ahead = [] ∧
          match outcome with
          | .ok value => report = [⟨.print (line (value, after)), ()⟩] ∧ result = .ok ()
          | .error failure => report = [] ∧ result = .error (.failure failure) := by
  rcases andThen_cases run with ⟨fault, opening, rfl⟩ | ⟨driver, opened, _, rfl, opening, run⟩
  · exact .inl ⟨(traceless_openDriver opening).quiet, fault, rfl⟩
  have opens := traceless_openDriver opening
  rcases andThen_cases run with ⟨fault, loading, rfl⟩ | ⟨loaded, loads, _, rfl, loading, run⟩
  · exact .inl ⟨(opens.append (traceless_loadCluster loading)).quiet, fault, rfl⟩
  obtain ⟨text, read, found, same⟩ := loadCluster_ok loading
  have ahead : Traceless (opened ++ loads) := opens.append (traceless_loadCluster loading)
  -- the plan may fail or come to a value, but it has had its effects either way
  refine .inr ⟨driver, loaded, text, opened ++ loads, ?_⟩
  rcases andThen_cases run with ⟨fault, first, rfl⟩ | ⟨value, lower, report, rfl, first, last⟩
  · obtain ⟨planned, outcome, after, runs, onHost, given⟩ := carryOut_cases first
    cases outcome with
    | ok value => cases given
    | error failure =>
      obtain rfl := Except.error.inj given
      exact ⟨planned, _, [], .error failure, after, by simp, ahead.quiet, quiet_nil, openDriver_ok opening,
        by simp [read], found, same, runs, onHost, ahead.unprinted, rfl, rfl⟩
  · obtain ⟨planned, outcome, after, runs, onHost, given⟩ := carryOut_cases first
    obtain ⟨rfl, rfl⟩ := yields_print.1 last
    cases outcome with
    | ok value =>
      obtain rfl := Except.ok.inj given
      exact ⟨planned, lower, _, .ok value, after, by simp, ahead.quiet, by simp [Quiet, Request.writes],
        openDriver_ok opening, by simp [read], found, same, runs, onHost, ahead.unprinted, rfl, rfl⟩
    | error failure => cases given

theorem submit_saves {operation : Operation} {result : Except TaskFault Unit}
    (run : (submit config operation uuid).Yields events result) :
    Quiet events ∨ Saves config (.perform operation uuid) events result := by
  rcases planned_cases run with ⟨quiet, -⟩ | ⟨driver, loaded, text, ahead, planned, lower, report, outcome, after,
    rfl, quietAhead, quietReport, -, read, found, same, plan, onHost, -, reported⟩
  · exact .inl quiet
  rcases Driver.operation_saves plan with runs | ⟨first, saved, rfl, runs, succeeded⟩
  · exact .inl (quiet_append quietAhead (quiet_append (Plan.onHost_onlyRuns runs onHost).1 quietReport))
  obtain ⟨before, saving, behind, rfl, quietBefore, quietBehind, saves, -⟩ :=
    Plan.onHost_around runs (by simp [Plan.OnlyRuns]) onHost
  refine .inr ⟨ahead ++ before, saving, behind ++ report, _, saved, by simp, quiet_append quietAhead quietBefore,
    quiet_append quietBehind quietReport, saves, .submitted (by simp [read]) found same, fun kept => .inr ?_⟩
  obtain rfl := succeeded kept
  exact reported.2

theorem pass_saves {result : Except TaskFault Unit} (run : (pass config uuid).Yields events result) :
    Quiet events ∨ Saves config (.reconcile uuid) events result := by
  rcases planned_cases run with ⟨quiet, -⟩ | ⟨driver, loaded, text, ahead, planned, lower, report, outcome, after,
    rfl, quietAhead, quietReport, own, read, found, same, plan, onHost, -, -⟩
  · exact .inl quiet
  rcases Driver.pass_saves plan with
    runs | ⟨looking, saved, last, seen, status, reason, rfl, first, runs, looks, move⟩
  · exact .inl (quiet_append quietAhead (quiet_append (Plan.onHost_onlyRuns runs onHost).1 quietReport))
  obtain ⟨before, saving, behind, rfl, quietBefore, quietBehind, saves, ran⟩ :=
    Plan.onHost_around first runs onHost
  have looked : loaded.status.isInProgress = true → ∃ answer,
      ⟨.run (Driver.inspection config uuid), answer⟩ ∈ ahead ++ before ∧
        seen = some (Driver.observed config answer) := by
    intro progress
    unfold Driver.Looks at looks
    rw [if_pos progress, own, same] at looks
    obtain ⟨answer, rfl, seen⟩ := looks
    exact ⟨answer, List.mem_append_right _ (ran _ _ (List.mem_singleton_self _)), seen⟩
  exact .inr ⟨ahead ++ before, saving, behind ++ report, _, saved, by simp, quiet_append quietAhead quietBefore,
    quiet_append quietBehind quietReport, saves, .moved (by simp [read]) found same looked move,
    fun _ => .inl ⟨uuid, rfl⟩⟩

theorem adopt_saves {result : Except TaskFault Unit} (run : (adoptFile config path).Yields events result) :
    Quiet events ∨ Saves config (.adopt path) events result := by
  rcases andThen_cases run with ⟨fault, reading, -⟩ | ⟨cluster, ahead, _, rfl, reading, afterRead⟩
  · exact .inl (quiet_readCluster reading)
  have quietAhead := quiet_readCluster reading
  obtain ⟨answer, rfl, given⟩ := readCluster_cases reading
  obtain ⟨text, rfl, found⟩ := given cluster rfl
  rcases andThen_cases afterRead with ⟨fault, checking, -⟩ | ⟨_, checks, _, rfl, checking, afterCheck⟩
  · rw [(yields_ofExcept.1 checking).1, List.append_nil]
    exact .inl quietAhead
  obtain ⟨rfl, checked⟩ := yields_ofExcept.1 checking
  have valid : cluster.validate = .ok () := orFail_eq_ok.1 (mapError_eq_ok.1 checked.symm)
  rcases andThen_cases afterCheck with ⟨fault, keeping, -⟩ | ⟨_, keeps, _, rfl, keeping, afterKeep⟩
  · obtain ⟨saved, saving, _, rfl, saves, last⟩ := yields_bind.1 keeping
    obtain ⟨rfl, given⟩ := yields_ofExcept.1 last
    refine .inr ⟨_, saving, [], cluster, saved, by simp, quietAhead, quiet_nil, saves,
      .adopted (by simp) found valid, ?_⟩
    intro same
    subst same
    cases given
  · obtain ⟨saved, saving, _, rfl, saves, last⟩ := yields_bind.1 keeping
    obtain ⟨rfl, -⟩ := yields_ofExcept.1 last
    obtain ⟨rfl, rfl⟩ := yields_print.1 afterKeep
    exact .inr ⟨_, saving, [⟨.print s!"{cluster.uuid}\n", ()⟩], cluster, saved, by simp, quietAhead,
      by simp [Quiet, Request.writes], saves,
      .adopted (by simp) found valid, fun _ => .inr rfl⟩

theorem quiet_renderFile {withoutTemplate : Bool} {result : Except TaskFault Unit}
    (run : (renderFile config path withoutTemplate).Yields events result) : Quiet events := by
  rcases andThen_cases run with ⟨fault, reading, -⟩ | ⟨cluster, ahead, _, rfl, reading, run⟩
  · exact quiet_readCluster reading
  refine quiet_append (quiet_readCluster reading) ?_
  rcases andThen_cases run with ⟨fault, opening, -⟩ | ⟨renderer, opened, _, rfl, opening, run⟩
  · exact (traceless_openRenderer opening).quiet
  refine quiet_append ((traceless_openRenderer opening).quiet) ?_
  rcases andThen_cases run with ⟨fault, rendering, -⟩ | ⟨text, rendered, _, rfl, rendering, run⟩
  · rw [(yields_ofExcept.1 rendering).1]
    exact quiet_nil
  · rw [(yields_ofExcept.1 rendering).1, (yields_print.1 run).1]
    simp [Quiet, Request.writes]

/-- A task leaves the records alone, or it hands one record to the store, with grounds. -/
theorem task_saves {task : Task} {result : Except TaskFault Unit} (run : (Task.run config task).Yields events result) :
    Quiet events ∨ Saves config task events result := by
  cases task with
  | render path withoutTemplate => exact .inl (quiet_renderFile run)
  | perform operation uuid => exact submit_saves run
  | reconcile uuid => exact pass_saves run
  | adopt path => exact adopt_saves run

end CommandLine

end ClusterLifecycle
