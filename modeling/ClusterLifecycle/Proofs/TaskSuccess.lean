import ClusterLifecycle.Proofs.TaskEffects

/-!
Tasks on a host on which nothing fails: a valid file is taken in, and a pass over a stored record
that has arrived, or has failed, keeps this.
-/

namespace ClusterLifecycle.CommandLine

open Program Host StateDirectory

variable {config : Config} {cluster : Cluster} {path text : String} {answer : RunResult} {status : Status}
  {reason : StatusReason}

theorem yields_keepCluster :
    (keepCluster config cluster).Yields (keeping config.stateDirectory cluster) (.ok ()) := by
  have saving : (save config.stateDirectory cluster).Yields (keeping config.stateDirectory cluster) (.ok ()) :=
    yields_save.2 (.inl ⟨rfl, rfl⟩)
  have kept : (keepCluster config cluster).Yields (keeping config.stateDirectory cluster ++ []) (.ok ()) :=
    saving.bind (.done _)
  rwa [List.append_nil] at kept

theorem yields_readCluster (found : Cluster.ofText? text = some cluster) :
    (readCluster path).Yields [⟨.readText path, .ok text⟩] (.ok cluster) := by
  have query : (Host.readText path).Yields [⟨.readText path, .ok text⟩] (.ok text) := yields_query.2 rfl
  refine query.bind ?_
  dsimp only
  rw [found]
  exact .done _

theorem yields_readCluster_ok {events : List Host.Event} : (readCluster path).Yields events (.ok cluster) ↔
    ∃ text, events = [⟨.readText path, .ok text⟩] ∧ Cluster.ofText? text = some cluster := by
  constructor
  · intro run
    obtain ⟨answer, rfl, given⟩ := readCluster_cases run
    obtain ⟨text, rfl, found⟩ := given cluster rfl
    exact ⟨text, rfl, found⟩
  · rintro ⟨text, rfl, found⟩
    exact yields_readCluster found

theorem yields_keepCluster_ok {events : List Host.Event} : (keepCluster config cluster).Yields events (.ok ()) ↔
    events = keeping config.stateDirectory cluster := by
  constructor
  · intro run
    obtain ⟨saved, saving, _, rfl, saves, last⟩ := yields_bind.1 run
    obtain ⟨rfl, given⟩ := yields_ofExcept.1 last
    have kept : saved = .ok () := orFail_eq_ok.1 (mapError_eq_ok.1 given.symm)
    rw [List.append_nil]
    rcases yields_save.1 saves with ⟨rfl, -⟩ | ⟨_, _, failed⟩ | ⟨_, _, failed⟩ | ⟨_, _, failed⟩
    · rfl
    all_goals
      rw [kept] at failed
      cases failed
  · rintro rfl
    exact yields_keepCluster

theorem yields_adoptFile (found : Cluster.ofText? text = some cluster) (valid : cluster.validate = .ok ()) :
    (adoptFile config path).Yields
      (⟨.readText path, .ok text⟩ :: (keeping config.stateDirectory cluster ++
        [⟨.print s!"{cluster.uuid}\n", ()⟩])) (.ok ()) := by
  have checking : (Outcome.ofExcept (orFail (.validation cluster.uuid) cluster.validate)).Yields [] (.ok ()) := by
    rw [valid]
    exact .done _
  exact (yields_readCluster found).bind
    (checking.bind (yields_keepCluster.bind (yields_print.2 ⟨rfl, rfl⟩)))

theorem yields_adoptFile_ok {events : List Host.Event} : (adoptFile config path).Yields events (.ok ()) ↔
    ∃ text cluster, Cluster.ofText? text = some cluster ∧ cluster.validate = .ok () ∧
      events = ⟨.readText path, .ok text⟩ :: (keeping config.stateDirectory cluster ++
        [⟨.print s!"{cluster.uuid}\n", ()⟩]) := by
  constructor
  · intro run
    rcases andThen_cases run with ⟨_, _, failed⟩ | ⟨cluster, ahead, _, rfl, reading, afterRead⟩
    · cases failed
    obtain ⟨text, rfl, found⟩ := yields_readCluster_ok.1 reading
    rcases andThen_cases afterRead with ⟨_, _, failed⟩ | ⟨_, checks, _, rfl, checking, afterCheck⟩
    · cases failed
    obtain ⟨rfl, checked⟩ := yields_ofExcept.1 checking
    have valid : cluster.validate = .ok () := orFail_eq_ok.1 (mapError_eq_ok.1 checked.symm)
    rcases andThen_cases afterCheck with ⟨_, _, failed⟩ | ⟨_, keeps, _, rfl, kept, afterKeep⟩
    · cases failed
    obtain rfl := yields_keepCluster_ok.1 kept
    obtain ⟨rfl, -⟩ := yields_print.1 afterKeep
    exact ⟨text, cluster, found, valid, rfl⟩
  · rintro ⟨text, cluster, found, valid, rfl⟩
    exact yields_adoptFile found valid

theorem yields_openDriver_builtIn (builtIn : config.templatesDirectory = none) :
    (openDriver config).Yields [] (.ok ⟨config, Manifest.builtIn, config.authUrl⟩) := by
  refine yields_openDriver.2 ⟨.ok ⟨Manifest.builtIn, config.authUrl⟩, ?_, rfl⟩
  rw [yields_openRenderer, builtIn]
  exact ⟨rfl, rfl⟩

theorem yields_loadCluster :
    (loadCluster config cluster.uuid).Yields
      [⟨.readText (recordPath config.stateDirectory cluster.uuid), .ok cluster.stored⟩] (.ok cluster) := by
  have read : (load config.stateDirectory cluster.uuid).Yields
      [⟨.readText (recordPath config.stateDirectory cluster.uuid), .ok cluster.stored⟩] (.ok cluster) := by
    refine yields_load.2 (.inl ⟨cluster.stored, rfl, ?_⟩)
    rw [StateDirectory.check, Cluster.ofStored?_stored]
    exact (if_pos rfl).symm
  exact read.bind (.done _)

theorem yields_moving_pass (driver : Driver) (progress : cluster.status.isInProgress = true)
    (move : cluster.status.transition (Driver.observed driver.config answer) = some (status, reason))
    (stays : ¬ (driver.config.backend = .manifests ∧ status = ⟨.delete, .complete⟩)) :
    (driver.statusPass cluster).Yields
      [Plan.ran (Driver.inspection driver.config cluster.uuid) answer,
        Plan.kept (cluster.transitioned status reason) (.ok ())]
      (.ok ⟨cluster.status, status, some (Driver.observed driver.config answer), true⟩,
        cluster.transitioned status reason) := by
  refine Driver.yields_statusPass.2 ⟨[Plan.ran (Driver.inspection driver.config cluster.uuid) answer],
    [Plan.kept (cluster.transitioned status reason) (.ok ())], some (Driver.observed driver.config answer),
    rfl, ?_, ?_⟩
  · rw [Driver.Looks, if_pos progress]
    exact ⟨answer, rfl, rfl⟩
  · rw [Driver.Moves, Option.getD_some, move]
    refine ⟨rfl, .inr ⟨[], rfl, ?_⟩⟩
    rw [Driver.Clears, if_neg stays]
    exact ⟨rfl, rfl⟩

theorem yields_pass (builtIn : config.templatesDirectory = none) (progress : cluster.status.isInProgress = true)
    (move : cluster.status.transition (Driver.observed config answer) = some (status, reason))
    (stays : ¬ (config.backend = .manifests ∧ status = ⟨.delete, .complete⟩)) :
    (pass config cluster.uuid).Yields
      (⟨.readText (recordPath config.stateDirectory cluster.uuid), .ok cluster.stored⟩ ::
        ⟨.run (Driver.inspection config cluster.uuid), answer⟩ ::
        (keeping config.stateDirectory (cluster.transitioned status reason) ++
          [⟨.print (passLine ⟨cluster.status, status, some (Driver.observed config answer), true⟩
            (cluster.transitioned status reason)), ()⟩])) (.ok ()) := by
  have planned := yields_moving_pass ⟨config, Manifest.builtIn, config.authUrl⟩ progress move stays
  have onHost : Plan.OnHost config.stateDirectory
      [Plan.ran (Driver.inspection config cluster.uuid) answer,
        Plan.kept (cluster.transitioned status reason) (.ok ())]
      (⟨.run (Driver.inspection config cluster.uuid), answer⟩ ::
        (keeping config.stateDirectory (cluster.transitioned status reason) ++ [])) :=
    Plan.onHost_ran.2 ⟨_, rfl, Plan.onHost_kept.2 ⟨_, [], rfl, yields_save.2 (.inl ⟨rfl, rfl⟩), .nil⟩⟩
  have carried : (carryOut config (Driver.statusPass ⟨config, Manifest.builtIn, config.authUrl⟩ cluster)).Yields
      (⟨.run (Driver.inspection config cluster.uuid), answer⟩ ::
        (keeping config.stateDirectory (cluster.transitioned status reason) ++ []) ++ [])
      (.ok (⟨cluster.status, status, some (Driver.observed config answer), true⟩,
        cluster.transitioned status reason)) :=
    Yields.bind (yields_refine.2 ⟨_, planned, onHost⟩) (.done _)
  exact (yields_openDriver_builtIn builtIn).bind
    (yields_loadCluster.bind (carried.bind (yields_print.2 ⟨rfl, rfl⟩)))

end ClusterLifecycle.CommandLine
