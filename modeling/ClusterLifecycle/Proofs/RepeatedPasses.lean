import ClusterLifecycle.Proofs.OperationOutcome
import ClusterLifecycle.Proofs.StatusPassEffects
import Mathlib.Tactic.SplitIfs

/-!
A pass whose save has failed, made once more. The record in the caller's hands has moved on by then
and is no longer in progress, so the second pass takes it for one that should not have been looked at.
-/

namespace ClusterLifecycle.Driver

open Program Plan

/-- Tools that answer commands in a way of their own, and a store that answers all saves alike. -/
def answering {σ : Type} (tools : Command → σ → RunResult × σ) (saved : Except StorageFault Unit) :
    (effect : Effect) → σ → effect.Answer × σ
  | .run command, state => tools command state
  | .save _, state => (saved, state)

def stored (events : List Plan.Event) : List Cluster :=
  events.filterMap fun event => match event with
    | ⟨.save record, .ok ()⟩ => some record
    | _ => none

/-- What a pass comes to: its answer, the record that it leaves in hand and what the store has kept. -/
structure PassEnd where
  answer : Except Failure PassOutcome
  record : Cluster
  stored : List Cluster

/-- A pass with tools in this state and a store that answers all saves alike. -/
def passEnd {σ : Type} (driver : Driver) (tools : Command → σ → RunResult × σ) (state : σ)
    (saved : Except StorageFault Unit) (cluster : Cluster) : PassEnd :=
  let pass := driver.statusPass cluster
  let result := (pass.run (answering tools saved) state).1
  ⟨result.1, result.2, stored (pass.trace (answering tools saved) state)⟩

def sight {σ : Type} (driver : Driver) (tools : Command → σ → RunResult × σ) (state : σ) (cluster : Cluster) :
    Option Observation :=
  if cluster.status.isInProgress then
    some (observed driver.config (tools (inspection driver.config cluster.uuid) state).1)
  else none

def misplaced (cluster : Cluster) : Cluster :=
  cluster.transitioned ⟨.update, .failed⟩ .unexpectedState

variable {σ α : Type} {driver : Driver} {tools : Command → σ → RunResult × σ} {state later : σ}
  {saved answer : Except StorageFault Unit} {cluster record : Cluster} {events front back : List Plan.Event}

theorem stored_append : stored (front ++ back) = stored front ++ stored back :=
  List.filterMap_append ..

theorem saved_of_answeredBy (answered : AnsweredBy (answering tools saved) events state later)
    (member : kept record answer ∈ events) : answer = saved := by
  obtain ⟨_, given⟩ := answered.heardFrom _ member
  exact given.symm

theorem exists_moved (driver : Driver) (tools : Command → σ → RunResult × σ) (state : σ)
    (saved : Except StorageFault Unit) (cluster : Cluster) :
    ∃ rest, (driver.passEnd tools state saved cluster).stored = stored rest ∧
      driver.Moved cluster (driver.sight tools state cluster) rest
        (driver.passEnd tools state saved cluster).answer (driver.passEnd tools state saved cluster).record ∧
      ∀ record answer, kept record answer ∈ rest → answer = saved := by
  have answered := answeredBy_trace (answering tools saved) (driver.statusPass cluster) state
  obtain ⟨looking, rest, seen, whole, looks, moves⟩ :=
    yields_statusPass.1 (yields_run (answering tools saved) (driver.statusPass cluster) state)
  rw [whole] at answered
  have alike : ∀ record answer, kept record answer ∈ rest → answer = saved := by
    intro record answer member
    exact saved_of_answeredBy answered (List.mem_append_right looking member)
  -- the first answer decides what is seen, and looking keeps nothing
  have looked : seen = driver.sight tools state cluster ∧ stored looking = [] := by
    unfold Looks at looks
    unfold sight
    split at looks
    next progress =>
      obtain ⟨given, rfl, rfl⟩ := looks
      obtain ⟨same, -⟩ := answered
      rw [if_pos progress, ← same]
      exact ⟨rfl, rfl⟩
    next still =>
      obtain ⟨rfl, rfl⟩ := looks
      rw [if_neg still]
      exact ⟨rfl, rfl⟩
  obtain ⟨rfl, nothing⟩ := looked
  refine ⟨rest, ?_, moves.moved, alike⟩
  show stored ((driver.statusPass cluster).trace (answering tools saved) state) = stored rest
  rw [whole, stored_append, nothing, List.nil_append]

theorem moved_on_of_transition {status target : Status} {observation : Observation} {reason : StatusReason}
    (move : status.transition observation = some (target, reason)) :
    target.isInProgress = false ∧
      (status.isInProgress = true → reason.message ≠ StatusReason.unexpectedState.message) := by
  unfold Status.transition at move
  cases stage : status.stage with
  | inProgress =>
    simp only [stage] at move
    split_ifs at move with arrived failed
    · obtain ⟨rfl, rfl⟩ := Prod.mk.inj (Option.some.inj move)
      refine ⟨rfl, fun _ => ?_⟩
      cases status.operation <;> decide
    · obtain ⟨rfl, rfl⟩ := Prod.mk.inj (Option.some.inj move)
      exact ⟨rfl, fun _ => by decide⟩
  | complete =>
    simp only [stage, Option.some.injEq, Prod.mk.injEq] at move
    rw [← move.1]
    exact ⟨rfl, by simp [Status.isInProgress, stage]⟩
  | failed =>
    simp only [stage, Option.some.injEq, Prod.mk.injEq] at move
    rw [← move.1]
    exact ⟨rfl, by simp [Status.isInProgress, stage]⟩

theorem passEnd_failed {uuid : Uuid} {fault : StorageFault}
    (failed : (driver.passEnd tools state saved cluster).answer = .error (.persistence uuid fault)) :
    (driver.passEnd tools state saved cluster).stored = [] ∧
      ∃ status reason, cluster.status.transition ((driver.sight tools state cluster).getD .error) =
          some (status, reason) ∧
        (driver.passEnd tools state saved cluster).record = cluster.transitioned status reason := by
  obtain ⟨rest, kept_eq, moved, -⟩ := exists_moved driver tools state saved cluster
  generalize driver.passEnd tools state saved cluster = finish at *
  obtain ⟨answer, record, stored⟩ := finish
  dsimp only at *
  cases moved with
  | stays still => cases failed
  | refused move => exact ⟨kept_eq, _, _, move, rfl⟩
  | settled move nothingLeft => cases failed
  | @cleared reason result move backend =>
    cases result with
    | ok output => cases failed
    | error fault => cases failed

theorem passEnd_working {status : Status} {reason : StatusReason}
    (move : cluster.status.transition ((driver.sight tools state cluster).getD .error) = some (status, reason)) :
    (driver.passEnd tools state (.ok ()) cluster).record = cluster.transitioned status reason ∧
      (driver.passEnd tools state (.ok ()) cluster).stored = [cluster.transitioned status reason] ∧
      ((driver.passEnd tools state (.ok ()) cluster).answer =
          .ok ⟨cluster.status, status, driver.sight tools state cluster, true⟩ ∨
        status = ⟨.delete, .complete⟩ ∧
          ∃ fault, (driver.passEnd tools state (.ok ()) cluster).answer = .error (.execution fault)) := by
  obtain ⟨rest, kept_eq, moved, alike⟩ := exists_moved driver tools state (.ok ()) cluster
  generalize driver.passEnd tools state (.ok ()) cluster = finish at *
  obtain ⟨answer, record, stored⟩ := finish
  dsimp only at *
  cases moved with
  | stays still =>
    rw [move] at still
    cases still
  | refused other => cases alike _ _ (List.mem_singleton_self _)
  | settled other nothingLeft =>
    obtain ⟨rfl, rfl⟩ := Prod.mk.inj (Option.some.inj (other.symm.trans move))
    exact ⟨rfl, kept_eq, .inl rfl⟩
  | @cleared _ result other backend =>
    obtain ⟨rfl, rfl⟩ := Prod.mk.inj (Option.some.inj (other.symm.trans move))
    cases result with
    | ok output => exact ⟨rfl, kept_eq, .inl rfl⟩
    | error fault => exact ⟨rfl, kept_eq, .inr ⟨rfl, fault, rfl⟩⟩

/-- With a store that works, a record that is not in progress is kept as one that should not have been
looked at, whatever the tools would have said. -/
theorem passEnd_at_rest (still : cluster.status.isInProgress = false) :
    driver.passEnd tools state (.ok ()) cluster =
      ⟨.ok ⟨cluster.status, ⟨.update, .failed⟩, none, true⟩, misplaced cluster, [misplaced cluster]⟩ := by
  have unseen : driver.sight tools state cluster = none := by simp [sight, still]
  have move := transition_at_rest still ((driver.sight tools state cluster).getD .error)
  obtain ⟨record_eq, stored_eq, answered | ⟨impossible, -⟩⟩ := passEnd_working move
  · rw [unseen] at answered
    calc driver.passEnd tools state (.ok ()) cluster
      _ = ⟨(driver.passEnd tools state (.ok ()) cluster).answer,
          (driver.passEnd tools state (.ok ()) cluster).record,
          (driver.passEnd tools state (.ok ()) cluster).stored⟩ := rfl
      _ = _ := by rw [answered, record_eq, stored_eq, misplaced]
  · cases impossible

/-- What becomes of a pass that has failed on its save, when it is made again on the record in hand with
the same tools and a store that works. -/
structure Repetition (driver : Driver) (tools : Command → σ → RunResult × σ) (state : σ)
    (cluster hand : Cluster) : Prop where
  /-- Whatever the tools would say by then, it has the record kept as one that should not have been looked
  at. -/
  again : ∀ later, driver.passEnd tools later (.ok ()) hand =
    ⟨.ok ⟨hand.status, ⟨.update, .failed⟩, none, true⟩, misplaced hand, [misplaced hand]⟩
  /-- The pass from the start would have had the record in hand kept as it is. -/
  afresh : (driver.passEnd tools state (.ok ()) cluster).record = hand ∧
    (driver.passEnd tools state (.ok ()) cluster).stored = [hand]
  /-- So the two agree only where nothing was left to be spoilt. -/
  same_iff : driver.passEnd tools state (.ok ()) hand = driver.passEnd tools state (.ok ()) cluster ↔
    cluster.status = ⟨.update, .failed⟩
  /-- A cluster in progress they leave with different answers, in hand as in the store. -/
  differ : cluster.status.isInProgress = true →
    (driver.passEnd tools state (.ok ()) hand).answer ≠ (driver.passEnd tools state (.ok ()) cluster).answer ∧
    (driver.passEnd tools state (.ok ()) hand).record ≠ (driver.passEnd tools state (.ok ()) cluster).record ∧
    (driver.passEnd tools state (.ok ()) hand).stored ≠ (driver.passEnd tools state (.ok ()) cluster).stored

/-- A pass that fails on its save cannot be made again: on the record that it leaves in hand, the next
pass does the same as on the one before only where this was the record of a failed update. -/
theorem failed_pass_repetition {uuid : Uuid} {fault : StorageFault}
    (failed : (driver.passEnd tools state saved cluster).answer = .error (.persistence uuid fault)) :
    driver.Repetition tools state cluster (driver.passEnd tools state saved cluster).record := by
  obtain ⟨-, status, reason, move, moved⟩ := passEnd_failed failed
  obtain ⟨still, spoilt⟩ := moved_on_of_transition move
  rw [moved]
  have again : ∀ later, driver.passEnd tools later (.ok ()) (cluster.transitioned status reason) =
      ⟨.ok ⟨status, ⟨.update, .failed⟩, none, true⟩, misplaced cluster, [misplaced cluster]⟩ :=
    fun later => passEnd_at_rest still
  obtain ⟨record_eq, stored_eq, answered⟩ := passEnd_working move
  have differ : cluster.status.isInProgress = true → misplaced cluster ≠ cluster.transitioned status reason := by
    intro progress same
    exact spoilt progress (Option.some.inj (congrArg Cluster.statusReason same)).symm
  constructor
  case again => exact again
  case afresh => exact ⟨record_eq, stored_eq⟩
  case same_iff =>
    rw [again state]
    constructor
    · intro same
      by_cases progress : cluster.status.isInProgress = true
      · exact absurd ((congrArg PassEnd.record same).trans record_eq) (differ progress)
      · have rest : cluster.status.isInProgress = false := by simpa using progress
        obtain ⟨rfl, rfl⟩ := Prod.mk.inj (Option.some.inj ((transition_at_rest rest _).symm.trans move))
        rw [passEnd_at_rest rest] at same
        exact (congrArg PassOutcome.previous (Except.ok.inj (congrArg PassEnd.answer same))).symm
    · intro spent
      have rest : cluster.status.isInProgress = false := by rw [spent]; rfl
      obtain ⟨rfl, rfl⟩ := Prod.mk.inj (Option.some.inj ((transition_at_rest rest _).symm.trans move))
      rw [passEnd_at_rest rest, spent]
  case differ =>
    intro progress
    rw [again state, record_eq, stored_eq]
    refine ⟨?_, differ progress, fun same => differ progress (List.cons.inj same).1⟩
    intro same
    rcases answered with success | ⟨-, fault, failure⟩
    · have previous := congrArg PassOutcome.previous (Except.ok.inj (same.trans success))
      have inProgress : status.isInProgress = true := by rw [show status = cluster.status from previous, progress]
      exact absurd (still.symm.trans inProgress) (by decide)
    · cases same.trans failure

def silent (_ : Command) (state : Unit) : RunResult × Unit :=
  (.ok ⟨"", ""⟩, state)

theorem failed_pass_repetition_disk_full :
    (initial.passEnd silent () (.error (.other "disk full")) default).answer =
        .error (.persistence (default : Cluster).uuid (.other "disk full")) ∧
      initial.Repetition silent () default
        (initial.passEnd silent () (.error (.other "disk full")) default).record := by
  have failed : (initial.passEnd silent () (.error (.other "disk full")) default).answer =
      .error (.persistence (default : Cluster).uuid (.other "disk full")) := rfl
  exact ⟨failed, failed_pass_repetition failed⟩

/-- A pass that fails on its save does not always come to the same when it is made again. -/
theorem not_failed_pass_repeatable :
    ¬ ∀ (driver : Driver) (cluster : Cluster) (tools : Command → Unit → RunResult × Unit)
      (uuid : Uuid) (fault : StorageFault), cluster.status.isInProgress = true →
        (driver.passEnd tools () (.error fault) cluster).answer = .error (.persistence uuid fault) →
        driver.passEnd tools () (.ok ()) (driver.passEnd tools () (.error fault) cluster).record =
          driver.passEnd tools () (.ok ()) cluster := by
  intro claim
  have same := claim initial default silent _ (.other "disk full") rfl rfl
  exact absurd (congrArg PassEnd.record same) (by decide)

end ClusterLifecycle.Driver
