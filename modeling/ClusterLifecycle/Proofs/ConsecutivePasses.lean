import ClusterLifecycle.Proofs.RepeatedPasses
import Mathlib.Data.List.Chain

/-!
What is done to one record, time after time, and what passes alone come to. With a store that works, a
status in progress lasts until the tools say something else, is over once, and from then on every pass takes
the record for one that should not have been looked at.
-/

namespace ClusterLifecycle.Driver

open Program Plan

/-- What is done to a record: an operation or, where none is asked for, a pass over its status. -/
def turn (driver : Driver) (cluster : Cluster) : Option Operation → Plan (Except Failure Unit × Cluster)
  | some operation => driver.perform operation cluster
  | none => (driver.statusPass cluster).bind fun (answer, after) => .done (answer.map fun _ => (), after)

/-- One thing after the other, each done to the record that the one before has left, with what each of them
comes to. -/
def course (driver : Driver) : List (Option Operation) → Cluster → Plan (List (Except Failure Unit × Cluster))
  | [], _ => .done []
  | work :: works, cluster =>
    (driver.turn cluster work).bind fun (answer, after) =>
      (driver.course works after).bind fun later => .done ((answer, after) :: later)

variable {driver : Driver} {cluster after : Cluster} {work : Option Operation} {works : List (Option Operation)}
  {events : List Plan.Event} {answer : Except Failure Unit} {ends : List (Except Failure Unit × Cluster)}

theorem yields_turn_pass : (driver.turn cluster none).Yields events (answer, after) ↔
    ∃ result, (driver.statusPass cluster).Yields events (result, after) ∧ answer = result.map fun _ => () := by
  rw [turn, yields_bind]
  constructor
  · intro way
    obtain ⟨⟨result, _⟩, before, _, rfl, pass, last⟩ := way
    obtain ⟨rfl, pair⟩ := yields_done.1 last
    obtain ⟨rfl, rfl⟩ := Prod.mk.inj pair
    exact ⟨result, by rwa [List.append_nil], rfl⟩
  · intro way
    obtain ⟨result, pass, rfl⟩ := way
    exact ⟨(result, after), events, [], by simp, pass, .done _⟩

theorem yields_course_nil : (driver.course [] cluster).Yields events ends ↔ events = [] ∧ ends = [] :=
  yields_done

theorem yields_course_cons : (driver.course (work :: works) cluster).Yields events ends ↔
    ∃ answer after front back later, events = front ++ back ∧ ends = (answer, after) :: later ∧
      (driver.turn cluster work).Yields front (answer, after) ∧ (driver.course works after).Yields back later := by
  rw [course, yields_bind]
  constructor
  · intro way
    obtain ⟨⟨answer, after⟩, front, _, rfl, first, rest⟩ := way
    obtain ⟨later, back, _, rfl, others, last⟩ := yields_bind.1 rest
    obtain ⟨rfl, rfl⟩ := yields_done.1 last
    exact ⟨answer, after, front, back, later, by rw [List.append_nil], rfl, first, others⟩
  · intro way
    obtain ⟨answer, after, front, back, later, rfl, rfl, first, others⟩ := way
    exact ⟨(answer, after), front, back, rfl, first, yields_bind.2 ⟨later, back, [], by simp, others, .done _⟩⟩

/-! ### A pass that is kept -/

/-- What a pass does to a record, with a store that works. -/
inductive Advances (driver : Driver) (cluster : Cluster) : List Plan.Event → Cluster → Prop where
  | waits (progress : cluster.status.isInProgress = true) (answer : RunResult) :
      Advances driver cluster [ran (inspection driver.config cluster.uuid) answer] cluster
  | settles {status : Status} {reason : StatusReason} {removal : List Plan.Event}
      (progress : cluster.status.isInProgress = true) (answer : RunResult)
      (ended : status = ⟨cluster.status.operation, .complete⟩ ∨ status = ⟨cluster.status.operation, .failed⟩)
      (removes : removal = [] ∨ ∃ gone, removal = [ran (secretRemoval driver.config cluster.uuid) gone]) :
      Advances driver cluster
        (ran (inspection driver.config cluster.uuid) answer ::
          kept (cluster.transitioned status reason) (.ok ()) :: removal)
        (cluster.transitioned status reason)
  | strays (still : cluster.status.isInProgress = false) :
      Advances driver cluster [kept (misplaced cluster) (.ok ())] (misplaced cluster)

theorem ended_of_transition {status target : Status} {observation : Observation} {reason : StatusReason}
    (progress : status.isInProgress = true) (move : status.transition observation = some (target, reason)) :
    target = ⟨status.operation, .complete⟩ ∨ target = ⟨status.operation, .failed⟩ := by
  have stage : status.stage = .inProgress := by simpa [Status.isInProgress] using progress
  unfold Status.transition at move
  simp only [stage] at move
  split_ifs at move with arrived failed
  · exact .inl (Prod.mk.inj (Option.some.inj move)).1.symm
  · exact .inr (Prod.mk.inj (Option.some.inj move)).1.symm

theorem advances {result : Except Failure PassOutcome}
    (run : (driver.statusPass cluster).Yields events (result, after))
    (works : ∀ record saved, kept record saved ∈ events → saved = .ok ()) :
    driver.Advances cluster events after := by
  have effects := passEffects run
  by_cases progress : cluster.status.isInProgress = true
  · obtain ⟨answer, rest, rfl, moved⟩ := effects.expected progress
    cases move : cluster.status.transition (observed driver.config answer) with
    | none =>
      rw [move] at moved
      obtain ⟨rfl, rfl, -⟩ := moved
      exact .waits progress answer
    | some target =>
      rw [move] at moved
      obtain ⟨rfl, saved, removal, rfl, removes⟩ := moved
      obtain rfl := works _ saved (List.mem_cons_of_mem _ (List.mem_cons_self ..))
      exact .settles progress answer (ended_of_transition progress move) removes
  · have still : cluster.status.isInProgress = false := by simpa using progress
    obtain ⟨rfl, saved, rfl⟩ := effects.unexpected still
    obtain rfl := works _ saved (List.mem_singleton_self _)
    exact .strays still

/-! ### Passes in a row -/

/-- The statuses that passes leave one after the other: the one they began with while it is in progress, the
end of its operation at most once, and then for ever that of a record that should not have been looked at. -/
def Subsides (start : Status) (statuses : List Status) : Prop :=
  ∃ (waiting : Nat) (ended : Option Status) (lost : Nat),
    statuses = List.replicate waiting start ++ ended.toList ++ List.replicate lost ⟨.update, .failed⟩ ∧
      (0 < waiting → start.isInProgress = true) ∧
      (∀ status ∈ ended, start.isInProgress = true ∧
        (status = ⟨start.operation, .complete⟩ ∨ status = ⟨start.operation, .failed⟩)) ∧
      (0 < lost → ended = none → start.isInProgress = false)

/-- What passes over the status of a record come to, each made on the record that the one before has left, in
terms of the records that they leave. -/
structure Subsidence (driver : Driver) (cluster : Cluster) (events : List Plan.Event) (records : List Cluster) :
    Prop where
  statuses : Subsides cluster.status (records.map fun record => record.status)
  /-- A record that is in progress after a pass is the one from before it, and so never is again. -/
  steady : (cluster :: records).IsChain fun before after => after.status.isInProgress = true → after = before
  /-- What passes end with outside of the states in progress is what the store keeps. -/
  kept : stored events = records.filter fun record => !record.status.isInProgress
  saves : (savings events).length = records.countP fun record => !record.status.isInProgress
  /-- Passes that begin in progress are the ones that look at the cluster. -/
  inspections : (commands events).count (inspection driver.config cluster.uuid) =
    (cluster :: records).dropLast.countP fun record => record.status.isInProgress

variable {start status : Status} {statuses : List Status} {records : List Cluster} {front back : List Plan.Event}

theorem Subsides.lost (subsides : Subsides start statuses) (still : start.isInProgress = false) :
    ∃ lost, statuses = List.replicate lost ⟨.update, .failed⟩ := by
  obtain ⟨waiting, ended, lost, rfl, waits, settles, -⟩ := subsides
  have none_waits : waiting = 0 := by
    apply Nat.eq_zero_of_not_pos
    intro some
    rw [waits some] at still
    cases still
  have never : ended = none := by
    cases ended with
    | none => rfl
    | some status =>
      rw [(settles status rfl).1] at still
      cases still
  rw [none_waits, never]
  exact ⟨lost, rfl⟩

theorem Subsides.wait (subsides : Subsides start statuses) (progress : start.isInProgress = true) :
    Subsides start (start :: statuses) := by
  obtain ⟨waiting, ended, lost, rfl, -, settles, strays⟩ := subsides
  exact ⟨waiting + 1, ended, lost, rfl, fun _ => progress, settles, strays⟩

theorem still_of_ended {operation : Operation} (ended : status = ⟨operation, .complete⟩ ∨ status = ⟨operation, .failed⟩) :
    status.isInProgress = false := by
  rcases ended with rfl | rfl <;> rfl

theorem Subsides.settle (subsides : Subsides status statuses) (progress : start.isInProgress = true)
    (ended : status = ⟨start.operation, .complete⟩ ∨ status = ⟨start.operation, .failed⟩) :
    Subsides start (status :: statuses) := by
  have still := still_of_ended ended
  obtain ⟨lost, rfl⟩ := subsides.lost still
  refine ⟨0, some status, lost, rfl, nofun, ?_, fun _ => nofun⟩
  intro other same
  obtain rfl := Option.some.inj same
  exact ⟨progress, ended⟩

theorem Subsides.stray (subsides : Subsides ⟨.update, .failed⟩ statuses) (still : start.isInProgress = false) :
    Subsides start (⟨.update, .failed⟩ :: statuses) := by
  obtain ⟨lost, rfl⟩ := subsides.lost rfl
  exact ⟨0, none, lost + 1, rfl, nofun, nofun, fun _ _ => still⟩

theorem subsides_nil (start : Status) : Subsides start [] :=
  ⟨0, none, 0, rfl, nofun, nofun, nofun⟩

theorem Advances.uuid (advances : driver.Advances cluster events after) : after.uuid = cluster.uuid := by
  cases advances <;> rfl

theorem Advances.subsides (advances : driver.Advances cluster events after)
    (rest : Subsides after.status statuses) : Subsides cluster.status (after.status :: statuses) := by
  cases advances with
  | waits progress answer => exact rest.wait progress
  | settles progress answer ended removes => exact rest.settle progress ended
  | strays still => exact rest.stray still

theorem Advances.steady (advances : driver.Advances cluster events after)
    (progress : after.status.isInProgress = true) : after = cluster := by
  cases advances with
  | waits _ answer => rfl
  | settles _ answer ended removes =>
    have still := still_of_ended ended
    cases still.symm.trans progress
  | strays still => cases progress

theorem Advances.stored (advances : driver.Advances cluster events after) :
    stored events = [after].filter fun record => !record.status.isInProgress := by
  cases advances with
  | waits progress answer => simp [Driver.stored, ran, progress]
  | settles progress answer ended removes =>
    have still := still_of_ended ended
    rcases removes with rfl | ⟨gone, rfl⟩ <;> simp [Driver.stored, ran, Plan.kept, Cluster.transitioned, still]
  | strays still => rfl

theorem Advances.savings (advances : driver.Advances cluster events after) :
    (savings events).length = [after].countP fun record => !record.status.isInProgress := by
  cases advances with
  | waits progress answer => simp [progress]
  | settles progress answer ended removes =>
    have still := still_of_ended ended
    rcases removes with rfl | ⟨gone, rfl⟩ <;> simp [Cluster.transitioned, still]
  | strays still => rfl

theorem Advances.inspections (advances : driver.Advances cluster events after) :
    (commands events).count (inspection driver.config cluster.uuid) =
      [cluster].countP fun record => record.status.isInProgress := by
  have apart := (inspection_ne_secretRemoval driver.config cluster.uuid).symm
  cases advances with
  | waits progress answer => simp [progress]
  | settles progress answer ended removes =>
    rcases removes with rfl | ⟨gone, rfl⟩ <;> simp [progress, apart]
  | strays still => simp [still]

theorem Subsidence.cons (advances : driver.Advances cluster front after)
    (subsidence : driver.Subsidence after back records) :
    driver.Subsidence cluster (front ++ back) (after :: records) := by
  constructor
  case statuses => exact advances.subsides subsidence.statuses
  case steady => exact .cons_cons advances.steady subsidence.steady
  case kept =>
    rw [stored_append, advances.stored, subsidence.kept, ← List.filter_append]
    rfl
  case saves =>
    rw [savings_append, List.length_append, advances.savings, subsidence.saves, ← List.countP_append]
    rfl
  case inspections =>
    have looks := subsidence.inspections
    rw [advances.uuid] at looks
    rw [commands_append, List.count_append, advances.inspections, looks, ← List.countP_append]
    rfl

theorem subsidence_nil (driver : Driver) (cluster : Cluster) : driver.Subsidence cluster [] [] where
  statuses := subsides_nil cluster.status
  steady := .singleton cluster
  kept := rfl
  saves := rfl
  inspections := rfl

theorem subsidence (n : Nat) (run : (driver.course (List.replicate n none) cluster).Yields events ends)
    (works : ∀ record saved, kept record saved ∈ events → saved = .ok ()) :
    ends.length = n ∧ driver.Subsidence cluster events (ends.map Prod.snd) := by
  induction n generalizing cluster events ends with
  | zero =>
    obtain ⟨rfl, rfl⟩ := yields_course_nil.1 run
    exact ⟨rfl, subsidence_nil driver cluster⟩
  | succ n ih =>
    rw [List.replicate_succ] at run
    obtain ⟨answer, after, front, back, later, rfl, rfl, first, others⟩ := yields_course_cons.1 run
    obtain ⟨result, pass, -⟩ := yields_turn_pass.1 first
    have advances := advances pass fun record saved member => works record saved (List.mem_append_left _ member)
    obtain ⟨count, rest⟩ := ih others fun record saved member => works record saved (List.mem_append_right _ member)
    exact ⟨congrArg Nat.succ count, .cons advances rest⟩

/-- Passes and nothing else, with tools that answer as they like and a store that works: there are as many
records as passes, and this is what they come to. -/
theorem passes_subside {σ : Type} (driver : Driver) (tools : Command → σ → RunResult × σ) (state : σ)
    (cluster : Cluster) (n : Nat) :
    let passes := driver.course (List.replicate n none) cluster
    let records := (passes.run (answering tools (.ok ())) state).1.map Prod.snd
    records.length = n ∧
      driver.Subsidence cluster (passes.trace (answering tools (.ok ())) state) records := by
  intro passes records
  have answered := answeredBy_trace (answering tools (.ok ())) passes state
  have run := yields_run (answering tools (.ok ())) passes state
  obtain ⟨count, subsides⟩ := subsidence n run fun record saved member => saved_of_answeredBy answered member
  exact ⟨(List.length_map _).trans count, subsides⟩

end ClusterLifecycle.Driver
