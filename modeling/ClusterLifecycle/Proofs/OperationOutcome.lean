import ClusterLifecycle.Proofs.PlanEvents

/-!
What an operation leaves behind. When it fails nothing has been kept, but the record in hand has
been marked already where it is the store that refuses. When the tool has done its work the record
is marked and kept, save where the release tool has written something that is no JSON.
-/

namespace ClusterLifecycle

instance : Inhabited Cluster :=
  ⟨⟨default, "", "", default, none, none, default, none, [], default⟩⟩

namespace Driver

open Program Plan Json

variable {driver : Driver} {cluster after record : Cluster} {operation : Operation}
  {events : List Plan.Event} {result : Except Failure Unit} {answer : RunResult}
  {saved : Except StorageFault Unit} {command : Command}

/-- A record is only kept by an operation whose call has succeeded, and it is the marked one. -/
theorem kept_by_operation (run : (driver.perform operation cluster).Yields events (result, after))
    (member : kept record saved ∈ events) :
    record = submitted cluster operation ∧ after = submitted cluster operation ∧
      result = orFail (.persistence cluster.uuid) saved := by
  cases operated run with
  | refused reason => simp at member
  | failed call read => simp at member
  | handedOver call read =>
    obtain ⟨rfl, rfl⟩ := by simpa using member
    exact ⟨rfl, rfl, rfl⟩

theorem unchanged_of_nothing_kept
    (run : (driver.perform operation cluster).Yields events (result, after))
    (nothing : ∀ record saved, kept record saved ∉ events) : after = cluster := by
  cases operated run with
  | refused reason => rfl
  | failed call read => rfl
  | @handedOver call answer saved issued read =>
    exact absurd (by simp) (nothing (submitted cluster operation) saved)

/-- A failed operation has kept no record. The record in hand is then the one it was given, with one
exception: where the store has refused it, it is the marked one. -/
theorem failed_operation_unchanged_iff {failure : Failure}
    (run : (driver.perform operation cluster).Yields events (.error failure, after)) :
    (∀ record, kept record (.ok ()) ∉ events) ∧
      ((∃ record fault, kept record (.error fault) ∈ events) → after = submitted cluster operation) ∧
      (after = cluster ↔ (∀ record fault, kept record (.error fault) ∉ events) ∨
        submitted cluster operation = cluster) := by
  have succeeded : ∀ record, kept record (.ok ()) ∉ events := by
    intro record member
    cases (kept_by_operation run member).2.2
  have refused : (∃ record fault, kept record (.error fault) ∈ events) →
      after = submitted cluster operation := by
    intro refusal
    obtain ⟨record, fault, member⟩ := refusal
    exact (kept_by_operation run member).2.1
  refine ⟨succeeded, refused, ?_⟩
  by_cases some : ∃ record fault, kept record (.error fault) ∈ events
  · rw [refused some]
    constructor
    · exact .inr
    · intro either
      rcases either with none | same
      · obtain ⟨record, fault, member⟩ := some
        exact absurd member (none record fault)
      · exact same
  · have none : ∀ record fault, kept record (.error fault) ∉ events :=
      fun record fault member => some ⟨record, fault, member⟩
    have same : after = cluster := by
      refine unchanged_of_nothing_kept run fun record saved member => ?_
      cases saved with
      | ok value => exact succeeded record member
      | error fault => exact none record fault member
    exact ⟨fun _ => .inl none, fun _ => same⟩

def initial : Driver := ⟨.initial, ⟨Manifest.builtIn, none⟩⟩

def resting : Cluster :=
  { (default : Cluster) with
    status := ⟨.create, .complete⟩
    statusReason := some "cluster is ready"
    stack := some "heat-stack-1" }

/-- What happens where the release is gone and then the store refuses the record. -/
def refusedDelete : List Plan.Event :=
  [ran (Helm.uninstall .initial (toString resting.uuid)).command (.ok ⟨"", ""⟩),
    kept (submitted resting .delete) (.error (.other "disk full"))]

theorem yields_refused_delete :
    (initial.perform .delete resting).Yields refusedDelete
      (.error (.persistence resting.uuid (.other "disk full")), submitted resting .delete) :=
  yields_operation.2 ⟨.ok ⟨"", ""⟩, .error (.other "disk full"), rfl, rfl, rfl⟩

theorem failed_operation_unchanged_iff_refused_delete :
    (initial.perform .delete resting).Yields refusedDelete
        (.error (.persistence resting.uuid (.other "disk full")), submitted resting .delete) ∧
      (∀ record, kept record (.ok ()) ∉ refusedDelete) ∧
      (submitted resting .delete = resting ↔
        (∀ record fault, kept record (.error fault) ∉ refusedDelete) ∨
          submitted resting .delete = resting) := by
  have effects := failed_operation_unchanged_iff yields_refused_delete
  exact ⟨yields_refused_delete, effects.1, effects.2.2⟩

/-- A failed operation does not always leave the record in hand as it was. -/
theorem not_failed_operation_unchanged :
    ¬ ∀ (driver : Driver) (cluster : Cluster) (operation : Operation) (events : List Plan.Event)
      (failure : Failure) (after : Cluster),
      (driver.perform operation cluster).Yields events (.error failure, after) →
        after = cluster ∧ ∀ record, kept record (.ok ()) ∉ events := by
  intro claim
  have same := (claim _ _ _ _ _ _ yields_refused_delete).1
  exact absurd same (by decide)

/-- What the release tool has to have written for its success to be taken note of. -/
def Legible (output : Output) : Prop :=
  (Text.trim output.stdout.toList).isEmpty = true ∨ (Value.ofText? output.stdout).isSome = true

/-- The result of a command by which the tool has done the work of an operation: success, or for a
release that is to go, that there is none. -/
def Accepted (driver : Driver) (operation : Operation) : RunResult → Prop
  | .ok _ => True
  | .error fault => driver.config.backend = .release ∧ operation = .delete ∧
      fault.isNotFound Helm.notFoundMarker = true

/-- The part of an accepted result that decides whether the operation goes on. -/
def Usable (driver : Driver) : RunResult → Prop
  | .ok output => driver.config.backend = .release → Legible output
  | .error _ => True

theorem readOutput_ok_iff {config : Config} {defect : OutputDefect} {output : Output} :
    (∃ value, Helm.readOutput config defect output = .ok value) ↔ Legible output := by
  unfold Helm.readOutput Legible
  by_cases blank : (Text.trim output.stdout.toList).isEmpty = true
  · simp [blank]
  · cases value : Value.ofText? output.stdout with
    | none => simp [blank]
    | some value => simp [blank]

theorem submission_cases {call : Call Unit}
    (submitted : driver.submission cluster operation = .ok call) :
    (driver.config.backend = .manifests ∧ ∃ plain : Call Output, plain.read = id ∧ call = plain.outcome) ∨
      (driver.config.backend = .release ∧ operation = .create ∧
        ∃ values, call = (Helm.install driver.config (toString cluster.uuid) values).outcome) ∨
      (driver.config.backend = .release ∧ operation = .delete ∧
        call = (Helm.uninstall driver.config (toString cluster.uuid)).outcome) := by
  cases backend : driver.config.backend with
  | manifests =>
    refine .inl ⟨rfl, ?_⟩
    cases operation with
    | create =>
      simp only [submission, backend] at submitted
      obtain ⟨text, -, same⟩ := bind_eq_ok.1 submitted
      exact ⟨Kubectl.apply driver.config text, rfl, (Except.ok.inj same).symm⟩
    | update =>
      simp only [submission, backend] at submitted
      obtain ⟨text, -, same⟩ := bind_eq_ok.1 submitted
      exact ⟨Kubectl.apply driver.config text, rfl, (Except.ok.inj same).symm⟩
    | delete =>
      simp only [submission, backend] at submitted
      obtain ⟨text, -, same⟩ := bind_eq_ok.1 submitted
      exact ⟨Kubectl.delete driver.config text, rfl, (Except.ok.inj same).symm⟩
  | release =>
    refine .inr ?_
    cases operation with
    | create =>
      simp only [submission, backend] at submitted
      obtain ⟨text, -, same⟩ := bind_eq_ok.1 submitted
      exact .inl ⟨rfl, rfl, text, (Except.ok.inj same).symm⟩
    | update =>
      simp only [submission, backend] at submitted
      cases submitted
    | delete =>
      simp only [submission, backend] at submitted
      exact .inr ⟨rfl, rfl, (Except.ok.inj submitted).symm⟩

theorem outcome_read_ok_iff {α : Type} {call : Call α} :
    call.outcome.read answer = .ok () ↔ ∃ value, call.read answer = .ok value := by
  simp only [Call.outcome, Call.map]
  cases call.read answer with
  | ok value => simp [Except.map]
  | error fault => simp [Except.map]

theorem submission_reads {call : Call Unit} (submitted : driver.submission cluster operation = .ok call)
    (accepted : driver.Accepted operation answer) :
    call.read answer = .ok () ↔ driver.Usable answer := by
  rcases submission_cases submitted with
    ⟨backend, plain, whole, rfl⟩ | ⟨backend, rfl, values, rfl⟩ | ⟨backend, rfl, rfl⟩
  · rw [outcome_read_ok_iff, whole]
    cases answer with
    | ok output => simp [Usable, backend]
    | error fault => simp [Accepted, backend] at accepted
  · rw [outcome_read_ok_iff]
    cases answer with
    | ok output =>
      simp only [Usable, backend, forall_const]
      exact readOutput_ok_iff
    | error fault => simp [Accepted] at accepted
  · rw [outcome_read_ok_iff]
    cases answer with
    | ok output =>
      simp only [Usable, backend, forall_const, Helm.uninstall, Helm.readUninstall, bind_eq_ok]
      constructor
      · intro success
        obtain ⟨_, value, read, -⟩ := success
        exact readOutput_ok_iff.1 ⟨value, read⟩
      · intro legible
        obtain ⟨value, read⟩ := readOutput_ok_iff.2 legible
        exact ⟨some value, value, read, rfl⟩
    | error fault => simp [Helm.uninstall, Helm.readUninstall, Usable, accepted.2.2]

/-- An operation whose command the tool has carried out is recorded, if the store works, exactly
where the result can be used: it succeeds, and the record is marked without a reason and kept once.
Otherwise it fails with nothing marked and nothing kept. -/
theorem accepted_operation_recorded_iff
    (run : (driver.perform operation cluster).Yields events (result, after))
    (issued : ran command answer ∈ events) (accepted : driver.Accepted operation answer)
    (working : ∀ record saved, kept record saved ∈ events → saved = .ok ()) :
    ((result = .ok () ∧ after.status = ⟨operation, .inProgress⟩ ∧ after.statusReason = none ∧
        events = [ran command answer, kept after (.ok ())]) ↔ driver.Usable answer) ∧
      (¬ driver.Usable answer →
        (∃ fault, result = .error (.execution fault)) ∧ after = cluster ∧
          events = [ran command answer]) := by
  cases operated run with
  | refused reason => simp at issued
  | @failed call answer' fault call_eq read =>
    obtain ⟨rfl, rfl⟩ := by simpa using issued
    have useless : ¬ driver.Usable answer := by
      intro usable
      have succeeded := (submission_reads call_eq accepted).2 usable
      rw [read] at succeeded
      cases succeeded
    refine ⟨⟨?_, fun usable => absurd usable useless⟩, fun _ => ⟨⟨fault, rfl⟩, rfl, rfl⟩⟩
    intro recorded
    cases recorded.1
  | @handedOver call answer' saved call_eq read =>
    obtain ⟨rfl, rfl⟩ := by simpa using issued
    have keptWell : saved = .ok () := working (submitted cluster operation) saved (by simp)
    subst keptWell
    have usable : driver.Usable answer := (submission_reads call_eq accepted).1 read
    refine ⟨⟨fun _ => usable, fun _ => ⟨rfl, ?_, ?_, rfl⟩⟩, fun useless => absurd usable useless⟩
    · cases operation <;> rfl
    · cases operation <;> rfl

/-- What happens where a release is gone, the tool says nothing about it, and the store works. -/
def silentDelete : List Plan.Event :=
  [ran (Helm.uninstall .initial (toString resting.uuid)).command (.ok ⟨"", ""⟩),
    kept (submitted resting .delete) (.ok ())]

theorem yields_silent_delete :
    (initial.perform .delete resting).Yields silentDelete (.ok (), submitted resting .delete) :=
  yields_operation.2 ⟨.ok ⟨"", ""⟩, .ok (), rfl, rfl, rfl⟩

theorem accepted_operation_recorded_iff_silent_delete :
    (initial.perform .delete resting).Yields silentDelete (.ok (), submitted resting .delete) ∧
      initial.Accepted .delete (.ok ⟨"", ""⟩) ∧ initial.Usable (.ok ⟨"", ""⟩) ∧
      (submitted resting .delete).status = ⟨.delete, .inProgress⟩ ∧
      (submitted resting .delete).statusReason = none := by
  have usable : initial.Usable (.ok ⟨"", ""⟩) := fun _ => .inl (by decide)
  have accepted : initial.Accepted .delete (.ok ⟨"", ""⟩) := trivial
  have working : ∀ record saved, kept record saved ∈ silentDelete → saved = .ok () := by
    simp [silentDelete]
  have recorded := (accepted_operation_recorded_iff yields_silent_delete (List.mem_cons_self ..)
    accepted working).1.2 usable
  exact ⟨yields_silent_delete, accepted, usable, recorded.2.1, recorded.2.2.1⟩

theorem yields_plain_words :
    (initial.perform .delete resting).Yields
      [ran (Helm.uninstall .initial (toString resting.uuid)).command (.ok ⟨"release gone", ""⟩)]
      (.error (.execution (.invalidOutput "helm" .uninstallNotJson)), resting) :=
  yields_operation.2 ⟨.ok ⟨"release gone", ""⟩, rfl, rfl, rfl⟩

/-- What the tool has carried out is not always recorded by a store that works. -/
theorem not_accepted_operation_recorded :
    ¬ ∀ (driver : Driver) (cluster : Cluster) (operation : Operation) (events : List Plan.Event)
      (result : Except Failure Unit) (after : Cluster) (command : Command) (answer : RunResult),
      (driver.perform operation cluster).Yields events (result, after) →
        ran command answer ∈ events → driver.Accepted operation answer →
        (∀ record saved, kept record saved ∈ events → saved = .ok ()) →
        result = .ok () ∧ after.status = ⟨operation, .inProgress⟩ ∧ after.statusReason = none ∧
          events = [ran command answer, kept after (.ok ())] := by
  intro claim
  have accepted : initial.Accepted .delete (.ok ⟨"release gone", ""⟩) := trivial
  have recorded := claim _ _ _ _ _ _ _ _ yields_plain_words (List.mem_singleton_self _) accepted (by simp)
  cases recorded.1

end Driver

end ClusterLifecycle
