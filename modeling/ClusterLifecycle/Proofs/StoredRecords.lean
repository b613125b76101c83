import ClusterLifecycle.Proofs.TaskReports

/-!
What a state directory holds after any number of tasks, if it was empty before them. Whatever is in
the place of a record is the valid record of its cluster. It is the one that was taken in last, but
for how far the cluster has got since then, and for the stack that a creation has cut it off from.
-/

namespace ClusterLifecycle

open Program Host StateDirectory FileSystem

/-- A status and the reason for it, as operations and passes leave them. -/
def Coherent (status : Status) (reason : Option String) : Prop :=
  match status with
  | ⟨_, .inProgress⟩ => reason = none
  | ⟨.create, .complete⟩ => reason = some "cluster is ready"
  | ⟨.update, .complete⟩ => reason = some "cluster is ready"
  | ⟨.delete, .complete⟩ => reason = some "cluster deleted"
  | ⟨.create, .failed⟩ => reason = some "cluster is in error state"
  | ⟨.delete, .failed⟩ => reason = some "cluster is in error state"
  | ⟨.update, .failed⟩ => reason = some "cluster is in error state" ∨ reason = some "unexpected state!"

theorem coherent_submitted (cluster : Cluster) (operation : Operation) :
    Coherent (Driver.submitted cluster operation).status (Driver.submitted cluster operation).statusReason := by
  cases operation <;> exact rfl

theorem coherent_of_transition {status target : Status} {seen : Observation} {reason : StatusReason}
    (move : status.transition seen = some (target, reason)) : Coherent target (some reason.message) := by
  obtain ⟨operation, stage⟩ := status
  cases stage with
  | inProgress =>
    simp only [Status.transition] at move
    split at move
    · cases move
      cases operation <;> exact rfl
    · split at move
      · cases move
        cases operation with
        | create => exact rfl
        | update => exact .inl rfl
        | delete => exact rfl
      · cases move
  | complete =>
    cases move
    exact .inr rfl
  | failed =>
    cases move
    exact .inr rfl

theorem validate_submitted (cluster : Cluster) (operation : Operation) :
    (Driver.submitted cluster operation).validate = cluster.validate := by
  cases operation <;> rfl

theorem validate_transitioned (cluster : Cluster) (status : Status) (reason : StatusReason) :
    (cluster.transitioned status reason).validate = cluster.validate := rfl

namespace CommandLine

def Task.subject? : Task → Option Uuid
  | .perform _ uuid => some uuid
  | .reconcile uuid => some uuid
  | .adopt _ => none
  | .render _ _ => none

/-- The record of a cluster that was taken in from a file last, and the invocations since then. -/
inductive LastAdoption (uuid : Uuid) : List Invocation → Cluster → List Invocation → Prop where
  | here {adoption : Invocation} {past : List Invocation} {record : Cluster} {path : String}
      (task : adoption.task = .adopt path) (wrote : adoption.Wrote record) (same : record.uuid = uuid) :
      LastAdoption uuid (adoption :: past) record []
  | before {later : Invocation} {past since : List Invocation} {record : Cluster}
      (other : ∀ path record, later.task = .adopt path → later.Wrote record → record.uuid ≠ uuid)
      (last : LastAdoption uuid past record since) : LastAdoption uuid (later :: past) record (later :: since)

def Created (uuid : Uuid) (invocations : List Invocation) : Prop :=
  ∃ invocation ∈ invocations, invocation.task = .perform .create uuid ∧
    ∃ record, invocation.Wrote record ∧ record.uuid = uuid

/-- What is known of the record of a cluster after some invocations. -/
structure Known (uuid : Uuid) (invocations : List Invocation) (record : Cluster) : Prop where
  own : record.uuid = uuid
  valid : record.validate = .ok ()
  /-- It was taken in from a file, and only its status, the reason and the stack may differ since. -/
  adopted : ∃ imported since, LastAdoption uuid invocations imported since ∧
    imported = { record with
      status := imported.status
      statusReason := imported.statusReason
      stack := imported.stack } ∧
    (Created uuid since → record.stack = none) ∧ (¬ Created uuid since → record.stack = imported.stack)
  /-- Where it was not written last from a file, the reason fits the status. -/
  coherent : ∃ writer earlier, LastWrite uuid invocations writer earlier record ∧
    ((∃ path, writer.task = .adopt path) ∨ Coherent record.status record.statusReason)

variable {home : Place} {start before after files : Texts} {uuid : Uuid} {record loaded : Cluster}
  {invocation : Invocation} {past invocations since : List Invocation}

theorem created_cons :
    Created uuid (invocation :: since) ↔ (invocation.task = .perform .create uuid ∧
      ∃ record, invocation.Wrote record ∧ record.uuid = uuid) ∨ Created uuid since := by
  simp [Created]

theorem not_adopted {target : Uuid} (subject : invocation.task.subject? = some target) (uuid : Uuid)
    (path : String) (record : Cluster) (adopts : invocation.task = .adopt path) :
    invocation.Wrote record → record.uuid ≠ uuid := by
  rw [adopts] at subject
  cases subject

theorem Known.untouched (known : Known uuid past record)
    (other : ∀ record, invocation.Wrote record → record.uuid ≠ uuid) : Known uuid (invocation :: past) record where
  own := known.own
  valid := known.valid
  adopted := by
    obtain ⟨imported, since, last, same, created, kept⟩ := known.adopted
    have later : Created uuid (invocation :: since) ↔ Created uuid since := by
      rw [created_cons, or_iff_right]
      intro creation
      obtain ⟨-, written, wrote, own⟩ := creation
      exact other written wrote own
    refine ⟨imported, invocation :: since, .before (fun _ record _ wrote => other record wrote) last, same, ?_, ?_⟩
    · rw [later]
      exact created
    · rw [later]
      exact kept
  coherent := by
    obtain ⟨writer, earlier, last, either⟩ := known.coherent
    exact ⟨writer, earlier, .before other last, either⟩

theorem Known.ofAdoption {path : String} (task : invocation.task = .adopt path) (wrote : invocation.Wrote record)
    (valid : record.validate = .ok ()) : Known record.uuid (invocation :: past) record where
  own := rfl
  valid := valid
  adopted := ⟨record, [], .here task wrote rfl, rfl, fun none => by simp [Created] at none, fun _ => rfl⟩
  coherent := ⟨invocation, past, .here wrote rfl, .inl ⟨path, task⟩⟩

theorem Known.submitted {operation : Operation} (known : Known uuid past loaded)
    (task : invocation.task = .perform operation uuid)
    (wrote : invocation.Wrote (Driver.submitted loaded operation)) :
    Known uuid (invocation :: past) (Driver.submitted loaded operation) where
  own := by rw [Driver.submitted_uuid, known.own]
  valid := by rw [validate_submitted, known.valid]
  adopted := by
    obtain ⟨imported, since, last, same, created, kept⟩ := known.adopted
    have own : (Driver.submitted loaded operation).uuid = uuid := by rw [Driver.submitted_uuid, known.own]
    have noFile := not_adopted (congrArg Task.subject? task) uuid
    refine ⟨imported, invocation :: since, .before noFile last, ?_, ?_⟩
    · rw [same]
      cases operation <;> rfl
    · rw [created_cons, task]
      cases operation with
      | create =>
        have now : Task.perform .create uuid = .perform .create uuid ∧
            ∃ record, invocation.Wrote record ∧ record.uuid = uuid := ⟨rfl, _, wrote, own⟩
        exact ⟨fun _ => rfl, fun not => absurd (.inl now) not⟩
      | update => simpa using ⟨created, kept⟩
      | delete => simpa using ⟨created, kept⟩
  coherent := ⟨invocation, past, .here wrote (by rw [Driver.submitted_uuid, known.own]),
    .inr (coherent_submitted loaded operation)⟩

theorem Known.moved {seen : Option Observation} {status : Status} {reason : StatusReason}
    (known : Known uuid past loaded) (task : invocation.task = .reconcile uuid)
    (move : loaded.status.transition (seen.getD .error) = some (status, reason))
    (wrote : invocation.Wrote (loaded.transitioned status reason)) :
    Known uuid (invocation :: past) (loaded.transitioned status reason) where
  own := known.own
  valid := by rw [validate_transitioned, known.valid]
  adopted := by
    obtain ⟨imported, since, last, same, created, kept⟩ := known.adopted
    have noFile := not_adopted (congrArg Task.subject? task) uuid
    refine ⟨imported, invocation :: since, .before noFile last, same, ?_⟩
    rw [created_cons, task]
    simpa using ⟨created, kept⟩
  coherent := ⟨invocation, past, .here wrote known.own, .inr (coherent_of_transition move)⟩

/-- Whatever is in the place of a record is a record of which all this is known. -/
theorem History.known (history : History home start invocations files)
    (fresh : ∀ uuid, start (recordPlace home uuid) = none) {text : String}
    (found : files (recordPlace home uuid) = some text) :
    ∃ record, text = record.stored ∧ Known uuid invocations record := by
  -- along the invocations: the last one has written the record of this cluster, that of another one, or none
  induction history generalizing uuid text with
  | nil =>
    rw [fresh] at found
    cases found
  | @next past files before after invocation earlier untouched carries ih =>
    rcases carries.cases with ⟨quiet, unchanged⟩ | ⟨written, only, stored, unchanged, justified⟩
    · rw [unchanged, untouched] at found
      obtain ⟨record, same, known⟩ := ih found
      exact ⟨record, same, known.untouched fun other wrote => absurd wrote (quiet other)⟩
    · have wrote : invocation.Wrote written := (only written).2 rfl
      by_cases other : uuid = written.uuid
      · subst other
        rw [stored] at found
        refine ⟨written, (Option.some.inj found).symm, ?_⟩
        have previous : ∀ {text loaded}, before (recordPlace home loaded.uuid) = some text →
            Cluster.ofStored? text = some loaded → Known loaded.uuid past loaded := by
          intro text loaded read decoded
          rw [untouched] at read
          obtain ⟨record, rfl, known⟩ := ih read
          rw [Cluster.ofStored?_stored] at decoded
          exact Option.some.inj decoded ▸ known
        cases justified with
        | adopted task read decoded valid => exact .ofAdoption task wrote valid
        | submitted task succeeded read decoded own =>
          subst own
          rw [Driver.submitted_uuid]
          exact (previous read decoded).submitted task wrote
        | moved task read decoded own looked move =>
          subst own
          exact (previous read decoded).moved task move wrote
      · rw [unchanged uuid other, untouched] at found
        obtain ⟨record, same, known⟩ := ih found
        refine ⟨record, same, known.untouched fun another wrote => ?_⟩
        rw [(only another).1 wrote]
        exact Ne.symm other

end CommandLine

end ClusterLifecycle
