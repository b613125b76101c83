import ClusterLifecycle.Proofs.TaskSuccess

/-!
Where the stored status of a cluster comes from. Tasks of the command line follow one another on a
state directory, each with its own configuration, while tools and store fail as they like. Whatever
a pass has stored goes back to the write before it, which no pass can have made if it was one that
the pass could settle.
-/

namespace ClusterLifecycle.CommandLine

open Program Host StateDirectory FileSystem

/-- One run of a task: where it was started, and what happened. -/
structure Invocation where
  working : Place
  config : Config
  task : Task
  events : List Host.Event
  result : Except TaskFault Unit

namespace Invocation

/-- The record was written out and moved into its place. -/
def Wrote (invocation : Invocation) (record : Cluster) : Prop :=
  ⟨.writeText (draftPath invocation.config.stateDirectory record.uuid) record.stored, .ok ()⟩ ∈
      invocation.events ∧
    ⟨.moveFile (draftPath invocation.config.stateDirectory record.uuid)
      (recordPath invocation.config.stateDirectory record.uuid), .ok ()⟩ ∈ invocation.events

/-- The task can have gone this way on the state directory at a place, and it has taken the texts in
the files from one state to another. -/
structure Carries (home : Place) (before : Texts) (invocation : Invocation) (after : Texts) : Prop where
  at_home : placeOf invocation.working invocation.config.stateDirectory = home
  run : (Task.run invocation.config invocation.task).Yields invocation.events invocation.result
  reacted : Reacted home invocation.working invocation.events before after

end Invocation

/-- Invocations one after the other on one state directory, the latest first. Between two of them
the records stay as they are. -/
inductive History (home : Place) (start : Texts) : List Invocation → Texts → Prop where
  | nil : History home start [] start
  | next {past : List Invocation} {files before after : Texts} {invocation : Invocation}
      (earlier : History home start past files)
      (untouched : ∀ uuid, before (recordPlace home uuid) = files (recordPlace home uuid))
      (carries : Invocation.Carries home before invocation after) :
      History home start (invocation :: past) after

/-- The last invocation to write a record of the cluster, those before it, and what it wrote. -/
inductive LastWrite (uuid : Uuid) : List Invocation → Invocation → List Invocation → Cluster → Prop where
  | here {writer : Invocation} {past : List Invocation} {record : Cluster} (wrote : writer.Wrote record)
      (same : record.uuid = uuid) : LastWrite uuid (writer :: past) writer past record
  | before {later writer : Invocation} {past earlier : List Invocation} {record : Cluster}
      (other : ∀ record, later.Wrote record → record.uuid ≠ uuid)
      (last : LastWrite uuid past writer earlier record) : LastWrite uuid (later :: past) writer earlier record

variable {home working : Place} {start before after files : Texts} {invocation : Invocation}
  {uuid : Uuid} {record : Cluster}

theorem carries_run {execute : Execution} (config : Config) (task : Task) (world : World)
    (at_home : placeOf world.working config.stateDirectory = home)
    (leaves : ∀ command working (files : FileSystem) uuid,
      (execute command working files).2.texts (recordPlace home uuid) = files.texts (recordPlace home uuid)) :
    Invocation.Carries home world.files.texts
      ⟨world.working, config, task, (task.run config).trace (fun request world => world.answer execute request) world,
        ((task.run config).run (fun request world => world.answer execute request) world).1⟩
      ((task.run config).run (fun request world => world.answer execute request) world).2.files.texts where
  at_home := at_home
  run := yields_run _ _ _
  reacted := reacted_trace leaves _ _

/-- Why an invocation has written a record, from the texts it has found. -/
inductive Justified (home : Place) (before : Texts) (invocation : Invocation) : Cluster → Prop where
  | adopted {path text : String} {cluster : Cluster} (task : invocation.task = .adopt path)
      (read : ⟨.readText path, .ok text⟩ ∈ invocation.events) (found : Cluster.ofText? text = some cluster)
      (valid : cluster.validate = .ok ()) : Justified home before invocation cluster
  | submitted {operation : Operation} {uuid : Uuid} {text : String} {loaded : Cluster}
      (task : invocation.task = .perform operation uuid) (succeeded : invocation.result = .ok ())
      (read : before (recordPlace home uuid) = some text) (found : Cluster.ofStored? text = some loaded)
      (same : loaded.uuid = uuid) : Justified home before invocation (Driver.submitted loaded operation)
  | moved {uuid : Uuid} {text : String} {loaded : Cluster} {seen : Option Observation} {status : Status}
      {reason : StatusReason} (task : invocation.task = .reconcile uuid)
      (read : before (recordPlace home uuid) = some text) (found : Cluster.ofStored? text = some loaded)
      (same : loaded.uuid = uuid)
      (looked : loaded.status.isInProgress = true → ∃ answer,
        ⟨.run (Driver.inspection invocation.config uuid), answer⟩ ∈ invocation.events ∧
          seen = some (Driver.observed invocation.config answer))
      (move : loaded.status.transition (seen.getD .error) = some (status, reason)) :
      Justified home before invocation (loaded.transitioned status reason)

theorem not_mem_of_quiet {events : List Host.Event} {event : Host.Event} (quiet : Quiet events)
    (writes : event.1.writes = true) : event ∉ events := by
  intro member
  have still := quiet event member
  rw [writes] at still
  cases still

theorem mem_around {front saving back : List Host.Event} {event : Host.Event} (ahead : Quiet front)
    (behind : Quiet back) (writes : event.1.writes = true) :
    event ∈ front ++ (saving ++ back) ↔ event ∈ saving := by
  have notAhead : event ∉ front := not_mem_of_quiet ahead writes
  have notBehind : event ∉ back := not_mem_of_quiet behind writes
  simp [notAhead, notBehind]

theorem not_wrote_of_quiet (quiet : Quiet invocation.events) (record : Cluster) : ¬ invocation.Wrote record := by
  intro wrote
  exact not_mem_of_quiet quiet rfl wrote.1

theorem wrote_iff {front back : List Host.Event} (ahead : Quiet front) (behind : Quiet back)
    (events : invocation.events = front ++ (keeping invocation.config.stateDirectory record ++ back))
    (other : Cluster) : invocation.Wrote other ↔ other = record := by
  rw [Invocation.Wrote, events, mem_around ahead behind rfl, mem_around ahead behind rfl]
  constructor
  · intro wrote
    obtain ⟨written, -⟩ := wrote
    exact Cluster.stored_injective (stored_of_written written)
  · intro same
    subst same
    simp [keeping]

theorem justified_of_grounds {ahead : List Host.Event} {between : Texts}
    (at_home : placeOf invocation.working invocation.config.stateDirectory = home) (quiet : Quiet ahead)
    (reacted : Reacted home invocation.working ahead before between) (part : ahead ⊆ invocation.events)
    (succeeded : (∃ uuid, invocation.task = .reconcile uuid) ∨ invocation.result = .ok ())
    (grounds : Grounds invocation.config invocation.task ahead record) :
    Justified home before invocation record := by
  have stored : ∀ {uuid text},
      ⟨.readText (recordPath invocation.config.stateDirectory uuid), .ok text⟩ ∈ ahead →
        before (recordPlace home uuid) = some text := by
    intro uuid text read
    refine read_quiet quiet reacted ?_ read
    rw [placeOf_recordPath, at_home]
  generalize named : invocation.task = task at grounds succeeded
  cases grounds with
  | adopted read found valid => exact .adopted named (part read) found valid
  | submitted read found same =>
    rcases succeeded with ⟨uuid, wrong⟩ | succeeded
    · cases wrong
    · exact .submitted named succeeded (stored read) found same
  | moved read found same looked move =>
    refine .moved named (stored read) found same (fun progress => ?_) move
    obtain ⟨answer, ran, seen⟩ := looked progress
    exact ⟨answer, part ran, seen⟩

theorem Invocation.Carries.cases (carries : Invocation.Carries home before invocation after) :
    ((∀ record, ¬ invocation.Wrote record) ∧
      ∀ uuid, after (recordPlace home uuid) = before (recordPlace home uuid)) ∨
    ∃ record, (∀ other, invocation.Wrote other ↔ other = record) ∧
      after (recordPlace home record.uuid) = some record.stored ∧
      (∀ uuid, uuid ≠ record.uuid → after (recordPlace home uuid) = before (recordPlace home uuid)) ∧
      Justified home before invocation record := by
  rcases task_saves carries.run with
    quiet | ⟨front, saving, back, record, saved, events, quietFront, quietBack, saves, grounds, succeeded⟩
  · exact .inl ⟨not_wrote_of_quiet quiet, reacted_quiet quiet carries.reacted⟩
  have reacted := carries.reacted
  rw [events] at reacted
  obtain ⟨found, reactedFront, reacted'⟩ := reacted_append.1 reacted
  obtain ⟨left, reactedSaving, reactedBack⟩ := reacted_append.1 reacted'
  have sameFront := reacted_quiet quietFront reactedFront
  have sameBack := reacted_quiet quietBack reactedBack
  -- a save that fails may have drafted the record, but a draft is in nobody's place
  cases saved with
  | error fault =>
    refine .inl ⟨?_, ?_⟩
    · intro other wrote
      obtain ⟨-, moved⟩ := wrote
      rw [events, mem_around quietFront quietBack rfl] at moved
      exact not_moved_of_failed saves _ _ moved
    · intro uuid
      rw [sameBack, reacted_failed_save carries.at_home saves reactedSaving, sameFront]
  | ok value =>
    obtain rfl : saving = keeping invocation.config.stateDirectory record := by
      rcases yields_save.1 saves with ⟨keeps, -⟩ | ⟨cause, -, wrong⟩ | ⟨cause, -, wrong⟩ | ⟨cause, -, wrong⟩
      · exact keeps
      · cases wrong
      · cases wrong
      · cases wrong
    obtain ⟨here, elsewhere⟩ := reacted_keeping carries.at_home reactedSaving
    refine .inr ⟨record, wrote_iff quietFront quietBack events, ?_, ?_, ?_⟩
    · rw [sameBack, here]
    · intro uuid other
      rw [sameBack, elsewhere uuid other, sameFront]
    · refine justified_of_grounds carries.at_home quietFront reactedFront ?_ (succeeded rfl) grounds
      rw [events]
      exact List.subset_append_left ..

variable {invocations earlier : List Invocation} {writer : Invocation}

theorem LastWrite.wrote (last : LastWrite uuid invocations writer earlier record) :
    writer.Wrote record ∧ record.uuid = uuid := by
  induction last with
  | here wrote same => exact ⟨wrote, same⟩
  | before other last ih => exact ih

/-- What has been written last is there, and its writer has found the records as they were left. -/
theorem History.stored_of_lastWrite (history : History home start invocations files)
    (last : LastWrite uuid invocations writer earlier record) :
    files (recordPlace home uuid) = some record.stored ∧ ∃ older before after,
      History home start earlier older ∧
        (∀ uuid, before (recordPlace home uuid) = older (recordPlace home uuid)) ∧
        writer.Carries home before after := by
  induction last generalizing files with
  | here wrote same =>
    cases history with
    | next past untouched carries =>
      refine ⟨?_, _, _, _, past, untouched, carries⟩
      rcases carries.cases with ⟨quiet, -⟩ | ⟨written, only, stored, -, -⟩
      · exact absurd wrote (quiet _)
      · rw [(only _).1 wrote, ← same, (only _).1 wrote, stored]
  | before other last ih =>
    cases history with
    | next past untouched carries =>
      obtain ⟨found, rest⟩ := ih past
      refine ⟨?_, rest⟩
      rcases carries.cases with ⟨-, unchanged⟩ | ⟨written, only, -, unchanged, -⟩
      · rw [unchanged, untouched, found]
      · have apart : written.uuid ≠ uuid := other written ((only written).2 rfl)
        rw [unchanged uuid apart.symm, untouched, found]

theorem History.lastWrite_of_stored (history : History home start invocations files)
    (fresh : start (recordPlace home uuid) = none) {text : String}
    (found : files (recordPlace home uuid) = some text) :
    ∃ writer earlier record, LastWrite uuid invocations writer earlier record ∧ text = record.stored := by
  -- the latest invocation has written the cluster's record, another one, or none; in the last two
  -- cases what is there is what the invocations before have left
  induction history with
  | nil =>
    rw [fresh] at found
    cases found
  | next past untouched carries ih =>
    rcases carries.cases with ⟨quiet, unchanged⟩ | ⟨written, only, stored, unchanged, -⟩
    · rw [unchanged, untouched] at found
      obtain ⟨writer, earlier, record, last, same⟩ := ih found
      exact ⟨writer, earlier, record, .before (fun record wrote => absurd wrote (quiet record)) last, same⟩
    · by_cases same : written.uuid = uuid
      · rw [← same, stored] at found
        exact ⟨_, _, written, .here ((only written).2 rfl) same, (Option.some.inj found).symm⟩
      · rw [unchanged uuid (Ne.symm same), untouched] at found
        obtain ⟨writer, earlier, record, last, text⟩ := ih found
        refine ⟨writer, earlier, record, .before (fun other wrote => ?_) last, text⟩
        rw [(only other).1 wrote]
        exact same

/-- What has to have been observed for a status that only a pass can settle. -/
def evidence? : Status → Option Observation
  | ⟨.create, .complete⟩ => some .ready
  | ⟨.create, .failed⟩ => some .error
  | ⟨.update, .complete⟩ => some .ready
  | ⟨.delete, .complete⟩ => some .notFound
  | ⟨.delete, .failed⟩ => some .error
  | _ => none

theorem transition_settles {status target : Status} {observation : Observation} {reason : StatusReason}
    (move : status.transition observation = some (target, reason)) : target.isInProgress = false := by
  unfold Status.transition at move
  split at move
  · split at move
    · cases move
      rfl
    · split at move
      · cases move
        rfl
      · cases move
  · cases move
    rfl
  · cases move
    rfl

theorem evidence_of_transition {status target : Status} {seen observation : Observation} {reason : StatusReason}
    (move : status.transition seen = some (target, reason)) (settled : evidence? target = some observation) :
    status = ⟨target.operation, .inProgress⟩ ∧ seen = observation := by
  obtain ⟨operation, stage⟩ := status
  cases stage with
  | inProgress =>
    simp only [Status.transition] at move
    split at move
    next goal =>
      cases move
      refine ⟨rfl, ?_⟩
      rw [goal]
      cases operation <;> exact Option.some.inj settled
    · split at move
      next failed =>
        cases move
        refine ⟨rfl, ?_⟩
        rw [failed]
        cases operation with
        | create => exact Option.some.inj settled
        | update => cases settled
        | delete => exact Option.some.inj settled
      · cases move
  | complete =>
    cases move
    cases settled
  | failed =>
    cases move
    cases settled

/-- A record in progress has been put there by the operation itself, or by a file. -/
theorem written_in_progress (history : History home start invocations files)
    (last : LastWrite uuid invocations writer earlier record) {operation : Operation}
    (progress : record.status = ⟨operation, .inProgress⟩) :
    (writer.task = .perform operation uuid ∧ writer.result = .ok ()) ∨
      ∃ path text, writer.task = .adopt path ∧ ⟨.readText path, .ok text⟩ ∈ writer.events ∧
        Cluster.ofText? text = some record := by
  obtain ⟨-, older, before, after, -, -, carries⟩ := history.stored_of_lastWrite last
  obtain ⟨wrote, same⟩ := last.wrote
  rcases carries.cases with ⟨quiet, -⟩ | ⟨written, only, -, -, justified⟩
  · exact absurd wrote (quiet record)
  obtain rfl := (only record).1 wrote
  cases justified with
  | adopted task read found => exact .inr ⟨_, _, task, read, found⟩
  | @submitted asked target text loaded task succeeded read found own =>
    refine .inl ⟨?_, succeeded⟩
    have given : (Driver.submitted loaded asked).status = ⟨asked, .inProgress⟩ := by
      cases asked <;> rfl
    rw [given] at progress
    rw [Driver.submitted_uuid, own] at same
    rw [task, (Status.mk.inj progress).1, same]
  | @moved asked text loaded seen status reason task read found own looked move =>
    have settled : (loaded.transitioned status reason).status.isInProgress = false := transition_settles move
    rw [progress] at settled
    cases settled

/-- Where all records of a cluster come from these invocations, one that a pass has written last goes
back to the write before. A pass settles no status as in progress, and from one that is not in
progress it only goes to a failed update. A status that tells what was observed comes from the
operation in progress, as an operation or a file has put it there, and the pass itself has observed
it. -/
theorem reconciled_status_provenance (history : History home start invocations files)
    (fresh : start (recordPlace home uuid) = none) {pass : Invocation} {target : Uuid}
    (last : LastWrite uuid invocations pass earlier record) (reconciles : pass.task = .reconcile target) :
    (files (recordPlace home uuid)).bind Cluster.ofStored? = some record ∧ target = uuid ∧
      record.status.isInProgress = false ∧ ∃ writer older previous,
        LastWrite uuid earlier writer older previous ∧
        (previous.status.isInProgress = false → record.status = ⟨.update, .failed⟩) ∧
        ∀ observation, evidence? record.status = some observation →
          previous.status = ⟨record.status.operation, .inProgress⟩ ∧
          ((writer.task = .perform record.status.operation uuid ∧ writer.result = .ok ()) ∨
            ∃ path text, writer.task = .adopt path ∧ ⟨.readText path, .ok text⟩ ∈ writer.events ∧
              Cluster.ofText? text = some previous) ∧
          ∃ answer, ⟨.run (Driver.inspection pass.config uuid), answer⟩ ∈ pass.events ∧
            Driver.observed pass.config answer = observation := by
  obtain ⟨found, past, before, after, pastHistory, untouched, carries⟩ := history.stored_of_lastWrite last
  obtain ⟨wrote, same⟩ := last.wrote
  have holds : (files (recordPlace home uuid)).bind Cluster.ofStored? = some record := by
    rw [found, Option.bind_some, Cluster.ofStored?_stored]
  refine ⟨holds, ?_⟩
  rcases carries.cases with ⟨quiet, -⟩ | ⟨written, only, -, -, justified⟩
  · exact absurd wrote (quiet record)
  obtain rfl := (only record).1 wrote
  cases justified with
  | adopted task read foundThere =>
    rw [reconciles] at task
    cases task
  | submitted task succeeded read foundThere own =>
    rw [reconciles] at task
    cases task
  | @moved asked text loaded seen status reason task read foundThere own looked move =>
    obtain rfl : target = asked := by
      rw [reconciles] at task
      exact Task.reconcile.inj task
    obtain rfl : target = uuid := own.symm.trans same
    -- what the pass has read is what the write before has left, and records are known by their texts
    rw [untouched] at read
    obtain ⟨writer, older, previous, lastBefore, rfl⟩ := pastHistory.lastWrite_of_stored fresh read
    obtain rfl : previous = loaded := by
      rw [Cluster.ofStored?_stored] at foundThere
      exact Option.some.inj foundThere
    refine ⟨rfl, transition_settles move, writer, older, previous, lastBefore, ?_, ?_⟩
    · intro rest
      rw [Driver.transition_at_rest rest] at move
      exact (Prod.mk.inj (Option.some.inj move)).1.symm
    · intro observation settled
      obtain ⟨progress, observed⟩ := evidence_of_transition move settled
      refine ⟨progress, written_in_progress pastHistory lastBefore progress, ?_⟩
      obtain ⟨answer, ran, rfl⟩ := looked (by rw [progress]; rfl)
      exact ⟨answer, ran, observed⟩

def leavingFile : List Char :=
  ["uuid: 00000000000000000000000000000000",
    "name: demo",
    "project_id: p",
    "status: DELETE_IN_PROGRESS",
    "cluster_template_id: 00000000000000000000000000000000",
    "node_groups:",
    "- uuid: 00000000000000000000000000000000",
    "  name: a",
    "  role: control_plane",
    "  flavor_id: f",
    "  node_count: 1",
    "- uuid: 00000000000000000000000000000000",
    "  name: b",
    "  flavor_id: f",
    "  node_count: 1",
    "  is_default: true"].flatMap fun line => line.toList ++ ['\n']

def leaving : Cluster where
  uuid := default
  name := "demo"
  project := "p"
  status := ⟨.delete, .inProgress⟩
  statusReason := none
  stack := none
  templateId := default
  template := none
  nodeGroups := [⟨default, "a", .controlPlane, "f", 1, none, none, false, false⟩,
    ⟨default, "b", .worker, "f", 1, none, none, true, false⟩]
  credentials := default

theorem ofText?_leavingFile : Cluster.ofText? (String.ofList leavingFile) = some leaving := by
  rw [Cluster.ofText?, Yaml.Node.ofText?, Yaml.tokens?, Yaml.Place.ofText?, String.toList_ofList]
  decide +kernel

def gone : Cluster := leaving.transitioned ⟨.delete, .complete⟩ .deleted

def absent : RunResult := .error (.failed "helm" (some 1) "" "Error: release: not found")

def adoption : Invocation where
  working := []
  config := .initial
  task := .adopt "cluster.yaml"
  events := ⟨.readText "cluster.yaml", .ok (String.ofList leavingFile)⟩ :: (keeping ".capstan" leaving ++
    [⟨.print s!"{leaving.uuid}\n", ()⟩])
  result := .ok ()

def departure : Invocation where
  working := []
  config := .initial
  task := .reconcile default
  events := ⟨.readText (recordPath ".capstan" default), .ok leaving.stored⟩ ::
    ⟨.run (Driver.inspection .initial default), absent⟩ :: (keeping ".capstan" gone ++
    [⟨.print (passLine ⟨⟨.delete, .inProgress⟩, ⟨.delete, .complete⟩, some .notFound, true⟩ gone), ()⟩])
  result := .ok ()

def onlyFile : Texts := fun place =>
  if place = placeOf [] "cluster.yaml" then some (String.ofList leavingFile) else none

theorem observed_absent : Driver.observed .initial absent = .notFound := by
  decide +kernel

theorem run_adoption : (Task.run adoption.config adoption.task).Yields adoption.events adoption.result :=
  yields_adoptFile ofText?_leavingFile rfl

theorem run_departure :
    (Task.run departure.config departure.task).Yields departure.events departure.result := by
  have move : leaving.status.transition (Driver.observed .initial absent) =
      some (⟨.delete, .complete⟩, .deleted) := by
    rw [observed_absent]
    rfl
  have builtIn : Config.initial.templatesDirectory = none := rfl
  have passed := yields_pass builtIn rfl move (by decide)
  rw [observed_absent] at passed
  exact passed

theorem carries_adoption :
    ∃ after, adoption.Carries (placeOf [] ".capstan") onlyFile after ∧
      after (recordPlace (placeOf [] ".capstan") default) = some leaving.stored := by
  have at_home : placeOf [] ".capstan" = placeOf [] ".capstan" := rfl
  obtain ⟨after, kept⟩ := exists_reacted_keeping ".capstan" leaving onlyFile
  refine ⟨after, ⟨rfl, run_adoption, onlyFile, ⟨if_pos rfl, rfl⟩, ?_⟩, (reacted_keeping at_home kept).1⟩
  exact reacted_append.2 ⟨after, kept, after, rfl, rfl⟩

theorem carries_departure {before : Texts}
    (found : before (recordPlace (placeOf [] ".capstan") default) = some leaving.stored) :
    ∃ after, departure.Carries (placeOf [] ".capstan") before after := by
  obtain ⟨after, kept⟩ := exists_reacted_keeping ".capstan" gone before
  rw [← placeOf_recordPath] at found
  refine ⟨after, rfl, run_departure, before, ⟨found, rfl⟩, before, fun _ => rfl, ?_⟩
  exact reacted_append.2 ⟨after, kept, after, rfl, rfl⟩

theorem history_departure :
    ∃ files, History (placeOf [] ".capstan") onlyFile [departure, adoption] files := by
  obtain ⟨between, adopted, found⟩ := carries_adoption
  obtain ⟨after, departed⟩ := carries_departure found
  exact ⟨after, .next (.next .nil (fun _ => rfl) adopted) (fun _ => rfl) departed⟩

theorem wrote_departure : departure.Wrote gone := by
  have ahead : Quiet [⟨.readText (recordPath ".capstan" default), .ok leaving.stored⟩,
      ⟨.run (Driver.inspection .initial default), absent⟩] := by
    simp [Quiet, Request.writes]
  have behind : Quiet [⟨.print (passLine ⟨⟨.delete, .inProgress⟩, ⟨.delete, .complete⟩, some .notFound,
      true⟩ gone), ()⟩] := by
    simp [Quiet, Request.writes]
  exact (wrote_iff ahead behind rfl gone).2 rfl

theorem reconciled_status_provenance_departure :
    onlyFile (recordPlace (placeOf [] ".capstan") default) = none ∧
    LastWrite default [departure, adoption] departure [adoption] gone ∧
    departure.task = .reconcile default ∧
    ∃ files, History (placeOf [] ".capstan") onlyFile [departure, adoption] files ∧
      (files (recordPlace (placeOf [] ".capstan") default)).bind Cluster.ofStored? = some gone ∧
      ∃ answer, ⟨.run (Driver.inspection .initial default), answer⟩ ∈ departure.events ∧
        Driver.observed .initial answer = .notFound := by
  have fresh : onlyFile (recordPlace (placeOf [] ".capstan") default) = none := by
    decide +kernel
  have last : LastWrite default [departure, adoption] departure [adoption] gone := .here wrote_departure rfl
  obtain ⟨files, history⟩ := history_departure
  obtain ⟨found, -, -, writer, older, previous, -, -, evidence⟩ :=
    reconciled_status_provenance history fresh last rfl
  exact ⟨fresh, last, rfl, files, history, found, (evidence .notFound rfl).2.2⟩

end ClusterLifecycle.CommandLine
