import ClusterLifecycle.Proofs.SharedDisk
import ClusterLifecycle.Proofs.StatusProvenance

/-!
Tasks about different clusters on one state directory at the same time. A task reads one file, and it
writes the draft and the record of its own cluster only. So two of them come to what they come to one
after the other, whatever turns they take, if what tools and system answer to one does not depend on
the other.
-/

namespace ClusterLifecycle.CommandLine

open Program Host StateDirectory FileSystem

variable {α β σ : Type} {config : Config} {task : Task} {uuid uuid' : Uuid} {path directory : String}
  {events : List Host.Event}

def Reads (path : String) (request : Request) : Prop := ∀ other, request = .readText other → other = path

def Task.source (config : Config) : Task → String
  | .render path _ => path
  | .perform _ uuid => recordPath config.stateDirectory uuid
  | .reconcile uuid => recordPath config.stateDirectory uuid
  | .adopt path => path

theorem uses_andThen {allowed : Request → Prop} {outcome : Outcome α} {next : α → Outcome β}
    (first : outcome.Uses allowed) (rest : ∀ value, (next value).Uses allowed) :
    (outcome.andThen next).Uses allowed := by
  refine first.bind fun result => ?_
  cases result with
  | ok value => exact rest value
  | error fault => trivial

theorem uses_save (directory : String) (cluster : Cluster) : (save directory cluster).Uses (Reads path) := by
  refine ⟨nofun, fun made => ?_⟩
  rcases made with cause | ⟨⟨⟩⟩
  · trivial
  refine ⟨nofun, fun wrote => ?_⟩
  rcases wrote with cause | ⟨⟨⟩⟩
  · trivial
  refine ⟨nofun, fun moved => ?_⟩
  rcases moved with cause | ⟨⟨⟩⟩
  · trivial
  · trivial

theorem uses_load (directory : String) (uuid : Uuid) :
    (load directory uuid).Uses (Reads (recordPath directory uuid)) := by
  refine ⟨fun other same => (Request.readText.inj same).symm, fun read => ?_⟩
  cases read with
  | ok text => trivial
  | error cause => trivial

theorem uses_readCluster (path : String) : (readCluster path).Uses (Reads path) := by
  refine ⟨fun other same => (Request.readText.inj same).symm, fun read => ?_⟩
  cases read with
  | error cause => trivial
  | ok text =>
    dsimp only [Program.bind]
    split
    · trivial
    · trivial

theorem uses_openRenderer (config : Config) : (openRenderer config).Uses (Reads path) := by
  unfold openRenderer
  split
  · trivial
  · refine ⟨?_, fun library => trivial⟩
    intro text same
    cases same

theorem uses_openDriver (config : Config) : (openDriver config).Uses (Reads path) :=
  uses_andThen (uses_openRenderer config) fun _ => trivial

theorem uses_print (text : String) : (print text).Uses (Reads path) := ⟨nofun, fun _ => trivial⟩

theorem uses_ofExcept (given : Except Failure α) : (Outcome.ofExcept given).Uses (Reads path) := trivial

theorem uses_loadCluster (config : Config) (uuid : Uuid) :
    (loadCluster config uuid).Uses (Reads (recordPath config.stateDirectory uuid)) :=
  (uses_load config.stateDirectory uuid).bind fun _ => trivial

theorem uses_keepCluster (config : Config) (cluster : Cluster) : (keepCluster config cluster).Uses (Reads path) :=
  (uses_save config.stateDirectory cluster).bind fun _ => trivial

theorem uses_carryOut (config : Config) (plan : Plan (Except Failure α × Cluster)) :
    (carryOut config plan).Uses (Reads path) := by
  have effects : ∀ effect, (Effect.onHost config.stateDirectory effect).Uses (Reads path) := by
    intro effect
    cases effect with
    | run command => exact ⟨nofun, fun _ => trivial⟩
    | save cluster => exact uses_save config.stateDirectory cluster
  exact (Uses.refine effects plan).bind fun _ => trivial

theorem uses_task (config : Config) (task : Task) : (task.run config).Uses (Reads (task.source config)) := by
  cases task with
  | render path withoutTemplate =>
    exact uses_andThen (uses_readCluster path) fun cluster =>
      uses_andThen (uses_openRenderer config) fun renderer =>
        uses_andThen (uses_ofExcept _) fun text => uses_print text
  | perform operation uuid =>
    exact uses_andThen (uses_openDriver config) fun driver =>
      uses_andThen (uses_loadCluster config uuid) fun cluster =>
        uses_andThen (uses_carryOut config _) fun done => uses_print _
  | reconcile uuid =>
    exact uses_andThen (uses_openDriver config) fun driver =>
      uses_andThen (uses_loadCluster config uuid) fun cluster =>
        uses_andThen (uses_carryOut config _) fun done => uses_print _
  | adopt path =>
    exact uses_andThen (uses_readCluster path) fun cluster =>
      uses_andThen (uses_ofExcept _) fun _ =>
        uses_andThen (uses_keepCluster config cluster) fun _ => uses_print _

variable {surroundings : Surroundings σ} {home working : Place} {state after : Shared σ} {sources : Place → Prop}
  {cluster : Cluster} {saved : Except StorageFault Unit}

theorem quiet_texts (quiet : Quiet events) (answered : AnsweredBy (surroundings.host working) events state after) :
    after.disk.texts = state.disk.texts ∧ ∀ path text, ⟨.readText path, .ok text⟩ ∈ events →
      state.disk.texts (placeOf working path) = some text := by
  induction events generalizing state with
  | nil =>
    obtain rfl : after = state := answered
    exact ⟨rfl, nofun⟩
  | cons event rest ih =>
    obtain ⟨request, answer⟩ := event
    obtain ⟨given, later⟩ := answered
    have still : (surroundings.host working request state).2.disk.texts = state.disk.texts :=
      settle_quiet (quiet _ (List.mem_cons_self ..)) _ _ _
    obtain ⟨texts, reads⟩ := ih (fun event member => quiet event (List.mem_cons_of_mem _ member)) later
    rw [still] at texts reads
    refine ⟨texts, ?_⟩
    intro path text member
    rcases List.mem_cons.1 member with same | further
    · cases same
      exact text_of_read given
    · exact reads path text further

theorem made_directory (made : (surroundings.host working (.makeDirectories directory) state).1 = .ok ()) :
    (surroundings.host working (.makeDirectories directory) state).2.disk.directories (placeOf working directory) =
      true := by
  unfold Surroundings.host at made ⊢
  cases verdict : (surroundings.answer (.makeDirectories directory) state.around).1 with
  | error cause =>
    simp only [verdict, Disk.settle] at made
    cases made
  | ok value =>
    simp only [verdict, Disk.settle]
    exact Function.update_self ..

theorem through_saving (at_home : placeOf working directory = home)
    (saves : (save directory cluster).Yields events saved)
    (answered : AnsweredBy (surroundings.host working) events state after) :
    Through (surroundings.host working)
      (fun request state => Within home working cluster.uuid sources request state.disk) events state := by
  have draft : placeOf working (draftPath directory cluster.uuid) = draftPlace home cluster.uuid := by
    rw [placeOf_draftPath, at_home]
  have record : placeOf working (recordPath directory cluster.uuid) = recordPlace home cluster.uuid := by
    rw [placeOf_recordPath, at_home]
  have ready : (surroundings.host working (.makeDirectories directory) state).1 = .ok () →
      (surroundings.host working (.makeDirectories directory) state).2.disk.directories home = true := by
    intro made
    rw [← at_home]
    exact made_directory made
  rcases yields_save.1 saves with ⟨rfl, -⟩ | ⟨cause, rfl, -⟩ | ⟨cause, rfl, -⟩ | ⟨cause, rfl, -⟩
  · exact ⟨trivial, ⟨draft, ready answered.1⟩, ⟨draft, record⟩, trivial⟩
  · exact ⟨trivial, trivial⟩
  · exact ⟨trivial, ⟨draft, ready answered.1⟩, trivial⟩
  · exact ⟨trivial, ⟨draft, ready answered.1⟩, ⟨draft, record⟩, trivial⟩

/-- A task is about a cluster, beside another one: it is given its identifier, or a file with no other
record in it, which is no file that the state directory has for the other cluster. -/
inductive Concerns (home working : Place) (texts : Texts) (uuid other : Uuid) : Task → Prop where
  | perform {operation : Operation} : Concerns home working texts uuid other (.perform operation uuid)
  | reconcile : Concerns home working texts uuid other (.reconcile uuid)
  | adopt {path : String} (notRecord : placeOf working path ≠ recordPlace home other)
      (notDraft : placeOf working path ≠ draftPlace home other)
      (own : ∀ text cluster, texts (placeOf working path) = some text →
        Cluster.ofText? text = some cluster → cluster.uuid = uuid) :
      Concerns home working texts uuid other (.adopt path)

def Task.TakesFrom (working : Place) (task : Task) (place : Place) : Prop :=
  ∃ path, task = .adopt path ∧ place = placeOf working path

/-- A task stays with the cluster that it is about. -/
theorem through_task (at_home : placeOf working config.stateDirectory = home)
    (concerns : Concerns home working state.disk.texts uuid uuid' task) :
    Through (surroundings.host working)
      (fun request state => Within home working uuid (task.TakesFrom working) request state.disk)
      ((task.run config).trace (surroundings.host working) state) state := by
  have run := yields_run (surroundings.host working) (task.run config) state
  have answered := answeredBy_trace (surroundings.host working) (task.run config) state
  have source : placeOf working (task.source config) = recordPlace home uuid ∨
      task.TakesFrom working (placeOf working (task.source config)) := by
    cases concerns with
    | perform => exact .inl (by rw [Task.source, placeOf_recordPath, at_home])
    | reconcile => exact .inl (by rw [Task.source, placeOf_recordPath, at_home])
    | adopt notRecord notDraft own => exact .inr ⟨_, rfl, rfl⟩
  have reads : ∀ event ∈ (task.run config).trace (surroundings.host working) state,
      Reads (task.source config) event.1 := fun event member => (uses_task config task).of_mem run member
  generalize (task.run config).trace (surroundings.host working) state = events at *
  have quietly : ∀ part, (∀ event ∈ part, event ∈ events) → Quiet part → ∀ state,
      Through (surroundings.host working)
        (fun request state => Within home working uuid (task.TakesFrom working) request state.disk) part state := by
    intro part members quiet
    apply through_of_forall
    intro event member state
    obtain ⟨request, answer⟩ := event
    cases request with
    | readText path =>
      obtain rfl := reads _ (members _ member) path rfl
      exact source
    | writeText path text => cases quiet _ member
    | moveFile source target => cases quiet _ member
    | makeDirectories path => trivial
    | openTemplates path => trivial
    | run command => trivial
    | print text => trivial
  rcases task_saves run with quiet | ⟨front, saving, back, cluster, saved, rfl, ahead, behind, saves, grounds, -⟩
  · exact quietly events (fun _ member => member) quiet state
  obtain ⟨start, first, later⟩ := answeredBy_append.1 answered
  obtain ⟨kept, keeps, last⟩ := answeredBy_append.1 later
  have own : cluster.uuid = uuid := by
    cases concerns with
    | perform =>
      cases grounds with
      | submitted read decoded same => rw [Driver.submitted_uuid, same]
    | reconcile =>
      cases grounds with
      | moved read decoded same looked move => exact same
    | adopt notRecord notDraft own =>
      cases grounds with
      | adopted read decoded valid => exact own _ _ ((quiet_texts ahead first).2 _ _ read) decoded
  subst own
  rw [through_append first, through_append keeps]
  exact ⟨quietly front (fun _ member => List.mem_append_left _ member) ahead state,
    through_saving at_home saves keeps,
    quietly back (fun _ member => List.mem_append_right _ (List.mem_append_right _ member)) behind kept⟩

/-- A task with its configuration, and the directory that it is started in. -/
structure Errand where
  working : Place
  config : Config
  task : Task

namespace Errand

def program (errand : Errand) : Outcome Unit := errand.task.run errand.config

/-- The errand makes this request when nothing else goes on. -/
def Asks (errand : Errand) (surroundings : Surroundings σ) (start : Shared σ) (request : Request) : Prop :=
  ∃ event ∈ errand.program.trace (surroundings.host errand.working) start, event.1 = request

/-- The requests of an errand about a cluster, at a moment when it may make them. -/
def Allowed (errand : Errand) (surroundings : Surroundings σ) (start : Shared σ) (home : Place) (uuid : Uuid)
    (request : Request) (state : Shared σ) : Prop :=
  errand.Asks surroundings start request ∧
    Within home errand.working uuid (errand.task.TakesFrom errand.working) request state.disk

def Alike {κ : Type} (errand : Errand) (home : Place) (uuid : Uuid) (view : σ → κ) (state solo : Shared σ) : Prop :=
  view state.around = view solo.around ∧
    SameFor home uuid (errand.task.TakesFrom errand.working) state.disk solo.disk

theorem through {errand : Errand} (at_home : placeOf errand.working errand.config.stateDirectory = home)
    (concerns : Concerns home errand.working state.disk.texts uuid uuid' errand.task) :
    Through (surroundings.host errand.working) (errand.Allowed surroundings state home uuid)
      (errand.program.trace (surroundings.host errand.working) state) state :=
  Through.and (fun event member => ⟨event, member, rfl⟩) (through_task at_home concerns)

theorem apart {κ : Type} {view : σ → κ} {errand other : Errand} (different : uuid' ≠ uuid)
    (concerns : Concerns home errand.working state.disk.texts uuid uuid' errand.task)
    (oblivious : Oblivious surroundings (errand.Asks surroundings state) (other.Asks surroundings state) view) :
    Apart (surroundings.host errand.working) (surroundings.host other.working)
      (errand.Allowed surroundings state home uuid) (other.Allowed surroundings state home uuid')
      (errand.Alike home uuid view) := by
  refine oblivious.apart different ?_
  intro place source
  obtain ⟨path, task, rfl⟩ := source
  rw [task] at concerns
  cases concerns with
  | adopt notRecord notDraft own => exact ⟨notRecord, notDraft⟩

theorem alike_refl {κ : Type} (errand : Errand) (home : Place) (uuid : Uuid) (view : σ → κ) (state : Shared σ) :
    errand.Alike home uuid view state state :=
  ⟨rfl, rfl, rfl, fun _ _ => rfl, fun _ there => there⟩

end Errand

/-- Two errands about different clusters on one state directory take turns in any order. If what is
answered to each of them does not depend on what the other asks for, each goes through the same events
and comes to the same result as when they run one after the other, whichever is first, and leaves the
same record. -/
theorem interleaved_errands {κ κ' : Type} {errand errand' : Errand} {view : σ → κ}
    {view' : σ → κ'} {result result' : Except TaskFault Unit} {events' : List Host.Event}
    (different : uuid ≠ uuid')
    (at_home : placeOf errand.working errand.config.stateDirectory = home)
    (at_home' : placeOf errand'.working errand'.config.stateDirectory = home)
    (concerns : Concerns home errand.working state.disk.texts uuid uuid' errand.task)
    (concerns' : Concerns home errand'.working state.disk.texts uuid' uuid errand'.task)
    (oblivious : Oblivious surroundings (errand.Asks surroundings state) (errand'.Asks surroundings state) view)
    (oblivious' : Oblivious surroundings (errand'.Asks surroundings state) (errand.Asks surroundings state) view')
    (run : Interleaved (surroundings.host errand.working) (surroundings.host errand'.working)
      errand.program errand'.program state events result events' result' after) :
    (∃ last, InTurn (surroundings.host errand.working) (surroundings.host errand'.working)
        errand.program errand'.program state events result events' result' last ∧
      after.disk.texts (recordPlace home uuid) = last.disk.texts (recordPlace home uuid) ∧
      after.disk.texts (recordPlace home uuid') = last.disk.texts (recordPlace home uuid')) ∧
    ∃ last, InTurn (surroundings.host errand'.working) (surroundings.host errand.working)
        errand'.program errand.program state events' result' events result last ∧
      after.disk.texts (recordPlace home uuid) = last.disk.texts (recordPlace home uuid) ∧
      after.disk.texts (recordPlace home uuid') = last.disk.texts (recordPlace home uuid') := by
  have apart := Errand.apart different.symm concerns oblivious
  have apart' := Errand.apart different concerns' oblivious'
  have through : Through (surroundings.host errand.working) (errand.Allowed surroundings state home uuid) _ state :=
    Errand.through at_home concerns
  have through' : Through (surroundings.host errand'.working) (errand'.Allowed surroundings state home uuid') _ state :=
    Errand.through at_home' concerns'
  have here := errand.alike_refl home uuid view state
  have here' := errand'.alike_refl home uuid' view' state
  constructor
  · obtain ⟨last, turns, ⟨alone, ends, same⟩, alone', ends', same'⟩ :=
      run.in_turn apart apart' here here' through through'
    exact ⟨last, turns, ends.2.record.trans same.2.record.symm, ends'.2.record.trans same'.2.record.symm⟩
  · obtain ⟨last, turns, ⟨alone', ends', same'⟩, alone, ends, same⟩ :=
      run.swap.in_turn apart' apart here' here through' through
    exact ⟨last, turns, ends.2.record.trans same.2.record.symm, ends'.2.record.trans same'.2.record.symm⟩

def noRelease : Surroundings Unit where
  answer request _ := match request with
    | .readText _ => (.ok "", ())
    | .makeDirectories _ => (.ok (), ())
    | .writeText _ _ => (.ok (), ())
    | .moveFile _ _ => (.ok (), ())
    | .openTemplates _ => (none, ())
    | .run _ => (absent, ())
    | .print _ => ((), ())
  left _ text := text

def taking : Errand := ⟨[], .initial, .adopt "cluster.yaml"⟩

def looking : Errand := ⟨[], .initial, .reconcile ⟨1⟩⟩

/-- Beside the file there is the record of the other cluster, which is being deleted. -/
def twoFiles : Texts :=
  Function.update onlyFile (recordPlace (placeOf [] ".capstan") ⟨1⟩) (some { leaving with uuid := ⟨1⟩ }.stored)

def twoClusters : Shared Unit := ⟨(), twoFiles, fun _ => false⟩

theorem file_away (uuid : Uuid) :
    placeOf [] "cluster.yaml" ≠ recordPlace (placeOf [] ".capstan") uuid ∧
      placeOf [] "cluster.yaml" ≠ draftPlace (placeOf [] ".capstan") uuid := by
  have names : placeOf [] ".capstan" = [".capstan"] ∧ placeOf [] "cluster.yaml" = ["cluster.yaml"] := by
    decide +kernel
  rw [recordPlace, draftPlace, names.1, names.2]
  simp

theorem concerns_taking :
    Concerns (placeOf [] ".capstan") taking.working twoClusters.disk.texts default ⟨1⟩ taking.task := by
  refine .adopt (file_away ⟨1⟩).1 (file_away ⟨1⟩).2 ?_
  intro text cluster there decoded
  change twoFiles (placeOf [] "cluster.yaml") = some text at there
  rw [twoFiles, Function.update_of_ne (file_away ⟨1⟩).1, onlyFile, if_pos rfl] at there
  rw [← Option.some.inj there, ofText?_leavingFile] at decoded
  rw [← Option.some.inj decoded]
  rfl

theorem noRelease_oblivious (mine theirs : Request → Prop) : Oblivious noRelease mine theirs id where
  answers _ _ _ _ _ := ⟨rfl, rfl⟩
  left _ _ _ := rfl
  unseen _ _ _ := rfl

/-- The file is read, then the pass goes to its end, and then the record from the file is kept. -/
theorem interleaved_errands_meanwhile :
    ∃ events result events' result' after,
      Interleaved (noRelease.host taking.working) (noRelease.host looking.working) taking.program looking.program
        twoClusters events result events' result' after ∧
      ∃ last, InTurn (noRelease.host looking.working) (noRelease.host taking.working)
        looking.program taking.program twoClusters events' result' events result last ∧
      after.disk.texts (recordPlace (placeOf [] ".capstan") default) =
        last.disk.texts (recordPlace (placeOf [] ".capstan") default) ∧
      after.disk.texts (recordPlace (placeOf [] ".capstan") ⟨1⟩) =
        last.disk.texts (recordPlace (placeOf [] ".capstan") ⟨1⟩) := by
  obtain ⟨events, result, events', result', after, run⟩ :
      ∃ events result events' result' after, Interleaved (noRelease.host taking.working)
        (noRelease.host looking.working) taking.program looking.program twoClusters events result events' result'
        after :=
    ⟨_, _, _, _, _, .first (interleaved_in_turn _ _ _ _ _).swap⟩
  have different : (default : Uuid) ≠ ⟨1⟩ := by decide
  have concerns_looking :
      Concerns (placeOf [] ".capstan") looking.working twoClusters.disk.texts ⟨1⟩ default looking.task :=
    .reconcile
  have home : placeOf taking.working taking.config.stateDirectory = placeOf [] ".capstan" := rfl
  have home' : placeOf looking.working looking.config.stateDirectory = placeOf [] ".capstan" := rfl
  have both := interleaved_errands different home home' concerns_taking concerns_looking
    (noRelease_oblivious _ _) (noRelease_oblivious _ _) run
  exact ⟨events, result, events', result', after, run, both.2⟩

end ClusterLifecycle.CommandLine
