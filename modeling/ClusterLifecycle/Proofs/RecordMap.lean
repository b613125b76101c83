import ClusterLifecycle.Proofs.FollowedPaths
import ClusterLifecycle.Proofs.StateDirectorySteps

/-!
A state directory as a map from identifiers to records, on the host as a value. Whatever records have
been kept one after the other, the last one of a cluster is what is loaded for it, and nothing is
loaded for a cluster of which none was kept.
-/

namespace ClusterLifecycle.StateDirectory

open Program Host FileSystem

variable {execute : Execution} {directory : String} {cluster record : Cluster} {uuid : Uuid}
  {start before after world : World} {saved : List Cluster} {result : Except StorageFault Unit}

def loaded (execute : Execution) (directory : String) (uuid : Uuid) (world : World) :
    Except StorageFault Cluster :=
  ((load directory uuid).run (World.answer execute) world).1

/-- Records that have been kept one after the other on a host, the latest first. -/
inductive Kept (execute : Execution) (directory : String) (start : World) : List Cluster → World → Prop where
  | nil : Kept execute directory start [] start
  | cons {saved : List Cluster} {cluster : Cluster} {before after : World}
      (earlier : Kept execute directory start saved before)
      (kept : (save directory cluster).run (World.answer execute) before = (.ok (), after)) :
      Kept execute directory start (cluster :: saved) after

theorem loaded_of_read {text : String}
    (read : world.files.read world.working (recordPath directory uuid) = .ok text) :
    (load directory uuid).run (World.answer execute) world = (check (recordPath directory uuid) uuid text, world) :=
  run_eq_iff.2 ⟨_, yields_load.2 (.inl ⟨text, rfl, rfl⟩), read, rfl⟩

theorem loaded_of_unread {cause : SystemError}
    (unread : world.files.read world.working (recordPath directory uuid) = .error cause) :
    (load directory uuid).run (World.answer execute) world = (.error (.read (recordPath directory uuid) cause), world) :=
  run_eq_iff.2 ⟨_, yields_load.2 (.inr ⟨cause, rfl, rfl⟩), unread, rfl⟩

theorem changed_ok {attempt : Except SystemError FileSystem} (went : (world.changed attempt).1 = .ok ()) :
    ∃ files, attempt = .ok files ∧ (world.changed attempt).2 = { world with files := files } := by
  cases attempt with
  | ok files => exact ⟨files, rfl, rfl⟩
  | error fault => cases went

theorem changed_error {attempt : Except SystemError FileSystem} {cause : SystemError}
    (failed : (world.changed attempt).1 = .error cause) : (world.changed attempt).2 = world := by
  cases attempt with
  | ok files => cases failed
  | error fault => rfl

theorem answer_writeText {path text : String} : World.answer execute (.writeText path text) world =
    world.changed (world.files.write world.working path text) := rfl

theorem answer_moveFile {source target : String} : World.answer execute (.moveFile source target) world =
    world.changed (world.files.moveFile world.working source target) := rfl

/-- How far the keeping of a record gets. It has gone well only if the record is in its place. -/
theorem run_save_cases
    (run : (save directory cluster).run (World.answer execute) before = (result, after)) :
    ∃ files, after = { before with files := files } ∧
      ((files = (before.files.makeDirectories before.working directory).2 ∧ result ≠ .ok ()) ∨
      ∃ written, (before.files.makeDirectories before.working directory).2.write before.working
          (draftPath directory cluster.uuid) cluster.stored = .ok written ∧
        ((files = written ∧ result ≠ .ok ()) ∨
        written.moveFile before.working (draftPath directory cluster.uuid)
          (recordPath directory cluster.uuid) = .ok files ∧ result = .ok ())) := by
  obtain ⟨events, yields, answered⟩ := run_eq_iff.1 run
  have made : (World.answer execute (.makeDirectories directory) before).2 =
    { before with files := (before.files.makeDirectories before.working directory).2 } := rfl
  rcases yields_save.1 yields with ⟨rfl, rfl⟩ | ⟨cause, rfl, rfl⟩ | ⟨cause, rfl, rfl⟩ | ⟨cause, rfl, rfl⟩
  · obtain ⟨-, wrote, moved, rfl⟩ := answered
    rw [made, answer_writeText] at wrote moved
    obtain ⟨written, write, between⟩ := changed_ok wrote
    rw [between, answer_moveFile] at moved
    obtain ⟨files, move, same⟩ := changed_ok moved
    rw [made, answer_writeText, between, answer_moveFile]
    exact ⟨files, same, .inr ⟨written, write, .inr ⟨move, rfl⟩⟩⟩
  · obtain ⟨-, rfl⟩ := answered
    exact ⟨_, made, .inl ⟨rfl, nofun⟩⟩
  · obtain ⟨-, wrote, rfl⟩ := answered
    rw [made, answer_writeText] at wrote
    rw [made, answer_writeText, changed_error wrote]
    exact ⟨_, rfl, .inl ⟨rfl, nofun⟩⟩
  · obtain ⟨-, wrote, moved, rfl⟩ := answered
    rw [made, answer_writeText] at wrote moved
    obtain ⟨written, write, between⟩ := changed_ok wrote
    rw [between, answer_moveFile] at moved
    rw [made, answer_writeText, between, answer_moveFile, changed_error moved]
    exact ⟨written, rfl, .inr ⟨written, write, .inl ⟨rfl, nofun⟩⟩⟩

theorem save_working (run : (save directory cluster).run (World.answer execute) before = (result, after)) :
    after.working = before.working := by
  obtain ⟨files, rfl, -⟩ := run_save_cases run
  rfl

theorem save_stays (run : (save directory cluster).run (World.answer execute) before = (result, after))
    (place : Place) (there : before.files.node? place = some .directory) :
    after.files.node? place = some .directory := by
  have made := (grown_makeDirectories before.files before.working directory).stays there
  obtain ⟨files, rfl, ⟨rfl, -⟩ | ⟨written, write, ⟨rfl, -⟩ | ⟨move, -⟩⟩⟩ := run_save_cases run
  · exact made
  · exact stays_write write made
  · exact stays_moveFile move (stays_write write made)

theorem save_others (run : (save directory cluster).run (World.answer execute) before = (result, after))
    (other : uuid ≠ cluster.uuid) :
    after.files.node? (recordPlace (placeOf before.working directory) uuid) =
      (before.files.makeDirectories before.working directory).2.node?
        (recordPlace (placeOf before.working directory) uuid) := by
  have notDraft : recordPlace (placeOf before.working directory) uuid ≠
      placeOf before.working (draftPath directory cluster.uuid) := by
    rw [placeOf_draftPath]
    exact (draftPlace_ne_recordPlace _ _ _).symm
  have notRecord : recordPlace (placeOf before.working directory) uuid ≠
      placeOf before.working (recordPath directory cluster.uuid) := by
    rw [placeOf_recordPath]
    exact fun same => other (recordPlace_injective same)
  obtain ⟨files, rfl, ⟨rfl, -⟩ | ⟨written, write, ⟨rfl, -⟩ | ⟨move, -⟩⟩⟩ := run_save_cases run
  · rfl
  · exact node?_write write notDraft
  · exact (node?_moveFile move notDraft notRecord).trans (node?_write write notDraft)

theorem save_texts (run : (save directory cluster).run (World.answer execute) before = (result, after))
    (other : uuid ≠ cluster.uuid) :
    after.files.texts (recordPlace (placeOf before.working directory) uuid) =
      before.files.texts (recordPlace (placeOf before.working directory) uuid) := by
  have same := congrFun (texts_makeDirectories before.files before.working directory)
    (recordPlace (placeOf before.working directory) uuid)
  rw [← same, texts, texts, save_others run other]

theorem save_read (run : (save directory cluster).run (World.answer execute) before = (result, after))
    (other : uuid ≠ cluster.uuid) {text : String}
    (read : before.files.read before.working (recordPath directory uuid) = .ok text) :
    after.files.read after.working (recordPath directory uuid) = .ok text := by
  obtain ⟨resolved, executable, node⟩ := read_eq_ok.1 read
  rw [save_working run]
  refine read_eq_ok.2 ⟨resolve_of_stays (save_stays run) resolved, executable, ?_⟩
  rw [placeOf_recordPath] at node ⊢
  rw [save_others run other]
  rcases grown_makeDirectories before.files before.working directory
      (recordPlace (placeOf before.working directory) uuid) with same | ⟨empty, -⟩
  · rw [same, node]
  · rw [node] at empty
    cases empty

theorem save_kept (run : (save directory cluster).run (World.answer execute) before = (.ok (), after)) :
    after.files.read after.working (recordPath directory cluster.uuid) = .ok cluster.stored := by
  obtain ⟨files, rfl, ⟨-, failed⟩ | ⟨written, write, ⟨-, failed⟩ | ⟨move, -⟩⟩⟩ := run_save_cases run
  · exact absurd rfl failed
  · exact absurd rfl failed
  · exact read_moved write move

/-- Where the path of a record can be followed, the same is loaded before and after any attempt to
keep the record of another cluster. -/
theorem loaded_of_followed {place : Place}
    (run : (save directory cluster).run (World.answer execute) before = (result, after))
    (other : uuid ≠ cluster.uuid)
    (followed : before.files.resolve before.working (recordPath directory uuid) = .ok place) :
    loaded execute directory uuid after = loaded execute directory uuid before := by
  have there : before.files.makeDirectories before.working directory = (.ok (), before.files) := by
    rw [recordPath_eq] at followed
    exact makeDirectories_of_join (slash_not_mem_recordName uuid) followed
  have node := save_others run other
  rw [there, ← placeOf_recordPath, ← resolve_eq_ok followed] at node
  have same : after.files.read after.working (recordPath directory uuid) =
      before.files.read before.working (recordPath directory uuid) := by
    rw [save_working run]
    exact read_of_stays (save_stays run) followed node
  cases read : before.files.read before.working (recordPath directory uuid) with
  | ok text => rw [loaded, loaded, loaded_of_read (same.trans read), loaded_of_read read]
  | error cause => rw [loaded, loaded, loaded_of_unread (same.trans read), loaded_of_unread read]

theorem Kept.stored (kept : Kept execute directory start saved world) (uuid : Uuid)
    (fresh : start.files.texts (recordPlace (placeOf start.working directory) uuid) = none) :
    world.working = start.working ∧ match saved.find? (·.uuid = uuid) with
      | some record => world.files.read world.working (recordPath directory uuid) = .ok record.stored
      | none => world.files.texts (recordPlace (placeOf start.working directory) uuid) = none := by
  induction kept with
  | nil => exact ⟨rfl, fresh⟩
  | @cons saved cluster before after earlier run ih =>
    obtain ⟨working, stored⟩ := ih
    refine ⟨(save_working run).trans working, ?_⟩
    by_cases own : cluster.uuid = uuid
    · subst own
      rw [List.find?_cons_of_pos (by simp)]
      exact save_kept run
    · rw [List.find?_cons_of_neg (by simp [own])]
      cases found : saved.find? (·.uuid = uuid) with
      | some record =>
        rw [found] at stored
        exact save_read run (Ne.symm own) stored
      | none =>
        rw [found] at stored
        have same := save_texts run (Ne.symm own)
        rw [working] at same
        exact same.trans stored

/-- After records have been kept in a state directory that held none, the last record of a cluster is
loaded for it, and nothing where there is none. Keeping the record of another cluster changes nothing
about that, nor anything about what is loaded from any directory that is there. What is loaded, from
whatever files, is a record of the cluster that was asked for. -/
theorem loaded_last_kept (kept : Kept execute directory start saved world)
    (fresh : ∀ uuid, start.files.texts (recordPlace (placeOf start.working directory) uuid) = none) :
    (∀ uuid, (loaded execute directory uuid world).toOption = saved.find? (·.uuid = uuid)) ∧
    (∀ cluster after, (save directory cluster).run (World.answer execute) world = (.ok (), after) →
      ∀ uuid, uuid ≠ cluster.uuid → (loaded execute directory uuid after).toOption =
        (loaded execute directory uuid world).toOption) ∧
    (∀ cluster before after result,
      (save directory cluster).run (World.answer execute) before = (result, after) →
      ∀ uuid, uuid ≠ cluster.uuid →
      (∃ place, before.files.resolve before.working (recordPath directory uuid) = .ok place) →
        loaded execute directory uuid after = loaded execute directory uuid before) ∧
    ∀ anywhere uuid record, loaded execute directory uuid anywhere = .ok record → record.uuid = uuid := by
  have last : ∀ {saved world}, Kept execute directory start saved world → ∀ uuid,
      (loaded execute directory uuid world).toOption = saved.find? (·.uuid = uuid) := by
    intro saved world kept uuid
    obtain ⟨working, stored⟩ := kept.stored uuid (fresh uuid)
    cases found : saved.find? (·.uuid = uuid) with
    | some record =>
      rw [found] at stored
      have own : record.uuid = uuid := by simpa using List.find?_some found
      rw [loaded, loaded_of_read stored, check, Cluster.ofStored?_stored]
      exact congrArg Except.toOption (if_pos own)
    | none =>
      rw [found] at stored
      cases read : world.files.read world.working (recordPath directory uuid) with
      | ok text =>
        have there := texts_read read
        rw [placeOf_recordPath, working, stored] at there
        cases there
      | error cause =>
        rw [loaded, loaded_of_unread read]
        rfl
  refine ⟨last kept, ?_, ?_, ?_⟩
  · intro cluster after run uuid other
    rw [last (kept.cons run), last kept, List.find?_cons_of_neg (by simpa using Ne.symm other)]
  · intro cluster before after result run uuid other followed
    obtain ⟨place, followed⟩ := followed
    exact loaded_of_followed run other followed
  · intro anywhere uuid record found
    cases read : anywhere.files.read anywhere.working (recordPath directory uuid) with
    | ok text =>
      rw [loaded, loaded_of_read read] at found
      exact (check_eq_ok found).2
    | error cause =>
      rw [loaded, loaded_of_unread read] at found
      cases found

def quoted : Cluster where
  uuid := default
  name := "\"demo\"\n😀"
  project := ""
  status := ⟨.create, .complete⟩
  statusReason := some "\t\\"
  stack := some "stack"
  templateId := default
  template := none
  nodeGroups := []
  credentials := default

def emptyHost : World := ⟨⟨[]⟩, [], ""⟩

def noCommands : Execution := fun _ _ files => (.refused .notFound, files)

def afterSave (cluster : Cluster) (world : World) : World :=
  ((save "state" cluster).run (World.answer noCommands) world).2

theorem Kept.save (kept : Kept noCommands "state" start saved world)
    (went : ((save "state" cluster).run (World.answer noCommands) world).1 = .ok ()) :
    Kept noCommands "state" start (cluster :: saved) (afterSave cluster world) :=
  kept.cons (Prod.ext went rfl)

theorem loaded_last_kept_quoted :
    ∃ world, Kept noCommands "state" emptyHost
        [quoted.armed .delete, { quoted with uuid := ⟨1⟩ }, quoted] world ∧
      (∀ uuid, emptyHost.files.texts (recordPlace (placeOf emptyHost.working "state") uuid) = none) ∧
      (loaded noCommands "state" default world).toOption = some (quoted.armed .delete) ∧
      (loaded noCommands "state" ⟨1⟩ world).toOption = some { quoted with uuid := ⟨1⟩ } ∧
      (loaded noCommands "state" ⟨2⟩ world).toOption = none := by
  have kept : Kept noCommands "state" emptyHost
      [quoted.armed .delete, { quoted with uuid := ⟨1⟩ }, quoted] _ :=
    ((Kept.nil.save (by decide +kernel)).save (by decide +kernel)).save (by decide +kernel)
  have fresh : ∀ uuid, emptyHost.files.texts (recordPlace (placeOf emptyHost.working "state") uuid) = none := by
    intro uuid
    have somewhere : recordPlace (placeOf emptyHost.working "state") uuid ≠ [] := by simp [recordPlace]
    rw [texts, node?, if_neg somewhere]
    rfl
  have last := (loaded_last_kept kept fresh).1
  exact ⟨_, kept, fresh, (last _).trans (by decide +kernel), (last _).trans (by decide +kernel),
    (last _).trans (by decide +kernel)⟩

end ClusterLifecycle.StateDirectory
