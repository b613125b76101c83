import ClusterLifecycle.Proofs.RecordMap

/-!
Records that are kept at the same time, each of another cluster, with readers at any moment. Keeping a
record takes many moves, as its draft is written in pieces, and it may fail or be cut off after every
one. A reader finds the record from before until the draft is moved into place, and the new one from
then on.
-/

namespace ClusterLifecycle.StateDirectory

open Program Host FileSystem

/-- What a file holds after so many bytes of a text. Nothing is read that ends inside a character. -/
def beginning (text : String) (count : Nat) : Option String :=
  String.fromUTF8? (text.toByteArray.extract 0 count)

theorem beginning_all (text : String) : beginning text text.utf8ByteSize = some text := by
  have whole : text.toByteArray.extract 0 text.utf8ByteSize = text.toByteArray := ByteArray.extract_zero_size
  rw [beginning, whole, String.fromUTF8?, dif_pos text.isValidUTF8]
  rfl

/-- A program that is about to go on, or in the middle of a file that it writes. -/
inductive Work (α : Type) where
  | ready (program : HostProgram α)
  | writing (path text : String) (count : Nat) (next : Except SystemError Unit → HostProgram α)

/-- One move of a program, with the event that it completes. A file is emptied first and then written
in pieces, and everything else happens at once. -/
inductive Advances {α : Type} (home working : Place) :
    Texts → Work α → Option Host.Event → Texts → Work α → Prop where
  | answered {before after : Texts} {request : Request} {next : request.Answer → HostProgram α}
      (answer : request.Answer) (whole : ∀ path text, request ≠ .writeText path text)
      (reacts : Reacts home working before after ⟨request, answer⟩) :
      Advances home working before (.ready (.ask request next)) (some ⟨request, answer⟩)
        after (.ready (next answer))
  | refused {files : Texts} {path text : String} {next : Except SystemError Unit → HostProgram α}
      (cause : SystemError) :
      Advances home working files (.ready (.ask (.writeText path text) next))
        (some ⟨.writeText path text, .error cause⟩) files (.ready (next (.error cause)))
  | opened {files : Texts} {path text : String} {next : Except SystemError Unit → HostProgram α} :
      Advances home working files (.ready (.ask (.writeText path text) next)) none
        (Function.update files (placeOf working path) (beginning text 0)) (.writing path text 0 next)
  | wrote {files : Texts} {path text : String} {count more : Nat}
      {next : Except SystemError Unit → HostProgram α} (further : count ≤ more)
      (within : more ≤ text.utf8ByteSize) :
      Advances home working files (.writing path text count next) none
        (Function.update files (placeOf working path) (beginning text more)) (.writing path text more next)
  | closed {files : Texts} {path text : String} {next : Except SystemError Unit → HostProgram α} :
      Advances home working files (.writing path text text.utf8ByteSize next)
        (some ⟨.writeText path text, .ok ()⟩) files (.ready (next (.ok ())))
  | broke {files : Texts} {path text : String} {count : Nat}
      {next : Except SystemError Unit → HostProgram α} (cause : SystemError) :
      Advances home working files (.writing path text count next)
        (some ⟨.writeText path text, .error cause⟩) files (.ready (next (.error cause)))

/-- A record that is being kept, seen from a working directory, and how far that has got. -/
structure Saving where
  working : Place
  directory : String
  record : Cluster
  work : Work (Except StorageFault Unit)

/-- The texts in the files, and what is in flight for each cluster. -/
structure Scene where
  files : Texts
  flying : Uuid → Option Saving

/-- What may happen next, and for which cluster. -/
inductive Move where
  | begun (uuid : Uuid)
  | advanced (uuid : Uuid) (event : Option Host.Event)
  | ended (uuid : Uuid) (result : Except StorageFault Unit)
  | died (uuid : Uuid)

namespace Scene

def setFlying (scene : Scene) (uuid : Uuid) (saving : Option Saving) : Scene :=
  { scene with flying := Function.update scene.flying uuid saving }

theorem flying_setFlying (scene : Scene) (uuid : Uuid) (saving : Option Saving) :
    (scene.setFlying uuid saving).flying uuid = saving := Function.update_self ..

def begin (scene : Scene) (working : Place) (directory : String) (record : Cluster) : Scene :=
  scene.setFlying record.uuid (some ⟨working, directory, record, .ready (save directory record)⟩)

end Scene

/-- One move in a state directory. Nothing else is in flight for a cluster of which keeping begins. -/
inductive Step (home : Place) : Scene → Move → Scene → Prop where
  | begins {scene : Scene} {working : Place} {directory : String} {record : Cluster}
      (free : scene.flying record.uuid = none) (at_home : placeOf working directory = home) :
      Step home scene (.begun record.uuid) (scene.begin working directory record)
  | advances {scene : Scene} {uuid : Uuid} {saving : Saving} {event : Option Host.Event} {files : Texts}
      {work : Work (Except StorageFault Unit)} (flies : scene.flying uuid = some saving)
      (moves : Advances home saving.working scene.files saving.work event files work) :
      Step home scene (.advanced uuid event)
        ⟨files, Function.update scene.flying uuid (some { saving with work := work })⟩
  | ends {scene : Scene} {uuid : Uuid} {saving : Saving} {result : Except StorageFault Unit}
      (flies : scene.flying uuid = some saving) (finished : saving.work = .ready (.done result)) :
      Step home scene (.ended uuid result) (scene.setFlying uuid none)
  | dies {scene : Scene} {uuid : Uuid} {saving : Saving} (flies : scene.flying uuid = some saving) :
      Step home scene (.died uuid) (scene.setFlying uuid none)

/-- Moves one after the other, the latest first. -/
inductive Run (home : Place) (start : Scene) : List Move → Scene → Prop where
  | nil : Run home start [] start
  | cons {moves : List Move} {move : Move} {before after : Scene} (earlier : Run home start moves before)
      (step : Step home before move after) : Run home start (move :: moves) after

def moved : Option Host.Event → Bool
  | some ⟨.moveFile _ _, .ok ()⟩ => true
  | _ => false

def Placed (uuid : Uuid) (moves : List Move) : Prop := ∃ event, .advanced uuid event ∈ moves ∧ moved event

/-- What is loaded for a cluster while the files hold these texts. -/
def Loads (working : Place) (directory : String) (uuid : Uuid) (files : Texts)
    (result : Except StorageFault Cluster) : Prop :=
  (load directory uuid).Yields
    [⟨.readText (recordPath directory uuid), found working files (recordPath directory uuid)⟩] result

variable {home working place : Place} {directory : String} {record : Cluster} {uuid : Uuid}
  {files after : Texts} {work work' : Work (Except StorageFault Unit)} {event : Option Host.Event}
  {placed : Bool} {old : Option String} {start before scene next : Scene} {moves past : List Move} {move : Move}

/-- What is left of keeping a record once its draft has been moved, or could not be. -/
def afterMove (directory : String) (record : Cluster) :
    Except SystemError Unit → HostProgram (Except StorageFault Unit)
  | .error cause => .done (.error (.write (recordPath directory record.uuid) cause))
  | .ok () => .done (.ok ())

def afterDraft (directory : String) (record : Cluster) :
    Except SystemError Unit → HostProgram (Except StorageFault Unit)
  | .error cause => .done (.error (.write (draftPath directory record.uuid) cause))
  | .ok () => .ask (.moveFile (draftPath directory record.uuid) (recordPath directory record.uuid))
      (afterMove directory record)

def afterDirectory (directory : String) (record : Cluster) :
    Except SystemError Unit → HostProgram (Except StorageFault Unit)
  | .error cause => .done (.error (.makeDirectory directory cause))
  | .ok () => .ask (.writeText (draftPath directory record.uuid) record.stored) (afterDraft directory record)

theorem save_eq (directory : String) (record : Cluster) :
    save directory record = .ask (.makeDirectories directory) (afterDirectory directory record) := by
  refine congrArg (Program.ask (Request.makeDirectories directory)) (funext fun made => ?_)
  rcases made with cause | ⟨⟨⟩⟩
  · rfl
  · refine congrArg (Program.ask (Request.writeText _ _)) (funext fun wrote => ?_)
    rcases wrote with cause | ⟨⟨⟩⟩
    · rfl
    · refine congrArg (Program.ask (Request.moveFile _ _)) (funext fun moved => ?_)
      rcases moved with cause | ⟨⟨⟩⟩ <;> rfl

/-- How far the keeping of a record has got, what its draft holds by then, and whether the record is
in its place. -/
inductive Phase (directory : String) (record : Cluster) :
    Work (Except StorageFault Unit) → Option String → Bool → Prop where
  | started {draft : Option String} :
      Phase directory record (.ready (.ask (.makeDirectories directory) (afterDirectory directory record)))
        draft false
  | prepared {draft : Option String} :
      Phase directory record (.ready (.ask (.writeText (draftPath directory record.uuid) record.stored)
        (afterDraft directory record))) draft false
  | writing {count : Nat} :
      Phase directory record (.writing (draftPath directory record.uuid) record.stored count
        (afterDraft directory record)) (beginning record.stored count) false
  | drafted :
      Phase directory record (.ready (.ask (.moveFile (draftPath directory record.uuid)
        (recordPath directory record.uuid)) (afterMove directory record))) (some record.stored) false
  | kept {draft : Option String} : Phase directory record (.ready (.done (.ok ()))) draft true
  | failed {draft : Option String} {fault : StorageFault} :
      Phase directory record (.ready (.done (.error fault))) draft false

/-- A move in the keeping of a record changes its draft and its place only. The place is changed by
the move of the finished draft and by nothing else. -/
theorem Phase.advance (phase : Phase directory record work (files (draftPlace home record.uuid)) placed)
    (at_home : placeOf working directory = home) (moves : Advances home working files work event after work') :
    Phase directory record work' (after (draftPlace home record.uuid)) (placed || moved event) ∧
      after (recordPlace home record.uuid) =
        (if moved event then some record.stored else files (recordPlace home record.uuid)) ∧
      ∀ place, place ≠ draftPlace home record.uuid → place ≠ recordPlace home record.uuid →
        after place = files place := by
  have draftAt : placeOf working (draftPath directory record.uuid) = draftPlace home record.uuid := by
    rw [placeOf_draftPath, at_home]
  have recordAt : placeOf working (recordPath directory record.uuid) = recordPlace home record.uuid := by
    rw [placeOf_recordPath, at_home]
  have apart : recordPlace home record.uuid ≠ draftPlace home record.uuid :=
    (draftPlace_ne_recordPlace home record.uuid record.uuid).symm
  -- whatever a draft is replaced by, nothing else is
  have draft_only : ∀ text, Function.update files (draftPlace home record.uuid) text
        (recordPlace home record.uuid) = files (recordPlace home record.uuid) ∧
      ∀ place, place ≠ draftPlace home record.uuid → place ≠ recordPlace home record.uuid →
        Function.update files (draftPlace home record.uuid) text place = files place :=
    fun text => ⟨Function.update_of_ne apart .., fun place other _ => Function.update_of_ne other ..⟩
  generalize drafted : files (draftPlace home record.uuid) = draft at phase
  cases phase with
  | started =>
    cases moves with
    | answered answer whole reacts =>
      obtain rfl : after = files := reacts
      rcases answer with cause | ⟨⟨⟩⟩
      · exact ⟨.failed, rfl, fun _ _ _ => rfl⟩
      · exact ⟨.prepared, rfl, fun _ _ _ => rfl⟩
  | prepared =>
    cases moves with
    | answered answer whole reacts => exact absurd rfl (whole _ _)
    | refused cause => exact ⟨.failed, rfl, fun _ _ _ => rfl⟩
    | opened =>
      rw [draftAt, Function.update_self]
      exact ⟨.writing, draft_only _⟩
  | writing =>
    cases moves with
    | wrote further within =>
      rw [draftAt, Function.update_self]
      exact ⟨.writing, draft_only _⟩
    | closed =>
      rw [drafted, beginning_all]
      exact ⟨.drafted, rfl, fun _ _ _ => rfl⟩
    | broke cause => exact ⟨.failed, rfl, fun _ _ _ => rfl⟩
  | drafted =>
    cases moves with
    | answered answer whole reacts =>
      rcases answer with cause | ⟨⟨⟩⟩
      · obtain rfl : after = files := reacts
        exact ⟨.failed, rfl, fun _ _ _ => rfl⟩
      · obtain ⟨text, there, rfl⟩ := reacts
        rw [draftAt] at there ⊢
        rw [recordAt]
        rw [drafted] at there
        obtain rfl := Option.some.inj there
        refine ⟨.kept, Function.update_self .., fun place notDraft notRecord => ?_⟩
        rw [Function.update_of_ne notRecord, Function.update_of_ne notDraft]
  | kept => cases moves
  | failed => cases moves

theorem Phase.finished {draft : Option String} {result : Except StorageFault Unit}
    (phase : Phase directory record (.ready (.done result)) draft placed) : result = .ok () ↔ placed = true := by
  cases phase with
  | kept => simp
  | failed => simp

def Move.subject : Move → Uuid
  | .begun uuid => uuid
  | .advanced uuid _ => uuid
  | .ended uuid _ => uuid
  | .died uuid => uuid

/-- Whatever is in flight for a cluster is the keeping of one of its records, in some phase. -/
def Sound (home : Place) (scene : Scene) : Prop := ∀ uuid saving, scene.flying uuid = some saving →
  placeOf saving.working saving.directory = home ∧ saving.record.uuid = uuid ∧
    ∃ placed, Phase saving.directory saving.record saving.work (scene.files (draftPlace home uuid)) placed

theorem Step.elsewhere (sound : Sound home before) (step : Step home before move scene)
    (other : uuid ≠ move.subject) :
    scene.files (recordPlace home uuid) = before.files (recordPlace home uuid) ∧
      scene.files (draftPlace home uuid) = before.files (draftPlace home uuid) ∧
      scene.flying uuid = before.flying uuid := by
  cases step with
  | begins free at_home => exact ⟨rfl, rfl, Function.update_of_ne other ..⟩
  | @advances uuid' saving event files work flies moves =>
    obtain ⟨at_home, own, placed, phase⟩ := sound uuid' saving flies
    subst own
    obtain ⟨-, -, only⟩ := phase.advance at_home moves
    have record := only (recordPlace home uuid) (draftPlace_ne_recordPlace home _ _).symm
      fun same => other (recordPlace_injective same)
    have draft := only (draftPlace home uuid) (fun same => other (draftPlace_injective same))
      (draftPlace_ne_recordPlace home _ _)
    exact ⟨record, draft, Function.update_of_ne other ..⟩
  | ends flies finished => exact ⟨rfl, rfl, Function.update_of_ne other ..⟩
  | dies flies => exact ⟨rfl, rfl, Function.update_of_ne other ..⟩

theorem Step.sound (sound : Sound home before) (step : Step home before move scene) : Sound home scene := by
  intro uuid saving flies
  by_cases own : uuid = move.subject
  · subst own
    cases step with
    | begins free at_home =>
      obtain rfl : _ = saving := Option.some.inj (by simpa [Scene.begin, Scene.setFlying, Move.subject] using flies)
      refine ⟨at_home, rfl, false, ?_⟩
      rw [save_eq]
      exact .started
    | @advances uuid earlier event files work flew moves =>
      obtain rfl : _ = saving := Option.some.inj (by simpa [Move.subject] using flies)
      obtain ⟨at_home, same, placed, phase⟩ := sound uuid earlier flew
      subst same
      exact ⟨at_home, rfl, _, (phase.advance at_home moves).1⟩
    | ends flew finished => simp [Scene.setFlying, Move.subject] at flies
    | dies flew => simp [Scene.setFlying, Move.subject] at flies
  · obtain ⟨-, draft, flying⟩ := step.elsewhere sound own
    rw [flying] at flies
    rw [draft]
    exact sound uuid saving flies

theorem Run.sound (quiet : Sound home start) (run : Run home start moves scene) : Sound home scene := by
  induction run with
  | nil => exact quiet
  | cons earlier step ih => exact step.sound ih

theorem Run.idle (sound : Sound home before) (run : Run home before moves scene)
    (free : before.flying uuid = none) (unbegun : .begun uuid ∉ moves) :
    scene.flying uuid = none ∧ scene.files (recordPlace home uuid) = before.files (recordPlace home uuid) := by
  induction run with
  | nil => exact ⟨free, rfl⟩
  | @cons moves move between scene earlier step ih =>
    obtain ⟨grounded, same⟩ := ih fun member => unbegun (List.mem_cons_of_mem _ member)
    have other : uuid ≠ move.subject := by
      intro own
      subst own
      cases step with
      | begins => exact unbegun (List.mem_cons_self ..)
      | advances flies => exact Option.some_ne_none _ (flies.symm.trans grounded)
      | ends flies => exact Option.some_ne_none _ (flies.symm.trans grounded)
      | dies flies => exact Option.some_ne_none _ (flies.symm.trans grounded)
    obtain ⟨files, -, flying⟩ := step.elsewhere (earlier.sound sound) other
    exact ⟨flying.trans grounded, files.trans same⟩

theorem placed_cons : Placed uuid (move :: moves) ↔
    (∃ event, move = .advanced uuid event ∧ moved event = true) ∨ Placed uuid moves := by
  unfold Placed
  constructor
  · intro way
    obtain ⟨event, member, placing⟩ := way
    rcases List.mem_cons.1 member with same | earlier
    · exact .inl ⟨event, same.symm, placing⟩
    · exact .inr ⟨event, earlier, placing⟩
  · intro way
    rcases way with ⟨event, rfl, placing⟩ | ⟨event, earlier, placing⟩
    · exact ⟨event, List.mem_cons_self .., placing⟩
    · exact ⟨event, List.mem_cons_of_mem _ earlier, placing⟩

theorem placed_cons_of_ne (still : ∀ event, move ≠ .advanced uuid event) :
    Placed uuid (move :: moves) ↔ Placed uuid moves := by
  rw [placed_cons, or_iff_right]
  intro way
  obtain ⟨event, this, -⟩ := way
  exact still event this

/-- What holds of a cluster from the moment that the keeping of a record of it began. -/
structure Watched (home : Place) (record : Cluster) (old : Option String) (moves : List Move) (scene : Scene) :
    Prop where
  replaced : Placed record.uuid moves → scene.files (recordPlace home record.uuid) = some record.stored
  untouched : ¬ Placed record.uuid moves → scene.files (recordPlace home record.uuid) = old
  flying : ∀ saving, scene.flying record.uuid = some saving → saving.record = record ∧
    placeOf saving.working saving.directory = home ∧ ∃ placed,
      Phase saving.directory record saving.work (scene.files (draftPlace home record.uuid)) placed ∧
        (placed = true ↔ Placed record.uuid moves)
  ended : ∀ result, .ended record.uuid result ∈ moves →
    (result = .ok () ↔ Placed record.uuid moves) ∧ scene.flying record.uuid = none

theorem Watched.grounded {saving : Saving} (watched : Watched home record old moves before)
    (flies : before.flying record.uuid = some saving)
    (still : ∀ event, move ≠ .advanced record.uuid event)
    (ending : ∀ result, move = .ended record.uuid result → (result = .ok () ↔ Placed record.uuid moves)) :
    Watched home record old (move :: moves) (before.setFlying record.uuid none) := by
  have same : Placed record.uuid (move :: moves) ↔ Placed record.uuid moves := placed_cons_of_ne still
  have none := before.flying_setFlying record.uuid none
  constructor
  · rw [same]
    exact watched.replaced
  · rw [same]
    exact watched.untouched
  · intro saving' flying
    rw [none] at flying
    cases flying
  · intro result finished
    rw [same]
    rcases List.mem_cons.1 finished with this | earlier
    · exact ⟨ending result this.symm, none⟩
    · exact absurd ((watched.ended result earlier).2.symm.trans flies) nofun

theorem Watched.step (watched : Watched home record old moves before) (sound : Sound home before)
    (step : Step home before move scene) (unbegun : move ≠ .begun record.uuid) :
    Watched home record old (move :: moves) scene := by
  by_cases own : record.uuid = move.subject
  · cases step with
    | begins => exact absurd (congrArg Move.begun own.symm) unbegun
    | @advances uuid saving event files work flies moves' =>
      obtain rfl : record.uuid = uuid := own
      obtain ⟨same, at_home, placed, phase, placing⟩ := watched.flying saving flies
      obtain ⟨later, stored, -⟩ := phase.advance at_home moves'
      have now : Placed record.uuid (.advanced record.uuid event :: moves) ↔
          moved event = true ∨ Placed record.uuid moves := by
        rw [placed_cons]
        simp
      constructor
      · intro placed
        by_cases this : moved event = true
        · simpa [this] using stored
        · rw [now, or_iff_right this] at placed
          simpa [this, watched.replaced placed] using stored
      · intro unplaced
        rw [now, not_or] at unplaced
        simpa [unplaced.1, watched.untouched unplaced.2] using stored
      · intro saving' flying
        obtain rfl : _ = saving' := Option.some.inj (by simpa using flying)
        refine ⟨same, at_home, _, later, ?_⟩
        rw [now, Bool.or_eq_true, placing, or_comm]
      · intro result finished
        rcases List.mem_cons.1 finished with wrong | earlier
        · cases wrong
        · exact absurd ((watched.ended result earlier).2.symm.trans flies) nofun
    | @ends uuid saving result flies finished =>
      obtain rfl : record.uuid = uuid := own
      obtain ⟨-, -, placed, phase, placing⟩ := watched.flying saving flies
      rw [finished] at phase
      refine watched.grounded flies (by simp) fun result' ending => ?_
      obtain rfl := (Move.ended.inj ending).2
      rw [← placing]
      exact phase.finished
    | @dies uuid saving flies =>
      obtain rfl : record.uuid = uuid := own
      exact watched.grounded flies (by simp) (by simp)
  · obtain ⟨stored, draft, flying⟩ := step.elsewhere sound own
    have same : Placed record.uuid (move :: moves) ↔ Placed record.uuid moves :=
      placed_cons_of_ne fun event this => own (congrArg Move.subject this).symm
    constructor
    · rw [same, stored]
      exact watched.replaced
    · rw [same, stored]
      exact watched.untouched
    · rw [same, draft, flying]
      exact watched.flying
    · intro result finished
      rw [same, flying]
      rcases List.mem_cons.1 finished with wrong | earlier
      · exact absurd (congrArg Move.subject wrong) own
      · exact watched.ended result earlier

theorem Run.watched (sound : Sound home (before.begin working directory record))
    (run : Run home (before.begin working directory record) moves scene)
    (at_home : placeOf working directory = home) (alone : .begun record.uuid ∉ moves) :
    Watched home record (before.files (recordPlace home record.uuid)) moves scene := by
  induction run with
  | nil =>
    have unplaced : ¬ Placed record.uuid [] := by simp [Placed]
    refine ⟨fun placed => absurd placed unplaced, fun _ => rfl, ?_, nofun⟩
    intro saving flying
    obtain rfl : _ = saving := Option.some.inj (by simpa [Scene.begin, Scene.setFlying] using flying)
    refine ⟨rfl, at_home, false, ?_, by simp [unplaced]⟩
    rw [save_eq]
    exact .started
  | cons earlier step ih =>
    have watched := ih fun member => alone (List.mem_cons_of_mem _ member)
    refine watched.step (earlier.sound sound) step ?_
    intro begun
    exact alone (begun ▸ List.mem_cons_self ..)

variable {result : Except StorageFault Cluster}

theorem loads_iff : Loads working directory uuid files result ↔ result =
    match found working files (recordPath directory uuid) with
    | .ok text => check (recordPath directory uuid) uuid text
    | .error cause => .error (.read (recordPath directory uuid) cause) := by
  unfold Loads
  generalize found working files (recordPath directory uuid) = answer
  rw [yields_load]
  constructor
  · intro way
    rcases way with ⟨text, same, rfl⟩ | ⟨cause, same, rfl⟩
    · cases same
      rfl
    · cases same
      rfl
  · intro same
    cases answer with
    | ok text => exact .inl ⟨text, rfl, same⟩
    | error cause => exact .inr ⟨cause, rfl, same⟩

theorem loads_congr (at_home : placeOf working directory = home)
    (same : files (recordPlace home uuid) = after (recordPlace home uuid)) :
    Loads working directory uuid files result ↔ Loads working directory uuid after result := by
  have finds : found working files (recordPath directory uuid) = found working after (recordPath directory uuid) := by
    rw [found, found, placeOf_recordPath, at_home, same]
  rw [Loads, Loads, finds]

theorem loads_stored (at_home : placeOf working directory = home)
    (stored : files (recordPlace home record.uuid) = some record.stored) :
    Loads working directory record.uuid files result ↔ result = .ok record := by
  have finds : found working files (recordPath directory record.uuid) = .ok record.stored := by
    rw [found, placeOf_recordPath, at_home, stored]
  have checked : check (recordPath directory record.uuid) record.uuid record.stored = .ok record := by
    rw [check, Cluster.ofStored?_stored]
    exact if_pos rfl
  rw [loads_iff, finds, ← checked]

/-- Whatever has been in flight before, when the keeping of a record begins, and however it goes on
together with that of other records: until its draft is moved into place, the same is loaded as before
it began, and from then on the new record. It ends well exactly if that has happened. For a cluster
without anything in flight the same is loaded as before, too. -/
theorem loads_old_or_new (quiet : ∀ uuid, start.flying uuid = none) (earlier : Run home start past before) :
    (∀ uuid moves scene, before.flying uuid = none → Run home before moves scene → .begun uuid ∉ moves →
      ∀ reader directory, placeOf reader directory = home → ∀ result,
        (Loads reader directory uuid scene.files result ↔ Loads reader directory uuid before.files result)) ∧
    ∀ working directory record moves scene, before.flying record.uuid = none → placeOf working directory = home →
      Run home (before.begin working directory record) moves scene → .begun record.uuid ∉ moves →
      (∀ reader directory, placeOf reader directory = home → ∀ result,
        (¬ Placed record.uuid moves → (Loads reader directory record.uuid scene.files result ↔
          Loads reader directory record.uuid before.files result)) ∧
        (Placed record.uuid moves → (Loads reader directory record.uuid scene.files result ↔ result = .ok record))) ∧
      ∀ result, .ended record.uuid result ∈ moves → (result = .ok () ↔ Placed record.uuid moves) := by
  have sound : Sound home before := by
    refine earlier.sound ?_
    intro uuid saving flying
    rw [quiet] at flying
    cases flying
  constructor
  · intro uuid moves scene free run unbegun reader directory at_home result
    exact loads_congr at_home (run.idle sound free unbegun).2
  · intro working directory record moves scene free at_home run alone
    have begins : Step home before (.begun record.uuid) (before.begin working directory record) :=
      .begins free at_home
    have watched := run.watched (begins.sound sound) at_home alone
    refine ⟨?_, fun result finished => (watched.ended result finished).1⟩
    intro reader directory' reader_home result
    exact ⟨fun unplaced => loads_congr reader_home (watched.untouched unplaced),
      fun placed => loads_stored reader_home (watched.replaced placed)⟩

theorem Run.advance (run : Run home start moves scene)
    (flies : scene.flying record.uuid = some ⟨working, directory, record, work⟩)
    (moved : Advances home working scene.files work event files work') :
    ∃ next, Run home start (.advanced record.uuid event :: moves) next ∧ next.files = files ∧
      next.flying record.uuid = some ⟨working, directory, record, work'⟩ :=
  ⟨_, run.cons (.advances flies moved), rfl, Function.update_self ..⟩

theorem Run.append (first : Run home start past before) (second : Run home before moves scene) :
    Run home start (moves ++ past) scene := by
  induction second with
  | nil => exact first
  | cons earlier step ih => exact ih.cons step

theorem exists_opened (start : Scene) (home working : Place) (directory : String) (record : Cluster) :
    ∃ scene, Run home (start.begin working directory record)
        [.advanced record.uuid none, .advanced record.uuid (some ⟨.makeDirectories directory, .ok ()⟩)] scene ∧
      scene.flying record.uuid = some ⟨working, directory, record,
        .writing (draftPath directory record.uuid) record.stored 0 (afterDraft directory record)⟩ := by
  have began : (start.begin working directory record).flying record.uuid =
      some ⟨working, directory, record, .ready (.ask (.makeDirectories directory) (afterDirectory directory record))⟩ := by
    rw [← save_eq]
    exact Function.update_self ..
  have makes : Advances home working start.files
      (.ready (.ask (.makeDirectories directory) (afterDirectory directory record)))
      (some ⟨.makeDirectories directory, .ok ()⟩) start.files
      (.ready (afterDirectory directory record (.ok ()))) := .answered _ nofun rfl
  obtain ⟨made, run, -, prepared⟩ := Run.nil.advance began makes
  obtain ⟨opened, run, -, writing⟩ := run.advance prepared .opened
  exact ⟨opened, run, writing⟩

theorem exists_placed (start : Scene) (home working : Place) (directory : String) (record : Cluster) :
    ∃ moves scene, Run home (start.begin working directory record) moves scene ∧
      .begun record.uuid ∉ moves ∧ .ended record.uuid (.ok ()) ∈ moves := by
  obtain ⟨opened, run, writing⟩ := exists_opened start home working directory record
  obtain ⟨full, run, files, writing⟩ := run.advance writing (.wrote (Nat.zero_le _) le_rfl)
  obtain ⟨closed, run, same, drafted⟩ := run.advance writing .closed
  have there : closed.files (placeOf working (draftPath directory record.uuid)) = some record.stored := by
    rw [same, files, Function.update_self, beginning_all]
  have moves : ∃ after, Advances home working closed.files
      (.ready (.ask (.moveFile (draftPath directory record.uuid) (recordPath directory record.uuid))
        (afterMove directory record)))
      (some ⟨.moveFile (draftPath directory record.uuid) (recordPath directory record.uuid), .ok ()⟩) after
      (.ready (afterMove directory record (.ok ()))) := ⟨_, .answered _ nofun ⟨_, there, rfl⟩⟩
  obtain ⟨after, moves⟩ := moves
  obtain ⟨moved, run, -, kept⟩ := run.advance drafted moves
  exact ⟨_, _, run.cons (.ends kept rfl), by simp, List.mem_cons_self ..⟩

def atRest (home : Place) (record : Cluster) : Scene :=
  ⟨fun place => if place = recordPlace home record.uuid then some record.stored else none, fun _ => none⟩

theorem atRest_stored (home : Place) (record : Cluster) :
    (atRest home record).files (recordPlace home record.uuid) = some record.stored := if_pos rfl

/-- An update dies in the middle of its draft, and a deletion goes well after that. -/
theorem loads_old_or_new_retried :
    ∃ past before moves scene, (∀ uuid, (atRest (placeOf [] "state") quoted).flying uuid = none) ∧
      Run (placeOf [] "state") (atRest (placeOf [] "state") quoted) past before ∧
      .died quoted.uuid ∈ past ∧ before.flying quoted.uuid = none ∧
      (∀ result, Loads [] "state" quoted.uuid before.files result ↔ result = .ok quoted) ∧
      Run (placeOf [] "state") (before.begin [] "state" (quoted.armed .delete)) moves scene ∧
      .begun quoted.uuid ∉ moves ∧
      ∀ result, Loads [] "state" quoted.uuid scene.files result ↔ result = .ok (quoted.armed .delete) := by
  have quiet : ∀ uuid, (atRest (placeOf [] "state") quoted).flying uuid = none := fun _ => rfl
  have own : ∀ operation, (quoted.armed operation).uuid = quoted.uuid := fun _ => rfl
  obtain ⟨opened, run, writing⟩ :=
    exists_opened (atRest (placeOf [] "state") quoted) (placeOf [] "state") [] "state" (quoted.armed .update)
  have died := run.cons (.dies writing)
  have past := (Run.nil.cons (.begins (quiet _) rfl)).append died
  have tried := (loads_old_or_new quiet .nil).2 [] "state" (quoted.armed .update) _ _ (quiet _) rfl died
    (by simp)
  have grounded := opened.flying_setFlying quoted.uuid none
  obtain ⟨moves, scene, again, alone, well⟩ := exists_placed
    (opened.setFlying quoted.uuid none) (placeOf [] "state") [] "state" (quoted.armed .delete)
  have kept := (loads_old_or_new quiet past).2 [] "state" (quoted.armed .delete) moves scene grounded rfl again alone
  rw [own] at tried past alone well kept
  have unplaced : ¬ Placed quoted.uuid [.died quoted.uuid, .advanced quoted.uuid none,
      .advanced quoted.uuid (some ⟨.makeDirectories "state", .ok ()⟩)] := by
    simp [Placed, moved]
  refine ⟨_, _, moves, scene, quiet, past, by simp, grounded, ?_, again, alone, ?_⟩
  · intro result
    have same := (tried.1 [] "state" rfl result).1 unplaced
    exact same.trans (loads_stored rfl (atRest_stored _ quoted))
  · intro result
    exact (kept.1 [] "state" rfl result).2 ((kept.2 _ well).1 rfl)

end ClusterLifecycle.StateDirectory
