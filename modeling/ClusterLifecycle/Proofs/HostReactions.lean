import ClusterLifecycle.Host.World
import ClusterLifecycle.Proofs.FileTexts
import ClusterLifecycle.Proofs.Interaction

/-!
A host on which anything may fail at any time: what may come of each request, and what that does to
the texts in the files. The tools answer as they like and may change whatever files they like, the
records of one state directory apart. The host as a value is one of these.
-/

namespace ClusterLifecycle.Host

open Program FileSystem StateDirectory

abbrev Event := Program.Event Request.Answer

/-- What may happen to the texts in the files. A failed write leaves anything in the place of the
file, and a failed move nothing. -/
def Reacts (home working : Place) (before after : Texts) : Event → Prop
  | ⟨.readText path, .ok text⟩ => before (placeOf working path) = some text ∧ after = before
  | ⟨.readText _, .error _⟩ => after = before
  | ⟨.makeDirectories _, _⟩ => after = before
  | ⟨.writeText path text, .ok ()⟩ => after = Function.update before (placeOf working path) (some text)
  | ⟨.writeText path _, .error _⟩ => ∃ left, after = Function.update before (placeOf working path) left
  | ⟨.moveFile source target, .ok ()⟩ => ∃ text, before (placeOf working source) = some text ∧
    after = Function.update (Function.update before (placeOf working source) none)
      (placeOf working target) (some text)
  | ⟨.moveFile _ _, .error _⟩ => after = before
  | ⟨.openTemplates _, _⟩ => after = before
  | ⟨.run _, _⟩ => ∀ uuid, after (recordPlace home uuid) = before (recordPlace home uuid)
  | ⟨.print _, _⟩ => after = before

def Reacted (home working : Place) : List Event → Texts → Texts → Prop
  | [], before, after => after = before
  | event :: rest, before, after =>
    ∃ between, Reacts home working before between event ∧ Reacted home working rest between after

variable {home working : Place} {before after : Texts} {events : List Event}

theorem reacted_append {first second : List Event} :
    Reacted home working (first ++ second) before after ↔
      ∃ between, Reacted home working first before between ∧ Reacted home working second between after := by
  induction first generalizing before with
  | nil => simp [Reacted]
  | cons event rest ih =>
    simp only [List.cons_append, Reacted, ih]
    constructor
    · intro reacted
      obtain ⟨next, reacts, between, front, back⟩ := reacted
      exact ⟨between, ⟨next, reacts, front⟩, back⟩
    · intro reacted
      obtain ⟨between, ⟨next, reacts, front⟩, back⟩ := reacted
      exact ⟨next, reacts, between, front, back⟩

def Request.writes : Request → Bool
  | .writeText _ _ => true
  | .moveFile _ _ => true
  | _ => false

def Quiet (events : List Event) : Prop := ∀ event ∈ events, event.1.writes = false

theorem quiet_nil : Quiet [] := by
  intro event member
  cases member

theorem quiet_append {first second : List Event} (front : Quiet first) (back : Quiet second) :
    Quiet (first ++ second) := by
  intro event member
  rcases List.mem_append.1 member with early | late
  · exact front event early
  · exact back event late

theorem reacts_quiet {event : Event} (quiet : event.1.writes = false)
    (reacts : Reacts home working before after event) (uuid : Uuid) :
    after (recordPlace home uuid) = before (recordPlace home uuid) := by
  obtain ⟨request, answer⟩ := event
  cases request with
  | readText path =>
    cases answer with
    | ok text => exact congrFun reacts.2 _
    | error fault => exact congrFun reacts _
  | makeDirectories path => exact congrFun reacts _
  | writeText path text => cases quiet
  | moveFile source target => cases quiet
  | openTemplates path => exact congrFun reacts _
  | run command => exact reacts uuid
  | print text => exact congrFun reacts _

theorem reacted_quiet (quiet : Quiet events) (reacted : Reacted home working events before after)
    (uuid : Uuid) : after (recordPlace home uuid) = before (recordPlace home uuid) := by
  induction events generalizing before with
  | nil => exact congrFun reacted _
  | cons event rest ih =>
    obtain ⟨between, reacts, later⟩ := reacted
    have first := reacts_quiet (quiet event (List.mem_cons_self ..)) reacts uuid
    have others := ih (fun other member => quiet other (List.mem_cons_of_mem _ member)) later
    rw [others, first]

theorem read_quiet (quiet : Quiet events) (reacted : Reacted home working events before after)
    {path text : String} {uuid : Uuid} (record : placeOf working path = recordPlace home uuid)
    (read : ⟨.readText path, .ok text⟩ ∈ events) : before (recordPlace home uuid) = some text := by
  induction events generalizing before with
  | nil => cases read
  | cons event rest ih =>
    obtain ⟨between, reacts, later⟩ := reacted
    rcases List.mem_cons.1 read with rfl | further
    · rw [← record]
      exact reacts.1
    · rw [← reacts_quiet (quiet event (List.mem_cons_self ..)) reacts uuid]
      exact ih (fun other member => quiet other (List.mem_cons_of_mem _ member)) later further

variable {execute : Execution}

/-- A host as a value reacts in one of these ways if its tools leave the records alone. -/
theorem reacts_answer
    (leaves : ∀ command working (files : FileSystem) uuid,
      (execute command working files).2.texts (recordPlace home uuid) = files.texts (recordPlace home uuid))
    (request : Request) (world : World) :
    Reacts home world.working world.files.texts (world.answer execute request).2.files.texts
      ⟨request, (world.answer execute request).1⟩ := by
  cases request with
  | readText path =>
    cases read : world.files.read world.working path with
    | ok text => simpa [World.answer, read, Reacts] using texts_read read
    | error fault => simp [World.answer, read, Reacts]
  | makeDirectories path => exact texts_makeDirectories world.files world.working path
  | writeText path text =>
    cases written : world.files.write world.working path text with
    | ok files => simpa [World.answer, World.changed, written, Reacts] using texts_write written
    | error fault =>
      simp only [World.answer, World.changed, written, Reacts]
      exact ⟨_, (Function.update_eq_self _ _).symm⟩
  | moveFile source target =>
    cases moved : world.files.moveFile world.working source target with
    | ok files => simpa [World.answer, World.changed, moved, Reacts] using texts_moveFile moved
    | error fault => simp [World.answer, World.changed, moved, Reacts]
  | openTemplates path => rfl
  | run command => exact leaves command world.working world.files
  | print text => rfl

theorem answer_working (request : Request) (world : World) :
    (world.answer execute request).2.working = world.working := by
  cases request with
  | writeText path text =>
    cases written : world.files.write world.working path text <;> simp [World.answer, World.changed, written]
  | moveFile source target =>
    cases moved : world.files.moveFile world.working source target <;>
      simp [World.answer, World.changed, moved]
  | readText path => rfl
  | makeDirectories path => rfl
  | openTemplates path => rfl
  | run command => rfl
  | print text => rfl

theorem reacted_trace {α : Type}
    (leaves : ∀ command working (files : FileSystem) uuid,
      (execute command working files).2.texts (recordPlace home uuid) = files.texts (recordPlace home uuid))
    (program : HostProgram α) (world : World) :
    Reacted home world.working (program.trace (fun request world => world.answer execute request) world)
      world.files.texts
      (program.run (fun request world => world.answer execute request) world).2.files.texts := by
  induction program generalizing world with
  | done value => rfl
  | ask request next ih =>
    have first := reacts_answer leaves request world
    have others := ih (world.answer execute request).1 (world.answer execute request).2
    rw [answer_working] at others
    exact ⟨_, first, others⟩

end ClusterLifecycle.Host
