import ClusterLifecycle.Proofs.HostReactions
import ClusterLifecycle.Proofs.RecordRoundTrip

/-!
What keeping and loading a record does on a host. Only a record that has been kept changes what is
in the place of a record, and only in its own place.
-/

namespace ClusterLifecycle.StateDirectory

open Program Host FileSystem

variable {directory : String} {cluster : Cluster} {events : List Event}

def keeping (directory : String) (cluster : Cluster) : List Event :=
  [⟨.makeDirectories directory, .ok ()⟩,
    ⟨.writeText (draftPath directory cluster.uuid) cluster.stored, .ok ()⟩,
    ⟨.moveFile (draftPath directory cluster.uuid) (recordPath directory cluster.uuid), .ok ()⟩]

theorem yields_save {result : Except StorageFault Unit} :
    (save directory cluster).Yields events result ↔
      (events = keeping directory cluster ∧ result = .ok ()) ∨
      (∃ cause, events = [⟨.makeDirectories directory, .error cause⟩] ∧
        result = .error (.makeDirectory directory cause)) ∨
      (∃ cause, events = [⟨.makeDirectories directory, .ok ()⟩,
          ⟨.writeText (draftPath directory cluster.uuid) cluster.stored, .error cause⟩] ∧
        result = .error (.write (draftPath directory cluster.uuid) cause)) ∨
      ∃ cause, events = [⟨.makeDirectories directory, .ok ()⟩,
          ⟨.writeText (draftPath directory cluster.uuid) cluster.stored, .ok ()⟩,
          ⟨.moveFile (draftPath directory cluster.uuid) (recordPath directory cluster.uuid), .error cause⟩] ∧
        result = .error (.write (recordPath directory cluster.uuid) cause) := by
  unfold save
  constructor
  · intro run
    obtain ⟨made, _, rfl, afterMade⟩ := yields_ask.1 run
    cases made with
    | error cause =>
      obtain ⟨rfl, rfl⟩ := yields_done.1 afterMade
      exact .inr (.inl ⟨cause, rfl, rfl⟩)
    | ok value =>
      obtain ⟨written, _, rfl, afterWritten⟩ := yields_ask.1 afterMade
      cases written with
      | error cause =>
        obtain ⟨rfl, rfl⟩ := yields_done.1 afterWritten
        exact .inr (.inr (.inl ⟨cause, rfl, rfl⟩))
      | ok value =>
        obtain ⟨moved, _, rfl, afterMoved⟩ := yields_ask.1 afterWritten
        cases moved with
        | error cause =>
          obtain ⟨rfl, rfl⟩ := yields_done.1 afterMoved
          exact .inr (.inr (.inr ⟨cause, rfl, rfl⟩))
        | ok value =>
          obtain ⟨rfl, rfl⟩ := yields_done.1 afterMoved
          exact .inl ⟨rfl, rfl⟩
  · intro way
    rcases way with ⟨rfl, rfl⟩ | ⟨cause, rfl, rfl⟩ | ⟨cause, rfl, rfl⟩ | ⟨cause, rfl, rfl⟩
    · exact .ask _ (.ask _ (.ask _ (.done _)))
    · exact .ask _ (.done _)
    · exact .ask _ (.ask _ (.done _))
    · exact .ask _ (.ask _ (.ask _ (.done _)))

theorem not_moved_of_failed {fault : StorageFault}
    (run : (save directory cluster).Yields events (.error fault)) (source target : String) :
    ⟨.moveFile source target, .ok ()⟩ ∉ events := by
  intro moved
  rcases yields_save.1 run with ⟨-, wrong⟩ | ⟨cause, rfl, -⟩ | ⟨cause, rfl, -⟩ | ⟨cause, rfl, -⟩
  · cases wrong
  · cases moved with
    | tail _ moved => cases moved
  · cases moved with
    | tail _ moved => cases moved with
      | tail _ moved => cases moved
  · cases moved with
    | tail _ moved => cases moved with
      | tail _ moved => cases moved with
        | tail _ moved => cases moved

theorem stored_of_written {path text : String}
    (written : ⟨.writeText path text, .ok ()⟩ ∈ keeping directory cluster) : text = cluster.stored := by
  cases written with
  | tail _ written => cases written with
    | head => rfl
    | tail _ written => cases written with
      | tail _ written => cases written

theorem yields_load {uuid : Uuid} {result : Except StorageFault Cluster} :
    (load directory uuid).Yields events result ↔
      (∃ text, events = [⟨.readText (recordPath directory uuid), .ok text⟩] ∧
        result = check (recordPath directory uuid) uuid text) ∨
      ∃ cause, events = [⟨.readText (recordPath directory uuid), .error cause⟩] ∧
        result = .error (.read (recordPath directory uuid) cause) := by
  unfold load
  constructor
  · intro run
    obtain ⟨read, _, rfl, afterRead⟩ := yields_ask.1 run
    cases read with
    | error cause =>
      obtain ⟨rfl, rfl⟩ := yields_done.1 afterRead
      exact .inr ⟨cause, rfl, rfl⟩
    | ok text =>
      obtain ⟨rfl, rfl⟩ := yields_done.1 afterRead
      exact .inl ⟨text, rfl, rfl⟩
  · intro way
    rcases way with ⟨text, rfl, rfl⟩ | ⟨cause, rfl, rfl⟩
    · exact .ask _ (.done _)
    · exact .ask _ (.done _)

theorem check_eq_ok {path text : String} {uuid : Uuid} (checked : check path uuid text = .ok cluster) :
    Cluster.ofStored? text = some cluster ∧ cluster.uuid = uuid := by
  unfold check at checked
  split at checked
  · cases checked
  next found read =>
    split at checked
    next same =>
      obtain rfl := Except.ok.inj checked
      exact ⟨read, same⟩
    · cases checked

variable {home working : Place} {before after : Texts}

/-- Once a record has been kept it is in its place, and nothing else has changed in the places of
records. -/
theorem reacted_keeping (at_home : placeOf working directory = home)
    (reacted : Reacted home working (keeping directory cluster) before after) :
    after (recordPlace home cluster.uuid) = some cluster.stored ∧
      ∀ uuid, uuid ≠ cluster.uuid → after (recordPlace home uuid) = before (recordPlace home uuid) := by
  obtain ⟨_, rfl, _, rfl, _, ⟨text, drafted, rfl⟩, rfl⟩ := reacted
  rw [Function.update_self] at drafted
  obtain rfl := Option.some.inj drafted
  rw [placeOf_recordPath, placeOf_draftPath, at_home]
  constructor
  · rw [Function.update_self]
  · intro uuid other
    have apart : recordPlace home uuid ≠ recordPlace home cluster.uuid :=
      fun same => other (recordPlace_injective same)
    have notDraft := (draftPlace_ne_recordPlace home cluster.uuid uuid).symm
    rw [Function.update_of_ne apart, Function.update_of_ne notDraft, Function.update_of_ne notDraft]

theorem exists_reacted_keeping (directory : String) (cluster : Cluster) (before : Texts) :
    ∃ after, Reacted home working (keeping directory cluster) before after :=
  ⟨_, _, rfl, _, rfl, _, ⟨_, Function.update_self .., rfl⟩, rfl⟩

theorem reacted_failed_save (at_home : placeOf working directory = home) {fault : StorageFault}
    (run : (save directory cluster).Yields events (.error fault))
    (reacted : Reacted home working events before after) (uuid : Uuid) :
    after (recordPlace home uuid) = before (recordPlace home uuid) := by
  have drafts : ∀ (texts : Texts) left,
      Function.update texts (placeOf working (draftPath directory cluster.uuid)) left (recordPlace home uuid) =
        texts (recordPlace home uuid) := by
    intro texts left
    rw [placeOf_draftPath, at_home]
    exact Function.update_of_ne (draftPlace_ne_recordPlace home cluster.uuid uuid).symm ..
  rcases yields_save.1 run with ⟨-, wrong⟩ | ⟨cause, rfl, -⟩ | ⟨cause, rfl, -⟩ | ⟨cause, rfl, -⟩
  · cases wrong
  · obtain ⟨_, rfl, rfl⟩ := reacted
    rfl
  · obtain ⟨_, rfl, _, ⟨left, rfl⟩, rfl⟩ := reacted
    exact drafts _ left
  · obtain ⟨_, rfl, _, rfl, _, rfl, rfl⟩ := reacted
    exact drafts _ _

end ClusterLifecycle.StateDirectory
