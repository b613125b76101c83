import ClusterLifecycle.Proofs.Interaction
import ClusterLifecycle.Proofs.RecordPlaces
import Mathlib.Logic.Function.Basic

/-!
What stands in the files of a file system, place by place, and what the operations on it do to that.
Making directories changes no text at all, as it only puts directories where there was nothing.
-/

namespace ClusterLifecycle

abbrev Texts := Place → Option String

namespace FileSystem

def texts (fs : FileSystem) : Texts := fun place =>
  match fs.node? place with
  | some (.file content _) => some content
  | _ => none

/-- What a reader finds at a path while the files hold these texts. -/
def found (working : Place) (texts : Texts) (path : String) : Except SystemError String :=
  match texts (placeOf working path) with
  | some text => .ok text
  | none => .error .notFound

variable {fs after : FileSystem} {working place other : Place} {path content : String} {node : Node}

theorem lookup_filter_ne (nodes : List (Place × Node)) (different : other ≠ place) :
    (nodes.filter (·.1 ≠ place)).lookup other = nodes.lookup other := by
  induction nodes with
  | nil => rfl
  | cons entry rest ih =>
    obtain ⟨at_, node⟩ := entry
    by_cases removed : at_ = place
    · have skipped : (other == at_) = false := by simpa [removed] using different
      rw [List.filter_cons_of_neg (by simp [removed]), ih, List.lookup_cons, skipped]
    · rw [List.filter_cons_of_pos (by simp [removed]), List.lookup_cons, List.lookup_cons, ih]

theorem lookup_filter_self (nodes : List (Place × Node)) :
    (nodes.filter (·.1 ≠ place)).lookup place = none := by
  rw [List.lookup_eq_none_iff]
  intro entry member
  have kept : entry.1 ≠ place := of_decide_eq_true (List.mem_filter.1 member).2
  exact bne_iff_ne.2 kept.symm

theorem node?_remove_of_ne (fs : FileSystem) (different : other ≠ place) :
    (fs.remove place).node? other = fs.node? other := by
  rw [node?, node?, remove, lookup_filter_ne fs.nodes different]

theorem node?_put_of_ne (fs : FileSystem) (node : Node) (different : other ≠ place) :
    (fs.put place node).node? other = fs.node? other := by
  have skipped : (other == place) = false := by simpa using different
  rw [← node?_remove_of_ne fs different, node?, node?, put, List.lookup_cons, skipped]

theorem node?_put_self (somewhere : place ≠ []) : (fs.put place node).node? place = some node := by
  rw [node?, put, if_neg somewhere, List.lookup_cons_self]

theorem node?_remove_self (somewhere : place ≠ []) : (fs.remove place).node? place = none := by
  rw [node?, remove, if_neg somewhere, lookup_filter_self]

/-- The root is a directory, so whatever is anything else is somewhere below. -/
theorem ne_root (different : fs.node? place ≠ some .directory) : place ≠ [] := by
  intro same
  subst same
  exact different rfl

theorem texts_put_file (somewhere : place ≠ []) (executable : Bool) :
    (fs.put place (.file content executable)).texts = Function.update fs.texts place (some content) := by
  funext other
  by_cases same : other = place
  · rw [same, Function.update_self, texts, node?_put_self somewhere]
  · rw [Function.update_of_ne same, texts, node?_put_of_ne _ _ same, texts]

theorem texts_remove (somewhere : place ≠ []) :
    (fs.remove place).texts = Function.update fs.texts place none := by
  funext other
  by_cases same : other = place
  · rw [same, Function.update_self, texts, node?_remove_self somewhere]
  · rw [Function.update_of_ne same, texts, node?_remove_of_ne _ same, texts]

theorem texts_read (read : fs.read working path = .ok content) :
    fs.texts (placeOf working path) = some content := by
  obtain ⟨place, resolved, found⟩ := bind_eq_ok.1 read
  rw [← resolve_eq_ok resolved, texts]
  split at found
  · cases found
  · cases found
  next content' executable node =>
    rw [node]
    exact congrArg some (Except.ok.inj found)

theorem write_eq_ok (written : fs.write working path content = .ok after) :
    fs.node? (placeOf working path) ≠ some .directory ∧ ∃ executable,
      after = fs.put (placeOf working path) (.file content executable) := by
  obtain ⟨place, resolved, found⟩ := bind_eq_ok.1 written
  rw [← resolve_eq_ok resolved]
  split at found
  next empty => exact ⟨by rw [empty]; nofun, false, (Except.ok.inj found).symm⟩
  · cases found
  next content' executable node => exact ⟨by rw [node]; nofun, executable, (Except.ok.inj found).symm⟩

theorem moveFile_eq_ok {source target : String} (moved : fs.moveFile working source target = .ok after) :
    ∃ content executable, fs.node? (placeOf working source) = some (.file content executable) ∧
      fs.resolve working target = .ok (placeOf working target) ∧
      fs.node? (placeOf working target) ≠ some .directory ∧
      after = (fs.remove (placeOf working source)).put (placeOf working target) (.file content executable) := by
  obtain ⟨old, resolved, found⟩ := bind_eq_ok.1 moved
  rw [← resolve_eq_ok resolved]
  split at found
  · cases found
  · cases found
  next node notDirectory file =>
    obtain ⟨new, resolved', put⟩ := bind_eq_ok.1 found
    cases node with
    | directory => exact absurd rfl notDirectory
    | file content executable =>
      refine ⟨content, executable, file, ?_⟩
      rw [← resolve_eq_ok resolved']
      split at put
      · cases put
      next other => exact ⟨resolved', other, (Except.ok.inj put).symm⟩

theorem texts_write (written : fs.write working path content = .ok after) :
    after.texts = Function.update fs.texts (placeOf working path) (some content) := by
  obtain ⟨free, executable, rfl⟩ := write_eq_ok written
  exact texts_put_file (ne_root free) executable

theorem texts_moveFile {source target : String} (moved : fs.moveFile working source target = .ok after) :
    ∃ content, fs.texts (placeOf working source) = some content ∧
      after.texts = Function.update (Function.update fs.texts (placeOf working source) none)
        (placeOf working target) (some content) := by
  obtain ⟨content, executable, file, -, free, rfl⟩ := moveFile_eq_ok moved
  refine ⟨content, by rw [texts, file], ?_⟩
  rw [texts_put_file (ne_root free) executable, texts_remove (ne_root (by rw [file]; nofun))]

/-- A file system that has only got directories where there was nothing. -/
def Grown (before after : FileSystem) : Prop := ∀ place,
  after.node? place = before.node? place ∨ before.node? place = none ∧ after.node? place = some .directory

theorem Grown.refl (fs : FileSystem) : Grown fs fs := fun _ => .inl rfl

theorem Grown.trans {between : FileSystem} (first : Grown fs between) (second : Grown between after) :
    Grown fs after := by
  intro place
  rcases second place with same | ⟨empty, directory⟩
  · rw [same]
    exact first place
  · rcases first place with same | ⟨-, directory'⟩
    · exact .inr ⟨same ▸ empty, directory⟩
    · rw [directory'] at empty
      cases empty

theorem Grown.texts (grown : Grown fs after) : after.texts = fs.texts := by
  funext place
  rcases grown place with same | ⟨empty, directory⟩
  · rw [FileSystem.texts, FileSystem.texts, same]
  · rw [FileSystem.texts, FileSystem.texts, empty, directory]

theorem grown_put_directory (empty : fs.node? place = none) : Grown fs (fs.put place .directory) := by
  intro other
  by_cases same : other = place
  · subst same
    exact .inr ⟨empty, node?_put_self (ne_root (by rw [empty]; nofun))⟩
  · exact .inl (node?_put_of_ne fs .directory same)

theorem grown_makeDirectory (made : fs.makeDirectory working path = .ok after) : Grown fs after := by
  obtain ⟨place, resolved, found⟩ := bind_eq_ok.1 made
  split at found
  next empty =>
    obtain rfl := Except.ok.inj found
    exact grown_put_directory empty
  · cases found

theorem grown_ensureDirectory {above : FileSystem → Except SystemError Unit × FileSystem}
    (grows : ∀ fs, Grown fs (above fs).2) : Grown fs (ensureDirectory working path above fs).2 := by
  unfold ensureDirectory
  split
  next made => exact grown_makeDirectory made
  next =>
    split
    next fault between failed =>
      have first := grows fs
      rwa [failed] at first
    next between succeeded =>
      have first := grows fs
      rw [succeeded] at first
      split
      next made => exact first.trans (grown_makeDirectory made)
      next => exact first
  next => exact .refl fs

theorem grown_makeAbove (absolute : Bool) (names : List String) (fs : FileSystem) :
    Grown fs (makeAbove working absolute names fs).2 := by
  induction names generalizing fs with
  | nil => exact .refl fs
  | cons name rest ih => exact grown_ensureDirectory ih

theorem grown_makeDirectories (fs : FileSystem) (working : Place) (path : String) :
    Grown fs (fs.makeDirectories working path).2 := by
  unfold makeDirectories
  split
  · exact .refl fs
  · exact grown_ensureDirectory (grown_makeAbove _ _)

theorem texts_makeDirectories (fs : FileSystem) (working : Place) (path : String) :
    (fs.makeDirectories working path).2.texts = fs.texts :=
  (grown_makeDirectories fs working path).texts

end FileSystem

end ClusterLifecycle
