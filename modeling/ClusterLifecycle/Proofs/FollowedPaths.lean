import ClusterLifecycle.Proofs.FileTexts
import Mathlib.Data.List.TakeWhile

/-!
Which paths can be followed in a file system. Only directories count for that, and the operations on
files leave these alone. Where a name below a path can be followed to, the directory at the path is
there, and making it changes nothing.
-/

namespace ClusterLifecycle

namespace Path

theorem split_replicate_slash (count : Nat) :
    split (List.replicate count '/') = List.replicate (count + 1) [] := by
  induction count with
  | zero => rfl
  | succ count ih => rw [List.replicate_succ, split, if_pos rfl, ih, ← List.replicate_succ]

theorem exists_slashes (path : String) :
    ∃ count, path = withoutLastSlashes path ++ String.ofList (List.replicate count '/') := by
  have slashes : ∀ c ∈ path.toList.reverse.takeWhile (· = '/'), c = '/' := by
    intro c member
    exact of_decide_eq_true (List.mem_takeWhile_imp (p := (· = '/')) member)
  obtain ⟨count, ends⟩ : ∃ count, path.toList.reverse.takeWhile (· = '/') = List.replicate count '/' :=
    ⟨_, List.eq_replicate_of_mem slashes⟩
  have whole : path.toList = (path.toList.reverse.dropWhile (· = '/')).reverse ++ List.replicate count '/' := by
    rw [← List.reverse_replicate, ← ends, ← List.reverse_append, List.takeWhile_append_dropWhile,
      List.reverse_reverse]
  unfold withoutLastSlashes
  cases rest : path.toList.reverse.dropWhile (· = '/') with
  | nil =>
    rw [rest, List.reverse_nil, List.nil_append] at whole
    by_cases absolute : isAbsolute path = true
    · cases count with
      | zero =>
        rw [isAbsolute, whole] at absolute
        cases absolute
      | succ count =>
        refine ⟨count, ?_⟩
        rw [← String.toList_inj, whole, List.replicate_succ]
        simp [absolute]
    · exact ⟨0, by simp [absolute]⟩
  | cons c more =>
    refine ⟨count, ?_⟩
    rw [← String.toList_inj, String.toList_append, String.toList_ofList, String.toList_ofList, ← rest]
    exact whole

theorem exists_blanks (path : String) :
    ∃ count, steps path = steps (withoutLastSlashes path) ++ List.replicate count "" := by
  obtain ⟨count, whole⟩ := exists_slashes path
  have texts : path.toList = (withoutLastSlashes path).toList ++ List.replicate count '/' := by
    rw [← String.toList_ofList (l := List.replicate count '/'), ← String.toList_append, ← whole]
  cases count with
  | zero => exact ⟨0, by simp [steps, texts]⟩
  | succ count =>
    refine ⟨count + 1, ?_⟩
    rw [steps, texts, List.replicate_succ, split_append_slash, split_replicate_slash, List.map_append,
      List.map_replicate]
    rfl

theorem withoutLastSlashes_ne_empty {path : String} (some : path ≠ "") : withoutLastSlashes path ≠ "" := by
  unfold withoutLastSlashes
  split
  · split
    · decide
    · exact some
  next reversed more =>
    intro none
    rw [String.ofList_eq_empty_iff, List.reverse_eq_nil_iff] at none
    exact more none

theorem isAbsolute_withoutLastSlashes (path : String) :
    isAbsolute (withoutLastSlashes path) = isAbsolute path := by
  by_cases none : path = ""
  · rw [none]
    rfl
  · obtain ⟨count, whole⟩ := exists_slashes path
    have same := isAbsolute_append (withoutLastSlashes_ne_empty none) (String.ofList (List.replicate count '/'))
    rw [← whole] at same
    exact same.symm

theorem exists_join_eq {base name : String} (some : base ≠ "") (whole : '/' ∉ name.toList) :
    ∃ rest, join base name = base ++ rest := by
  have relative := isAbsolute_of_not_mem whole
  rw [join, if_neg (by simp [some, relative])]
  split
  · exact ⟨name, rfl⟩
  · exact ⟨"/" ++ name, String.append_assoc⟩

end Path

namespace FileSystem

variable {fs after : FileSystem} {working place found other : Place} {path content : String} {node : Node}

theorem walk_append (fs : FileSystem) (place : Place) (steps more : List String) :
    fs.walk place (steps ++ more) = fs.walk place steps >>= fun between => fs.walk between more := by
  induction steps generalizing place with
  | nil => rfl
  | cons step rest ih =>
    rw [List.cons_append, walk, walk]
    split
    · rfl
    · rfl
    · split
      · rfl
      · exact ih _

theorem walk_blanks (count : Nat) (walked : fs.walk place (List.replicate count "") = .ok found) :
    found = place := by
  induction count with
  | zero => exact (Except.ok.inj walked).symm
  | succ count ih =>
    rw [List.replicate_succ, walk] at walked
    split at walked
    · cases walked
    · cases walked
    · split at walked
      · cases walked
      · exact ih walked

theorem walk_of_stays (stays : ∀ place, fs.node? place = some .directory → after.node? place = some .directory)
    {steps : List String} (walked : fs.walk place steps = .ok found) : after.walk place steps = .ok found := by
  induction steps generalizing place with
  | nil => exact walked
  | cons step rest ih =>
    rw [walk] at walked ⊢
    split at walked
    · cases walked
    · cases walked
    next directory =>
      rw [stays place directory]
      split at walked
      · cases walked
      next short =>
        simp only [if_neg short]
        exact ih walked

/-- A path is followed from the root or the working directory, if it is a text that can name one. -/
theorem resolve_iff : fs.resolve working path = .ok place ↔
    '\x00' ∉ path.toList ∧ path ≠ "" ∧ path.utf8ByteSize ≤ Path.maxLength ∧
      fs.walk (if Path.isAbsolute path then [] else working) (Path.steps path) = .ok place := by
  unfold resolve
  by_cases clean : '\x00' ∈ path.toList
  · simp [clean]
  by_cases none : path = ""
  · simp [none]
  by_cases long : Path.maxLength < path.utf8ByteSize
  · simp [clean, none, long, Nat.not_le_of_lt long]
  · simp [clean, none, long, Nat.le_of_not_lt long]

theorem resolve_of_stays (stays : ∀ place, fs.node? place = some .directory → after.node? place = some .directory)
    (resolved : fs.resolve working path = .ok place) : after.resolve working path = .ok place := by
  obtain ⟨clean, some, short, walked⟩ := resolve_iff.1 resolved
  exact resolve_iff.2 ⟨clean, some, short, walk_of_stays stays walked⟩

theorem walk_of_join {base name : String} (whole : '/' ∉ name.toList)
    (walked : fs.walk place (Path.steps (Path.join base name)) = .ok found) :
    ∃ home, fs.walk place (Path.steps base) = .ok home ∧ fs.node? home = some .directory := by
  have last : ∀ front, fs.walk place (front ++ [name]) = .ok found →
      ∃ home, fs.walk place front = .ok home ∧ fs.node? home = some .directory := by
    intro front below
    rw [walk_append] at below
    obtain ⟨home, there, step⟩ := bind_eq_ok.1 below
    rw [walk] at step
    split at step
    · cases step
    · cases step
    next directory => exact ⟨home, there, directory⟩
  rcases Path.steps_join base whole with steps | ⟨front, before, steps⟩
  · rw [steps] at walked
    exact last _ walked
  · rw [steps] at walked
    obtain ⟨home, there, directory⟩ := last front walked
    refine ⟨home, ?_, directory⟩
    rw [before, walk_append, there]
    change fs.walk home [""] = .ok home
    simp [walk, directory, stepFrom]

theorem begins_well {front rest : String} (clean : '\x00' ∉ (front ++ rest).toList)
    (short : (front ++ rest).utf8ByteSize ≤ Path.maxLength) :
    '\x00' ∉ front.toList ∧ front.utf8ByteSize ≤ Path.maxLength := by
  rw [String.toList_append, List.mem_append] at clean
  rw [String.utf8ByteSize_append] at short
  exact ⟨fun member => clean (.inl member), by omega⟩

/-- Where a name below a directory can be followed to, the directory is there, and making it changes
nothing. -/
theorem makeDirectories_of_join {base name : String} (whole : '/' ∉ name.toList)
    (resolved : fs.resolve working (Path.join base name) = .ok place) :
    fs.makeDirectories working base = (.ok (), fs) := by
  by_cases none : base = ""
  · rw [makeDirectories, if_pos none]
  obtain ⟨clean, -, short, walked⟩ := resolve_iff.1 resolved
  rw [Path.isAbsolute_join base whole] at walked
  obtain ⟨home, there, directory⟩ := walk_of_join whole walked
  obtain ⟨rest, joined⟩ := Path.exists_join_eq none whole
  rw [joined] at clean short
  obtain ⟨clean, short⟩ := begins_well clean short
  have followed : fs.resolve working base = .ok home := resolve_iff.2 ⟨clean, none, short, there⟩
  have trimmed : fs.resolve working (Path.withoutLastSlashes base) = .ok home := by
    obtain ⟨count, slashes⟩ := Path.exists_slashes base
    obtain ⟨count', blanks⟩ := Path.exists_blanks base
    rw [slashes] at clean short
    obtain ⟨clean, short⟩ := begins_well clean short
    rw [blanks, walk_append] at there
    obtain ⟨end_, walked, blank⟩ := bind_eq_ok.1 there
    obtain rfl := walk_blanks count' blank
    rw [← Path.isAbsolute_withoutLastSlashes] at walked
    exact resolve_iff.2 ⟨clean, Path.withoutLastSlashes_ne_empty none, short, walked⟩
  have exists_already : fs.makeDirectory working base = .error .alreadyExists := by
    rw [makeDirectory, trimmed]
    simp only [bind, Except.bind, directory]
  rw [makeDirectories, if_neg none, ensureDirectory, exists_already]
  simp [isDirectory, followed, directory]

theorem Grown.stays (grown : Grown fs after) (directory : fs.node? place = some .directory) :
    after.node? place = some .directory := by
  rcases grown place with same | ⟨empty, -⟩
  · rw [same, directory]
  · rw [directory] at empty
    cases empty

theorem stays_put_file {executable : Bool} (free : fs.node? place ≠ some .directory)
    (directory : fs.node? other = some .directory) :
    (fs.put place (.file content executable)).node? other = some .directory := by
  have different : other ≠ place := fun same => free (same ▸ directory)
  rw [node?_put_of_ne _ _ different, directory]

theorem stays_write (written : fs.write working path content = .ok after)
    (directory : fs.node? place = some .directory) : after.node? place = some .directory := by
  obtain ⟨free, executable, rfl⟩ := write_eq_ok written
  exact stays_put_file free directory

theorem node?_write (written : fs.write working path content = .ok after) (different : place ≠ placeOf working path) :
    after.node? place = fs.node? place := by
  obtain ⟨-, executable, rfl⟩ := write_eq_ok written
  exact node?_put_of_ne _ _ different

variable {source target : String}

theorem stays_moveFile (moved : fs.moveFile working source target = .ok after)
    (directory : fs.node? place = some .directory) : after.node? place = some .directory := by
  obtain ⟨content, executable, file, -, free, rfl⟩ := moveFile_eq_ok moved
  have notSource : place ≠ placeOf working source := by
    intro same
    rw [← same, directory] at file
    cases file
  have notTarget : place ≠ placeOf working target := fun same => free (same ▸ directory)
  rw [node?_put_of_ne _ _ notTarget, node?_remove_of_ne _ notSource, directory]

theorem node?_moveFile (moved : fs.moveFile working source target = .ok after)
    (notSource : place ≠ placeOf working source) (notTarget : place ≠ placeOf working target) :
    after.node? place = fs.node? place := by
  obtain ⟨content, executable, -, -, -, rfl⟩ := moveFile_eq_ok moved
  rw [node?_put_of_ne _ _ notTarget, node?_remove_of_ne _ notSource]

theorem read_eq_ok : fs.read working path = .ok content ↔
    fs.resolve working path = .ok (placeOf working path) ∧ ∃ executable,
      fs.node? (placeOf working path) = some (.file content executable) := by
  constructor
  · intro read
    obtain ⟨place, resolved, found⟩ := bind_eq_ok.1 read
    rw [← resolve_eq_ok resolved]
    refine ⟨resolved, ?_⟩
    split at found
    · cases found
    · cases found
    next content' executable node =>
      obtain rfl := Except.ok.inj found
      exact ⟨executable, node⟩
  · intro way
    obtain ⟨resolved, executable, node⟩ := way
    rw [read, resolved]
    simp only [bind, Except.bind, node]

theorem read_of_stays (stays : ∀ place, fs.node? place = some .directory → after.node? place = some .directory)
    (resolved : fs.resolve working path = .ok place) (same : after.node? place = fs.node? place) :
    after.read working path = fs.read working path := by
  rw [read, read, resolved, resolve_of_stays stays resolved]
  simp only [bind, Except.bind, same]

theorem read_moved {between : FileSystem} (written : fs.write working source content = .ok between)
    (moved : between.moveFile working source target = .ok after) : after.read working target = .ok content := by
  obtain ⟨free, executable, rfl⟩ := write_eq_ok written
  have stays : ∀ place, _ → after.node? place = some .directory := fun _ => stays_moveFile moved
  obtain ⟨content', executable', file, resolved, free', rfl⟩ := moveFile_eq_ok moved
  rw [node?_put_self (ne_root free)] at file
  obtain ⟨rfl, rfl⟩ := Node.file.inj (Option.some.inj file)
  exact read_eq_ok.2 ⟨resolve_of_stays stays resolved, executable, node?_put_self (ne_root free')⟩

end FileSystem

end ClusterLifecycle
