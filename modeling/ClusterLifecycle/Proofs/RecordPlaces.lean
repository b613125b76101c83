import ClusterLifecycle.FileSystem.Basic
import ClusterLifecycle.Proofs.NumberText
import ClusterLifecycle.StateDirectory

/-!
Where the files of a state directory are. A path names the same place in every file system in which
it can be followed, the records of different clusters are at different places, and none of them is
where a record is drafted.
-/

namespace ClusterLifecycle

namespace Path

theorem split_of_not_mem {text : List Char} (whole : '/' ∉ text) : split text = [text] := by
  induction text with
  | nil => rfl
  | cons c rest ih =>
    have other : c ≠ '/' := fun same => whole (same ▸ List.mem_cons_self ..)
    rw [split, if_neg other, ih fun member => whole (List.mem_cons_of_mem _ member)]

theorem split_ne_nil (text : List Char) : split text ≠ [] := by
  cases text with
  | nil => simp [split]
  | cons c rest =>
    rw [split]
    split
    · simp
    · cases split rest with
      | nil => simp
      | cons piece more => simp

theorem split_append_slash (before after : List Char) :
    split (before ++ '/' :: after) = split before ++ split after := by
  induction before with
  | nil => simp [split]
  | cons c rest ih =>
    rw [List.cons_append, split, ih, split]
    by_cases slash : c = '/'
    · rw [if_pos slash, if_pos slash, List.cons_append]
    · rw [if_neg slash, if_neg slash]
      cases pieces : split rest with
      | nil => exact absurd pieces (split_ne_nil rest)
      | cons piece more => rfl

theorem steps_of_not_mem {name : String} (whole : '/' ∉ name.toList) : steps name = [name] := by
  rw [steps, split_of_not_mem whole, List.map_singleton, String.ofList_toList]

theorem isAbsolute_of_not_mem {name : String} (whole : '/' ∉ name.toList) : isAbsolute name = false := by
  unfold isAbsolute
  rw [decide_eq_false_iff_not]
  intro front
  exact whole (List.mem_of_mem_head? front)

theorem isAbsolute_append {base : String} (some : base ≠ "") (rest : String) :
    isAbsolute (base ++ rest) = isAbsolute base := by
  unfold isAbsolute
  rw [String.toList_append, List.head?_append]
  cases text : base.toList with
  | nil => exact absurd (String.toList_eq_nil_iff.1 text) some
  | cons c more => rfl

variable {name : String}

theorem isAbsolute_join (base : String) (whole : '/' ∉ name.toList) :
    isAbsolute (join base name) = isAbsolute base := by
  have relative := isAbsolute_of_not_mem whole
  unfold join
  by_cases none : base = ""
  · rw [if_pos (by simp [none]), relative, none]
    rfl
  · rw [if_neg (by simp [none, relative])]
    split
    · exact isAbsolute_append none name
    · rw [String.append_assoc]
      exact isAbsolute_append none ("/" ++ name)

/-- The steps below a path: those of the path and then the name, save for a step without a name that
a slash at the end of the path stood for. -/
theorem steps_join (base : String) (whole : '/' ∉ name.toList) :
    steps (join base name) = steps base ++ [name] ∨
      ∃ front, steps base = front ++ [""] ∧ steps (join base name) = front ++ [name] := by
  have relative := isAbsolute_of_not_mem whole
  by_cases none : base = ""
  · refine .inr ⟨[], by rw [none]; rfl, ?_⟩
    rw [join, if_pos (by simp [none]), steps_of_not_mem whole, List.nil_append]
  by_cases slash : base.toList.getLast? = some '/'
  · obtain ⟨front, ends⟩ := List.getLast?_eq_some_iff.1 slash
    refine .inr ⟨(split front).map String.ofList, ?_, ?_⟩
    · rw [steps, ends, split_append_slash, List.map_append]
      rfl
    · rw [join, if_neg (by simp [none, relative]), if_pos slash, steps, String.toList_append, ends,
        List.append_assoc, List.singleton_append, split_append_slash, split_of_not_mem whole]
      simp
  · refine .inl ?_
    have text : (base ++ "/" ++ name).toList = base.toList ++ '/' :: name.toList := by simp
    rw [join, if_neg (by simp [none, relative]), if_neg slash, steps, text, split_append_slash,
      split_of_not_mem whole]
    simp [steps]

theorem join_append (base : String) (whole : '/' ∉ name.toList) (some : name ≠ "") (suffix : String) :
    join base name ++ suffix = join base (name ++ suffix) := by
  have relative := isAbsolute_of_not_mem whole
  have longer : isAbsolute (name ++ suffix) = false := by rw [isAbsolute_append some, relative]
  unfold join
  rw [relative, longer]
  split
  · rfl
  · split
    · rw [String.append_assoc]
    · rw [String.append_assoc]

end Path

namespace FileSystem

def placeOf (working : Place) (path : String) : Place :=
  (Path.steps path).foldl stepFrom (if Path.isAbsolute path then [] else working)

variable {fs : FileSystem} {working place found : Place} {path : String}

theorem walk_eq_ok {steps : List String} (walked : fs.walk place steps = .ok found) :
    found = steps.foldl stepFrom place := by
  induction steps generalizing place with
  | nil =>
    rw [walk] at walked
    exact (Except.ok.inj walked).symm
  | cons step rest ih =>
    rw [walk] at walked
    split at walked
    · cases walked
    · cases walked
    · split at walked
      · cases walked
      · exact ih walked

theorem resolve_eq_ok (resolved : fs.resolve working path = .ok place) : place = placeOf working path := by
  unfold resolve at resolved
  split at resolved
  · cases resolved
  · split at resolved
    · cases resolved
    · split at resolved
      · cases resolved
      · exact walk_eq_ok resolved

theorem placeOf_join (working : Place) (base : String) {name : String} (whole : '/' ∉ name.toList)
    (real : name ≠ "" ∧ name ≠ "." ∧ name ≠ "..") :
    placeOf working (Path.join base name) = placeOf working base ++ [name] := by
  have last : ∀ place, stepFrom place name = place ++ [name] := by
    intro place
    rw [stepFrom, if_neg (by simp [real]), if_neg real.2.2]
  rw [placeOf, placeOf, Path.isAbsolute_join base whole]
  rcases Path.steps_join base whole with steps | ⟨front, before, steps⟩
  · rw [steps, List.foldl_append, List.foldl_cons, List.foldl_nil, last]
  · rw [steps, before, List.foldl_append, List.foldl_append, List.foldl_cons, List.foldl_nil, last]
    simp [stepFrom]

end FileSystem

namespace StateDirectory

open FileSystem

def recordName (uuid : Uuid) : String := toString uuid ++ ".json"

def draftName (uuid : Uuid) : String := recordName uuid ++ ".tmp"

theorem mem_hyphenate {digits : List Char} {c : Char} (member : c ∈ Uuid.hyphenate digits) :
    c = '-' ∨ c ∈ digits := by
  simp only [Uuid.hyphenate, List.mem_append, List.mem_cons, or_assoc] at member
  rcases member with first | rfl | second | rfl | third | rfl | fourth | rfl | last
  · exact .inr (List.mem_of_mem_take first)
  · exact .inl rfl
  · exact .inr (List.mem_of_mem_drop (List.mem_of_mem_take second))
  · exact .inl rfl
  · exact .inr (List.mem_of_mem_drop (List.mem_of_mem_take third))
  · exact .inl rfl
  · exact .inr (List.mem_of_mem_drop (List.mem_of_mem_take fourth))
  · exact .inl rfl
  · exact .inr (List.mem_of_mem_drop last)

theorem slash_not_mem_fixedHex (width n : Nat) : '/' ∉ Uuid.fixedHex width n := by
  have digit : ∀ n < 16, '/' ≠ Text.hexDigit n := by decide
  induction width generalizing n with
  | zero => simp [Uuid.fixedHex]
  | succ width ih =>
    intro member
    rw [Uuid.fixedHex, List.mem_append, List.mem_singleton] at member
    rcases member with front | last
    · exact ih _ front
    · exact digit (n % 16) (Nat.mod_lt _ (by decide)) last

theorem toList_recordName (uuid : Uuid) :
    (recordName uuid).toList = uuid.toText ++ ['.', 'j', 's', 'o', 'n'] := by
  rw [recordName, String.toList_append, Uuid.toList_toString]
  rfl

theorem slash_not_mem_recordName (uuid : Uuid) : '/' ∉ (recordName uuid).toList := by
  rw [toList_recordName, List.mem_append]
  intro member
  rcases member with name | ending
  · rcases mem_hyphenate name with hyphen | digit
    · exact absurd hyphen (by decide)
    · exact slash_not_mem_fixedHex _ _ digit
  · revert ending
    decide

theorem slash_not_mem_draftName (uuid : Uuid) : '/' ∉ (draftName uuid).toList := by
  rw [draftName, String.toList_append, List.mem_append]
  intro member
  rcases member with name | ending
  · exact slash_not_mem_recordName uuid name
  · revert ending
    decide

theorem length_recordName (uuid : Uuid) : (recordName uuid).toList.length = 41 := by
  rw [toList_recordName, List.length_append, Uuid.toText, Uuid.length_hyphenate (Uuid.length_digits uuid)]
  rfl

theorem length_draftName (uuid : Uuid) : (draftName uuid).toList.length = 45 := by
  rw [draftName, String.toList_append, List.length_append, length_recordName]
  rfl

theorem real_of_length {name : String} (long : 2 < name.toList.length) :
    name ≠ "" ∧ name ≠ "." ∧ name ≠ ".." := by
  refine ⟨?_, ?_, ?_⟩
  all_goals
    intro same
    subst same
    revert long
    decide

theorem recordName_injective {uuid other : Uuid} (same : recordName uuid = recordName other) : uuid = other := by
  have texts := congrArg String.toList same
  rw [toList_recordName, toList_recordName] at texts
  exact Uuid.toText_injective (List.append_cancel_right texts)

theorem draftName_ne_recordName (uuid other : Uuid) : draftName uuid ≠ recordName other := by
  intro same
  have lengths := congrArg (fun name => name.toList.length) same
  rw [length_draftName, length_recordName] at lengths
  omega

def recordPlace (home : Place) (uuid : Uuid) : Place := home ++ [recordName uuid]

def draftPlace (home : Place) (uuid : Uuid) : Place := home ++ [draftName uuid]

theorem recordPath_eq (directory : String) (uuid : Uuid) :
    recordPath directory uuid = Path.join directory (recordName uuid) := by
  rw [recordPath, recordName]
  rfl

theorem placeOf_recordPath (working : Place) (directory : String) (uuid : Uuid) :
    placeOf working (recordPath directory uuid) = recordPlace (placeOf working directory) uuid := by
  rw [recordPath_eq, placeOf_join _ _ (slash_not_mem_recordName uuid), recordPlace]
  exact real_of_length (by rw [length_recordName]; decide)

theorem placeOf_draftPath (working : Place) (directory : String) (uuid : Uuid) :
    placeOf working (draftPath directory uuid) = draftPlace (placeOf working directory) uuid := by
  have real := real_of_length (by rw [length_recordName uuid]; decide)
  have path : draftPath directory uuid = Path.join directory (draftName uuid) := by
    rw [draftPath, recordPath_eq, Path.join_append _ (slash_not_mem_recordName uuid) real.1, draftName]
  rw [path, placeOf_join _ _ (slash_not_mem_draftName uuid), draftPlace]
  exact real_of_length (by rw [length_draftName]; decide)

theorem recordPlace_injective {home : Place} {uuid other : Uuid}
    (same : recordPlace home uuid = recordPlace home other) : uuid = other := by
  have names := List.append_cancel_left same
  exact recordName_injective (List.cons.inj names).1

theorem draftPlace_injective {home : Place} {uuid other : Uuid}
    (same : draftPlace home uuid = draftPlace home other) : uuid = other := by
  have names := (List.cons.inj (List.append_cancel_left same)).1
  have texts := congrArg String.toList names
  rw [draftName, draftName, String.toList_append, String.toList_append] at texts
  exact recordName_injective (String.toList_inj.1 (List.append_cancel_right texts))

theorem draftPlace_ne_recordPlace (home : Place) (uuid other : Uuid) :
    draftPlace home uuid ≠ recordPlace home other := by
  intro same
  have names := List.append_cancel_left same
  exact draftName_ne_recordName uuid other (List.cons.inj names).1

end StateDirectory

end ClusterLifecycle
