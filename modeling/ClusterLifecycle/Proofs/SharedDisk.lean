import ClusterLifecycle.Proofs.HostReactions
import ClusterLifecycle.Proofs.Interleaving

/-!
A host that several programs work on at once: the texts in its files, which directories there are, and
surroundings that decide about everything else. They answer the commands, and they may refuse whatever
is done to the files. A program that stays with the files of one cluster changes nothing for one that
stays with those of another.
-/

namespace ClusterLifecycle.Host

open Program FileSystem StateDirectory

/-- What stands in the files, and which directories there are. -/
structure Disk where
  texts : Texts
  directories : Place → Bool

/-- What answers where the files do not, and what a refused write leaves in the place of a text. -/
structure Surroundings (σ : Type) where
  answer : (request : Request) → σ → request.Answer × σ
  left : σ → Option String → Option String

/-- The surroundings and the disk at one moment. -/
structure Shared (σ : Type) where
  around : σ
  disk : Disk

namespace Disk

def setText (disk : Disk) (place : Place) (text : Option String) : Disk :=
  { disk with texts := Function.update disk.texts place text }

theorem texts_setText_self (disk : Disk) (place : Place) (text : Option String) :
    (disk.setText place text).texts place = text := Function.update_self ..

theorem texts_setText_of_ne (disk : Disk) {place other : Place} (text : Option String) (different : other ≠ place) :
    (disk.setText place text).texts other = disk.texts other := Function.update_of_ne different ..

/-- What a request comes to on a disk once the surroundings have given their verdict. Nothing can be
written where the directory is missing. -/
def settle (working : Place) (left : Option String → Option String) :
    (request : Request) → request.Answer → Disk → request.Answer × Disk
  | .readText path, .ok _, disk => (found working disk.texts path, disk)
  | .readText _, .error cause, disk => (.error cause, disk)
  | .makeDirectories path, .ok (), disk =>
    (.ok (), { disk with directories := Function.update disk.directories (placeOf working path) true })
  | .makeDirectories _, .error cause, disk => (.error cause, disk)
  | .writeText path text, verdict, disk =>
    if disk.directories (placeOf working path).dropLast then
      match verdict with
      | .ok () => (.ok (), disk.setText (placeOf working path) (some text))
      | .error cause =>
        (.error cause, disk.setText (placeOf working path) (left (disk.texts (placeOf working path))))
    else (.error .notFound, disk)
  | .moveFile source target, .ok (), disk =>
    match disk.texts (placeOf working source) with
    | some text => (.ok (), (disk.setText (placeOf working source) none).setText (placeOf working target) (some text))
    | none => (.error .notFound, disk)
  | .moveFile _ _, .error cause, disk => (.error cause, disk)
  | .openTemplates _, library, disk => (library, disk)
  | .run _, result, disk => (result, disk)
  | .print _, (), disk => ((), disk)

end Disk

def Surroundings.host {σ : Type} (surroundings : Surroundings σ) (working : Place) (request : Request)
    (state : Shared σ) : request.Answer × Shared σ :=
  let verdict := surroundings.answer request state.around
  let settled := Disk.settle working (surroundings.left state.around) request verdict.1 state.disk
  (settled.1, ⟨verdict.2, settled.2⟩)

variable {home working working' place : Place} {uuid other : Uuid} {request : Request}
  {left : Option String → Option String} {disk solo elsewhere : Disk} {sources sources' : Place → Prop}

theorem reacts_settle (answer : request.Answer) :
    Reacts home working disk.texts (Disk.settle working left request answer disk).2.texts
      ⟨request, (Disk.settle working left request answer disk).1⟩ := by
  cases request with
  | readText path =>
    cases answer with
    | error cause => exact rfl
    | ok verdict =>
      simp only [Disk.settle, found]
      split
      next text there => exact ⟨there, rfl⟩
      next => exact rfl
  | makeDirectories path =>
    cases answer with
    | error cause => exact rfl
    | ok made => exact rfl
  | writeText path text =>
    simp only [Disk.settle]
    split
    · cases answer with
      | error cause => exact ⟨_, rfl⟩
      | ok written => exact rfl
    · exact ⟨_, (Function.update_eq_self _ _).symm⟩
  | moveFile source target =>
    cases answer with
    | error cause => exact rfl
    | ok moved =>
      simp only [Disk.settle]
      split
      next text there => exact ⟨text, there, rfl⟩
      next => exact rfl
  | openTemplates path => exact rfl
  | run command => exact fun _ => rfl
  | print text => exact rfl

theorem settle_quiet {request : Request} (quiet : request.writes = false) (left : Option String → Option String)
    (answer : request.Answer) (disk : Disk) :
    (Disk.settle working left request answer disk).2.texts = disk.texts := by
  cases request with
  | readText path => cases answer <;> rfl
  | makeDirectories path => cases answer <;> rfl
  | writeText path text => cases quiet
  | moveFile source target => cases quiet
  | openTemplates path => rfl
  | run command => rfl
  | print text => rfl

theorem text_of_read {path text : String} {answer : (Request.readText path).Answer}
    (read : (Disk.settle working left (.readText path) answer disk).1 = .ok text) :
    disk.texts (placeOf working path) = some text := by
  have reacts : Reacts working working disk.texts (Disk.settle working left (.readText path) answer disk).2.texts
      ⟨.readText path, (Disk.settle working left (.readText path) answer disk).1⟩ := reacts_settle answer
  rw [read] at reacts
  exact reacts.1

/-- A request stays with the files of a cluster and what else it may read. It writes only where the
state directory has been made. -/
def Within (home working : Place) (uuid : Uuid) (sources : Place → Prop) : Request → Disk → Prop
  | .readText path, _ => placeOf working path = recordPlace home uuid ∨ sources (placeOf working path)
  | .writeText path _, disk => placeOf working path = draftPlace home uuid ∧ disk.directories home = true
  | .moveFile source target, _ =>
    placeOf working source = draftPlace home uuid ∧ placeOf working target = recordPlace home uuid
  | _, _ => True

/-- The files of a cluster and the sources are the same on two disks, and one of them has all the
directories of the other. -/
structure SameFor (home : Place) (uuid : Uuid) (sources : Place → Prop) (disk solo : Disk) : Prop where
  record : disk.texts (recordPlace home uuid) = solo.texts (recordPlace home uuid)
  draft : disk.texts (draftPlace home uuid) = solo.texts (draftPlace home uuid)
  source : ∀ place, sources place → disk.texts place = solo.texts place
  directories : ∀ place, solo.directories place = true → disk.directories place = true

theorem SameFor.setText (same : SameFor home uuid sources disk solo) (place : Place) (text : Option String) :
    SameFor home uuid sources (disk.setText place text) (solo.setText place text) := by
  have alike : ∀ at_, disk.texts at_ = solo.texts at_ →
      (disk.setText place text).texts at_ = (solo.setText place text).texts at_ := by
    intro at_ equal
    by_cases here : at_ = place
    · subst here
      rw [Disk.texts_setText_self, Disk.texts_setText_self]
    · rw [Disk.texts_setText_of_ne _ _ here, Disk.texts_setText_of_ne _ _ here, equal]
  exact ⟨alike _ same.record, alike _ same.draft, fun at_ source => alike at_ (same.source at_ source),
    same.directories⟩

theorem SameFor.setText_elsewhere (same : SameFor home uuid sources disk solo) (text : Option String)
    (notRecord : place ≠ recordPlace home uuid) (notDraft : place ≠ draftPlace home uuid)
    (notSource : ¬ sources place) : SameFor home uuid sources (disk.setText place text) solo where
  record := by rw [disk.texts_setText_of_ne text notRecord.symm, same.record]
  draft := by rw [disk.texts_setText_of_ne text notDraft.symm, same.draft]
  source := by
    intro at_ source
    have other : at_ ≠ place := fun here => notSource (here ▸ source)
    rw [disk.texts_setText_of_ne text other, same.source at_ source]
  directories := same.directories

theorem settle_same (left : Option String → Option String) (within : Within home working uuid sources request solo)
    (same : SameFor home uuid sources disk solo) (answer : request.Answer) :
    (Disk.settle working left request answer disk).1 = (Disk.settle working left request answer solo).1 ∧
      SameFor home uuid sources (Disk.settle working left request answer disk).2
        (Disk.settle working left request answer solo).2 := by
  cases request with
  | readText path =>
    cases answer with
    | error cause => exact ⟨rfl, same⟩
    | ok verdict =>
      have equal : disk.texts (placeOf working path) = solo.texts (placeOf working path) := by
        rcases within with record | source
        · rw [record, same.record]
        · exact same.source _ source
      exact ⟨by rw [Disk.settle, Disk.settle, found, found, equal], same⟩
  | makeDirectories path =>
    cases answer with
    | error cause => exact ⟨rfl, same⟩
    | ok made =>
      refine ⟨rfl, same.record, same.draft, same.source, ?_⟩
      intro place there
      by_cases here : place = placeOf working path
      · subst here
        exact Function.update_self ..
      · have earlier : solo.directories place = true := (Function.update_of_ne here ..).symm.trans there
        exact (Function.update_of_ne here ..).trans (same.directories place earlier)
  | writeText path text =>
    obtain ⟨draft, ready⟩ := within
    have parent : (placeOf working path).dropLast = home := by rw [draft, draftPlace, List.dropLast_concat]
    have equal : disk.texts (placeOf working path) = solo.texts (placeOf working path) := by
      rw [draft, same.draft]
    have ready' := same.directories home ready
    simp only [Disk.settle, parent, ready, ready', equal, if_true]
    cases answer with
    | error cause => exact ⟨rfl, same.setText _ _⟩
    | ok written => exact ⟨rfl, same.setText _ _⟩
  | moveFile source target =>
    cases answer with
    | error cause => exact ⟨rfl, same⟩
    | ok moved =>
      have equal : disk.texts (placeOf working source) = solo.texts (placeOf working source) := by
        rw [within.1, same.draft]
      simp only [Disk.settle, equal]
      cases solo.texts (placeOf working source) with
      | none => exact ⟨rfl, same⟩
      | some text => exact ⟨rfl, (same.setText _ _).setText _ _⟩
  | openTemplates path => exact ⟨rfl, same⟩
  | run command => exact ⟨rfl, same⟩
  | print text => exact ⟨rfl, same⟩

theorem settle_elsewhere (within : Within home working other sources' request elsewhere) (different : other ≠ uuid)
    (apart : ∀ place, sources place → place ≠ recordPlace home other ∧ place ≠ draftPlace home other)
    (same : SameFor home uuid sources disk solo) (answer : request.Answer) :
    SameFor home uuid sources (Disk.settle working left request answer disk).2 solo := by
  have draft : ∀ {disk} text, SameFor home uuid sources disk solo →
      SameFor home uuid sources (disk.setText (draftPlace home other) text) solo := fun text same =>
    same.setText_elsewhere text (draftPlace_ne_recordPlace home other uuid)
      (fun equal => different (draftPlace_injective equal)) fun source => (apart _ source).2 rfl
  have record : ∀ {disk} text, SameFor home uuid sources disk solo →
      SameFor home uuid sources (disk.setText (recordPlace home other) text) solo := fun text same =>
    same.setText_elsewhere text (fun equal => different (recordPlace_injective equal))
      (draftPlace_ne_recordPlace home uuid other).symm fun source => (apart _ source).1 rfl
  cases request with
  | readText path => cases answer <;> exact same
  | makeDirectories path =>
    cases answer with
    | error cause => exact same
    | ok made =>
      refine ⟨same.record, same.draft, same.source, ?_⟩
      intro place there
      by_cases here : place = placeOf working path
      · subst here
        exact Function.update_self ..
      · exact (Function.update_of_ne here ..).trans (same.directories place there)
  | writeText path text =>
    simp only [Disk.settle, within.1]
    split
    · cases answer with
      | error cause => exact draft _ same
      | ok written => exact draft _ same
    · exact same
  | moveFile source target =>
    cases answer with
    | error cause => exact same
    | ok moved =>
      simp only [Disk.settle, within.1, within.2]
      split
      · exact record _ (draft _ same)
      · exact same
  | openTemplates path => exact same
  | run command => exact same
  | print text => exact same

/-- What is answered to requests of one kind depends on one view of the surroundings only, and those
of another kind do not change it. -/
structure Oblivious {σ κ : Type} (surroundings : Surroundings σ) (mine theirs : Request → Prop) (view : σ → κ) :
    Prop where
  answers : ∀ request state state', mine request → view state = view state' →
    (surroundings.answer request state).1 = (surroundings.answer request state').1 ∧
      view (surroundings.answer request state).2 = view (surroundings.answer request state').2
  left : ∀ state state', view state = view state' → surroundings.left state = surroundings.left state'
  unseen : ∀ request state, theirs request → view (surroundings.answer request state).2 = view state

variable {σ κ : Type} {surroundings : Surroundings σ} {mine theirs : Request → Prop} {view : σ → κ}

/-- Programs that stay with different clusters are apart. -/
theorem Oblivious.apart (oblivious : Oblivious surroundings mine theirs view) (different : other ≠ uuid)
    (away : ∀ place, sources place → place ≠ recordPlace home other ∧ place ≠ draftPlace home other) :
    Apart (surroundings.host working) (surroundings.host working')
      (fun request state => mine request ∧ Within home working uuid sources request state.disk)
      (fun request state => theirs request ∧ Within home working' other sources' request state.disk)
      fun state solo => view state.around = view solo.around ∧ SameFor home uuid sources state.disk solo.disk where
  answers := by
    intro request state solo own alike
    obtain ⟨asked, within⟩ := own
    obtain ⟨seen, same⟩ := alike
    obtain ⟨verdict, later⟩ := oblivious.answers request state.around solo.around asked seen
    have left := oblivious.left state.around solo.around seen
    obtain ⟨answer, still⟩ := settle_same (surroundings.left solo.around) within same
      (surroundings.answer request solo.around).1
    simp only [Surroundings.host, verdict, left]
    exact ⟨answer, later, still⟩
  others := by
    intro request state solo elsewhere foreign alike
    obtain ⟨asked, within⟩ := foreign
    obtain ⟨seen, same⟩ := alike
    have unseen := oblivious.unseen request state.around asked
    exact ⟨unseen.trans seen, settle_elsewhere within different away same _⟩

end ClusterLifecycle.Host
