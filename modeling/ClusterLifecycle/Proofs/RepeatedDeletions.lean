import ClusterLifecycle.Proofs.ConsecutivePasses
import ClusterLifecycle.Proofs.OperationEffects

/-!
Deleting what is already gone. Where the tools know of no cluster, its record can be deleted any number of
times: each deletion is submitted anew, and the next pass finds it done.
-/

namespace ClusterLifecycle.Driver

open Program Plan Manifest

/-- The tool answers that there is no such thing: by exit code 1, and by its marker in what it writes. -/
def NotThere (marker : String) (answer : RunResult) : Prop :=
  ∃ program stdout stderr, answer = .error (.failed program (some 1) stdout stderr) ∧
    marker.toList <:+: stderr.toList

/-- The answer of a tool that is told to delete what there is not: success, or for a release also that there
is none. -/
def Gone : Backend → RunResult → Prop
  | .manifests, answer => ∃ output, answer = .ok output
  | .release, answer =>
    NotThere Helm.notFoundMarker answer ∨ ∃ output, answer = .ok output ∧ Legible output

/-- A world with a store that works and with tools that know of no cluster of this identifier. -/
structure Forgotten (config : Config) (uuid : Uuid) {σ : Type} (world : (effect : Effect) → σ → effect.Answer × σ) :
    Prop where
  saves : ∀ record state, (world (.save record) state).1 = .ok ()
  unseen : ∀ state, NotThere (absenceMarker config.backend) (world (.run (inspection config uuid)) state).1
  deletes : ∀ input state, Gone config.backend (world (.run (order config uuid .delete input)) state).1
  strips : config.backend = .manifests →
    ∀ state, ∃ output, (world (.run (secretRemoval config uuid)) state).1 = .ok output

def leaving (cluster : Cluster) : Cluster :=
  { cluster with status := ⟨.delete, .inProgress⟩, statusReason := none }

def departed (cluster : Cluster) : Cluster :=
  { cluster with status := ⟨.delete, .complete⟩, statusReason := some "cluster deleted" }

section Rounds

variable {σ : Type} {world : (effect : Effect) → σ → effect.Answer × σ} {driver : Driver}
  {cluster after : Cluster} {events : List Plan.Event} {result : Except Failure Unit} {answer : RunResult}
  {works : List (Option Operation)} {ends : List (Except Failure Unit × Cluster)}

theorem NotThere.isNotFound {marker : String} (gone : NotThere marker answer) :
    ∃ fault, answer = .error fault ∧ fault.isNotFound marker = true := by
  obtain ⟨program, stdout, stderr, rfl, marked⟩ := gone
  refine ⟨_, rfl, ?_⟩
  simpa [RunFault.isNotFound, RunFault.exitCode, RunFault.stderr, Text.occursIn_iff] using marked

theorem Gone.not_refused {config : Config} (gone : Gone config.backend answer) :
    refusal? config .delete answer = none := by
  cases backend : config.backend with
  | manifests =>
    rw [backend] at gone
    obtain ⟨output, rfl⟩ := gone
    simp [refusal?, backend]
  | release =>
    rw [backend] at gone
    rcases gone with absent | ⟨output, rfl, legible⟩
    · obtain ⟨fault, rfl, told⟩ := absent.isNotFound
      simp [refusal?, backend, told]
    · simp [refusal?, legible]

def Deletable (driver : Driver) (cluster : Cluster) : Prop :=
  driver.config.backend = .manifests → driver.renderer.library = builtIn ∧ cluster.validate = .ok ()

theorem Deletable.free (deletable : driver.Deletable cluster) : driver.hindrance? cluster .delete = none := by
  refine hindrance?_eq_none_iff.2 ⟨offers_delete _, .inl rfl, ?_⟩
  intro rendered needed
  cases backend : driver.config.backend with
  | release => simp [rendering?, backend] at needed
  | manifests =>
    obtain ⟨library, valid⟩ := deletable backend
    obtain ⟨controlPlane, plane⟩ := exists_controlPlane valid
    obtain ⟨_, texts, -, -, whole, -⟩ := @manifests_of_valid _ _ _ "" "" none library valid plane trivial
    simp only [rendering?, render, backend, whole] at needed
    exact ⟨_, (Option.some.inj needed).symm⟩

theorem deletion_submitted (forgotten : Forgotten driver.config cluster.uuid world)
    (deletable : driver.Deletable cluster)
    (run : (driver.perform .delete cluster).Yields events (result, after))
    (heard : HeardFrom world events) :
    result = .ok () ∧ after = leaving cluster ∧ stored events = [leaving cluster] := by
  have free := deletable.free
  have submits := submits_delete driver cluster
  unfold Submits at submits
  cases operated run with
  | refused reason =>
    rw [reason] at submits
    cases free.symm.trans submits
  | @failed call answer fault call_eq read =>
    rw [call_eq] at submits
    obtain ⟨-, input, -, orders⟩ := submits
    obtain ⟨state, given⟩ := heard _ (List.mem_singleton_self _)
    have gone := forgotten.deletes input state
    rw [← orders.command, show (world (.run call.command) state).1 = answer from given] at gone
    rw [orders.read, gone.not_refused] at read
    cases read
  | @handedOver call answer saved call_eq read =>
    obtain ⟨state, given⟩ := heard _ (List.mem_cons_of_mem _ (List.mem_singleton_self _))
    obtain rfl : saved = .ok () := given.symm.trans (forgotten.saves _ state)
    exact ⟨rfl, rfl, rfl⟩

theorem departure_found {cluster : Cluster} {result : Except Failure PassOutcome}
    (forgotten : Forgotten driver.config cluster.uuid world) (leaves : cluster.status = ⟨.delete, .inProgress⟩)
    (run : (driver.statusPass cluster).Yields events (result, after))
    (heard : HeardFrom world events) :
    (∃ outcome, result = .ok outcome) ∧ after = departed cluster ∧ stored events = [departed cluster] := by
  have effects := passEffects run
  have progress : cluster.status.isInProgress = true := by rw [leaves]; rfl
  obtain ⟨answer, rest, rfl, moved⟩ := effects.expected progress
  have absent : observed driver.config answer = .notFound := by
    obtain ⟨state, given⟩ := heard _ (List.mem_cons_self ..)
    obtain ⟨fault, same, told⟩ := (forgotten.unseen state).isNotFound
    obtain rfl : answer = .error fault := given.symm.trans same
    simp [observed, told]
  have move : cluster.status.transition (observed driver.config answer) =
      some (⟨.delete, .complete⟩, .deleted) := by
    rw [absent, leaves]
    rfl
  rw [move] at moved
  obtain ⟨rfl, saved, removal, rfl, removes⟩ := moved
  obtain ⟨state, given⟩ := heard _ (List.mem_cons_of_mem _ (List.mem_cons_self ..))
  obtain rfl : saved = .ok () := given.symm.trans (forgotten.saves _ state)
  refine ⟨?_, rfl, ?_⟩
  · cases result with
    | ok outcome => exact ⟨outcome, rfl⟩
    | error failure =>
      -- neither the store nor the removal of the secret can have failed
      rcases effects.failed_iff.1 ⟨failure, rfl⟩ with ⟨record, fault, member⟩ | ⟨fault, member⟩
      · obtain ⟨state, refused⟩ := heard _ member
        cases (forgotten.saves record state).symm.trans refused
      · obtain ⟨state, failed⟩ := heard _ member
        have backend := (effects.removed_iff.1 ⟨_, member⟩).1
        obtain ⟨output, succeeded⟩ := forgotten.strips backend state
        cases succeeded.symm.trans failed
  · rcases removes with rfl | ⟨gone, rfl⟩ <;> rfl

/-! ### Rounds -/

/-- Deletions, some of them, and a pass after each so many. -/
def rounds (counts : List Nat) : List (Option Operation) :=
  counts.flatMap fun n => List.replicate n (some .delete) ++ [none]

/-- What such rounds are to come to: each deletion is submitted, and each pass finds the cluster gone. -/
def departures (cluster : Cluster) (counts : List Nat) : List (Except Failure Unit × Cluster) :=
  counts.flatMap fun n => List.replicate n (.ok (), leaving cluster) ++ [(.ok (), departed cluster)]

theorem rounds_cons (n : Nat) (counts : List Nat) :
    rounds (n :: counts) = List.replicate n (some .delete) ++ none :: rounds counts := by
  rw [rounds, List.flatMap_cons, ← rounds, List.append_assoc]
  rfl

theorem departures_cons (cluster : Cluster) (n : Nat) (counts : List Nat) : departures cluster (n :: counts) =
    List.replicate n (.ok (), leaving cluster) ++ (.ok (), departed cluster) :: departures cluster counts := by
  rw [departures, List.flatMap_cons, ← departures, List.append_assoc]
  rfl

/-- A record that has been through such a round only differs in what a deletion writes over. -/
theorem departures_departed (cluster : Cluster) (counts : List Nat) :
    departures (departed cluster) counts = departures cluster counts := rfl

theorem deletions_submitted {n : Nat} (forgotten : Forgotten driver.config cluster.uuid world)
    (deletable : driver.Deletable cluster)
    (run : (driver.course (List.replicate (n + 1) (some .delete) ++ works) cluster).Yields events ends)
    (heard : HeardFrom world events) :
    ∃ front back later, events = front ++ back ∧ ends = List.replicate (n + 1) (.ok (), leaving cluster) ++ later ∧
      stored front = List.replicate (n + 1) (leaving cluster) ∧
      (driver.course works (leaving cluster)).Yields back later := by
  induction n generalizing cluster events ends with
  | zero =>
    obtain ⟨answer, after, front, back, later, rfl, rfl, first, others⟩ := yields_course_cons.1 run
    obtain ⟨here, -⟩ := heardFrom_append.1 heard
    obtain ⟨rfl, rfl, keeps⟩ := deletion_submitted forgotten deletable first here
    exact ⟨front, back, later, rfl, rfl, keeps, others⟩
  | succ n ih =>
    obtain ⟨answer, after, front, back, later, rfl, rfl, first, others⟩ := yields_course_cons.1 run
    obtain ⟨here, there⟩ := heardFrom_append.1 heard
    obtain ⟨rfl, rfl, keeps⟩ := deletion_submitted forgotten deletable first here
    obtain ⟨middle, back, later, rfl, rfl, keeps', rest⟩ :=
      @ih (leaving cluster) _ _ forgotten deletable others there
    refine ⟨front ++ middle, back, later, by rw [List.append_assoc], rfl, ?_, rest⟩
    rw [stored_append, keeps, keeps']
    rfl

theorem rounds_depart {counts : List Nat} (forgotten : Forgotten driver.config cluster.uuid world)
    (deletable : driver.Deletable cluster) (several : ∀ n ∈ counts, 1 ≤ n)
    (run : (driver.course (rounds counts) cluster).Yields events ends)
    (heard : HeardFrom world events) :
    ends = departures cluster counts ∧ stored events = (departures cluster counts).map Prod.snd := by
  induction counts generalizing cluster events ends with
  | nil =>
    obtain ⟨rfl, rfl⟩ := yields_course_nil.1 run
    exact ⟨rfl, rfl⟩
  | cons n counts ih =>
    obtain ⟨m, rfl⟩ : ∃ m, n = m + 1 := Nat.exists_eq_add_of_le' (several n (List.mem_cons_self ..))
    rw [rounds_cons] at run
    obtain ⟨front, _, _, rfl, rfl, keeps, rest⟩ := deletions_submitted forgotten deletable run heard
    obtain ⟨answer, after, middle, back, later, rfl, rfl, turn, others⟩ := yields_course_cons.1 rest
    obtain ⟨result, pass, rfl⟩ := yields_turn_pass.1 turn
    obtain ⟨here, there⟩ := heardFrom_append.1 (heardFrom_append.1 heard).2
    obtain ⟨⟨outcome, rfl⟩, rfl, found⟩ :=
      @departure_found _ _ _ _ _ (leaving cluster) _ forgotten rfl pass here
    obtain ⟨rfl, keeps'⟩ := @ih (departed cluster) _ _ forgotten deletable
      (fun m member => several m (List.mem_cons_of_mem _ member)) others there
    rw [departures_departed] at keeps' ⊢
    rw [departures_cons, List.map_append, List.map_replicate, List.map_cons, stored_append, stored_append, keeps,
      found, keeps']
    exact ⟨rfl, rfl⟩

end Rounds

/-- Whatever a record has been through, any number of deletions and then a pass leave it as that of a cluster
that is gone, and so does all of this when it is done again and again. Nothing fails, and every record is
kept. -/
theorem deletions_converge {σ : Type} {world : (effect : Effect) → σ → effect.Answer × σ} {driver : Driver}
    {cluster : Cluster} {counts : List Nat} (forgotten : Forgotten driver.config cluster.uuid world)
    (deletable : driver.Deletable cluster) (several : ∀ n ∈ counts, 1 ≤ n) (state : σ) :
    ((driver.course (rounds counts) cluster).run world state).1 = departures cluster counts ∧
      stored ((driver.course (rounds counts) cluster).trace world state) =
        (departures cluster counts).map Prod.snd :=
  rounds_depart forgotten deletable several (yields_run world _ state) (answeredBy_trace world _ state).heardFrom

def forgetful (backend : Backend) (command : Command) (_ : Unit) : RunResult × Unit :=
  (if command.arguments.head? = some "delete" then .ok ⟨"", ""⟩
    else .error (.failed command.program (some 1) "" ("Error: " ++ absenceMarker backend)), ())

def deserted (backend : Backend) : (effect : Effect) → Unit → effect.Answer × Unit :=
  answering (forgetful backend) (.ok ())

theorem notThere_forgetful (backend : Backend) {command : Command} (keeps : command.arguments.head? ≠ some "delete") :
    NotThere (absenceMarker backend) (forgetful backend command ()).1 := by
  refine ⟨command.program, "", "Error: " ++ absenceMarker backend, ?_, ?_⟩
  · rw [forgetful, if_neg keeps]
  · rw [String.toList_append]
    exact (List.suffix_append ..).isInfix

theorem forgotten_deserted (config : Config) (uuid : Uuid) :
    Forgotten config uuid (deserted config.backend) := by
  constructor
  case saves => exact fun record state => rfl
  case unseen =>
    intro state
    apply notThere_forgetful
    unfold inspection
    cases config.backend <;> simp
  case deletes =>
    intro input state
    unfold Gone
    cases backend : config.backend with
    | manifests => exact ⟨⟨"", ""⟩, by simp [deserted, answering, forgetful, order, backend]⟩
    | release =>
      refine .inl (notThere_forgetful .release ?_)
      simp [order, backend]
  case strips => exact fun _ state => ⟨⟨"", ""⟩, rfl⟩

theorem deletions_converge_deserted :
    Forgotten manifesting.config awkward.uuid (deserted .manifests) ∧ manifesting.Deletable awkward ∧
      Forgotten initial.config resting.uuid (deserted .release) ∧ initial.Deletable resting ∧
      (∀ n ∈ [2, 1], 1 ≤ n) ∧
      ((manifesting.course (rounds [2, 1]) awkward).run (deserted .manifests) ()).1 =
        departures awkward [2, 1] ∧
      ((initial.course (rounds [2, 1]) resting).run (deserted .release) ()).1 =
        [(.ok (), leaving resting), (.ok (), leaving resting), (.ok (), departed resting),
          (.ok (), leaving resting), (.ok (), departed resting)] := by
  have valid : awkward.validate = .ok () := by decide
  have deletable : manifesting.Deletable awkward := fun _ => ⟨rfl, valid⟩
  have free : initial.Deletable resting := nofun
  have several : ∀ n ∈ [2, 1], 1 ≤ n := by decide
  have bundles := forgotten_deserted manifesting.config awkward.uuid
  have releases := forgotten_deserted initial.config resting.uuid
  exact ⟨bundles, deletable, releases, free, several, (deletions_converge bundles deletable several ()).1,
    (deletions_converge releases free several ()).1⟩

end ClusterLifecycle.Driver
