import ClusterLifecycle.Proofs.OperationOutcome
import ClusterLifecycle.Proofs.ShortNumerals

/-!
What is seen of a release. Its resource says twice what it was deployed with, once as data and once as the text
of an annotation, and it is taken at its word where the text is read as the data again.
-/

namespace ClusterLifecycle

open Json Record

namespace Release

variable {document : Document} {text key : String} {release : Release}

theorem held_config (found : ofDocument? document = some release) :
    Value.Held (nestingLimit - 1) release.config := by
  unfold ofDocument? at found
  simp only [Option.bind_eq_bind, Option.bind_eq_some_iff, Option.some.injEq] at found
  obtain ⟨fields, -, name, -, info, -, config, read, version, -, rfl⟩ := found
  unfold defaulted at read
  split at read
  · obtain rfl := Option.some.inj read
    exact ⟨.null, rfl⟩
  · next data _ => exact ⟨data, read⟩

theorem held_config_ofText? (found : ofText? text = some release) :
    Value.Held (nestingLimit - 1) release.config := by
  obtain ⟨document, -, decoded⟩ := Option.bind_eq_some_iff.1 found
  exact held_config decoded

theorem held_record {config : Value} (held : Value.Held (nestingLimit - 1) config) :
    Value.Held nestingLimit (.object [("spec", config)]) := by
  obtain ⟨document, read⟩ := held
  refine ⟨.object [(some "spec", document)], ?_⟩
  rw [Value.ofDocument?, if_neg (by decide)]
  simp [Value.ofMembers?, read, Value.sorted, Value.insert]

theorem handled?_toResource (found : ofText? text = some release) (key : String) :
    (release.toResource key).handled? key = release.config.reread? := by
  have held := held_record (held_config_ofText? found)
  have noted : (TextMap.ofList [(key, Value.print (.object [("spec", release.config)]))]).find? key =
      some (Value.print (.object [("spec", release.config)])) := by
    rw [TextMap.find?_ofList, lastOf, List.reverse_singleton, List.lookup_cons_self]
  unfold Resource.handled? toResource
  simp only [Option.bind_eq_bind, Option.bind_some, noted, Value.ofText?_print held, Value.reread?,
    Value.rereadMembers?]
  cases release.config.reread? with
  | none => rfl
  | some spec => rfl

/-- A release has handled its configuration where all its doubles come back. -/
theorem isHandled_toResource_iff (found : ofText? text = some release) (key : String) :
    (release.toResource key).isHandled key = true ↔ ∀ x ∈ release.config.doubles, Value.ReadsBack x := by
  have desired : (release.toResource key).desired = release.config := rfl
  rw [← Value.same_reread?_iff, Resource.isHandled, handled?_toResource found, desired]
  cases release.config.reread? with
  | none => simp
  | some spec => simp

theorem classify_toResource (found : ofText? text = some release) (key : String) :
    Observation.classify key (some (release.toResource key)) =
      if ∀ x ∈ release.config.doubles, Value.ReadsBack x then .ofPhase release.phase else .pending := by
  have phase : (release.toResource key).phase? = some release.phase := rfl
  rw [Observation.classify, phase]
  dsimp only
  by_cases same : ∀ x ∈ release.config.doubles, Value.ReadsBack x
  · rw [if_pos same, if_pos ((isHandled_toResource_iff found key).2 same)]
  · rw [if_neg same, if_neg (mt (isHandled_toResource_iff found key).1 same)]

theorem readsBack_of_short (found : ofText? text = some release) {x : Binary64} (member : x ∈ release.config.doubles)
    (short : (Value.numeralOf x).Short) : Value.ReadsBack x :=
  Value.readsBack_of_short (Value.isDouble_of_mem _ (held_config_ofText? found) x member) short

theorem read_observe_release {config : Config} {output : Output} (backend : config.backend = .release)
    (found : ofText? output.stdout = some release) (cluster : Cluster) :
    (cluster.observe config).read (.ok output) =
      .ok (Observation.classify config.handledKey (some (release.toResource config.handledKey))) := by
  have answered : Helm.readStatus config (toString cluster.uuid) (.ok output) = .ok (some release) := by
    rw [Helm.readStatus, found]
  unfold Cluster.observe Resource.fetch
  rw [backend]
  dsimp only [Call.map, Helm.status]
  rw [answered]
  rfl

/-- How a release is classified, and what is seen of its cluster: its phase where all doubles in its configuration
come back, as those of few digits do, and otherwise a change that is still pending. -/
theorem release_classification {output : Output} (found : ofText? output.stdout = some release) :
    (∀ key, (release.toResource key).isHandled key = true ↔ ∀ x ∈ release.config.doubles, Value.ReadsBack x) ∧
      (∀ key, Observation.classify key (some (release.toResource key)) =
        if ∀ x ∈ release.config.doubles, Value.ReadsBack x then .ofPhase release.phase else .pending) ∧
      (∀ x ∈ release.config.doubles, (Value.numeralOf x).Short → Value.ReadsBack x) ∧
      ∀ (config : Config) (cluster : Cluster), config.backend = .release →
        (cluster.observe config).read (.ok output) =
          .ok (if ∀ x ∈ release.config.doubles, Value.ReadsBack x then .ofPhase release.phase else .pending) := by
  refine ⟨isHandled_toResource_iff found, classify_toResource found, fun x => readsBack_of_short found, ?_⟩
  intro config cluster backend
  rw [read_observe_release backend found cluster, classify_toResource found]

def deployed (config : String) : Output where
  stdout := "\x7b\"name\": \"web\", \"info\": \x7b\"status\": \"deployed\"\x7d, \"config\": " ++ config ++ "\x7d"
  stderr := ""

/-- Three quarters come back, and the release is seen as ready. -/
theorem release_classification_deployed :
    ∃ release, ofText? (deployed "[0.75, 12, null]").stdout = some release ∧
      release.config.doubles = [⟨false, 3 <<< 1072⟩] ∧
      Observation.classify "handled" (some (release.toResource "handled")) = .ready ∧
      (Cluster.observe { Config.initial with backend := .release } default).read
        (.ok (deployed "[0.75, 12, null]")) = .ok .ready := by
  have decoded : (ofText? (deployed "[0.75, 12, null]").stdout).isSome = true := by decide +kernel
  have evaluated : ∀ decoded : (ofText? (deployed "[0.75, 12, null]").stdout).isSome = true,
      let release := (ofText? (deployed "[0.75, 12, null]").stdout).get decoded
      release.config.doubles = [⟨false, 3 <<< 1072⟩] ∧
        (if ∀ x ∈ release.config.doubles, Value.ReadsBack x then Observation.ofPhase release.phase else .pending) =
          .ready := by decide +kernel
  obtain ⟨doubles, ready⟩ := evaluated decoded
  obtain ⟨-, classified, -, observed⟩ := release_classification (Option.some_get decoded).symm
  refine ⟨_, (Option.some_get decoded).symm, doubles, ?_, ?_⟩
  · rw [classified "handled", ready]
  · rw [observed _ default rfl, ready]

/-- A deployed release is not always seen as ready: a double may change where it is printed and read again. -/
theorem not_release_always_handled :
    ¬ ∀ (output : Output) (release : Release) (key : String), ofText? output.stdout = some release →
      Observation.classify key (some (release.toResource key)) = .ofPhase release.phase := by
  intro claim
  have decoded : (ofText? (deployed "0.9677229687988706").stdout).isSome = true := by decide +kernel
  have same := claim _ _ "handled" (Option.some_get decoded).symm
  have pending : ∀ decoded : (ofText? (deployed "0.9677229687988706").stdout).isSome = true,
      let release := (ofText? (deployed "0.9677229687988706").stdout).get decoded
      Observation.classify "handled" (some (release.toResource "handled")) ≠ .ofPhase release.phase := by
    decide +kernel
  exact pending decoded same

end Release

end ClusterLifecycle
