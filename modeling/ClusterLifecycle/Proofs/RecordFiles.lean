import ClusterLifecycle.Proofs.NodeRecords
import ClusterLifecycle.Proofs.RecordDocuments
import ClusterLifecycle.Proofs.TaskSuccess

/-!
Stored records that are given to the commands as record files. They are read as YAML there, which agrees with JSON on
the records whose texts are legible.
-/

namespace ClusterLifecycle

namespace Yaml

structure LegibleName (s : String) : Prop where
  allowed : ∀ c ∈ s.toList, 0x20 ≤ c.toNat → isAllowed c = true
  /-- A key has to stand on one line. -/
  single : ∀ c ∈ s.toList, separatesLines c = false
  /-- Its colon has to be near. -/
  near : (String.ofList (Json.quoted s)).utf8ByteSize ≤ keyReach

theorem reread_eq_self_iff {s : String} : reread s = s ↔ folded s.toList = s.toList := by
  rw [reread, ← String.toList_inj, String.toList_ofList]

theorem legible_iff_reread {s : String} : Legible s.toList ↔ Readable s ∧ reread s = s := by
  rw [legible_iff, reread_eq_self_iff, Readable, Unmarked, and_assoc]

theorem legibleName_iff {s : String} : LegibleName s ↔ ReadableName s := by
  constructor
  · rintro ⟨allowed, single, near⟩
    exact ⟨⟨allowed_printed_iff.2 allowed, unmarked_of_single single⟩, single, near⟩
  · rintro ⟨⟨allowed, -⟩, single, near⟩
    exact ⟨allowed_printed_iff.1 allowed, single, near⟩

/-! ### ASCII -/

theorem allowed_of_ascii {c : Char} (ascii : c.toNat < 0x7F) (bare : 0x20 ≤ c.toNat) : isAllowed c = true := by
  simp only [isAllowed, Bool.or_eq_true, decide_eq_true_eq, beq_iff_eq, Bool.and_eq_true]
  omega

theorem inline_of_ascii {c : Char} (ascii : c.toNat < 0x7F) : separatesLines c = false := by
  have other : ∀ d : Char, 0x7F ≤ d.toNat → (c == d) = false := by
    intro d large
    rw [beq_eq_false_iff_ne]
    rintro rfl
    omega
  simp [separatesLines, other '\u0085' (by decide), other '\u2028' (by decide), other '\u2029' (by decide)]

theorem legible_of_ascii {s : List Char} (ascii : ∀ c ∈ s, c.toNat < 0x7F) : Legible s := by
  have single : ∀ c ∈ s, separatesLines c = false := fun c member => inline_of_ascii (ascii c member)
  refine legible_iff.2 ⟨allowed_printed_iff.2 fun c member => allowed_of_ascii (ascii c member), ?_, ?_⟩
  · exact unmarked_of_single single
  · exact folded_of_single single

end Yaml

/-! ### Texts that stay as they are -/

section MapTexts

variable {f : String → String}

theorem map_optional_eq_self_iff {α : Type} {f : α → α} {o : Option α} : o.map f = o ↔ ∀ a ∈ o.toList, f a = a := by
  cases o <;> simp

theorem map_list_eq_self_iff {α : Type} {f : α → α} {items : List α} : items.map f = items ↔ ∀ a ∈ items, f a = a := by
  induction items with
  | nil => simp
  | cons item rest ih => rw [List.map_cons, List.cons_eq_cons, ih, List.forall_mem_cons]

theorem Credentials.mapTexts_eq_self_iff {credentials : Credentials} :
    credentials.mapTexts f = credentials ↔ ∀ t ∈ credentials.texts, f t = t := by
  obtain ⟨trust, user, password⟩ := credentials
  simp only [mapTexts, texts, Credentials.mk.injEq, map_optional_eq_self_iff, List.forall_mem_append, and_assoc]

theorem NodeGroup.mapTexts_eq_self_iff {group : NodeGroup} :
    group.mapTexts f = group ↔ ∀ t ∈ group.texts, f t = t := by
  obtain ⟨⟩ := group
  simp [mapTexts, texts]

theorem TextMap.mapTexts_eq_self_iff {map : TextMap} : map.mapTexts f = map ↔ ∀ t ∈ map.texts, f t = t := by
  obtain ⟨entries, sorted⟩ := map
  simp only [mapTexts, texts, TextMap.mk.injEq, map_list_eq_self_iff, List.forall_mem_map, Prod.ext_iff, true_and]

theorem ClusterTemplate.mapTexts_eq_self_iff {template : ClusterTemplate} :
    template.mapTexts f = template ↔ ∀ t ∈ template.texts, f t = t := by
  obtain ⟨⟩ := template
  simp only [mapTexts, texts, ClusterTemplate.mk.injEq, map_optional_eq_self_iff, TextMap.mapTexts_eq_self_iff,
    List.forall_mem_cons, List.forall_mem_append, true_and, and_true]

theorem Cluster.mapTexts_eq_self_iff {cluster : Cluster} :
    cluster.mapTexts f = cluster ↔ ∀ t ∈ cluster.texts, f t = t := by
  obtain ⟨⟩ := cluster
  simp only [mapTexts, texts, Cluster.mk.injEq, map_optional_eq_self_iff, map_list_eq_self_iff,
    ClusterTemplate.mapTexts_eq_self_iff, NodeGroup.mapTexts_eq_self_iff, Credentials.mapTexts_eq_self_iff,
    List.forall_mem_cons, List.forall_mem_append, List.forall_mem_flatMap, true_and, and_assoc]

end MapTexts

/-! ### Record files -/

namespace Cluster

open CommandLine StateDirectory

def Legible (cluster : Cluster) : Prop :=
  (∀ t ∈ cluster.texts, Yaml.Legible t.toList) ∧ ∀ name ∈ cluster.labelNames, Yaml.LegibleName name

theorem ofText?_stored_iff {cluster : Cluster} : ofText? cluster.stored = some cluster ↔ cluster.Legible := by
  have gives := Yaml.ofText?_stored cluster
  constructor
  · intro found
    have readable : cluster.Readable := by
      by_contra refused
      rw [gives.2 refused] at found
      cases found
    rw [gives.1 readable, Option.some_inj, mapTexts_eq_self_iff] at found
    exact ⟨fun t member => Yaml.legible_iff_reread.2 ⟨readable.1 t member, found t member⟩,
      fun name member => Yaml.legibleName_iff.2 (readable.2 name member)⟩
  · rintro ⟨texts, names⟩
    have kept : cluster.mapTexts Yaml.reread = cluster :=
      mapTexts_eq_self_iff.2 fun t member => (Yaml.legible_iff_reread.1 (texts t member)).2
    rw [gives.1 ⟨fun t member => (Yaml.legible_iff_reread.1 (texts t member)).1,
      fun name member => Yaml.legibleName_iff.1 (names name member)⟩, kept]

/-- Records in ASCII are read as they were stored, if the names of their labels are short enough for keys. -/
theorem ofText?_stored_of_ascii {cluster : Cluster} (texts : ∀ t ∈ cluster.texts, ∀ c ∈ t.toList, c.toNat < 0x7F)
    (names : ∀ name ∈ cluster.labelNames, ∀ c ∈ name.toList, c.toNat < 0x7F)
    (near : ∀ name ∈ cluster.labelNames, (String.ofList (Json.quoted name)).utf8ByteSize ≤ Yaml.keyReach) :
    ofText? cluster.stored = some cluster := by
  refine ofText?_stored_iff.2 ⟨fun t member => Yaml.legible_of_ascii (texts t member), fun name member => ?_⟩
  exact ⟨fun c listed => Yaml.allowed_of_ascii (names name member c listed),
    fun c listed => Yaml.inline_of_ascii (names name member c listed), near name member⟩

/-- What becomes of a stored record that is given as a record file. -/
structure ReadAsFile (cluster : Cluster) : Prop where
  /-- It is refused, or its texts are read anew. -/
  outcome : Yaml.Gives cluster.Readable (cluster.mapTexts Yaml.reread) (ofText? cluster.stored)
  /-- The commands read exactly the record. -/
  same : ∀ path, (readCluster path).Yields [⟨.readText path, .ok cluster.stored⟩] (.ok cluster) ↔ cluster.Legible
  /-- YAML and JSON come to the same record. -/
  agree : ofText? cluster.stored = ofStored? cluster.stored ↔ cluster.Legible
  /-- A valid record is imported into a state directory as it is. -/
  imported : ∀ config path, (adoptFile config path).Yields
    (⟨.readText path, .ok cluster.stored⟩ :: (keeping config.stateDirectory cluster ++
      [⟨.print s!"{cluster.uuid}\n", ()⟩])) (.ok ()) ↔ cluster.validate = .ok () ∧ cluster.Legible

theorem keeping_injective {directory : String} {cluster other : Cluster} {rest more : List Host.Event}
    (same : keeping directory cluster ++ rest = keeping directory other ++ more) : cluster = other := by
  have kept : keeping directory cluster = keeping directory other := List.append_inj_left same (by simp [keeping])
  have written : ⟨.writeText (draftPath directory cluster.uuid) cluster.stored, .ok ()⟩ ∈
      keeping directory cluster := by
    simp [keeping]
  rw [kept] at written
  exact stored_injective (stored_of_written written)

/-- A stored record is read again as a record file exactly if it is legible. -/
theorem stored_read_as_file (cluster : Cluster) : cluster.ReadAsFile where
  outcome := Yaml.ofText?_stored cluster
  same := by
    intro path
    rw [yields_readCluster_ok, ← ofText?_stored_iff]
    generalize cluster.stored = stored
    constructor
    · rintro ⟨text, same, found⟩
      cases same
      exact found
    · exact fun found => ⟨stored, rfl, found⟩
  agree := by
    rw [ofStored?_stored, ofText?_stored_iff]
  imported := by
    intro config path
    rw [yields_adoptFile_ok, ← ofText?_stored_iff]
    constructor
    · rintro ⟨text, other, found, valid, same⟩
      obtain ⟨first, kept⟩ := List.cons.inj same
      obtain rfl := keeping_injective kept
      generalize cluster.stored = stored at *
      cases first
      exact ⟨valid, found⟩
    · rintro ⟨valid, found⟩
      exact ⟨cluster.stored, cluster, found, valid, rfl⟩

def crossed : Cluster :=
  { Manifest.awkward with name := "a\u0085b" }

/-- A valid record is not always what is read of its file. -/
theorem not_stored_read_as_file :
    ¬ ∀ cluster : Cluster, cluster.validate = .ok () → ofText? cluster.stored = some cluster := by
  intro claim
  have valid : crossed.validate = .ok () := by decide
  have legible := ofText?_stored_iff.1 (claim crossed valid)
  have named : "a\u0085b" ∈ crossed.texts := List.mem_cons_self ..
  exact (legible.1 _ named).inline (by decide)

end Cluster

end ClusterLifecycle
