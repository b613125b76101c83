import ClusterLifecycle.Cluster.File
import ClusterLifecycle.Proofs.JsonGrammar
import ClusterLifecycle.Proofs.NumberText

/-!
A stored record is read back as it was, whatever texts, labels and groups it holds.
-/

namespace ClusterLifecycle

open Record Json

namespace Record

variable {δ α : Type} {name other : String} {data : δ} {rest : List (String × δ)} {read : δ → Option α}
  {default : α}

theorem lookup_cons_of_ne (different : name ≠ other) : ((other, data) :: rest).lookup name = rest.lookup name := by
  have skipped : (name == other) = false := by simpa using different
  rw [List.lookup_cons, skipped]

theorem required_cons_self : required ((name, data) :: rest) name read = read data := by
  rw [required, List.lookup_cons_self]
  rfl

theorem required_cons_of_ne (different : name ≠ other) :
    required ((other, data) :: rest) name read = required rest name read := by
  rw [required, lookup_cons_of_ne different, required]

theorem defaulted_cons_self : defaulted ((name, data) :: rest) name default read = read data := by
  rw [defaulted, List.lookup_cons_self]

theorem defaulted_cons_of_ne (different : name ≠ other) :
    defaulted ((other, data) :: rest) name default read = defaulted rest name default read := by
  rw [defaulted, lookup_cons_of_ne different, defaulted]

theorem known?_of_names {names : List String} {fields : List (String × δ)} (same : fields.map Prod.fst = names)
    (single : hasRepeat names = false) : known? names fields = some fields := by
  have all : fields.filter (fun field => names.contains field.1) = fields := by
    rw [List.filter_eq_self]
    intro field member
    rw [← same]
    simpa using ⟨field.2, member⟩
  rw [known?, all, same, single]
  rfl

theorem unsigned32_of_natural {source : Source δ} {n : UInt32}
    (read : ∀ limit, n.toNat ≤ limit → source.natural limit data = some n.toNat) :
    source.unsigned32 data = some n := by
  rw [Source.unsigned32, read _ (Nat.le_sub_one_of_lt n.toNat_lt), Option.map_some, UInt32.ofNat_toNat]

end Record

namespace Json

theorem named_map_some (members : List (String × Document)) :
    Document.named (members.map fun (name, value) => (some name, value)) = some members := by
  unfold Document.named
  induction members with
  | nil => rfl
  | cons member rest ih =>
    rw [List.map_cons, List.mapM_cons, ih]
    rfl

theorem record_fields {names : List String} {fields : List (String × Document)}
    (same : fields.map Prod.fst = names) (single : hasRepeat names = false) :
    Document.source.record names (.record fields) = some fields := by
  have named : Document.source.fields names (.record fields) = some fields := named_map_some fields
  rw [Source.record, named, Option.bind_eq_bind, Option.bind_some, known?_of_names same single]

variable {α : Type}

theorem text_text (s : String) : Document.source.text (.text s) = some s := rfl

theorem optional_text (s : Option String) :
    Document.source.optional Document.source.text (.optional s) = some s := by
  cases s <;> rfl

theorem uuid_text (uuid : Uuid) : Document.source.uuid (.text (toString uuid)) = some uuid := by
  rw [Source.uuid, text_text, Option.bind_eq_bind, Option.bind_some, Uuid.ofString?_toString]

theorem truth_bool (b : Bool) : Document.source.truth (.bool b) = some b := rfl

theorem natural_natural {limit n : Nat} (small : n ≤ limit) :
    Document.source.natural limit (.natural n) = some n := by
  change Document.natural? limit (.natural n) = some n
  rw [Document.natural, Document.natural?, Text.natural?_decimal, Option.bind_eq_bind, Option.bind_some,
    if_pos small]

theorem unsigned32_natural (n : UInt32) : Document.source.unsigned32 (.natural n.toNat) = some n :=
  unsigned32_of_natural fun _ => natural_natural

theorem optional_count (n : Option UInt32) :
    Document.source.optional Document.source.unsigned32 (countDocument n) = some n := by
  cases n with
  | none => rfl
  | some n =>
    have present : Document.source.absent (.natural n.toNat) = false := rfl
    rw [countDocument, Source.optional, present, unsigned32_natural]
    rfl

theorem sound_array {items : List Document} (sound : ∀ item ∈ items, item.Sound) :
    (Document.array items).Sound := by
  change SoundItems items
  induction items with
  | nil => trivial
  | cons item rest ih =>
    exact ⟨sound item (List.mem_cons_self ..), ih fun other member => sound other (List.mem_cons_of_mem _ member)⟩

theorem sound_record {fields : List (String × Document)} (sound : ∀ field ∈ fields, field.2.Sound) :
    (Document.record fields).Sound := by
  change SoundMembers (fields.map fun (name, value) => (some name, value))
  induction fields with
  | nil => trivial
  | cons field rest ih =>
    exact ⟨rfl, sound field (List.mem_cons_self ..),
      ih fun other member => sound other (List.mem_cons_of_mem _ member)⟩

theorem sound_text (s : String) : (Document.text s).Sound := rfl

theorem sound_bool (b : Bool) : (Document.bool b).Sound := trivial

theorem sound_natural (n : Nat) : (Document.natural n).Sound := grammatical_decimal n

theorem sound_optional (s : Option String) : (Document.optional s).Sound := by
  cases s <;> trivial

theorem sound_count (n : Option UInt32) : (countDocument n).Sound := by
  cases n with
  | none => trivial
  | some n => exact sound_natural n.toNat

end Json

theorem ofName?_roleName (role : Role) : Role.ofName? role.name = some role := by
  cases role <;> rfl

namespace Credentials

theorem read_toDocument (credentials : Credentials) :
    read Document.source credentials.toDocument = some credentials := by
  have record : Document.source.record fieldNames credentials.toDocument = some _ :=
    record_fields rfl (by decide)
  simp only [read, record, Option.bind_eq_bind, Option.bind_some, defaulted_cons_self, defaulted_cons_of_ne,
    ne_eq, String.reduceEq, not_false_eq_true, optional_text]

theorem sound_toDocument (credentials : Credentials) : credentials.toDocument.Sound :=
  sound_record (by simp [sound_optional])

end Credentials

namespace NodeGroup

theorem read_toDocument (group : NodeGroup) : read Document.source group.toDocument = some group := by
  have record : Document.source.record fieldNames group.toDocument = some _ :=
    record_fields rfl (by decide)
  have role : Role.read Document.source (.text group.role.name) = some group.role :=
    ofName?_roleName group.role
  simp only [read, record, Option.bind_eq_bind, Option.bind_some, required_cons_self, required_cons_of_ne,
    defaulted_cons_self, defaulted_cons_of_ne, ne_eq, String.reduceEq, not_false_eq_true, uuid_text, text_text,
    role, unsigned32_natural, optional_count, truth_bool]

theorem sound_toDocument (group : NodeGroup) : group.toDocument.Sound :=
  sound_record (by simp [sound_text, sound_natural, sound_count, sound_bool])

end NodeGroup

theorem insertEntry_last {name text : String} {entries : List (String × String)}
    (last : ∀ entry ∈ entries, entry.1 < name) : insertEntry name text entries = entries ++ [(name, text)] := by
  induction entries with
  | nil => rfl
  | cons first rest ih =>
    have before : first.1 < name := last first (List.mem_cons_self ..)
    have notBelow : ¬ name < first.1 := String.lt_asymm before
    have other : name ≠ first.1 := fun same => String.lt_irrefl name (same ▸ before)
    rw [insertEntry, if_neg notBelow, if_neg other, ih fun entry member => last entry (List.mem_cons_of_mem _ member)]
    rfl

namespace TextMap

theorem eq_of_entries {map other : TextMap} (same : map.entries = other.entries) : map = other := by
  cases map
  cases other
  cases same
  rfl

theorem ofList_entries (map : TextMap) : ofList map.entries = map := by
  have grown : ∀ (later : List (String × String)) (before : TextMap),
      (before.entries ++ later).Pairwise (·.1 < ·.1) →
      (later.foldl (fun map entry => map.insert entry.1 entry.2) before).entries =
        before.entries ++ later := by
    intro later
    induction later with
    | nil => simp
    | cons entry later ih =>
      intro before sorted
      obtain ⟨name, text⟩ := entry
      have last : ∀ entry ∈ before.entries, entry.1 < name :=
        fun entry member => (List.pairwise_append.1 sorted).2.2 entry member _ (List.mem_cons_self ..)
      have inserted : (before.insert name text).entries = before.entries ++ [(name, text)] :=
        insertEntry_last last
      rw [List.foldl_cons, ih _ (by rw [inserted]; simpa using sorted), inserted]
      simp
  exact eq_of_entries (grown map.entries empty map.sorted)

theorem read_toDocument (map : TextMap) : read Document.source map.toDocument = some map := by
  have members : Document.source.members map.toDocument =
      some (map.entries.map fun entry => (entry.1, .text entry.2)) := named_map_some _
  have texts : ∀ entries : List (String × String),
      (entries.map fun entry => (entry.1, Document.text entry.2)).mapM (fun member => do
        let text ← Document.source.text member.2
        some (member.1, text)) = some entries := by
    intro entries
    induction entries with
    | nil => rfl
    | cons entry rest ih =>
      rw [List.map_cons, List.mapM_cons, ih]
      rfl
  rw [read, members, Option.bind_eq_bind, Option.bind_some, texts, Option.bind_eq_bind, Option.bind_some,
    ofList_entries]

theorem sound_toDocument (map : TextMap) : map.toDocument.Sound := by
  refine sound_record fun field member => ?_
  obtain ⟨entry, -, rfl⟩ := List.mem_map.1 member
  exact sound_text entry.2

end TextMap

namespace ClusterTemplate

theorem read_toDocument (template : ClusterTemplate) :
    read Document.source template.toDocument = some template := by
  have record : Document.source.record fieldNames template.toDocument = some _ :=
    record_fields rfl (by decide)
  simp only [read, record, Option.bind_eq_bind, Option.bind_some, required_cons_self, required_cons_of_ne,
    defaulted_cons_self, defaulted_cons_of_ne, ne_eq, String.reduceEq, not_false_eq_true, uuid_text, text_text,
    optional_text, truth_bool, TextMap.read_toDocument]

theorem sound_toDocument (template : ClusterTemplate) : template.toDocument.Sound :=
  sound_record (by simp [sound_text, sound_optional, sound_bool, TextMap.sound_toDocument])

end ClusterTemplate

namespace Cluster

theorem list_nodeGroups (groups : List NodeGroup) :
    Document.source.list (NodeGroup.read Document.source) (.array (groups.map NodeGroup.toDocument)) =
      some groups := by
  change (groups.map NodeGroup.toDocument).mapM (NodeGroup.read Document.source) = some groups
  induction groups with
  | nil => rfl
  | cons group rest ih =>
    rw [List.map_cons, List.mapM_cons, NodeGroup.read_toDocument, ih]
    rfl

theorem optional_template (template : Option ClusterTemplate) :
    Document.source.optional (ClusterTemplate.read Document.source)
      (match template with
        | none => .null
        | some template => template.toDocument) = some template := by
  cases template with
  | none => rfl
  | some template =>
    have present : Document.source.absent template.toDocument = false := rfl
    rw [Source.optional, present, ClusterTemplate.read_toDocument]
    rfl

theorem read_toDocument (cluster : Cluster) : read Document.source cluster.toDocument = some cluster := by
  have record : Document.source.record fieldNames cluster.toDocument = some _ :=
    record_fields rfl (by decide)
  have status : Status.read Document.source (.text cluster.status.name) = some cluster.status :=
    Status.ofName?_name cluster.status
  simp only [read, record, Option.bind_eq_bind, Option.bind_some, required_cons_self, required_cons_of_ne,
    defaulted_cons_self, defaulted_cons_of_ne, ne_eq, String.reduceEq, not_false_eq_true, uuid_text, text_text,
    status, optional_text, list_nodeGroups, Credentials.read_toDocument]
  exact congrArg (Option.bind · _) (optional_template cluster.template)

theorem sound_toDocument (cluster : Cluster) : cluster.toDocument.Sound := by
  have template : (match cluster.template with
      | none => Document.null
      | some template => template.toDocument).Sound := by
    cases cluster.template with
    | none => trivial
    | some template => exact template.sound_toDocument
  have groups : (Document.array (cluster.nodeGroups.map NodeGroup.toDocument)).Sound := by
    refine sound_array fun item member => ?_
    obtain ⟨group, -, rfl⟩ := List.mem_map.1 member
    exact group.sound_toDocument
  refine sound_record ?_
  simp only [List.forall_mem_cons, sound_text, sound_optional, groups, Credentials.sound_toDocument,
    List.not_mem_nil, false_implies, implies_true, true_and, and_true]
  exact template

/-- What is stored of a record is the record. -/
theorem ofStored?_stored (cluster : Cluster) : ofStored? cluster.stored = some cluster := by
  rw [ofStored?, stored, String.toList_ofList, ofText?_pretty cluster.sound_toDocument,
    Option.bind_eq_bind, Option.bind_some, read_toDocument]

theorem stored_injective {cluster other : Cluster} (same : cluster.stored = other.stored) :
    cluster = other := by
  have read := ofStored?_stored cluster
  rw [same, ofStored?_stored] at read
  exact (Option.some.inj read).symm

end Cluster

end ClusterLifecycle
