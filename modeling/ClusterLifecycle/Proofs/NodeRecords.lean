import ClusterLifecycle.Cluster.File
import ClusterLifecycle.Proofs.FlowNodes
import ClusterLifecycle.Proofs.FoldedTexts
import ClusterLifecycle.Proofs.RecordPlaces
import ClusterLifecycle.Proofs.RecordRoundTrip
import ClusterLifecycle.Proofs.SecretRemoval

/-!
Records that are read from the nodes of their printed documents: the same records, but for what has become of their
texts.
-/

namespace ClusterLifecycle

/-! ### Texts of records -/

namespace TextMap

def mapTexts (f : String → String) (map : TextMap) : TextMap where
  entries := map.entries.map fun entry => (entry.1, f entry.2)
  sorted := List.pairwise_map.2 map.sorted

def names (map : TextMap) : List String :=
  map.entries.map Prod.fst

def texts (map : TextMap) : List String :=
  map.entries.map Prod.snd

end TextMap

namespace ClusterTemplate

def mapTexts (f : String → String) (template : ClusterTemplate) : ClusterTemplate :=
  { template with
    name := f template.name
    image := f template.image
    kubeVersion := template.kubeVersion.map f
    labels := template.labels.mapTexts f }

def texts (template : ClusterTemplate) : List String :=
  template.name :: template.image :: (template.kubeVersion.toList ++ template.labels.texts)

end ClusterTemplate

namespace NodeGroup

def mapTexts (f : String → String) (group : NodeGroup) : NodeGroup :=
  { group with name := f group.name, flavor := f group.flavor }

def texts (group : NodeGroup) : List String :=
  [group.name, group.flavor]

end NodeGroup

namespace Credentials

def mapTexts (f : String → String) (credentials : Credentials) : Credentials :=
  ⟨credentials.trust.map f, credentials.user.map f, credentials.password.map f⟩

def texts (credentials : Credentials) : List String :=
  credentials.trust.toList ++ credentials.user.toList ++ credentials.password.toList

end Credentials

namespace Cluster

def mapTexts (f : String → String) (cluster : Cluster) : Cluster :=
  { cluster with
    name := f cluster.name
    project := f cluster.project
    statusReason := cluster.statusReason.map f
    stack := cluster.stack.map f
    template := cluster.template.map (·.mapTexts f)
    nodeGroups := cluster.nodeGroups.map (·.mapTexts f)
    credentials := cluster.credentials.mapTexts f }

/-- The texts that a record was given, except for the names of labels. -/
def texts (cluster : Cluster) : List String :=
  cluster.name :: cluster.project :: (cluster.statusReason.toList ++ cluster.stack.toList ++
    cluster.template.toList.flatMap ClusterTemplate.texts ++ cluster.nodeGroups.flatMap NodeGroup.texts ++
    cluster.credentials.texts)

def labelNames (cluster : Cluster) : List String :=
  cluster.template.toList.flatMap (·.labels.names)

end Cluster

namespace Yaml

open Record Json

/-! ### Visible texts -/

/-- A text of visible characters, as identifiers, statuses and the names of fields are. -/
def Visible (s : String) : Prop :=
  ∀ c ∈ s.toList, IsVisible c

instance : DecidablePred Visible :=
  fun s => decidable_of_iff (s.toList.all fun c => decide (IsVisible c)) (by simp [Visible])

theorem Visible.single {s : String} (visible : Visible s) : ∀ c ∈ s.toList, separatesLines c = false := by
  intro c member
  have plain := visible c member
  simp [separatesLines, plain.ne (d := '\u0085') (by decide), plain.ne (d := '\u2028') (by decide),
    plain.ne (d := '\u2029') (by decide)]

theorem reread_of_single {s : String} (single : ∀ c ∈ s.toList, separatesLines c = false) : reread s = s := by
  rw [reread, folded_of_single single, String.ofList_toList]

theorem Visible.reread {s : String} (visible : Visible s) : reread s = s :=
  reread_of_single visible.single

theorem Visible.readable {s : String} (visible : Visible s) : Readable s :=
  ⟨allowed_printed_iff.2 fun c member _ => (visible c member).allowed, unmarked_of_single visible.single⟩

theorem visible_uuid (uuid : Uuid) : Visible (toString uuid) := by
  intro c member
  rw [Uuid.toList_toString, Uuid.toText] at member
  rcases StateDirectory.mem_hyphenate member with rfl | digit
  · decide
  · obtain ⟨n, small, rfl⟩ := Uuid.mem_fixedHex digit
    exact visible_hexDigit n small

theorem visible_status (status : Status) : Visible status.name := by
  obtain ⟨operation, stage⟩ := status
  cases operation <;> cases stage <;> decide

theorem visible_role (role : Role) : Visible role.name := by
  cases role <;> decide

def fieldNames : List String :=
  Cluster.fieldNames ++ ClusterTemplate.fieldNames ++ NodeGroup.fieldNames ++ Credentials.fieldNames

theorem visible_fieldNames : ∀ name ∈ fieldNames, Visible name := by
  have visible : fieldNames.all (fun name => decide (Visible name)) = true := by decide
  exact fun name member => of_decide_eq_true (List.all_eq_true.1 visible name member)

/-! ### Reading -/

theorem members?_record {fields : List (String × Document)} (kept : ∀ field ∈ fields, reread field.1 = field.1) :
    Node.members? (nodeOf (.record fields)) = some (fields.map fun field => (field.1, nodeOf field.2)) := by
  change (entriesOf (fields.map fun field => (some field.1, field.2))).mapM
    (fun entry => entry.1.text?.map (·, entry.2)) = _
  induction fields with
  | nil => rfl
  | cons field rest ih =>
    obtain ⟨own, others⟩ := List.forall_mem_cons.1 kept
    have first : Node.text? (.scalar (reread field.1) false) = some field.1 := by
      rw [Node.text?, own]
    rw [List.map_cons, entriesOf, List.mapM_cons, ih others, Option.getD_some, first]
    rfl

theorem record_nodeOf {names : List String} {fields : List (String × Document)}
    (same : fields.map Prod.fst = names) (single : hasRepeat names = false)
    (known : ∀ name ∈ names, name ∈ fieldNames) :
    Node.source.record names (nodeOf (.record fields)) = some (fields.map fun field => (field.1, nodeOf field.2)) := by
  have kept : ∀ field ∈ fields, reread field.1 = field.1 := by
    intro field member
    refine (visible_fieldNames field.1 (known field.1 ?_)).reread
    rw [← same]
    exact List.mem_map_of_mem member
  have found : Node.source.fields names (nodeOf (.record fields)) =
      some (fields.map fun field => (field.1, nodeOf field.2)) := members?_record kept
  have titles : (fields.map fun field => (field.1, nodeOf field.2)).map Prod.fst = names := by
    rw [List.map_map, ← same]
    rfl
  rw [Source.record, found, Option.bind_eq_bind, Option.bind_some, known?_of_names titles single]

theorem text_nodeOf (s : String) : Node.source.text (nodeOf (.text s)) = some (reread s) := rfl

theorem text_visible {s : String} (visible : Visible s) : Node.source.text (nodeOf (.text s)) = some s := by
  rw [text_nodeOf, visible.reread]

theorem optional_nodeOf (s : Option String) :
    Node.source.optional Node.source.text (nodeOf (.optional s)) = some (s.map reread) := by
  cases s <;> rfl

theorem uuid_nodeOf (uuid : Uuid) : Node.source.uuid (nodeOf (.text (toString uuid))) = some uuid := by
  rw [Source.uuid, text_visible (visible_uuid uuid), Option.bind_eq_bind, Option.bind_some, Uuid.ofString?_toString]

theorem status_nodeOf (status : Status) : Status.read Node.source (nodeOf (.text status.name)) = some status := by
  have name : Node.source.variant (nodeOf (.text status.name)) = some status.name :=
    text_visible (visible_status status)
  rw [Status.read, name, Option.bind_eq_bind, Option.bind_some, Status.ofName?_name]

theorem role_nodeOf (role : Role) : Role.read Node.source (nodeOf (.text role.name)) = some role := by
  have name : Node.source.variant (nodeOf (.text role.name)) = some role.name := text_visible (visible_role role)
  rw [Role.read, name, Option.bind_eq_bind, Option.bind_some, ofName?_roleName]

theorem truth_nodeOf (b : Bool) : Node.source.truth (nodeOf (.bool b)) = some b := by
  cases b <;> rfl

theorem number?_cons {c : Char} {more : List Char} (digit : Text.isDecimal c = true) (positive : c ≠ '0') :
    Node.number? (c :: more) = Text.natural? 10 (c :: more) := by
  have unsigned : c ≠ '+' := by
    rintro rfl
    exact absurd digit (by decide)
  have base : Node.based? (c :: more) = none := by
    unfold Node.based?
    split
    all_goals first | rfl | exact absurd (List.cons.inj ‹_›).1 positive
  have zero : (c :: more).head? ≠ some '0' := fun same => positive (Option.some.inj same)
  unfold Node.number?
  split
  next rest same => exact absurd (List.cons.inj same).1 unsigned
  next => simp only [base, zero, and_false, if_false]

theorem number?_decimal (n : Nat) : Node.number? (Text.decimal n) = some n := by
  have value := Text.natural?_decimal n
  have whole : Text.decimal n = ['0'] ∨ (Text.decimal n).head? ≠ some '0' ∧ Text.decimal n ≠ [] :=
    (grammatical_decimal n).whole
  have digits : ∀ c ∈ Text.decimal n, Text.isDecimal c = true := fun c => Text.isDecimal_decimal
  generalize Text.decimal n = text at *
  rcases whole with rfl | ⟨front, some⟩
  · exact value
  · obtain ⟨c, more, rfl⟩ := List.exists_cons_of_ne_nil some
    rw [number?_cons (digits c (List.mem_cons_self ..)) fun zero => front (congrArg Option.some zero), value]

theorem nodeOf_natural (n : Nat) : nodeOf (.natural n) = .scalar (String.ofList (Text.decimal n)) true := by
  rw [Document.natural, nodeOf]
  simp [Numeral.print]

theorem natural_nodeOf {limit n : Nat} (small : n ≤ limit) :
    Node.source.natural limit (nodeOf (.natural n)) = some n := by
  rw [nodeOf_natural]
  change Node.natural? limit (.scalar (String.ofList (Text.decimal n)) true) = some n
  rw [Node.natural?, String.toList_ofList, number?_decimal, Option.bind_eq_bind, Option.bind_some, if_pos small]

theorem absent_natural (n : Nat) : Node.source.absent (nodeOf (.natural n)) = false := by
  have wordless : ∀ word ∈ Node.nullWords, Node.number? word.toList = none := by decide
  rw [nodeOf_natural]
  change Node.nullWords.contains (String.ofList (Text.decimal n)) = false
  by_contra found
  rw [Bool.not_eq_false, List.contains_iff_mem] at found
  have none := wordless _ found
  rw [String.toList_ofList, number?_decimal] at none
  cases none

theorem unsigned32_nodeOf (n : UInt32) : Node.source.unsigned32 (nodeOf (.natural n.toNat)) = some n :=
  unsigned32_of_natural fun _ => natural_nodeOf

theorem optional_count_nodeOf (n : Option UInt32) :
    Node.source.optional Node.source.unsigned32 (nodeOf (countDocument n)) = some n := by
  cases n with
  | none => rfl
  | some n =>
    rw [countDocument, Source.optional, absent_natural, unsigned32_nodeOf]
    rfl

theorem list_nodeOf {α : Type} {print : α → Document} {read : Node → Option α} {f : α → α} {items : List α}
    (reads : ∀ item ∈ items, read (nodeOf (print item)) = some (f item)) :
    Node.source.list read (nodeOf (.array (items.map print))) = some (items.map f) := by
  change (nodesOf (items.map print)).mapM read = some (items.map f)
  induction items with
  | nil => rfl
  | cons item rest ih =>
    obtain ⟨own, others⟩ := List.forall_mem_cons.1 reads
    rw [List.map_cons, nodesOf, List.mapM_cons, own, ih others]
    rfl

end Yaml

open Yaml Record Json

/-! ### Records -/

namespace Credentials

theorem read_nodeOf (credentials : Credentials) :
    read Node.source (nodeOf credentials.toDocument) = some (credentials.mapTexts reread) := by
  have record : Node.source.record fieldNames (nodeOf credentials.toDocument) = some _ :=
    record_nodeOf rfl (by decide) (by decide)
  simp only [read, record, List.map_cons, Option.bind_eq_bind, Option.bind_some, defaulted_cons_self,
    defaulted_cons_of_ne, ne_eq, String.reduceEq, not_false_eq_true, optional_nodeOf]
  rfl

end Credentials

namespace NodeGroup

theorem read_nodeOf (group : NodeGroup) :
    read Node.source (nodeOf group.toDocument) = some (group.mapTexts reread) := by
  have record : Node.source.record fieldNames (nodeOf group.toDocument) = some _ :=
    record_nodeOf rfl (by decide) (by decide)
  simp only [read, record, List.map_cons, Option.bind_eq_bind, Option.bind_some, required_cons_self,
    required_cons_of_ne, defaulted_cons_self, defaulted_cons_of_ne, ne_eq, String.reduceEq, not_false_eq_true,
    uuid_nodeOf, text_nodeOf, role_nodeOf, unsigned32_nodeOf, optional_count_nodeOf, truth_nodeOf]
  rfl

end NodeGroup

namespace TextMap

theorem read_nodeOf {map : TextMap} (kept : ∀ name ∈ map.names, reread name = name) :
    read Node.source (nodeOf map.toDocument) = some (map.mapTexts reread) := by
  have members : Node.source.members (nodeOf map.toDocument) =
      some ((map.entries.map fun entry => (entry.1, Document.text entry.2)).map fun field =>
        (field.1, nodeOf field.2)) := by
    refine members?_record fun field member => ?_
    obtain ⟨entry, listed, rfl⟩ := List.mem_map.1 member
    exact kept entry.1 (List.mem_map_of_mem listed)
  have texts : ∀ entries : List (String × String),
      ((entries.map fun entry => (entry.1, Document.text entry.2)).map fun field =>
        (field.1, nodeOf field.2)).mapM (fun member => do
          let text ← Node.source.text member.2
          some (member.1, text)) = some (entries.map fun entry => (entry.1, reread entry.2)) := by
    intro entries
    induction entries with
    | nil => rfl
    | cons entry rest ih =>
      rw [List.map_cons, List.map_cons, List.mapM_cons, ih]
      rfl
  rw [read, members, Option.bind_eq_bind, Option.bind_some, texts, Option.bind_eq_bind, Option.bind_some]
  exact congrArg some (ofList_entries (map.mapTexts reread))

end TextMap

namespace ClusterTemplate

theorem read_nodeOf {template : ClusterTemplate} (kept : ∀ name ∈ template.labels.names, reread name = name) :
    read Node.source (nodeOf template.toDocument) = some (template.mapTexts reread) := by
  have record : Node.source.record fieldNames (nodeOf template.toDocument) = some _ :=
    record_nodeOf rfl (by decide) (by decide)
  simp only [read, record, List.map_cons, Option.bind_eq_bind, Option.bind_some, required_cons_self,
    required_cons_of_ne, defaulted_cons_self, defaulted_cons_of_ne, ne_eq, String.reduceEq, not_false_eq_true,
    uuid_nodeOf, text_nodeOf, optional_nodeOf, truth_nodeOf, TextMap.read_nodeOf kept]
  rfl

end ClusterTemplate

namespace Cluster

theorem optional_template_nodeOf (template : Option ClusterTemplate) :
    (∀ name ∈ template.toList.flatMap (·.labels.names), reread name = name) →
    Node.source.optional (ClusterTemplate.read Node.source)
      (nodeOf (match template with
        | none => .null
        | some template => template.toDocument)) = some (template.map (·.mapTexts reread)) := by
  intro kept
  cases template with
  | none => rfl
  | some template =>
    have present : Node.source.absent (nodeOf template.toDocument) = false := rfl
    rw [Source.optional, present, ClusterTemplate.read_nodeOf fun name member => kept name (by simpa using member)]
    rfl

theorem read_nodeOf {cluster : Cluster} (kept : ∀ name ∈ cluster.labelNames, reread name = name) :
    read Node.source (nodeOf cluster.toDocument) = some (cluster.mapTexts reread) := by
  have record : Node.source.record fieldNames (nodeOf cluster.toDocument) = some _ :=
    record_nodeOf rfl (by decide) (by decide)
  have groups : Node.source.list (NodeGroup.read Node.source)
      (nodeOf (.array (cluster.nodeGroups.map NodeGroup.toDocument))) =
        some (cluster.nodeGroups.map (·.mapTexts reread)) :=
    list_nodeOf fun group _ => group.read_nodeOf
  simp only [read, record, List.map_cons, Option.bind_eq_bind, Option.bind_some, required_cons_self,
    required_cons_of_ne, defaulted_cons_self, defaulted_cons_of_ne, ne_eq, String.reduceEq, not_false_eq_true,
    uuid_nodeOf, text_nodeOf, status_nodeOf, optional_nodeOf, groups, Credentials.read_nodeOf]
  exact congrArg (Option.bind · _) (optional_template_nodeOf cluster.template kept)

end Cluster

/-! ### What has to be readable -/

namespace Yaml

section Each

variable {text name : String → Prop}

theorem each_text {s : String} : Each text name (.text s) ↔ text s := by
  simp [Document.text, Each]

theorem each_optional {s : Option String} : Each text name (.optional s) ↔ ∀ t ∈ s.toList, text t := by
  cases s with
  | none => simp [Document.optional, Each]
  | some s => simp [Document.optional, each_text]

theorem each_count {n : Option UInt32} : Each text name (countDocument n) := by
  cases n <;> trivial

theorem each_array {items : List Document} :
    Each text name (.array items) ↔ ∀ item ∈ items, Each text name item := by
  rw [Each]
  induction items with
  | nil => simp [EachItem]
  | cons item rest ih => rw [EachItem, ih, List.forall_mem_cons]

theorem each_record {fields : List (String × Document)} :
    Each text name (.record fields) ↔ ∀ field ∈ fields, name field.1 ∧ Each text name field.2 := by
  rw [Document.record, Each]
  induction fields with
  | nil => simp [EachMember]
  | cons field rest ih =>
    rw [List.map_cons, EachMember, ih, List.forall_mem_cons, and_assoc]
    simp

end Each

theorem readable_fieldNames : ∀ name ∈ fieldNames, ReadableName name := by
  have fits : fieldNames.all (fun name => decide (Fits name)) = true := by decide
  intro name member
  exact ⟨(visible_fieldNames name member).readable, of_decide_eq_true (List.all_eq_true.1 fits name member)⟩

theorem readable_record (names : List String) {fields : List (String × Document)}
    (same : fields.map Prod.fst = names) (known : ∀ name ∈ names, name ∈ fieldNames) :
    Each Readable ReadableName (.record fields) ↔ ∀ field ∈ fields, Each Readable ReadableName field.2 := by
  rw [each_record]
  refine forall₂_congr fun field member => and_iff_right (readable_fieldNames field.1 (known field.1 ?_))
  rw [← same]
  exact List.mem_map_of_mem member

theorem readable_credentials (credentials : Credentials) :
    Each Readable ReadableName credentials.toDocument ↔ ∀ t ∈ credentials.texts, Readable t := by
  rw [Credentials.toDocument, readable_record Credentials.fieldNames rfl (by decide), Credentials.texts]
  simp only [List.forall_mem_cons, each_optional, List.forall_mem_append, List.not_mem_nil, false_implies,
    implies_true, and_true, and_assoc]

theorem readable_group (group : NodeGroup) :
    Each Readable ReadableName group.toDocument ↔ ∀ t ∈ group.texts, Readable t := by
  have truth : ∀ b, Each Readable ReadableName (.bool b) := fun _ => trivial
  have count : Each Readable ReadableName (.natural group.count.toNat) := trivial
  rw [NodeGroup.toDocument, readable_record NodeGroup.fieldNames rfl (by decide), NodeGroup.texts]
  simp only [List.forall_mem_cons, each_text, each_count, count, truth, (visible_uuid group.uuid).readable,
    (visible_role group.role).readable, List.not_mem_nil, false_implies, implies_true, and_true, true_and]

theorem readable_labels (labels : TextMap) : Each Readable ReadableName labels.toDocument ↔
    (∀ t ∈ labels.texts, Readable t) ∧ ∀ name ∈ labels.names, ReadableName name := by
  rw [TextMap.toDocument, each_record, TextMap.texts, TextMap.names]
  simp only [List.forall_mem_map, each_text]
  exact ⟨fun each => ⟨fun entry member => (each entry member).2, fun entry member => (each entry member).1⟩,
    fun each entry member => ⟨each.2 entry member, each.1 entry member⟩⟩

theorem readable_template (template : ClusterTemplate) : Each Readable ReadableName template.toDocument ↔
    (∀ t ∈ template.texts, Readable t) ∧ ∀ name ∈ template.labels.names, ReadableName name := by
  have truth : Each Readable ReadableName (.bool template.deprecated) := trivial
  rw [ClusterTemplate.toDocument, readable_record ClusterTemplate.fieldNames rfl (by decide),
    ClusterTemplate.texts]
  simp only [List.forall_mem_cons, List.forall_mem_append, each_text, each_optional, truth, readable_labels,
    (visible_uuid template.uuid).readable, List.not_mem_nil, false_implies, implies_true, and_true, true_and, and_assoc]

end Yaml

def Cluster.Readable (cluster : Cluster) : Prop :=
  (∀ t ∈ cluster.texts, Yaml.Readable t) ∧ ∀ name ∈ cluster.labelNames, Yaml.ReadableName name

namespace Yaml

theorem readable_cluster (cluster : Cluster) :
    Each Readable ReadableName cluster.toDocument ↔ cluster.Readable := by
  have groups : Each Readable ReadableName (.array (cluster.nodeGroups.map NodeGroup.toDocument)) ↔
      ∀ t ∈ cluster.nodeGroups.flatMap NodeGroup.texts, Readable t := by
    rw [each_array, List.forall_mem_map]
    simp only [readable_group, List.forall_mem_flatMap]
  have template : Each Readable ReadableName (match cluster.template with
      | none => Document.null
      | some template => template.toDocument) ↔
      (∀ t ∈ cluster.template.toList.flatMap ClusterTemplate.texts, Readable t) ∧
        ∀ name ∈ cluster.labelNames, ReadableName name := by
    rw [Cluster.labelNames]
    cases cluster.template with
    | none => simp [Each]
    | some template => simpa using readable_template template
  rw [Cluster.toDocument, readable_record Cluster.fieldNames rfl (by decide), Cluster.Readable, Cluster.texts]
  simp only [List.forall_mem_cons, List.forall_mem_append, each_text, each_optional, groups, readable_credentials,
    (visible_uuid cluster.uuid).readable, (visible_uuid cluster.templateId).readable,
    (visible_status cluster.status).readable, List.not_mem_nil, false_implies, implies_true, and_true, true_and]
  constructor
  · rintro ⟨name, project, reason, stack, inner, nodes, credentials⟩
    obtain ⟨texts, labels⟩ := template.1 inner
    exact ⟨⟨name, project, ⟨⟨⟨reason, stack⟩, texts⟩, nodes⟩, credentials⟩, labels⟩
  · rintro ⟨⟨name, project, ⟨⟨⟨reason, stack⟩, texts⟩, nodes⟩, credentials⟩, labels⟩
    exact ⟨name, project, reason, stack, template.2 ⟨texts, labels⟩, nodes, credentials⟩

theorem ReadableName.reread {s : String} (readable : ReadableName s) : reread s = s :=
  reread_of_single readable.2.1

/-- A stored record is read as YAML if it is readable, and its texts are then read anew. -/
theorem ofText?_stored (cluster : Cluster) :
    Gives cluster.Readable (cluster.mapTexts reread) (Cluster.ofText? cluster.stored) := by
  have nodes : Gives (Each Readable ReadableName cluster.toDocument) (nodeOf cluster.toDocument)
      (Node.ofText? cluster.stored) := ofText?_pretty_object cluster.sound_toDocument
  rw [readable_cluster] at nodes
  rw [Cluster.ofText?]
  constructor
  · intro readable
    rw [nodes.1 readable, Option.bind_eq_bind, Option.bind_some,
      Cluster.read_nodeOf fun name member => (readable.2 name member).reread]
  · intro refused
    rw [nodes.2 refused]
    rfl

end Yaml

end ClusterLifecycle
