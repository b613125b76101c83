import ClusterLifecycle.Proofs.RecordRoundTrip
import ClusterLifecycle.Proofs.SortedEntries
import Mathlib.Data.List.Count
import Mathlib.Data.Option.Basic

/-!
Records in other hands. Fields that have their initial values may be left out, fields may stand in any order,
and fields of other names may be put in with whatever values: what is read is the record that was stored. A
field without an initial value has to be there, and no field of a record may be there twice.
-/

namespace ClusterLifecycle

open Record Json

/-! ### Shapes -/

/-- What may become of a stored document, and what is no such document at all. -/
structure Shape where
  varies : Document → Document → Prop
  spoils : Document → Prop

/-- A field of a record. What it stands for when it is left out is given as it is stored. -/
structure Field where
  name : String
  initial? : Option Document
  shape : Shape

/-- The fields of a stored record that are kept. -/
inductive Keeps : List Field → List (String × Document) → List (String × Document) → Prop where
  | nil : Keeps [] [] []
  | keep {field : Field} {value other : Document} {fields : List Field} {stored kept : List (String × Document)}
      (varies : field.shape.varies value other) (rest : Keeps fields stored kept) :
      Keeps (field :: fields) ((field.name, value) :: stored) ((field.name, other) :: kept)
  | drop {field : Field} {value : Document} {fields : List Field} {stored kept : List (String × Document)}
      (initial : field.initial? = some value) (rest : Keeps fields stored kept) :
      Keeps (field :: fields) ((field.name, value) :: stored) kept

/-- A record with some fields left out, others put in, and all of them in any order. -/
inductive VariesRecord (fields : List Field) : Document → Document → Prop where
  | members {stored kept foreign members : List (String × Document)} (keeps : Keeps fields stored kept)
      (unknown : ∀ entry ∈ foreign, entry.1 ∉ fields.map (·.name)) (mixed : members.Perm (kept ++ foreign)) :
      VariesRecord fields (.record stored) (.record members)

/-- What keeps an object from being read as a record. -/
inductive SpoilsRecord (fields : List Field) : Document → Prop where
  | missing {field : Field} {members : List (Option String × Document)} (known : field ∈ fields)
      (needed : field.initial? = none) (absent : some field.name ∉ members.map Prod.fst) :
      SpoilsRecord fields (.object members)
  | repeated {field : Field} {members : List (Option String × Document)} (known : field ∈ fields)
      (twice : 2 ≤ (members.map Prod.fst).count (some field.name)) : SpoilsRecord fields (.object members)
  | within {field : Field} {value : Document} {members : List (Option String × Document)} (known : field ∈ fields)
      (member : (some field.name, value) ∈ members) (spoils : field.shape.spoils value) :
      SpoilsRecord fields (.object members)

namespace Shape

def plain : Shape where
  varies document other := other = document
  spoils _ := False

def optional (shape : Shape) : Shape where
  varies document other := (document = .null ∧ other = .null) ∨ (document ≠ .null ∧ shape.varies document other)
  spoils document := document ≠ .null ∧ shape.spoils document

def list (shape : Shape) : Shape where
  varies document other := ∃ items others, document = .array items ∧ other = .array others ∧
    List.Forall₂ shape.varies items others
  spoils document := ∃ items, document = .array items ∧ ∃ item ∈ items, shape.spoils item

def record (fields : List Field) : Shape where
  varies := VariesRecord fields
  spoils := SpoilsRecord fields

end Shape

namespace Credentials

def shape : Shape := .record [
  ⟨"trust_id", some .null, .plain⟩,
  ⟨"trustee_user_id", some .null, .plain⟩,
  ⟨"trustee_password", some .null, .plain⟩]

end Credentials

namespace NodeGroup

def shape : Shape := .record [
  ⟨"uuid", none, .plain⟩,
  ⟨"name", none, .plain⟩,
  ⟨"role", some (.text "worker"), .plain⟩,
  ⟨"flavor_id", none, .plain⟩,
  ⟨"node_count", none, .plain⟩,
  ⟨"min_node_count", some .null, .plain⟩,
  ⟨"max_node_count", some .null, .plain⟩,
  ⟨"is_default", some (.bool false), .plain⟩,
  ⟨"autoscale", some (.bool false), .plain⟩]

end NodeGroup

namespace ClusterTemplate

def shape : Shape := .record [
  ⟨"uuid", none, .plain⟩,
  ⟨"name", none, .plain⟩,
  ⟨"image_id", none, .plain⟩,
  ⟨"kube_version", some .null, .plain⟩,
  ⟨"labels", some (.record []), .plain⟩,
  ⟨"deprecated", some (.bool false), .plain⟩]

end ClusterTemplate

namespace Cluster

def shape : Shape := .record [
  ⟨"uuid", none, .plain⟩,
  ⟨"name", none, .plain⟩,
  ⟨"project_id", none, .plain⟩,
  ⟨"status", some (.text "CREATE_IN_PROGRESS"), .plain⟩,
  ⟨"status_reason", some .null, .plain⟩,
  ⟨"stack_id", some .null, .plain⟩,
  ⟨"cluster_template_id", none, .plain⟩,
  ⟨"cluster_template", some .null, ClusterTemplate.shape.optional⟩,
  ⟨"node_groups", some (.array []), NodeGroup.shape.list⟩,
  ⟨"credentials",
    some (.record [("trust_id", .null), ("trustee_user_id", .null), ("trustee_password", .null)]),
    Credentials.shape⟩]

end Cluster

/-! ### What is found of a field -/

/-- A field among those that are known: what has become of its value, or nothing where that is the initial one. -/
inductive Held (field : Field) (value : Document) (known : List (String × Document)) : Prop where
  | kept {other : Document} (found : known.lookup field.name = some other) (varies : field.shape.varies value other)
  | dropped (missing : known.lookup field.name = none) (initial : field.initial? = some value)

/-- A field among those that are known that cannot be read. -/
inductive Fails (field : Field) (known : List (String × Document)) : Prop where
  | missing (missing : known.lookup field.name = none) (needed : field.initial? = none)
  | spoilt {value : Document} (found : known.lookup field.name = some value) (spoils : field.shape.spoils value)

variable {field : Field} {fields : List Field} {value document : Document}
  {stored kept known others : List (String × Document)}

theorem Held.congr (held : Held field value known) (same : others.lookup field.name = known.lookup field.name) :
    Held field value others := by
  cases held with
  | kept found varies => exact .kept (same.trans found) varies
  | dropped missing initial => exact .dropped (same.trans missing) initial

theorem Keeps.names_sublist (keeps : Keeps fields stored kept) :
    (kept.map Prod.fst).Sublist (fields.map (·.name)) := by
  induction keeps with
  | nil => exact .slnil
  | keep _ _ ih => exact ih.cons_cons _
  | drop _ _ ih => exact ih.cons _

theorem lookup_eq_none_of_names {name : String} (absent : name ∉ kept.map Prod.fst) : kept.lookup name = none := by
  rw [List.lookup_eq_none_iff]
  intro entry member
  have other : name ≠ entry.1 := fun same => absent (same ▸ List.mem_map_of_mem member)
  simpa using other

theorem Keeps.held (keeps : Keeps fields stored kept) (distinct : (fields.map (·.name)).Nodup) :
    List.Forall₂ (fun field entry => Held field entry.2 kept) fields stored := by
  induction keeps with
  | nil => exact .nil
  | @keep field value other fields stored kept varies rest ih =>
    obtain ⟨fresh, distinct⟩ := List.nodup_cons.1 distinct
    refine .cons (.kept List.lookup_cons_self varies) ?_
    have later := (List.forall₂_and_left _ _).2 ⟨fun _ member => member, ih distinct⟩
    refine later.imp fun entry found pair => pair.2.congr ?_
    have different : (entry.name == field.name) = false := by
      have apart : entry.name ≠ field.name := fun same => fresh (List.mem_map.2 ⟨entry, pair.1, same⟩)
      simpa using apart
    rw [List.lookup_cons, different]
  | @drop field value fields stored kept initial rest ih =>
    obtain ⟨fresh, distinct⟩ := List.nodup_cons.1 distinct
    have absent := lookup_eq_none_of_names fun member => fresh (rest.names_sublist.subset member)
    exact .cons (.dropped absent initial) (ih distinct)

theorem hasRepeat_eq_false_iff {names : List String} : hasRepeat names = false ↔ names.Nodup := by
  induction names with
  | nil => simp [hasRepeat]
  | cons name rest ih => simp [hasRepeat, ih]

theorem known?_eq_some_iff {names : List String} {members : List (String × Document)} :
    known? names members = some known ↔
      members.filter (fun member => names.contains member.1) = known ∧ (known.map Prod.fst).Nodup := by
  unfold known?
  dsimp only
  split_ifs with repeated
  · have again : ¬ ((members.filter fun member => names.contains member.1).map Prod.fst).Nodup := by
      rw [← hasRepeat_eq_false_iff, repeated]
      decide
    simp only [false_iff, not_and]
    rintro rfl
    exact again
  · rw [Bool.not_eq_true, hasRepeat_eq_false_iff] at repeated
    rw [Option.some.injEq]
    constructor
    · rintro rfl
      exact ⟨rfl, repeated⟩
    · exact And.left

theorem record_of_varies {other : Document} (varies : VariesRecord fields document other)
    (distinct : (fields.map (·.name)).Nodup) :
    ∃ stored known, document = .record stored ∧ Document.source.record (fields.map (·.name)) other = some known ∧
      List.Forall₂ (fun field entry => Held field entry.2 known) fields stored := by
  obtain @⟨stored, kept, foreign, members, keeps, unknown, mixed⟩ := varies
  have names := keeps.names_sublist
  have own : kept.filter (fun member => (fields.map (·.name)).contains member.1) = kept := by
    refine List.filter_eq_self.2 fun entry member => ?_
    simpa using names.subset (List.mem_map_of_mem member)
  have none : foreign.filter (fun member => (fields.map (·.name)).contains member.1) = [] := by
    refine List.filter_eq_nil_iff.2 fun entry member => ?_
    simpa using unknown entry member
  have perm := mixed.filter fun member => (fields.map (·.name)).contains member.1
  rw [List.filter_append, own, none, List.append_nil] at perm
  have single : (kept.map Prod.fst).Nodup := distinct.sublist names
  have single' := (perm.map Prod.fst).nodup_iff.2 single
  have named : Document.source.fields (fields.map (·.name)) (.record members) = some members := named_map_some members
  have read := known?_eq_some_iff.2 ⟨rfl, single'⟩
  have held := (keeps.held distinct).imp fun field entry held => held.congr (lookup_perm single' perm field.name)
  refine ⟨stored, _, rfl, ?_, held⟩
  rw [Source.record, named, Option.bind_eq_bind, Option.bind_some, read]

theorem eq_of_named {members : List (Option String × Document)} {entries : List (String × Document)}
    (named : Document.named members = some entries) :
    members = entries.map fun (name, value) => (some name, value) := by
  unfold Document.named at named
  induction members generalizing entries with
  | nil =>
    obtain rfl := Option.some.inj named
    rfl
  | cons member rest ih =>
    rw [List.mapM_cons] at named
    obtain ⟨entry, first, named⟩ := Option.bind_eq_some_iff.1 named
    obtain ⟨others, later, same⟩ := Option.bind_eq_some_iff.1 named
    obtain rfl := Option.some.inj same
    obtain ⟨name, given, rfl⟩ := Option.map_eq_some_iff.1 first
    rw [List.map_cons, ← ih later]
    exact congrArg (· :: rest) (Prod.ext given rfl)

theorem fails_of_spoils (spoils : SpoilsRecord fields document)
    (found : Document.source.record (fields.map (·.name)) document = some known) :
    ∃ field ∈ fields, Fails field known := by
  have parts : ∀ members, Document.source.record (fields.map (·.name)) (.object members) = some known →
      ∃ entries : List (String × Document), members = entries.map (fun (name, value) => (some name, value)) ∧
        entries.filter (fun entry => (fields.map (·.name)).contains entry.1) = known ∧ (known.map Prod.fst).Nodup := by
    intro members found
    obtain ⟨entries, named, found⟩ := Option.bind_eq_some_iff.1 found
    exact ⟨entries, eq_of_named named, known?_eq_some_iff.1 found⟩
  have firsts : ∀ entries : List (String × Document),
      (entries.map fun (name, value) => (some name, value)).map Prod.fst = (entries.map Prod.fst).map some := by
    intro entries
    rw [List.map_map, List.map_map]
    rfl
  cases spoils with
  | @missing field members listed needed absent =>
    obtain ⟨entries, rfl, rfl, distinct⟩ := parts members found
    have stays : (fields.map (·.name)).contains field.name = true := by simpa using ⟨field, listed, rfl⟩
    refine ⟨field, listed, .missing ?_ needed⟩
    rw [lookup_filter fun _ => stays]
    refine lookup_eq_none_of_names fun member => absent ?_
    rw [firsts]
    exact List.mem_map_of_mem member
  | @repeated field members listed twice =>
    obtain ⟨entries, rfl, rfl, distinct⟩ := parts members found
    have stays : (fields.map (·.name)).contains field.name = true := by simpa using ⟨field, listed, rfl⟩
    have single := List.nodup_iff_count_le_one.1 distinct field.name
    have kept : (entries.filter fun entry => (fields.map (·.name)).contains entry.1).map Prod.fst =
        (entries.map Prod.fst).filter (fields.map (·.name)).contains := by
      rw [List.filter_map]
      rfl
    rw [kept, List.count_filter stays] at single
    rw [firsts, List.count_map_of_injective _ _ (Option.some_injective _)] at twice
    omega
  | @within field value members listed member spoils =>
    obtain ⟨entries, rfl, rfl, distinct⟩ := parts members found
    obtain ⟨⟨name, data⟩, there, same⟩ := List.mem_map.1 member
    obtain ⟨named, rfl⟩ := Prod.mk.inj same
    obtain rfl := Option.some.inj named
    refine ⟨field, listed, .spoilt ((lookup_eq_some_iff_mem distinct _ _).2 (List.mem_filter.2 ⟨there, ?_⟩)) spoils⟩
    simpa using ⟨field, listed, rfl⟩

/-! ### Readers -/

/-- A reader that takes whatever has become of a stored value back to it, and that takes nothing spoilt. -/
structure Fits {α : Type} (shape : Shape) (encode : α → Document) (read : Document → Option α) : Prop where
  stored : ∀ value, read (encode value) = some value
  varied : ∀ value other, shape.varies (encode value) other → read other = some value
  spoilt : ∀ document, shape.spoils document → read document = none

section Readers

variable {α : Type} {shape : Shape} {encode : α → Document} {read : Document → Option α} {name : String}

theorem fits_plain (stored : ∀ value, read (encode value) = some value) : Fits .plain encode read where
  stored := stored
  varied value _ same := (congrArg read same).trans (stored value)
  spoilt _ := nofun

theorem fits_optional (fits : Fits shape encode read) (nothing : read .null = none) :
    Fits shape.optional (fun value => value.elim .null encode) (Document.source.optional read) := by
  have absent : ∀ document, Document.source.absent document = true ↔ document = .null := by
    intro document
    change document.isNull = true ↔ document = .null
    cases document <;> simp [Document.isNull]
  have present : ∀ document, document ≠ .null → Document.source.optional read document = (read document).map some := by
    intro document there
    rw [Source.optional, if_neg fun same => there ((absent document).1 same)]
  have some_ne : ∀ value, encode value ≠ .null := by
    intro value same
    have found := fits.stored value
    rw [same, nothing] at found
    cases found
  constructor
  case stored =>
    intro value
    cases value with
    | none => rfl
    | some value => rw [Option.elim_some, present _ (some_ne value), fits.stored, Option.map_some]
  case varied =>
    intro value other varies
    rcases varies with ⟨null, rfl⟩ | ⟨there, varies⟩
    · cases value with
      | none => rfl
      | some value => exact absurd null (some_ne value)
    · cases value with
      | none => exact absurd rfl there
      | some value =>
        have found := fits.varied value other varies
        have some : other ≠ .null := by
          rintro rfl
          rw [nothing] at found
          cases found
        rw [present other some, found, Option.map_some]
  case spoilt =>
    intro document spoils
    rw [present document spoils.1, fits.spoilt document spoils.2, Option.map_none]

theorem mapM_eq_some_of_forall₂ {values : List α} {others : List Document}
    (each : List.Forall₂ (fun value other => read other = some value) values others) :
    others.mapM read = some values := by
  induction each with
  | nil => rfl
  | cons found _ ih =>
    rw [List.mapM_cons, found, ih]
    rfl

theorem mapM_eq_none {item : Document} {items : List Document} (member : item ∈ items) (refused : read item = none) :
    items.mapM read = none := by
  induction items with
  | nil => cases member
  | cons first rest ih =>
    rw [List.mapM_cons]
    rcases List.mem_cons.1 member with rfl | later
    · rw [refused]
      rfl
    · rw [ih later]
      cases read first <;> rfl

theorem fits_list (fits : Fits shape encode read) :
    Fits shape.list (fun values => .array (values.map encode)) (Document.source.list read) := by
  constructor
  case stored =>
    intro values
    exact mapM_eq_some_of_forall₂ (List.forall₂_map_right_iff.2 (List.forall₂_same.2 fun value _ => fits.stored value))
  case varied =>
    intro values document varies
    obtain ⟨items, others, same, rfl, each⟩ := varies
    obtain rfl := Document.array.inj same
    exact mapM_eq_some_of_forall₂ ((List.forall₂_map_left_iff.1 each).imp fun value other => fits.varied value other)
  case spoilt =>
    intro document spoils
    obtain ⟨items, rfl, item, member, spoils⟩ := spoils
    exact mapM_eq_none member (fits.spoilt item spoils)

theorem Fits.read_required (fits : Fits shape encode read) {value : α}
    (held : Held ⟨name, none, shape⟩ (encode value) known) : required known name read = some value := by
  cases held with
  | kept found varies => rw [required, found, Option.bind_eq_bind, Option.bind_some, fits.varied value _ varies]
  | dropped missing initial => cases initial

theorem Fits.read_defaulted (fits : Fits shape encode read) {start : Document} (initial : α)
    (starts : start = encode initial) {value : α} (held : Held ⟨name, some start, shape⟩ (encode value) known) :
    defaulted known name initial read = some value := by
  cases held with
  | kept found varies =>
    rw [defaulted, found]
    exact fits.varied value _ varies
  | dropped missing same =>
    have unchanged : encode initial = encode value := starts.symm.trans (Option.some.inj same)
    rw [defaulted, missing, ← fits.stored initial, unchanged, fits.stored]

theorem Fits.not_fails_required (fits : Fits shape encode read) {value : α}
    (result : required known name read = some value) : ¬ Fails ⟨name, none, shape⟩ known := by
  intro fails
  obtain ⟨data, found, result⟩ := Option.bind_eq_some_iff.1 result
  cases fails with
  | missing missing needed =>
    have clash := missing.symm.trans found
    cases clash
  | spoilt there spoils =>
    obtain rfl := Option.some.inj (there.symm.trans found)
    have clash := (fits.spoilt _ spoils).symm.trans result
    cases clash

theorem Fits.not_fails_defaulted (fits : Fits shape encode read) {start : Document} {value initial : α}
    (result : defaulted known name initial read = some value) : ¬ Fails ⟨name, some start, shape⟩ known := by
  intro fails
  cases fails with
  | missing missing needed => cases needed
  | spoilt there spoils =>
    rw [defaulted, there] at result
    have clash := (fits.spoilt _ spoils).symm.trans result
    cases clash

theorem record_injective {left right : List (String × Document)} (same : Document.record left = .record right) :
    left = right := by
  have named := named_map_some left
  rw [Document.object.inj same, named_map_some] at named
  exact (Option.some.inj named).symm

/-- A reader of records fits where it reads all that is held, and only where nothing fails. -/
theorem fits_record (stored : ∀ value, read (encode value) = some value) (distinct : (fields.map (·.name)).Nodup)
    (held : ∀ value stored other known, encode value = .record stored →
      Document.source.record (fields.map (·.name)) other = some known →
      List.Forall₂ (fun field entry => Held field entry.2 known) fields stored → read other = some value)
    (sound : ∀ document value, read document = some value → ∃ known,
      Document.source.record (fields.map (·.name)) document = some known ∧ ∀ field ∈ fields, ¬ Fails field known) :
    Fits (.record fields) encode read := by
  constructor
  case stored => exact stored
  case varied =>
    intro value other varies
    obtain ⟨stored, known, same, found, each⟩ := record_of_varies varies distinct
    exact held value stored other known same found each
  case spoilt =>
    intro document spoils
    cases result : read document with
    | none => rfl
    | some value =>
      obtain ⟨known, found, fine⟩ := sound document value result
      obtain ⟨field, listed, fails⟩ := fails_of_spoils spoils found
      exact absurd fails (fine field listed)

end Readers

theorem fits_uuid : Fits .plain (fun uuid : Uuid => .text (toString uuid)) Document.source.uuid :=
  fits_plain uuid_text

theorem fits_text : Fits .plain .text Document.source.text :=
  fits_plain text_text

theorem fits_optionalText : Fits .plain .optional (Document.source.optional Document.source.text) :=
  fits_plain optional_text

theorem fits_count : Fits .plain (fun n : UInt32 => .natural n.toNat) Document.source.unsigned32 :=
  fits_plain unsigned32_natural

theorem fits_optionalCount : Fits .plain countDocument (Document.source.optional Document.source.unsigned32) :=
  fits_plain optional_count

theorem fits_truth : Fits .plain .bool Document.source.truth :=
  fits_plain truth_bool

theorem Credentials.fits : Fits shape toDocument (read Document.source) := by
  refine fits_record read_toDocument (by decide) ?_ ?_
  · intro credentials stored other known same found held
    obtain rfl := record_injective same
    simp only [List.forall₂_cons] at held
    obtain ⟨trust, user, password, -⟩ := held
    have found : Document.source.record fieldNames other = some known := found
    simp only [read, found, Option.bind_eq_bind, Option.bind_some,
      fits_optionalText.read_defaulted none rfl trust, fits_optionalText.read_defaulted none rfl user,
      fits_optionalText.read_defaulted none rfl password]
  · intro document credentials result
    simp only [read, Option.bind_eq_bind, Option.bind_eq_some_iff] at result
    obtain ⟨known, found, _, trust, _, user, _, password, -⟩ := result
    refine ⟨known, found, ?_⟩
    simp only [List.forall_mem_cons, List.not_mem_nil, false_implies, implies_true, and_true]
    exact ⟨fits_optionalText.not_fails_defaulted trust, fits_optionalText.not_fails_defaulted user,
      fits_optionalText.not_fails_defaulted password⟩

theorem fits_role : Fits .plain (fun role : Role => .text role.name) (Role.read Document.source) :=
  fits_plain ofName?_roleName

theorem fits_status : Fits .plain (fun status : Status => .text status.name) (Status.read Document.source) :=
  fits_plain Status.ofName?_name

theorem fits_labels : Fits .plain TextMap.toDocument (TextMap.read Document.source) :=
  fits_plain TextMap.read_toDocument

theorem NodeGroup.fits : Fits shape toDocument (read Document.source) := by
  refine fits_record read_toDocument (by decide) ?_ ?_
  · intro group stored other known same found held
    obtain rfl := record_injective same
    simp only [List.forall₂_cons] at held
    obtain ⟨uuid, name, role, flavor, count, lower, upper, default, autoscale, -⟩ := held
    have found : Document.source.record fieldNames other = some known := found
    simp only [read, found, Option.bind_eq_bind, Option.bind_some, fits_uuid.read_required uuid,
      fits_text.read_required name, fits_role.read_defaulted .worker rfl role, fits_text.read_required flavor,
      fits_count.read_required count, fits_optionalCount.read_defaulted none rfl lower,
      fits_optionalCount.read_defaulted none rfl upper, fits_truth.read_defaulted false rfl default,
      fits_truth.read_defaulted false rfl autoscale]
  · intro document group result
    simp only [read, Option.bind_eq_bind, Option.bind_eq_some_iff] at result
    obtain ⟨known, found, _, uuid, _, name, _, role, _, flavor, _, count, _, lower, _, upper, _, default, _,
      autoscale, -⟩ := result
    refine ⟨known, found, ?_⟩
    simp only [List.forall_mem_cons, List.not_mem_nil, false_implies, implies_true, and_true]
    exact ⟨fits_uuid.not_fails_required uuid, fits_text.not_fails_required name, fits_role.not_fails_defaulted role,
      fits_text.not_fails_required flavor, fits_count.not_fails_required count,
      fits_optionalCount.not_fails_defaulted lower, fits_optionalCount.not_fails_defaulted upper,
      fits_truth.not_fails_defaulted default, fits_truth.not_fails_defaulted autoscale⟩

theorem ClusterTemplate.fits : Fits shape toDocument (read Document.source) := by
  refine fits_record read_toDocument (by decide) ?_ ?_
  · intro template stored other known same found held
    obtain rfl := record_injective same
    simp only [List.forall₂_cons] at held
    obtain ⟨uuid, name, image, version, labels, deprecated, -⟩ := held
    have found : Document.source.record fieldNames other = some known := found
    simp only [read, found, Option.bind_eq_bind, Option.bind_some, fits_uuid.read_required uuid,
      fits_text.read_required name, fits_text.read_required image, fits_optionalText.read_defaulted none rfl version,
      fits_labels.read_defaulted .empty rfl labels, fits_truth.read_defaulted false rfl deprecated]
  · intro document template result
    simp only [read, Option.bind_eq_bind, Option.bind_eq_some_iff] at result
    obtain ⟨known, found, _, uuid, _, name, _, image, _, version, _, labels, _, deprecated, -⟩ := result
    refine ⟨known, found, ?_⟩
    simp only [List.forall_mem_cons, List.not_mem_nil, false_implies, implies_true, and_true]
    exact ⟨fits_uuid.not_fails_required uuid, fits_text.not_fails_required name, fits_text.not_fails_required image,
      fits_optionalText.not_fails_defaulted version, fits_labels.not_fails_defaulted labels,
      fits_truth.not_fails_defaulted deprecated⟩

theorem Cluster.fits : Fits shape toDocument (read Document.source) := by
  have fits_template := fits_optional ClusterTemplate.fits rfl
  have fits_groups := fits_list NodeGroup.fits
  refine fits_record read_toDocument (by decide) ?_ ?_
  · intro cluster stored other known same found held
    obtain rfl := record_injective same
    simp only [List.forall₂_cons] at held
    obtain ⟨uuid, name, project, status, reason, stack, templateId, template, groups, credentials, -⟩ := held
    have found : Document.source.record fieldNames other = some known := found
    have template : Held ⟨"cluster_template", some .null, ClusterTemplate.shape.optional⟩
        (cluster.template.elim .null ClusterTemplate.toDocument) known := by
      cases there : cluster.template with
      | none =>
        simp only [there] at template
        exact template
      | some own =>
        simp only [there] at template
        exact template
    simp only [read, found, Option.bind_eq_bind, Option.bind_some, fits_uuid.read_required uuid,
      fits_text.read_required name, fits_text.read_required project,
      fits_status.read_defaulted default rfl status, fits_optionalText.read_defaulted none rfl reason,
      fits_optionalText.read_defaulted none rfl stack, fits_uuid.read_required templateId,
      fits_template.read_defaulted none rfl template, fits_groups.read_defaulted [] rfl groups,
      Credentials.fits.read_defaulted default rfl credentials]
  · intro document cluster result
    simp only [read, Option.bind_eq_bind, Option.bind_eq_some_iff] at result
    obtain ⟨known, found, _, uuid, _, name, _, project, _, status, _, reason, _, stack, _, templateId, _, template, _,
      groups, _, credentials, -⟩ := result
    refine ⟨known, found, ?_⟩
    simp only [List.forall_mem_cons, List.not_mem_nil, false_implies, implies_true, and_true]
    exact ⟨fits_uuid.not_fails_required uuid, fits_text.not_fails_required name, fits_text.not_fails_required project,
      fits_status.not_fails_defaulted status, fits_optionalText.not_fails_defaulted reason,
      fits_optionalText.not_fails_defaulted stack, fits_uuid.not_fails_required templateId,
      fits_template.not_fails_defaulted template, fits_groups.not_fails_defaulted groups,
      Credentials.fits.not_fails_defaulted credentials⟩

/-! ### Stored records -/

theorem VariesRecord.of_keeps (keeps : Keeps fields stored kept) :
    VariesRecord fields (.record stored) (.record kept) := by
  have same : kept.Perm (kept ++ []) := by rw [List.append_nil]
  refine .members keeps ?_ same
  intro entry member
  cases member

theorem Credentials.varies_self (credentials : Credentials) :
    shape.varies credentials.toDocument credentials.toDocument :=
  .of_keeps (.keep rfl (.keep rfl (.keep rfl .nil)))

theorem NodeGroup.varies_self (group : NodeGroup) : shape.varies group.toDocument group.toDocument :=
  .of_keeps (.keep rfl (.keep rfl (.keep rfl (.keep rfl (.keep rfl (.keep rfl (.keep rfl (.keep rfl
    (.keep rfl .nil)))))))))

theorem ClusterTemplate.varies_self (template : ClusterTemplate) :
    shape.varies template.toDocument template.toDocument :=
  .of_keeps (.keep rfl (.keep rfl (.keep rfl (.keep rfl (.keep rfl (.keep rfl .nil))))))

namespace Cluster

/-- How a stored record may be changed and is read all the same. -/
structure Tolerates (cluster : Cluster) : Prop where
  /-- What is stored is a text of the document that is varied here, if only by nothing. -/
  stored : Holds cluster.toDocument cluster.stored.toList
  unchanged : shape.varies cluster.toDocument cluster.toDocument
  /-- Initial values may be left out, fields put in another order, and others put in, in all the records. -/
  varied : ∀ document (text : String), shape.varies cluster.toDocument document → Holds document text.toList →
    ofStored? text = some cluster
  /-- A needed field must not be missing, and no known field be there twice, in any of the records. -/
  spoilt : ∀ document (text : String), shape.spoils document → Holds document text.toList → ofStored? text = none

theorem ofStored?_of_holds {text : String} (holds : Holds document text.toList) :
    ofStored? text = read Document.source document := by
  rw [ofStored?, ofText?_of_holds holds]
  rfl

theorem varies_self (cluster : Cluster) : shape.varies cluster.toDocument cluster.toDocument := by
  have groups : NodeGroup.shape.list.varies (.array (cluster.nodeGroups.map NodeGroup.toDocument))
      (.array (cluster.nodeGroups.map NodeGroup.toDocument)) := by
    refine ⟨_, _, rfl, rfl, ?_⟩
    rw [List.forall₂_map_left_iff, List.forall₂_map_right_iff]
    exact List.forall₂_same.2 fun group _ => group.varies_self
  refine .of_keeps (.keep rfl (.keep rfl (.keep rfl (.keep rfl (.keep rfl (.keep rfl (.keep rfl
    (.keep ?_ (.keep groups (.keep cluster.credentials.varies_self .nil))))))))))
  cases cluster.template with
  | none => exact .inl ⟨rfl, rfl⟩
  | some template => exact .inr ⟨nofun, template.varies_self⟩

theorem stored_tolerates (cluster : Cluster) : Tolerates cluster where
  stored := by
    rw [stored, String.toList_ofList]
    exact holds_of_spells (spells_prettyAt 0 _ cluster.sound_toDocument)
  unchanged := cluster.varies_self
  varied := by
    intro document text varies holds
    rw [ofStored?_of_holds holds]
    exact fits.varied cluster document varies
  spoilt := by
    intro document text spoils holds
    rw [ofStored?_of_holds holds]
    exact fits.spoilt document spoils

/-- A text with nothing but what is needed holds a new record without groups. -/
theorem ofStored?_least (uuid templateId : Uuid) (name project : String) {text : String}
    (holds : Holds (.record [("uuid", .text (toString uuid)), ("name", .text name), ("project_id", .text project),
      ("cluster_template_id", .text (toString templateId))]) text.toList) :
    ofStored? text = some ⟨uuid, name, project, default, none, none, templateId, none, [], default⟩ := by
  rw [ofStored?_of_holds holds]
  refine fits.varied _ _ (.of_keeps ?_)
  exact .keep rfl (.keep rfl (.keep rfl (.drop rfl (.drop rfl (.drop rfl (.keep rfl (.drop rfl (.drop rfl
    (.drop rfl .nil)))))))))

end Cluster

end ClusterLifecycle
