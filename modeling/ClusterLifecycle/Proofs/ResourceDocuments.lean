import ClusterLifecycle.Proofs.JsonBlanks
import ClusterLifecycle.Proofs.JsonSameness
import ClusterLifecycle.Resource.Observation

/-!
What a fetched document says about its resource: the phase, and whether the operator has handled the
configuration that is asked for. The resource read from the document says the same, and so does any
document with the same data in another layout.
-/

namespace ClusterLifecycle

open Json

/-! ### What a document says -/

namespace Json.Document

def phase? (document : Document) : Option String :=
  ((document.member? "status").bind (member? "phase")).bind text?

def annotation? (key : String) (document : Document) : Option String :=
  (((document.member? "metadata").bind (member? "annotations")).bind (member? key)).bind text?

/-- The configuration in a document, which is null where there is none. -/
def spec (document : Document) : Document :=
  (document.member? "spec").getD .null

def HeldBy (document : Document) (text : String) : Prop :=
  ofText? text.toList = some document ∧ (Value.ofDocument? nestingLimit document).isSome = true

/-- An annotation holds the very configuration that the document asks for. -/
def Handled (key : String) (document : Document) : Prop :=
  ∃ (text : String) (record : Document), document.annotation? key = some text ∧ record.HeldBy text ∧
    Agrees record.spec document.spec

end Json.Document

/-! ### From documents to resources -/

namespace Resource

variable {document : Document} {resource : Resource} {key name : String}

theorem lastOf_takeTypes (notVersion : name ≠ "apiVersion") (notKind : name ≠ "kind")
    (version kind : Option String) (entries : List (String × Value)) :
    lastOf name (takeTypes version kind entries).2 = lastOf name entries := by
  have other : ∀ {key : String} {value : Value} {rest : List (String × Value)}, name ≠ key →
      lastOf name ((key, value) :: rest) = lastOf name rest := by
    intro key value rest different
    have different : (name == key) = false := by simpa using different
    rw [lastOf_cons, different]
    exact Option.or_none
  fun_induction takeTypes version kind entries with
  | case1 => rfl
  | case2 kind rest text ih => rw [ih, other notVersion]
  | case3 => rw [other notVersion]
  | case4 version rest _ text ih => rw [ih, other notKind]
  | case5 => rw [other notKind]
  | case6 version kind key value rest _ _ types data taken ih =>
    rw [taken] at ih
    rw [lastOf_cons, lastOf_cons, ih]

theorem ofDocument?_object (found : ofDocument? document = some resource) :
    ∃ members data metadata, document = .object members ∧
      Value.ofMembers? (nestingLimit - 1) (members.filter (·.1 != metadataKey)) = some data ∧
      (members.filter (·.1 == metadataKey) = [] ∧ metadata = [] ∨
        ∃ key, members.filter (·.1 == metadataKey) = [(key, .object metadata)] ∧
          fitsMembers (nestingLimit - 2) metadataShapes metadata = true) ∧
      resource.data = Value.sorted (takeTypes none none data).2 ∧
      resource.annotations = (lastMember? "annotations" metadata).bind (TextMap.read Document.source) := by
  cases document with
  | object members =>
    obtain ⟨data, carried, found⟩ := Option.bind_eq_some_iff.1 found
    refine ⟨members, data, ?_⟩
    dsimp only at found
    split at found
    · rename_i none
      obtain rfl := Option.some.inj found
      exact ⟨[], rfl, carried, .inl ⟨none, rfl⟩, rfl, rfl⟩
    · rename_i key fields only
      split at found
      · rename_i fits
        obtain rfl := Option.some.inj found
        exact ⟨fields, rfl, carried, .inr ⟨key, only, fits⟩, rfl, rfl⟩
      · cases found
    · cases found
  | _ => cases found

theorem data_rel (found : ofDocument? document = some resource) (notVersion : name ≠ "apiVersion")
    (notKind : name ≠ "kind") (notMetadata : name ≠ "metadata") :
    Option.Rel (fun document value => Value.ofDocument? (nestingLimit - 1) document = some value)
      (document.member? name) (resource.data.lookup name) := by
  obtain ⟨members, data, metadata, rfl, carried, -, taken, -⟩ := ofDocument?_object found
  have stays : ∀ value : Document, ((some name, value).1 != metadataKey) = true := by
    intro value
    simpa [metadataKey] using notMetadata
  have related := Value.lastOf_carries (Value.ofMembers?_eq_some.1 carried) name
  rw [lastOf_filter stays] at related
  rw [taken, Value.sorted_eq_gathered, lookup_gathered, lastOf_takeTypes notVersion notKind]
  exact related

theorem phase?_eq (found : ofDocument? document = some resource) : resource.phase? = document.phase? := by
  have status := @data_rel _ _ "status" found (by decide) (by decide) (by decide)
  have phase := rel_bind status fun _ _ found => member?_rel found "phase"
  have text := bind_eq_of_rel phase fun _ _ found => text?_of_ofDocument? found
  rw [Document.phase?, text, Option.bind_assoc]
  rfl

theorem exists_getD_null {room : Nat} {here : Option Document} {there : Option Value}
    (related : Option.Rel (fun document value => Value.ofDocument? room document = some value) here there) :
    ∃ room, Value.ofDocument? room (here.getD .null) = some (there.getD .null) := by
  cases related with
  | none => exact ⟨0, rfl⟩
  | some found => exact ⟨room, found⟩

theorem exists_desired (found : ofDocument? document = some resource) :
    ∃ room, Value.ofDocument? room document.spec = some resource.desired :=
  exists_getD_null (@data_rel _ _ "spec" found (by decide) (by decide) (by decide))

theorem forall₂_of_mapM {α β : Type} {f : α → Option β} {items : List α} {results : List β}
    (mapped : items.mapM f = some results) : List.Forall₂ (fun item result => f item = some result) items results := by
  induction items generalizing results with
  | nil =>
    obtain rfl := Option.some.inj mapped
    exact .nil
  | cons item rest ih =>
    rw [List.mapM_cons] at mapped
    obtain ⟨first, here, mapped⟩ := Option.bind_eq_some_iff.1 mapped
    obtain ⟨more, later, same⟩ := Option.bind_eq_some_iff.1 mapped
    obtain rfl := Option.some.inj same
    exact .cons here (ih later)

theorem find?_of_read {texts : Document} {map : TextMap} (read : TextMap.read Document.source texts = some map)
    (key : String) : map.find? key = (texts.member? key).bind Document.text? := by
  obtain ⟨named, members, read⟩ := Option.bind_eq_some_iff.1 read
  obtain ⟨entries, mapped, same⟩ := Option.bind_eq_some_iff.1 read
  obtain rfl := Option.some.inj same
  cases texts with
  | object members' =>
    have names : List.Forall₂ (fun member entry => member.1 = some entry.1 ∧ member.2 = entry.2) members' named := by
      refine (forall₂_of_mapM members).imp fun member entry same => ?_
      obtain ⟨name, given, rfl⟩ := Option.map_eq_some_iff.1 same
      exact ⟨given, rfl⟩
    have texts : List.Forall₂ (fun member entry => member.1 = id entry.1 ∧ member.2.text? = some entry.2)
        named entries := by
      refine (forall₂_of_mapM mapped).imp fun member entry same => ?_
      obtain ⟨text, given, same⟩ := Option.bind_eq_some_iff.1 same
      obtain rfl := Option.some.inj same
      exact ⟨rfl, given⟩
    have member : Option.Rel (· = ·) (lastOf (some key) members') (lastOf key named) :=
      lastOf_rel (fun _ _ => Option.some.inj) names key
    have text : Option.Rel (fun value text => value.text? = some text) (lastOf key named) (lastOf key entries) :=
      lastOf_rel Function.injective_id texts key
    rw [TextMap.find?_ofList]
    calc lastOf key entries
      _ = (lastOf key entries).bind some := (Option.bind_fun_some _).symm
      _ = (lastOf key named).bind Document.text? := (bind_eq_of_rel text fun _ _ given => given).symm
      _ = (lastOf (some key) members').bind Document.text? :=
        (bind_eq_of_rel member fun _ _ same => congrArg Document.text? same).symm
  | _ => cases members

theorem annotations_fit {room : Nat} {metadata : List (Option String × Document)} {texts : Document}
    (fits : fitsMembers room metadataShapes metadata = true)
    (annotations : lastMember? "annotations" metadata = some texts) :
    texts = .null ∨ ∃ map, TextMap.read Document.source texts = some map := by
  have member : (some "annotations", texts) ∈ metadata := by
    obtain ⟨before, after, split, -⟩ := List.lookup_eq_some_iff.1 annotations
    rw [← List.mem_reverse, split]
    simp
  rw [fitsMembers] at fits
  have fits := List.all_eq_true.1 fits _ member
  dsimp only at fits
  rw [metadataShapes, fitsNamed, if_pos rfl] at fits
  cases texts with
  | null => exact .inl rfl
  | _ => exact .inr (Option.isSome_iff_exists.1 (by simpa only [Resource.fits] using fits))

theorem annotation?_eq (found : ofDocument? document = some resource) (key : String) :
    (resource.annotations.bind fun map => map.find? key) = document.annotation? key := by
  obtain ⟨members, data, metadata, rfl, -, described, -, taken⟩ := ofDocument?_object found
  have stays : ∀ value : Document, ((some "metadata", value).1 == metadataKey) = true := fun _ => rfl
  have here : (Document.object members).member? "metadata" =
      lastOf (some "metadata") (members.filter (·.1 == metadataKey)) := (lastOf_filter stays members).symm
  rw [taken, Document.annotation?, here]
  rcases described with ⟨none, rfl⟩ | ⟨name, only, fits⟩
  · rw [none]
    rfl
  · have named : name = some "metadata" := by
      have member : (name, Document.object metadata) ∈ members.filter (·.1 == metadataKey) := by simp [only]
      simpa [metadataKey] using (List.mem_filter.1 member).2
    have described : (lastOf (some "metadata") [(name, Document.object metadata)]).bind
        (Document.member? "annotations") = lastMember? "annotations" metadata := by
      rw [named]
      rfl
    rw [only, described]
    cases annotations : lastMember? "annotations" metadata with
    | none => rfl
    | some texts =>
      rcases annotations_fit fits annotations with rfl | ⟨map, read⟩
      · rfl
      · rw [Option.bind_some, Option.bind_some, read]
        exact find?_of_read read key

theorem exists_spec {room : Nat} {record : Document} {value : Value}
    (found : Value.ofDocument? room record = some value) :
    ∃ room, Value.ofDocument? room record.spec = some ((value.member? "spec").getD .null) :=
  exists_getD_null (member?_rel found "spec")

theorem handled?_eq_some {spec : Value} : resource.handled? key = some spec ↔
    ∃ text record value, (resource.annotations.bind fun map => map.find? key) = some text ∧
      Document.ofText? text.toList = some record ∧ Value.ofDocument? nestingLimit record = some value ∧
      (value.member? "spec").getD .null = spec := by
  simp only [handled?, Value.ofText?, Option.bind_eq_bind, Option.bind_eq_some_iff, Option.some.injEq]
  grind

theorem isHandled_iff (found : ofDocument? document = some resource) :
    resource.isHandled key = true ↔ document.Handled key := by
  obtain ⟨room, desired⟩ := exists_desired found
  constructor
  · intro handled
    rw [isHandled] at handled
    split at handled
    · rename_i spec recorded
      obtain ⟨text, record, value, annotated, read, held, rfl⟩ := handled?_eq_some.1 recorded
      obtain ⟨_, given⟩ := exists_spec held
      refine ⟨text, record, ?_, ⟨read, Option.isSome_iff_exists.2 ⟨value, held⟩⟩, (same_iff_agrees given desired).1 handled⟩
      rw [← annotation?_eq found, annotated]
    · cases handled
  · intro handled
    obtain ⟨text, record, annotated, ⟨read, holds⟩, agrees⟩ := handled
    obtain ⟨value, held⟩ := Option.isSome_iff_exists.1 holds
    obtain ⟨_, given⟩ := exists_spec held
    have recorded : resource.handled? key = some ((value.member? "spec").getD .null) :=
      handled?_eq_some.2 ⟨text, record, value, (annotation?_eq found key).trans annotated, read, held, rfl⟩
    rw [isHandled, recorded]
    exact (same_iff_agrees given desired).2 agrees

end Resource

/-! ### Layout -/

/-- Texts that differ in the blanks outside of their strings only, or in the order of members. -/
inductive Relaid (text text' : String) : Prop where
  | blanks (same : squeeze false text.toList = squeeze false text'.toList)
  | order {document document' : Document} (read : Document.ofText? text.toList = some document)
      (read' : Document.ofText? text'.toList = some document') (rearranged : Rearranged document document')

section Layout

variable {text text' key : String} {document document' : Document} {resource : Resource}

theorem Relaid.rearranged (relaid : Relaid text text') (read : Document.ofText? text.toList = some document)
    (read' : Document.ofText? text'.toList = some document') : Rearranged document document' := by
  cases relaid with
  | blanks same =>
    obtain rfl := eq_of_squeeze read read' same
    exact .refl document
  | order found found' rearranged =>
    obtain rfl := Option.some.inj (found.symm.trans read)
    obtain rfl := Option.some.inj (found'.symm.trans read')
    exact rearranged

theorem spec_rearranged (rearranged : Rearranged document document') : Rearranged document.spec document'.spec :=
  rel_getD (member?_rearranged rearranged "spec") (.refl .null)

theorem phase?_rearranged (rearranged : Rearranged document document') : document.phase? = document'.phase? := by
  have phase := rel_bind (member?_rearranged rearranged "status") fun _ _ moved => member?_rearranged moved "phase"
  exact bind_eq_of_rel phase fun _ _ => text?_rearranged

theorem annotation?_rearranged (rearranged : Rearranged document document') (key : String) :
    document.annotation? key = document'.annotation? key := by
  have annotations := rel_bind (member?_rearranged rearranged "metadata") fun _ _ moved =>
    member?_rearranged moved "annotations"
  have annotation := rel_bind annotations fun _ _ moved => member?_rearranged moved key
  exact bind_eq_of_rel annotation fun _ _ => text?_rearranged

theorem handled_rearranged (found : Resource.ofDocument? document = some resource)
    (rearranged : Rearranged document document') : document.Handled key ↔ document'.Handled key := by
  obtain ⟨room, desired⟩ := Resource.exists_desired found
  rw [Document.Handled, Document.Handled, annotation?_rearranged rearranged]
  refine exists_congr fun text => exists_congr fun record => and_congr_right fun _ => and_congr_right fun holds => ?_
  obtain ⟨value, held⟩ := Option.isSome_iff_exists.1 holds.2
  obtain ⟨room', given⟩ := Resource.exists_spec held
  exact agrees_rearranged given desired (.refl _) (spec_rearranged rearranged)

end Layout

end ClusterLifecycle
