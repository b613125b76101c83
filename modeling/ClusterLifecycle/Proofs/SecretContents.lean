import ClusterLifecycle.Proofs.Base64Texts
import ClusterLifecycle.Proofs.BundleDocuments

/-!
What is in the secret of a cluster. Its data is the base64 of a document in UTF-8, which gives the address
and the credentials of the cluster as they are configured, whatever characters they are made of.
-/

namespace ClusterLifecycle.Manifest

open Text Template

/-- A credential, or the word for one that there is not. -/
def QuotesOrNull : Option String → List Char → Prop
  | some s, shown => Quotes shown s
  | none, shown => shown = "null".toList

/-- The document in a secret, with what is shown of an address and of credentials in its lines. -/
def cloudsText (address user password trust : List Char) : List Char :=
  [ "clouds:".toList,
    "  openstack:".toList,
    "    auth:".toList,
    "      auth_url: ".toList ++ address,
    "      user_id: ".toList ++ user,
    "      password: ".toList ++ password,
    "      trust_id: ".toList ++ trust,
    "    auth_type: password".toList,
    "    identity_api_version: 3".toList,
    "    interface: public".toList ].flatMap fun line => line ++ ['\n']

variable {renderer : Renderer} {cluster : Cluster} {template : ClusterTemplate} {url : String}

theorem quotesOrNull_shown (given : Option String) : QuotesOrNull given (Content.ofText? given).shown := by
  cases given with
  | none => rfl
  | some s => exact quotes_scalar s

theorem documentText_clouds (cluster : Cluster) (url : String) :
    documentText (cloudsDocument cluster url) =
      cloudsText (scalar url) (Content.ofText? cluster.credentials.user).shown
        (Content.ofText? cluster.credentials.password).shown
        (Content.ofText? cluster.credentials.trust).shown := by
  rfl

/-- Base64 of a document in UTF-8 that gives an address and the credentials of a cluster. -/
def Conveys (cluster : Cluster) (url : String) (encoded : String) : Prop :=
  ∃ address user password trust,
    Base64.decode? encoded.toList = some (Utf8.encode (cloudsText address user password trust)) ∧
      Quotes address url ∧ QuotesOrNull cluster.credentials.user user ∧
      QuotesOrNull cluster.credentials.password password ∧ QuotesOrNull cluster.credentials.trust trust

theorem conveys_toBase64 (cluster : Cluster) (url : String) :
    Conveys cluster url (Value.toBase64 (String.ofList (documentText (cloudsDocument cluster url)))) := by
  refine ⟨_, _, _, _, ?_, quotes_scalar url, quotesOrNull_shown _, quotesOrNull_shown _, quotesOrNull_shown _⟩
  rw [Value.toBase64, String.toList_ofList, String.toList_ofList, documentText_clouds]
  exact Base64.decode?_eq_some_iff.2 rfl

/-- Whatever texts are in a record and in the configuration, the bundle of a cluster with a template has a
secret that conveys them. -/
theorem secret_conveys (library : renderer.library = builtIn) (valid : cluster.validate = .ok ())
    (versioned : template.kubernetesVersion.isSome = true) (address : renderer.authUrl = some url) :
    ∃ text shown encoded, renderer.manifests cluster (some template) = .ok text ∧
      bundled? "Secret" ["data", "clouds.yaml"] text.toList = some shown ∧ Quotes shown encoded ∧
      Conveys cluster url encoded := by
  obtain ⟨controlPlane, plane⟩ := exists_controlPlane valid
  obtain ⟨version, versioned⟩ := Option.isSome_iff_exists.1 versioned
  obtain ⟨_, texts, -, -, rendered, shows⟩ :=
    @manifests_of_valid renderer cluster controlPlane version url (some template) library valid plane
      ⟨versioned, address⟩
  refine ⟨_, _, _, rendered, ?_, quotes_scalar _, conveys_toBase64 cluster url⟩
  rw [String.toList_ofList, bundled?_bundle shows isManifest_bundle]
  rfl

/-- A record whose credentials are of all sorts of characters, and one of which is missing. -/
def guarded : Cluster :=
  { awkward with credentials := ⟨none, some "Søren & co", some "p\"ss:\n  - \\u0022 🔑"⟩ }

theorem secret_conveys_guarded :
    guarded.validate = .ok () ∧ awkwardTemplate.kubernetesVersion.isSome = true ∧
      ∃ text shown encoded, (Renderer.mk builtIn (some "https://identity:5000/v3")).manifests guarded
          (some awkwardTemplate) = .ok text ∧
        bundled? "Secret" ["data", "clouds.yaml"] text.toList = some shown ∧ Quotes shown encoded ∧
        Conveys guarded "https://identity:5000/v3" encoded := by
  have valid : guarded.validate = .ok () := by decide
  have versioned : awkwardTemplate.kubernetesVersion.isSome = true := by decide
  exact ⟨valid, versioned, @secret_conveys ⟨builtIn, some "https://identity:5000/v3"⟩ _ _ _ rfl valid versioned rfl⟩

end ClusterLifecycle.Manifest
