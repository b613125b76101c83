import ClusterLifecycle.Proofs.ObservedResources
import ClusterLifecycle.Proofs.Utf8Pieces

/-!
What the bytes that a program leaves in its pipes come to. Output that counts is handed on byte for byte or
not at all. Output that explains a failure is made readable first, and this neither hides a marker that the
program has written nor makes one up.
-/

namespace ClusterLifecycle

open Text.Utf8

/-- What the answer of a command tells of a process that has ended, in terms of the bytes in its pipes. -/
structure ToldInBytes (command : Command) (ending : Ending) (stdout stderr : Bytes) (answer : RunResult) : Prop where
  /-- Something is reported missing by exit code 1 and the bytes of the marker. -/
  missing_iff : ∀ marker ∈ [Kubectl.notFoundMarker, Helm.notFoundMarker],
    (∃ fault, answer = .error fault ∧ fault.isNotFound marker = true) ↔
      ending = .exited 1 ∧ asciiBytes marker.toList <:+: stderr
  succeeds_iff : (∃ output, answer = .ok output) ↔ ending = .exited 0 ∧ stdout.toByteArray.IsValidUTF8
  handed_on : ∀ output, answer = .ok output → output.stdout.toByteArray.data.toList = stdout
  unusable_iff : ∀ program defect, answer = .error (.invalidOutput program defect) ↔
    program = command.program ∧ defect = .notText ∧ ending = .exited 0 ∧ ¬ stdout.toByteArray.IsValidUTF8

section Captured

variable {command : Command} {ending : Ending} {bytes stdout stderr : Bytes} {text : List Char} {marker : String}

theorem toByteArray_decoded (decoded : decode? bytes = some text) :
    (String.ofList text).toByteArray = bytes.toByteArray := by
  rw [String.toByteArray_ofList, ← decode?_eq_some_iff.1 decoded]
  rfl

theorem isSome_decode?_iff : (decode? bytes).isSome = true ↔ bytes.toByteArray.IsValidUTF8 := by
  rw [Option.isSome_iff_exists]
  constructor
  · intro decoded
    obtain ⟨text, decoded⟩ := decoded
    rw [← toByteArray_decoded decoded]
    exact (String.ofList text).isValidUTF8
  · intro valid
    obtain ⟨text, same⟩ := valid
    refine ⟨text, decode?_eq_some_iff.2 ?_⟩
    have bytes_eq := congrArg (fun array => array.data.toList) same
    simpa [List.utf8Encode, encode] using bytes_eq.symm

/-- A marker in ASCII shows in the readable text where its bytes are. -/
theorem marked_readable_iff (ascii : ∀ c ∈ marker.toList, c.toNat < 0x80) :
    marker.toList <:+: (readable bytes).toList ↔ asciiBytes marker.toList <:+: bytes := by
  rw [readable, String.toList_ofList]
  exact (reads_lossy bytes).infix_iff ascii

theorem conclude_ended (command : Command) (ending : Ending) (stdout stderr : Bytes) :
    (ending = .exited 0 ∧ ∃ text, decode? stdout = some text ∧
      command.conclude (.ended ending stdout stderr) = .ok ⟨String.ofList text, readable stderr⟩) ∨
    (ending = .exited 0 ∧ decode? stdout = none ∧
      command.conclude (.ended ending stdout stderr) = .error (.invalidOutput command.program .notText)) ∨
    (ending ≠ .exited 0 ∧ command.conclude (.ended ending stdout stderr) =
      .error (.failed command.program ending.code? (readable stdout) (readable stderr))) := by
  by_cases success : ending = .exited 0
  · subst success
    rw [Command.conclude]
    cases decoded : decode? stdout with
    | none => exact .inr (.inl ⟨rfl, rfl, rfl⟩)
    | some text => exact .inl ⟨rfl, text, rfl, rfl⟩
  · refine .inr (.inr ⟨success, ?_⟩)
    rw [Command.conclude]
    rintro rfl
    exact success rfl

theorem code?_eq_one_iff : ending.code? = some 1 ↔ ending = .exited 1 := by
  cases ending with
  | exited code =>
    rw [Ending.code?, Option.some.injEq, Ending.exited.injEq]
    omega
  | killed signal => simp [Ending.code?]

end Captured

/-- However a process ends and whatever it has written, text or not, its answer tells exactly this. -/
theorem told_in_bytes (command : Command) (ending : Ending) (stdout stderr : Bytes) :
    ToldInBytes command ending stdout stderr (command.conclude (.ended ending stdout stderr)) := by
  have valid_iff : (decode? stdout).isSome = true ↔ stdout.toByteArray.IsValidUTF8 := isSome_decode?_iff
  rcases conclude_ended command ending stdout stderr with
    ⟨rfl, text, decoded, answer⟩ | ⟨rfl, decoded, answer⟩ | ⟨unsuccessful, answer⟩
  · rw [answer]
    have valid := valid_iff.1 (by rw [decoded]; rfl)
    constructor
    case missing_iff => simp
    case succeeds_iff => simpa using valid
    case handed_on =>
      intro output succeeded
      obtain rfl := Except.ok.inj succeeded
      rw [toByteArray_decoded decoded, List.toList_data_toByteArray]
    case unusable_iff => simp [valid]
  · rw [answer]
    have invalid : ¬ stdout.toByteArray.IsValidUTF8 := by
      rw [← valid_iff, decoded]
      exact Bool.false_ne_true
    constructor
    case missing_iff => simp [RunFault.isNotFound, RunFault.exitCode]
    case succeeds_iff => simpa using invalid
    case handed_on =>
      intro output succeeded
      cases succeeded
    case unusable_iff => simp [invalid, eq_comm]
  · rw [answer]
    constructor
    case missing_iff =>
      intro marker known
      have ascii : ∀ c ∈ marker.toList, c.toNat < 0x80 := by
        have all : (marker.toList.all fun c => c.toNat < 0x80) = true := by
          rcases List.mem_pair.1 known with rfl | rfl <;> rfl
        simpa using all
      rw [← marked_readable_iff ascii, ← code?_eq_one_iff]
      simp [isNotFound_iff]
    case succeeds_iff => simpa using fun success => absurd success unsuccessful
    case handed_on =>
      intro output succeeded
      cases succeeded
    case unusable_iff => simp [unsuccessful]

end ClusterLifecycle
