import ClusterLifecycle.CommandLine.Option

/-!
The meaning of a command line. Options that concern every command may stand in front of it or behind
it, where they count more; each may be given once in either place. The value of an option is looked
at only when the next option or the end of its part of the line is reached, and the part behind the
command is finished before the part in front of it.
-/

namespace ClusterLifecycle.CommandLine

/-- The options of one part of a line: those that are settled, and the last one while its value is
still to come or to be looked at. -/
structure Reading where
  given : List (Switch × Value)
  pending : Option (Switch × Option String)
  deriving DecidableEq, Repr

namespace Reading

def empty : Reading := ⟨[], none⟩

def has (switch : Switch) (reading : Reading) : Bool :=
  reading.given.any fun entry => entry.1 = switch

def awaitsValue (reading : Reading) : Bool :=
  match reading.pending with
  | some (_, none) => true
  | _ => false

def add (part : Option Verb) (switch : Switch) (text : String) (reading : Reading) :
    Except UsageFault Reading :=
  if reading.has switch then .error (.repeated switch)
  else do
    let value ← switch.read part text
    .ok ⟨(switch, value) :: reading.given, none⟩

def settle (part : Option Verb) (reading : Reading) : Except UsageFault Reading :=
  match reading.pending with
  | none => .ok reading
  | some (switch, none) => .error (.noValue switch)
  | some (switch, some text) => add part switch text { reading with pending := none }

def option (part : Option Verb) (switch : Switch) (value : Option String) (reading : Reading) :
    Except UsageFault Reading :=
  match switch.takesValue, value with
  | false, some value => .error (.unwantedValue switch value)
  | takesValue, value => do
    let reading ← reading.settle part
    match switch, takesValue, value with
    | .help, _, _ => .error .help
    | .version, _, _ => .error .version
    | _, true, none => .ok { reading with pending := some (switch, none) }
    | _, _, value => reading.add part switch (value.getD "")

end Reading

inductive Shape where
  | plain
  | divider
  | long (name : String) (value : Option String)
  | short (letter : Char)
  deriving DecidableEq, Repr

def Shape.of (word : String) : Shape :=
  match word.toList with
  | ['-', '-'] => .divider
  | '-' :: '-' :: rest =>
    let name := rest.takeWhile (· ≠ '=')
    let value := match rest.drop name.length with
      | [] => none
      | _ :: value => some (String.ofList value)
    .long (String.ofList name) value
  | '-' :: letter :: _ => .short letter
  | _ => .plain

def stray (part : Option Verb) (word : String) : UsageFault :=
  if part.isNone then .noSuchCommand word else .unknown word

/-- A stray word where options have been ruled out, so that not even a command is one. -/
def strayBehindDivider (part : Option Verb) (word : String) : UsageFault :=
  if word = "help" ∨ (Verb.ofName? word).isSome then .unknown word else stray part word

def helpOn : List String → UsageFault
  | [] => .help
  | [word] => if word = "help" ∨ (Verb.ofName? word).isSome then .help else .noSuchCommand word
  | word :: next :: _ =>
    if word = "help" ∨ (Verb.ofName? word).isSome then .noSuchCommand next else .noSuchCommand word

def readPart (part : Option Verb) : List String → Reading →
    Except UsageFault (Reading × Option (Verb × List String))
  | [], reading => .ok (reading, none)
  | word :: rest, reading =>
    let verb := if part.isNone && !reading.awaitsValue then Verb.ofName? word else none
    match verb with
    | some verb => .ok (reading, some (verb, rest))
    | none =>
      if part.isNone && !reading.awaitsValue && word == "help" then .error (helpOn rest)
      else match Shape.of word with
        | .divider =>
          match rest with
          | [] => .ok (reading, none)
          | next :: _ => .error (strayBehindDivider part next)
        | .long name value =>
          match Switch.ofName? part name with
          | none => .error (.unknown word)
          | some switch => do readPart part rest (← reading.option part switch value)
        | .short letter =>
          if letter = 'h' then (reading.option part .help none).bind fun reading => readPart part rest reading
          else if letter = 'V' ∧ part.isNone then
            (reading.option part .version none).bind fun reading => readPart part rest reading
          else .error (.unknown word)
        | .plain =>
          match reading.pending with
          | some (switch, none) => readPart part rest { reading with pending := some (switch, some word) }
          | _ => .error (stray part word)

/-- The configuration file that the environment names, where the line names none. An empty name is
as wrong there as on the line. -/
def checkEnvironment (environment : Option String) (reading : Reading) : Except UsageFault Unit :=
  match environment with
  | some text => if reading.has .config then .ok () else do
    let _ ← Switch.config.read none text
    .ok ()
  | none => .ok ()

inductive Task where
  | render (cluster : String) (withoutTemplate : Bool)
  | perform (operation : Operation) (cluster : Uuid)
  | reconcile (cluster : Uuid)
  | adopt (file : String)
  deriving DecidableEq, Repr

structure Arguments where
  config : Option String
  backend : Option Backend
  stateDirectory : Option String
  kubeconfig : Option String
  kubeNamespace : Option String
  logFormat : Log.Format
  task : Task
  deriving DecidableEq, Repr

namespace Reading

def path? (switch : Switch) (reading : Reading) : Option String :=
  match reading.given.lookup switch with
  | some (.path path) => some path
  | _ => none

def text? (switch : Switch) (reading : Reading) : Option String :=
  match reading.given.lookup switch with
  | some (.text text) => some text
  | _ => none

def backend? (reading : Reading) : Option Backend :=
  match reading.given.lookup .backend with
  | some (.backend backend) => some backend
  | _ => none

def logFormat? (reading : Reading) : Option Log.Format :=
  match reading.given.lookup .logFormat with
  | some (.format format) => some format
  | _ => none

def cluster? (reading : Reading) : Option Uuid :=
  match reading.given.lookup .cluster with
  | some (.cluster uuid) => some uuid
  | _ => none

def task (verb : Verb) (reading : Reading) : Except UsageFault Task :=
  let needed : Switch := if verb = .adopt then .file else .cluster
  let found : Option Task := match verb with
    | .render => (reading.path? .cluster).map (.render · (reading.has .withoutTemplate))
    | .perform operation => reading.cluster?.map (.perform operation)
    | .reconcile => reading.cluster?.map .reconcile
    | .adopt => (reading.path? .file).map .adopt
  match found with
  | some task => .ok task
  | none => .error (.missing needed)

end Reading

namespace Arguments

def readBehind (environment : Option String) (verb : Verb) (words : List String) :
    Except UsageFault (Reading × Task) := do
  let (reading, _) ← readPart (some verb) words .empty
  let reading ← reading.settle (some verb)
  checkEnvironment environment reading
  .ok (reading, ← reading.task verb)

/-- The meaning of a whole line, under the configuration file that the environment names. -/
def read (environment : Option String) (words : List String) : Except UsageFault Arguments := do
  let (front, found) ← readPart none words .empty
  let behind ← match found with
    | none => .ok none
    | some (verb, words) => (readBehind environment verb words).map some
  let front ← front.settle none
  checkEnvironment environment front
  match behind with
  | none => .error (if front.given.isEmpty && environment.isNone then .noWords else .noCommand)
  | some (behind, task) => .ok {
      config := behind.path? .config <|> front.path? .config <|> environment
      backend := behind.backend? <|> front.backend?
      stateDirectory := behind.path? .stateDirectory <|> front.path? .stateDirectory
      kubeconfig := behind.path? .kubeconfig <|> front.path? .kubeconfig
      kubeNamespace := behind.text? .kubeNamespace <|> front.text? .kubeNamespace
      logFormat := (behind.logFormat? <|> front.logFormat?).getD .compact
      task }

end Arguments

end ClusterLifecycle.CommandLine
