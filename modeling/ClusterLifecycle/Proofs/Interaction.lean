import ClusterLifecycle.Program

/-!
What a program can go through: the requests it makes, each with the answer it gets, and the value it
comes to in the end. Nothing is assumed of whoever answers, so a statement about all interactions is
one about every world, however it changes and whatever it says.
-/

namespace ClusterLifecycle

theorem bind_eq_ok {ε α β : Type} {first : Except ε α} {next : α → Except ε β} {result : β} :
    (first >>= next) = .ok result ↔ ∃ value, first = .ok value ∧ next value = .ok result := by
  cases first with
  | error fault =>
    constructor
    · intro same
      cases same
    · intro way
      obtain ⟨value, same, -⟩ := way
      cases same
  | ok value =>
    constructor
    · intro same
      exact ⟨value, rfl, same⟩
    · intro way
      obtain ⟨value', here, same⟩ := way
      rw [← Except.ok.inj here] at same
      exact same

namespace Program

variable {Request : Type} {Answer : Request → Type} {α β σ : Type}

abbrev Event {Request : Type} (Answer : Request → Type) := (request : Request) × Answer request

/-- A program can go through these events, in this order, and come to this value. -/
inductive Yields : Program Request Answer α → List (Event Answer) → α → Prop where
  | done (value : α) : Yields (.done value) [] value
  | ask {request : Request} {next : Answer request → Program Request Answer α}
      {events : List (Event Answer)} {value : α} (answer : Answer request)
      (rest : Yields (next answer) events value) :
      Yields (.ask request next) (⟨request, answer⟩ :: events) value

variable {events : List (Event Answer)} {value : α}

@[simp] theorem yields_done {result : α} :
    (done value : Program Request Answer α).Yields events result ↔ events = [] ∧ result = value := by
  constructor
  · intro run
    cases run
    exact ⟨rfl, rfl⟩
  · intro way
    obtain ⟨rfl, rfl⟩ := way
    exact .done _

@[simp] theorem yields_ask {request : Request} {next : Answer request → Program Request Answer α} :
    (ask request next).Yields events value ↔
      ∃ answer rest, events = ⟨request, answer⟩ :: rest ∧ (next answer).Yields rest value := by
  constructor
  · intro run
    cases run with
    | ask answer rest => exact ⟨answer, _, rfl, rest⟩
  · intro way
    obtain ⟨answer, rest, rfl, run⟩ := way
    exact .ask answer run

theorem yields_query {request : Request} {answer : Answer request} :
    (ask request done : Program Request Answer (Answer request)).Yields events answer ↔
      events = [⟨request, answer⟩] := by
  simp only [yields_ask, yields_done]
  constructor
  · intro way
    obtain ⟨_, _, rfl, rfl, rfl⟩ := way
    rfl
  · intro same
    subst same
    exact ⟨answer, [], rfl, rfl, rfl⟩

theorem Yields.bind {program : Program Request Answer α} {next : α → Program Request Answer β}
    {before after : List (Event Answer)} {result : β} (first : program.Yields before value)
    (second : (next value).Yields after result) :
    (program.bind next).Yields (before ++ after) result := by
  induction first with
  | done value => exact second
  | ask answer rest ih => exact .ask answer (ih second)

theorem yields_bind {program : Program Request Answer α} {next : α → Program Request Answer β}
    {result : β} :
    (program.bind next).Yields events result ↔
      ∃ value before after, events = before ++ after ∧ program.Yields before value ∧
        (next value).Yields after result := by
  constructor
  · intro run
    induction program generalizing events with
    | done value => exact ⟨value, [], events, rfl, .done value, run⟩
    | ask request rest ih =>
      obtain ⟨answer, later, rfl, tail⟩ := yields_ask.1 run
      obtain ⟨value, before, after, rfl, first, second⟩ := ih answer tail
      exact ⟨value, ⟨request, answer⟩ :: before, after, rfl, .ask answer first, second⟩
  · intro way
    obtain ⟨value, before, after, rfl, first, second⟩ := way
    exact first.bind second

def trace (world : (request : Request) → σ → Answer request × σ) :
    Program Request Answer α → σ → List (Event Answer)
  | .done _, _ => []
  | .ask request next, state =>
    ⟨request, (world request state).1⟩ ::
      (next (world request state).1).trace world (world request state).2

/-- A program always comes to a value, and every run against a world is one of its interactions. -/
theorem yields_run (world : (request : Request) → σ → Answer request × σ)
    (program : Program Request Answer α) (state : σ) :
    program.Yields (program.trace world state) (program.run world state).1 := by
  induction program generalizing state with
  | done value => exact .done value
  | ask request next ih => exact .ask _ (ih _ _)

/-- Events in which a world gives the answers, and the state that it is left in. -/
def AnsweredBy (world : (request : Request) → σ → Answer request × σ) :
    List (Event Answer) → σ → σ → Prop
  | [], before, after => after = before
  | ⟨request, answer⟩ :: rest, before, after =>
    (world request before).1 = answer ∧ AnsweredBy world rest (world request before).2 after

/-- The runs against a world are the interactions in which it gives the answers. -/
theorem run_eq_iff {world : (request : Request) → σ → Answer request × σ}
    {program : Program Request Answer α} {before after : σ} :
    program.run world before = (value, after) ↔
      ∃ events, program.Yields events value ∧ AnsweredBy world events before after := by
  induction program generalizing before with
  | done result =>
    constructor
    · intro same
      obtain ⟨rfl, rfl⟩ := Prod.mk.inj same
      exact ⟨[], .done _, rfl⟩
    · intro way
      obtain ⟨events, run, answered⟩ := way
      obtain ⟨rfl, rfl⟩ := yields_done.1 run
      rw [answered]
      rfl
  | ask request next ih =>
    constructor
    · intro same
      obtain ⟨events, run, answered⟩ := (ih (world request before).1).1 same
      exact ⟨_ :: events, .ask _ run, rfl, answered⟩
    · intro way
      obtain ⟨events, run, answered⟩ := way
      obtain ⟨answer, rest, rfl, later⟩ := yields_ask.1 run
      obtain ⟨rfl, others⟩ := answered
      exact (ih _).2 ⟨rest, later, others⟩

theorem answeredBy_append {world : (request : Request) → σ → Answer request × σ}
    {first second : List (Event Answer)} {before after : σ} :
    AnsweredBy world (first ++ second) before after ↔
      ∃ between, AnsweredBy world first before between ∧ AnsweredBy world second between after := by
  induction first generalizing before with
  | nil => simp [AnsweredBy]
  | cons event rest ih =>
    simp only [List.cons_append, AnsweredBy, ih]
    constructor
    · intro answered
      obtain ⟨same, between, front, back⟩ := answered
      exact ⟨between, ⟨same, front⟩, back⟩
    · intro answered
      obtain ⟨between, ⟨same, front⟩, back⟩ := answered
      exact ⟨same, between, front, back⟩

theorem answeredBy_trace (world : (request : Request) → σ → Answer request × σ)
    (program : Program Request Answer α) (state : σ) :
    AnsweredBy world (program.trace world state) state (program.run world state).2 := by
  induction program generalizing state with
  | done value => rfl
  | ask request next ih => exact ⟨rfl, ih _ _⟩

/-- Each answer in these events is one that the world may give, if not in this order. -/
def HeardFrom (world : (request : Request) → σ → Answer request × σ) (events : List (Event Answer)) : Prop :=
  ∀ event ∈ events, ∃ state, (world event.1 state).1 = event.2

theorem heardFrom_append {world : (request : Request) → σ → Answer request × σ}
    {first second : List (Event Answer)} :
    HeardFrom world (first ++ second) ↔ HeardFrom world first ∧ HeardFrom world second :=
  List.forall_mem_append

theorem AnsweredBy.heardFrom {world : (request : Request) → σ → Answer request × σ} {before after : σ}
    (answered : AnsweredBy world events before after) : HeardFrom world events := by
  induction events generalizing before with
  | nil => exact nofun
  | cons first rest ih =>
    obtain ⟨given, others⟩ := answered
    exact List.forall_mem_cons.2 ⟨⟨before, given⟩, ih others⟩

/-- A program asks for nothing but what is allowed, whatever it is answered. -/
def Uses (allowed : Request → Prop) : Program Request Answer α → Prop
  | .done _ => True
  | .ask request next => allowed request ∧ ∀ answer, (next answer).Uses allowed

theorem Uses.bind {allowed : Request → Prop} {program : Program Request Answer α}
    {next : α → Program Request Answer β} (first : program.Uses allowed)
    (rest : ∀ value, (next value).Uses allowed) : (program.bind next).Uses allowed := by
  induction program with
  | done value => exact rest value
  | ask request later ih => exact ⟨first.1, fun answer => ih answer (first.2 answer)⟩

theorem Uses.of_mem {allowed : Request → Prop} {program : Program Request Answer α}
    (uses : program.Uses allowed) (run : program.Yields events value) {event : Event Answer}
    (member : event ∈ events) : allowed event.1 := by
  induction run with
  | done value => cases member
  | ask answer rest ih =>
    rcases List.mem_cons.1 member with rfl | later
    · exact uses.1
    · exact ih (uses.2 answer) later

variable {Request' : Type} {Answer' : Request' → Type}

/-- Events over other requests that carry these out one by one, each request being replaced by a
program that comes to the same answer. -/
inductive CarriedOut
    (replace : (request : Request) → Program Request' Answer' (Answer request)) :
    List (Event Answer) → List (Event Answer') → Prop where
  | nil : CarriedOut replace [] []
  | cons {request : Request} {answer : Answer request} {events : List (Event Answer)}
      {part rest : List (Event Answer')} (first : (replace request).Yields part answer)
      (others : CarriedOut replace events rest) :
      CarriedOut replace (⟨request, answer⟩ :: events) (part ++ rest)

theorem carriedOut_append {replace : (request : Request) → Program Request' Answer' (Answer request)}
    {first second : List (Event Answer)} {lower : List (Event Answer')} :
    CarriedOut replace (first ++ second) lower ↔
      ∃ front back, lower = front ++ back ∧ CarriedOut replace first front ∧
        CarriedOut replace second back := by
  induction first generalizing lower with
  | nil =>
    constructor
    · intro carried
      exact ⟨[], lower, rfl, .nil, carried⟩
    · intro way
      obtain ⟨_, back, rfl, none, carried⟩ := way
      cases none
      exact carried
  | cons event rest ih =>
    constructor
    · intro carried
      cases carried with
      | cons part others =>
        obtain ⟨front, back, rfl, early, late⟩ := ih.1 others
        exact ⟨_ ++ front, back, (List.append_assoc ..).symm, .cons part early, late⟩
    · intro way
      obtain ⟨_, back, rfl, early, late⟩ := way
      cases early with
      | cons part others =>
        rw [List.append_assoc]
        exact .cons part (ih.2 ⟨_, back, rfl, others, late⟩)

theorem Uses.refine {allowed : Request' → Prop}
    {replace : (request : Request) → Program Request' Answer' (Answer request)}
    (uses : ∀ request, (replace request).Uses allowed) (program : Program Request Answer α) :
    (program.refine replace).Uses allowed := by
  induction program with
  | done value => trivial
  | ask request next ih => exact (uses request).bind ih

theorem yields_refine {replace : (request : Request) → Program Request' Answer' (Answer request)}
    {program : Program Request Answer α} {lower : List (Event Answer')} :
    (program.refine replace).Yields lower value ↔
      ∃ events, program.Yields events value ∧ CarriedOut replace events lower := by
  constructor
  · intro run
    induction program generalizing lower with
    | done result =>
      obtain ⟨rfl, rfl⟩ := yields_done.1 run
      exact ⟨[], .done _, .nil⟩
    | ask request next ih =>
      obtain ⟨answer, before, after, rfl, first, second⟩ := yields_bind.1 run
      obtain ⟨events, upper, others⟩ := ih answer second
      exact ⟨⟨request, answer⟩ :: events, .ask answer upper, .cons first others⟩
  · intro way
    obtain ⟨events, run, carried⟩ := way
    induction run generalizing lower with
    | done value =>
      cases carried
      exact .done value
    | ask answer rest ih =>
      cases carried with
      | cons first others => exact first.bind (ih others)

end Program

end ClusterLifecycle
