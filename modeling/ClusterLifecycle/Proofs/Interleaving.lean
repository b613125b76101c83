import ClusterLifecycle.Proofs.Interaction

/-!
Two programs that share one world and take turns in any order. Where each of them is answered by what
the other one leaves alone, it does what it does on its own, so that all orders come to the same.
-/

namespace ClusterLifecycle.Program

variable {Request : Type} {Answer : Request → Type} {α β σ : Type}

/-- Two programs take turns. Each has a host of its own, but both change one state. -/
inductive Interleaved (one two : (request : Request) → σ → Answer request × σ) :
    Program Request Answer α → Program Request Answer β → σ →
      List (Event Answer) → α → List (Event Answer) → β → σ → Prop where
  | done {value : α} {value' : β} {state : σ} :
      Interleaved one two (.done value) (.done value') state [] value [] value' state
  | first {request : Request} {next : Answer request → Program Request Answer α}
      {second : Program Request Answer β} {state after : σ} {events events' : List (Event Answer)}
      {value : α} {value' : β}
      (rest : Interleaved one two (next (one request state).1) second (one request state).2
        events value events' value' after) :
      Interleaved one two (.ask request next) second state
        (⟨request, (one request state).1⟩ :: events) value events' value' after
  | second {request : Request} {first : Program Request Answer α}
      {next : Answer request → Program Request Answer β} {state after : σ}
      {events events' : List (Event Answer)} {value : α} {value' : β}
      (rest : Interleaved one two first (next (two request state).1) (two request state).2
        events value events' value' after) :
      Interleaved one two first (.ask request next) state
        events value (⟨request, (two request state).1⟩ :: events') value' after

def InTurn (one two : (request : Request) → σ → Answer request × σ) (first : Program Request Answer α)
    (second : Program Request Answer β) (state : σ) (events : List (Event Answer)) (value : α)
    (events' : List (Event Answer)) (value' : β) (after : σ) : Prop :=
  events = first.trace one state ∧ value = (first.run one state).1 ∧
    events' = second.trace two (first.run one state).2 ∧
    (value', after) = second.run two (first.run one state).2

variable {one two : (request : Request) → σ → Answer request × σ} {first : Program Request Answer α}
  {second : Program Request Answer β} {state after solo : σ} {events events' : List (Event Answer)}
  {value : α} {value' : β}

theorem Interleaved.swap (run : Interleaved one two first second state events value events' value' after) :
    Interleaved two one second first state events' value' events value after := by
  induction run with
  | done => exact .done
  | first rest ih => exact .second ih
  | second rest ih => exact .first ih

theorem interleaved_in_turn (one two : (request : Request) → σ → Answer request × σ)
    (first : Program Request Answer α) (second : Program Request Answer β) (state : σ) :
    Interleaved one two first second state (first.trace one state) (first.run one state).1
      (second.trace two (first.run one state).2) (second.run two (first.run one state).2).1
      (second.run two (first.run one state).2).2 := by
  induction first generalizing state with
  | done value =>
    induction second generalizing state with
    | done value' => exact .done
    | ask request next ih => exact .second (ih _ _)
  | ask request next ih => exact .first (ih _ _)

/-- Each event takes place in a state in which it is allowed, on a host that goes through them. -/
def Through (world : (request : Request) → σ → Answer request × σ) (allowed : Request → σ → Prop) :
    List (Event Answer) → σ → Prop
  | [], _ => True
  | ⟨request, _⟩ :: rest, state => allowed request state ∧ Through world allowed rest (world request state).2

/-- The own requests of a program are answered alike in states that are alike to it, and those of the
other program, which it has asked somewhere else, leave states alike. -/
structure Apart (one two : (request : Request) → σ → Answer request × σ) (own other : Request → σ → Prop)
    (alike : σ → σ → Prop) : Prop where
  answers : ∀ request state solo, own request solo → alike state solo →
    (one request state).1 = (one request solo).1 ∧ alike (one request state).2 (one request solo).2
  others : ∀ request state solo elsewhere, other request elsewhere → alike state solo →
    alike (two request state).2 solo

/-- Two programs that are apart go through what they go through on their own, and each finds the end
alike. -/
theorem Interleaved.alone {own own' : Request → σ → Prop} {alike alike' : σ → σ → Prop} {solo' : σ}
    (apart : Apart one two own own' alike) (apart' : Apart two one own' own alike')
    (run : Interleaved one two first second state events value events' value' after)
    (here : alike state solo) (here' : alike' state solo')
    (through : Through one own (first.trace one solo) solo)
    (through' : Through two own' (second.trace two solo') solo') :
    (events = first.trace one solo ∧ value = (first.run one solo).1 ∧ alike after (first.run one solo).2) ∧
      events' = second.trace two solo' ∧ value' = (second.run two solo').1 ∧
        alike' after (second.run two solo').2 := by
  induction run generalizing solo solo' with
  | done => exact ⟨⟨rfl, rfl, here⟩, rfl, rfl, here'⟩
  | @first request next second state after events events' value value' rest ih =>
    obtain ⟨asked, later⟩ := through
    obtain ⟨same, next_alike⟩ := apart.answers request state solo asked here
    have still := apart'.others request state solo' solo asked here'
    rw [← same] at later
    obtain ⟨⟨rfl, rfl, ends⟩, others⟩ := ih next_alike still later through'
    rw [same] at ends ⊢
    exact ⟨⟨rfl, rfl, ends⟩, others⟩
  | @second request first next state after events events' value value' rest ih =>
    obtain ⟨asked, later⟩ := through'
    obtain ⟨same, next_alike⟩ := apart'.answers request state solo' asked here'
    have still := apart.others request state solo solo' asked here
    rw [← same] at later
    obtain ⟨others, rfl, rfl, ends⟩ := ih still next_alike through later
    rw [same] at ends ⊢
    exact ⟨others, rfl, rfl, ends⟩

/-- So they come to the same as one after the other, and each finds both ends alike. -/
theorem Interleaved.in_turn {own own' : Request → σ → Prop} {alike alike' : σ → σ → Prop}
    (apart : Apart one two own own' alike) (apart' : Apart two one own' own alike')
    (here : alike state state) (here' : alike' state state)
    (through : Through one own (first.trace one state) state)
    (through' : Through two own' (second.trace two state) state)
    (run : Interleaved one two first second state events value events' value' after) :
    ∃ last, InTurn one two first second state events value events' value' last ∧
      (∃ alone, alike after alone ∧ alike last alone) ∧ ∃ alone, alike' after alone ∧ alike' last alone := by
  have turns := interleaved_in_turn one two first second state
  obtain ⟨⟨rfl, rfl, ends⟩, rfl, rfl, ends'⟩ := run.alone apart apart' here here' through through'
  obtain ⟨⟨-, -, last⟩, same, same', last'⟩ := turns.alone apart apart' here here' through through'
  exact ⟨(second.run two (first.run one state).2).2, ⟨rfl, rfl, same.symm, Prod.ext same'.symm rfl⟩,
    ⟨_, ends, last⟩, _, ends', last'⟩

variable {world : (request : Request) → σ → Answer request × σ} {allowed : Request → σ → Prop}

theorem through_append {front back : List (Event Answer)} (answered : AnsweredBy world front state after) :
    Through world allowed (front ++ back) state ↔
      Through world allowed front state ∧ Through world allowed back after := by
  induction front generalizing state with
  | nil =>
    obtain rfl : after = state := answered
    simp [Through]
  | cons event rest ih =>
    have later := ih answered.2
    simp only [List.cons_append, Through, later, and_assoc]

theorem through_of_forall {events : List (Event Answer)} (all : ∀ event ∈ events, ∀ state, allowed event.1 state)
    (state : σ) : Through world allowed events state := by
  induction events generalizing state with
  | nil => trivial
  | cons event rest ih =>
    exact ⟨all event (List.mem_cons_self ..) state, ih (fun other member => all other (List.mem_cons_of_mem _ member)) _⟩

theorem Through.and {kind : Request → Prop} {events : List (Event Answer)} (all : ∀ event ∈ events, kind event.1)
    (through : Through world allowed events state) :
    Through world (fun request state => kind request ∧ allowed request state) events state := by
  induction events generalizing state with
  | nil => trivial
  | cons event rest ih =>
    exact ⟨⟨all event (List.mem_cons_self ..), through.1⟩,
      ih (fun other member => all other (List.mem_cons_of_mem _ member)) through.2⟩

end ClusterLifecycle.Program
