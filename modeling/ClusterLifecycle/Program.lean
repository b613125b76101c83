/-!
Programs as data: a program is done, or it asks for something and goes on with the answer. What an
answer is depends on what is asked. The same program can be run against any kind of world, and what
it asks for can be read off without running it.
-/

namespace ClusterLifecycle

inductive Program (Request : Type) (Answer : Request → Type) (α : Type) where
  | done (value : α)
  | ask (request : Request) (next : Answer request → Program Request Answer α)

namespace Program

variable {Request : Type} {Answer : Request → Type} {α β : Type} {σ : Type}

def bind (program : Program Request Answer α) (next : α → Program Request Answer β) :
    Program Request Answer β :=
  match program with
  | .done value => next value
  | .ask request rest => .ask request fun answer => (rest answer).bind next

instance : Monad (Program Request Answer) where
  pure := .done
  bind := bind

def query (request : Request) : Program Request Answer (Answer request) :=
  .ask request .done

/-- A run against a world that answers every request and may change with it. -/
def run (world : (request : Request) → σ → Answer request × σ) : Program Request Answer α → σ → α × σ
  | .done value, state => (value, state)
  | .ask request next, state =>
    let (answer, after) := world request state
    (next answer).run world after

/-- The program in which every request is replaced by a program over other requests. -/
def refine {Request' : Type} {Answer' : Request' → Type}
    (replace : (request : Request) → Program Request' Answer' (Answer request)) :
    Program Request Answer α → Program Request' Answer' α
  | .done value => .done value
  | .ask request next => (replace request).bind fun answer => (next answer).refine replace

end Program

end ClusterLifecycle
