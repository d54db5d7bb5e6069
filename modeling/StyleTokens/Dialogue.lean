/-!
# Dialogues

A dialogue is a computation that asks for services, one request at a time, and goes on with the
answers. What answers the requests is not part of it: the same dialogue runs over a tree of files
that is a value, over a store whose calls fail, or over a real file system. A dialogue can also be
served by another, which asks for simpler services.
-/

namespace StyleTokens

/-- A computation that makes requests and goes on with their answers. -/
inductive Dialogue (Request : Type) (Answer : Request → Type) (α : Type) : Type where
  /-- The computation is over. -/
  | done (result : α)
  /-- A request, and how to go on with its answer. -/
  | ask (request : Request) (next : Answer request → Dialogue Request Answer α)

namespace Dialogue

variable {Request Request' : Type} {Answer : Request → Type} {Answer' : Request' → Type}
variable {α β σ : Type}

/-- A dialogue that makes one request. -/
def request (r : Request) : Dialogue Request Answer (Answer r) := .ask r .done

/-- Goes on with the result of a dialogue. -/
def bind (dialogue : Dialogue Request Answer α) (rest : α → Dialogue Request Answer β) :
    Dialogue Request Answer β :=
  match dialogue with
  | .done result => rest result
  | .ask r next => .ask r fun answer => (next answer).bind rest

instance : Monad (Dialogue Request Answer) where
  pure := .done
  bind := bind

/-- Runs a dialogue with answers that depend on a state. -/
def run (answer : (r : Request) → σ → Answer r × σ) : Dialogue Request Answer α → σ → α × σ
  | .done result, state => (result, state)
  | .ask r next, state =>
    let (reply, after) := answer r state
    (next reply).run answer after

/-- Serves the requests of a dialogue by dialogues of another sort. -/
def serve (server : (r : Request) → σ → Dialogue Request' Answer' (Answer r × σ)) :
    Dialogue Request Answer α → σ → Dialogue Request' Answer' (α × σ)
  | .done result, state => .done (result, state)
  | .ask r next, state =>
    (server r state).bind fun (reply, after) => (next reply).serve server after

/-- Serves the requests of a dialogue without a state. -/
def relay (server : (r : Request) → Dialogue Request' Answer' (Answer r)) :
    Dialogue Request Answer α → Dialogue Request' Answer' α
  | .done result => .done result
  | .ask r next => (server r).bind fun reply => (next reply).relay server

end Dialogue

end StyleTokens
