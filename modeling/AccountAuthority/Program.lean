/-!
# Programs over an interface

A component talks to the world through an `Interface`: a type of requests, and for every request
the type of its answer.  A `Program` is the tree of the requests that a computation makes, each
branching over the answers it may get.  Nothing is performed while a program is built, so one
program can be run against a store, against a script, or interleaved with others one request at a
time.
-/

namespace AccountAuthority

/-- What can be asked, and what comes back. -/
structure Interface where
  Request : Type
  Answer : Request → Type

/-- A computation that makes requests of the interface `I` and ends with a value. -/
inductive Program (I : Interface) (α : Type) : Type
  | done (value : α)
  | ask (request : I.Request) (next : I.Answer request → Program I α)

namespace Program

variable {I : Interface} {α β σ : Type}

/-- The program that makes one request and ends with its answer. -/
def request (r : I.Request) : Program I (I.Answer r) :=
  .ask r .done

/-- Run a program, then the program chosen by its value. -/
def bind (p : Program I α) (f : α → Program I β) : Program I β :=
  match p with
  | .done a => f a
  | .ask r next => .ask r fun answer => (next answer).bind f

instance : Monad (Program I) where
  pure := .done
  bind := Program.bind

/-- Answer every request by `handler`, which may read and change a state. -/
def run (handler : (r : I.Request) → σ → I.Answer r × σ) : Program I α → σ → α × σ
  | .done a, s => (a, s)
  | .ask r next, s =>
    let (answer, s) := handler r s
    (next answer).run handler s

/-- Replace every request by a program over another interface. -/
def expand {J : Interface} (handler : (r : I.Request) → Program J (I.Answer r)) :
    Program I α → Program J α
  | .done a => .done a
  | .ask r next => (handler r).bind fun answer => (next answer).expand handler

end Program

end AccountAuthority
