import BulkLoad.Host.Request

/-!
Programs as dialogues with the host: a dialogue is over with a value, or it puts a request and goes
on by the answer. A host is a function that answers requests and changes its own state; running a
dialogue against it gives the value and the state in the end.
-/

namespace BulkLoad.Host

/-- A program that puts requests to the host and ends with a value. -/
inductive Dialogue (α : Type) where
  | done (value : α)
  | ask (request : Request) (next : request.Answer → Dialogue α)

namespace Dialogue

variable {α β σ : Type}

/-- Goes on with another dialogue. -/
def bind : Dialogue α → (α → Dialogue β) → Dialogue β
  | done a, f => f a
  | ask r next, f => ask r fun answer => bind (next answer) f

instance : Monad Dialogue where
  pure := done
  bind := bind

/-- Runs a dialogue, answering requests in some monad. -/
def runM {m : Type → Type} [Monad m] (host : (r : Request) → m r.Answer) : Dialogue α → m α
  | done a => pure a
  | ask r next => host r >>= fun answer => runM host (next answer)

/-- Runs a dialogue against a host with a state. -/
def run (host : (r : Request) → σ → r.Answer × σ) : Dialogue α → σ → α × σ
  | done a, state => (a, state)
  | ask r next, state =>
    let answered := host r state
    run host (next answered.1) answered.2

theorem run_bind (host : (r : Request) → σ → r.Answer × σ) (d : Dialogue α) (f : α → Dialogue β)
    (state : σ) :
    run host (d.bind f) state = run host (f (run host d state).1) (run host d state).2 := by
  induction d generalizing state with
  | done a => rfl
  | ask r next ih => simp only [bind, run, ih]

theorem bind_done (d : Dialogue α) : d.bind done = d := by
  induction d with
  | done a => rfl
  | ask r next ih => simp only [bind, ih]

theorem bind_assoc {γ : Type} (d : Dialogue α) (f : α → Dialogue β) (g : β → Dialogue γ) :
    (d.bind f).bind g = d.bind fun a => (f a).bind g := by
  induction d with
  | done a => rfl
  | ask r next ih => simp only [bind, ih]

end Dialogue

def Request.send (r : Request) : Dialogue r.Answer := .ask r .done

end BulkLoad.Host
