import Judge.Store.Call

/-!
A store that refuses chosen calls. A refused call is not passed on, and calls are counted by name.
-/

namespace Judge.Store

/-- A refusal: the call of this name that comes after `after` others of the name. -/
structure Refusal where
  name : String
  after : Nat
  deriving DecidableEq, Repr

/-- A store under refusals, with the names of the calls so far. -/
structure Faulty (σ : Type) where
  store : σ
  calls : List String := []

namespace Faulty

/-- How many calls of a name there were. -/
def count {σ : Type} (s : Faulty σ) (name : String) : Nat := s.calls.count name

/-- Answers a call, or refuses it. -/
def handle {σ : Type} (refusals : List Refusal) (inner : Handler σ) : Handler (Faulty σ) :=
  fun call s =>
    let counted := { s with calls := call.name :: s.calls }
    if refusals.any fun r => r.name == call.name && r.after == s.count call.name then
      (.error (.injected call.name), counted)
    else
      let (answer, store) := inner call s.store
      (answer, { counted with store })

end Faulty
end Judge.Store
