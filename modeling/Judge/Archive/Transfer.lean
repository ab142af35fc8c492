import Judge.Archive.Error
import Judge.Store.Call

/-!
Programs that move data between an archive and a store. They make store calls, each for a purpose,
and stop at the first failure.
-/

namespace Judge.Archive

/-- A program that uses a store and may fail. -/
abbrev Transfer (α : Type) := ExceptT Error Store.Program α

namespace Transfer

/-- Makes a store call for a purpose. -/
def request (purpose : Purpose) (call : Store.Call) : Transfer call.Value :=
  ExceptT.mk (.call call fun answer => .done (answer.mapError (.store purpose)))

/-- Goes on with a result that was computed without the store. -/
def ofExcept {α : Type} (result : Except Error α) : Transfer α := ExceptT.mk (.done result)

/-- Runs a program against a store. -/
def runOn {α σ : Type} (handle : Store.Handler σ) (transfer : Transfer α) (s : σ) :
    Except Error α × σ :=
  Script.run handle transfer.run s

@[simp] theorem runOn_pure {α σ : Type} (handle : Store.Handler σ) (a : α) (s : σ) :
    runOn handle (pure a) s = (.ok a, s) := rfl

@[simp] theorem runOn_throw {α σ : Type} (handle : Store.Handler σ) (e : Error) (s : σ) :
    runOn handle (throw e : Transfer α) s = (.error e, s) := rfl

@[simp] theorem runOn_ofExcept {α σ : Type} (handle : Store.Handler σ) (r : Except Error α)
    (s : σ) : runOn handle (ofExcept r) s = (r, s) := rfl

@[simp] theorem runOn_request {σ : Type} (handle : Store.Handler σ) (purpose : Purpose)
    (call : Store.Call) (s : σ) :
    runOn handle (request purpose call) s =
      ((handle call s).1.mapError (.store purpose), (handle call s).2) := rfl

/-- A program that goes on after another one runs on the state that the other one left. -/
theorem runOn_bind {α β σ : Type} (handle : Store.Handler σ) (first : Transfer α)
    (next : α → Transfer β) (s : σ) :
    runOn handle (first >>= next) s =
      match runOn handle first s with
      | (.ok a, s) => runOn handle (next a) s
      | (.error e, s) => (.error e, s) := by
  simp only [runOn, ExceptT.run_bind]
  rw [show ∀ (x : Store.Program (Except Error α))
    (f : Except Error α → Store.Program (Except Error β)), x >>= f = x.bind f from
    fun _ _ => rfl, Script.run_bind]
  rcases Script.run handle first.run s with ⟨a | a, s⟩ <;> rfl

end Transfer
end Judge.Archive
