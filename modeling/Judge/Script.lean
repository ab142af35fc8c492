/-!
Programs that make calls. A script is a finite tree: it ends with a result, or makes a call and goes
on with whatever is answered. The same script runs against any handler of its calls. Its calls with what
they were answered, and nothing else, decide the result and the state that it ends in, so what holds
whatever is answered holds for every handler.
-/

namespace Judge

/-- A program that makes calls, each with its own type of answer. -/
inductive Script (Call : Type) (Answer : Call → Type) (α : Type) where
  | done (result : α)
  | call (c : Call) (next : Answer c → Script Call Answer α)

namespace Script

variable {Call : Type} {Answer : Call → Type} {α β σ : Type}

/-- Runs a script and goes on with another one that depends on the result. -/
def bind (script : Script Call Answer α) (next : α → Script Call Answer β) :
    Script Call Answer β :=
  match script with
  | .done result => next result
  | .call c rest => .call c fun answer => (rest answer).bind next

instance : Monad (Script Call Answer) where
  pure := .done
  bind := bind

/-- The script that makes one call and returns its answer. -/
def ask (c : Call) : Script Call Answer (Answer c) := .call c .done

/-- Runs a script against a handler that keeps a state. -/
def run (handle : (c : Call) → σ → Answer c × σ) : Script Call Answer α → σ → α × σ
  | .done result, s => (result, s)
  | .call c next, s => let (answer, s) := handle c s; (next answer).run handle s

@[simp] theorem run_done (handle : (c : Call) → σ → Answer c × σ) (result : α) (s : σ) :
    (done result : Script Call Answer α).run handle s = (result, s) := rfl

@[simp] theorem run_call (handle : (c : Call) → σ → Answer c × σ) (c : Call)
    (next : Answer c → Script Call Answer α) (s : σ) :
    (call c next).run handle s = (next (handle c s).1).run handle (handle c s).2 := rfl

/-- Running one script after another is running their composition. -/
theorem run_bind (handle : (c : Call) → σ → Answer c × σ) (script : Script Call Answer α)
    (next : α → Script Call Answer β) (s : σ) :
    (script.bind next).run handle s =
      (next (script.run handle s).1).run handle (script.run handle s).2 := by
  induction script generalizing s with
  | done result => rfl
  | call c rest ih => simp [bind, ih]

@[simp] theorem bind_done (script : Script Call Answer α) : script.bind .done = script := by
  induction script with
  | done result => rfl
  | call c rest ih => simp [bind, ih]

theorem bind_assoc {γ : Type} (script : Script Call Answer α) (f : α → Script Call Answer β)
    (g : β → Script Call Answer γ) :
    (script.bind f).bind g = script.bind fun a => (f a).bind g := by
  induction script with
  | done result => rfl
  | call c rest ih => simp [bind, ih]

instance : LawfulMonad (Script Call Answer) := LawfulMonad.mk' _
  (fun script => bind_done script) (fun _ _ => rfl) (fun script f g => bind_assoc script f g)

/-- The calls that a script makes when it runs. -/
def trace (handle : (c : Call) → σ → Answer c × σ) : Script Call Answer α → σ → List Call
  | .done _, _ => []
  | .call c next, s => let (answer, s) := handle c s; c :: (next answer).trace handle s

/-! ### The course of a script -/

/-- The calls that a script makes when it runs, with their answers. -/
def log (handle : (c : Call) → σ → Answer c × σ) : Script Call Answer α → σ → List (Sigma Answer)
  | .done _, _ => []
  | .call c next, s => ⟨c, (handle c s).1⟩ :: (next (handle c s).1).log handle (handle c s).2

/-- The state that calls lead to. -/
def after (handle : (c : Call) → σ → Answer c × σ) (log : List (Sigma Answer)) (s : σ) : σ :=
  log.foldl (fun s entry => (handle entry.1 s).2) s

/-- Whatever its calls are answered, the calls of a script and its result are as they should be. -/
def Always : Script Call Answer α → (List (Sigma Answer) → α → Prop) → Prop
  | .done result, post => post [] result
  | .call c next, post => ∀ answer, (next answer).Always fun log => post (⟨c, answer⟩ :: log)

section Course

variable {handle : (c : Call) → σ → Answer c × σ} {script : Script Call Answer α} {s : σ}
  {post mid : List (Sigma Answer) → α → Prop}

/-- The calls lead to the state that the run ends in. -/
theorem snd_run_eq_after (script : Script Call Answer α) (s : σ) :
    (script.run handle s).2 = after handle (script.log handle s) s := by
  induction script generalizing s with
  | done result => rfl
  | call c next ih => exact ih _ _

/-- Each call is answered in the state that the calls before it lead to. -/
theorem answer_of_log {front back : List (Sigma Answer)} {c : Call} {answer : Answer c}
    (h : script.log handle s = front ++ ⟨c, answer⟩ :: back) :
    (handle c (after handle front s)).1 = answer := by
  induction front generalizing script s with
  | nil =>
    cases script with
    | done result => simp [log] at h
    | call c' next =>
      obtain ⟨rfl, hanswer⟩ := Sigma.mk.inj (List.cons.inj h).1
      exact eq_of_heq hanswer
  | cons entry front ih =>
    cases script with
    | done result => simp [log] at h
    | call c' next =>
      obtain ⟨rfl, hrest⟩ := List.cons.inj h
      exact ih hrest

/-- What every course has, that of a run has. -/
theorem Always.run (h : script.Always post) (handle : (c : Call) → σ → Answer c × σ) (s : σ) :
    post (script.log handle s) (script.run handle s).1 := by
  induction script generalizing post s with
  | done result => exact h
  | call c next ih => exact ih _ (h _) _

theorem Always.mono (h : script.Always mid) (himp : ∀ log result, mid log result → post log result) :
    script.Always post := by
  induction script generalizing mid post with
  | done result => exact himp _ _ h
  | call c next ih => exact fun answer => ih answer (h answer) fun _ _ => himp _ _

/-- The calls of a composed script are those of its first part and then those of its second one. -/
theorem always_bind {next : α → Script Call Answer β} {post : List (Sigma Answer) → β → Prop} :
    (script >>= next).Always post ↔
      script.Always fun log result => (next result).Always fun rest => post (log ++ rest) := by
  induction script generalizing post with
  | done result => exact Iff.rfl
  | call c rest ih => exact forall_congr' fun answer => ih answer

end Course
end Script
end Judge
