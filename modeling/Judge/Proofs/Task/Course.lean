import Mathlib.Tactic.Lemma
import Judge.Task

/-!
The courses of tasks: what a task asks for, what it is answered, and how it ends. There is a rule for
each kind of step that a task consists of.
-/

namespace Judge.Task

open Sandbox (RunConfig RunStats)

/-- A request with its answer. -/
abbrev Entry := Sigma Request.Answer

/-- Requests with their answers, in the order in which they are made. -/
abbrev Log := List Entry

/-- Whether a request was answered with a failure. -/
def Entry.Failed : Entry → Prop
  | ⟨.box _, answer⟩ => ∃ cause, answer = .error cause
  | ⟨.findProgram _, answer⟩ => answer = none
  | ⟨.store _ _ _, answer⟩ => ∃ cause, answer = .error cause

/-- Whether a request of a log fails. -/
def Fails (log : Log) (request : Request) : Prop :=
  ∃ entry ∈ log, entry.1 = request ∧ entry.Failed

/-- The commands that were run, with how they ended. -/
def runs (log : Log) : List (List String × Except Sandbox.Error RunStats) :=
  log.filterMap fun
    | ⟨.box (.run command _), answer⟩ => some (command, answer)
    | _ => none

/-- A log in which nothing is stored. -/
def Idle (log : Log) : Prop :=
  ∀ entry ∈ log, ∀ path data executable, entry.1 ≠ .store path data executable

section Log

variable {log rest : Log} {request : Request} {entry : Entry} {call : Sandbox.Call}

@[simp] lemma failed_box {answer : call.Answer} :
    Entry.Failed ⟨.box call, answer⟩ ↔ ∃ cause, answer = .error cause := Iff.rfl

@[simp] lemma failed_findProgram {name : String} {answer : Option String} :
    Entry.Failed ⟨.findProgram name, answer⟩ ↔ answer = none := Iff.rfl

@[simp] lemma failed_store {path : String} {data : Bytes} {executable : Bool}
    {answer : Except IoError Unit} :
    Entry.Failed ⟨.store path data executable, answer⟩ ↔ ∃ cause, answer = .error cause := Iff.rfl

@[simp] lemma not_fails_nil : ¬ Fails [] request := by simp [Fails]

@[simp] lemma fails_cons : Fails (entry :: log) request ↔
    (entry.1 = request ∧ entry.Failed) ∨ Fails log request := by simp [Fails]

@[simp] lemma fails_append :
    Fails (log ++ rest) request ↔ Fails log request ∨ Fails rest request := by
  simp [Fails, or_and_right, exists_or]

lemma not_fails_of_ne (h : ∀ entry ∈ log, entry.1 ≠ request) : ¬ Fails log request :=
  fun ⟨entry, hmem, heq, _⟩ => h entry hmem heq

@[simp] lemma idle_nil : Idle [] := by simp [Idle]

@[simp] lemma idle_cons : Idle (entry :: log) ↔
    (∀ path data executable, entry.1 ≠ .store path data executable) ∧ Idle log :=
  List.forall_mem_cons

@[simp] lemma idle_append : Idle (log ++ rest) ↔ Idle log ∧ Idle rest := List.forall_mem_append

@[simp] lemma runs_nil : runs [] = [] := rfl

@[simp] lemma runs_append : runs (log ++ rest) = runs log ++ runs rest := List.filterMap_append

end Log

/-! ### Rules for steps -/

/-- Whatever their requests are answered, the requests of steps and the result are as they should
be. -/
def Ends {α : Type} (steps : Steps α) (post : Log → Except Failure α → Prop) : Prop :=
  Script.Always steps.run post

section Ends

variable {α β : Type} {steps : Steps α} {next : α → Steps β}
  {post mid : Log → Except Failure α → Prop}

lemma Ends.mono (h : Ends steps mid) (himp : ∀ log result, mid log result → post log result) :
    Ends steps post := Script.Always.mono h himp

/-- Steps that are followed by others: those are left out when the first ones fail. -/
lemma ends_bind {post : Log → Except Failure β → Prop} :
    Ends (steps >>= next) post ↔ Ends steps fun log result => match result with
      | .ok a => Ends (next a) fun rest => post (log ++ rest)
      | .error failure => post log (.error failure) := by
  rw [Ends, ExceptT.run_bind, Script.always_bind]
  refine iff_of_eq (congrArg _ (funext fun log => funext fun result => ?_))
  cases result with
  | ok a => rfl
  | error failure =>
    change post (log ++ []) (.error failure) = post log (.error failure)
    rw [List.append_nil]

lemma ends_orFail {ε : Type} {failure : ε → Failure} {result : Except ε α} :
    Ends (orFail failure result) post ↔ match result with
      | .ok a => post [] (.ok a)
      | .error cause => post [] (.error (failure cause)) := by
  cases result <;> rfl

lemma ends_call {c : Sandbox.Call} {post : Log → Except Failure c.Value → Prop}
    (hok : ∀ value, post [⟨.box c, .ok value⟩] (.ok value))
    (herror : ∀ cause, post [⟨.box c, .error cause⟩] (.error (.sandbox cause))) :
    Ends (call c) post := by
  intro answer
  cases answer with
  | ok value => exact hok value
  | error cause => exact herror cause

lemma ends_store {path : String} {data : Bytes} {executable : Bool}
    {post : Log → Except Failure Unit → Prop}
    (hok : post [⟨.store path data executable, .ok ()⟩] (.ok ()))
    (herror : ∀ cause, post [⟨.store path data executable, .error cause⟩]
      (.error (.storing path cause))) :
    Ends (store path data executable) post := by
  intro answer
  cases answer with
  | ok => exact hok
  | error cause => exact herror cause

end Ends

end Judge.Task
