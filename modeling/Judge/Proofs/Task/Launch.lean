import Judge.Proofs.Task.Course

/-!
Launching a command, as most tasks do: things are put into the box, the program of the command is
looked for, and the command is run. The first of these steps that fails is the last one.
-/

namespace Judge.Task

open Sandbox (RunConfig RunStats)

/-! ### Commands -/

/-- How the program of a command is looked for. -/
inductive Located : List String → Log → Except CommandError (List String) → Prop
  | empty : Located [] [] (.error .empty)
  | path {program : String} {arguments : List String} (h : program.contains '/' = true) :
    Located (program :: arguments) [] (.ok (program :: arguments))
  | found {program : String} {arguments : List String} (place : String) :
    Located (program :: arguments) [⟨.findProgram program, some place⟩] (.ok (place :: arguments))
  | missing {program : String} {arguments : List String} :
    Located (program :: arguments) [⟨.findProgram program, none⟩] (.error (.notFound program))

lemma Located.request_of_mem {command : List String} {log : Log}
    {found : Except CommandError (List String)} (h : Located command log found) {entry : Entry}
    (hmem : entry ∈ log) : ∃ name, entry.1 = .findProgram name := by
  cases h with
  | empty | path => simp at hmem
  | found | missing =>
    obtain rfl := List.mem_singleton.mp hmem
    exact ⟨_, rfl⟩

/-- A command that could not be resolved: it is empty, or there is no such program. -/
def Unresolved (command : List String) (log : Log) : Prop :=
  command = [] ∨ ∃ program ∈ command.head?, Fails log (.findProgram program)

/-- A program given by a path is not looked for. -/
lemma resolve_of_path {program : String} {arguments : List String}
    (h : program.contains '/' = true) :
    resolve (program :: arguments) = pure (.ok (program :: arguments)) := by
  rw [resolve, if_pos h]

lemma ends_resolved (command : List String) : Ends (resolved command) fun log result =>
    ∃ found, Located command log found ∧ result = found.mapError .command := by
  cases command with
  | nil => exact ⟨_, .empty, rfl⟩
  | cons program arguments =>
    by_cases hpath : program.contains '/' = true
    · rw [resolved, resolve_of_path hpath]
      exact ⟨_, .path hpath, rfl⟩
    · rw [resolved, resolve, if_neg hpath]
      intro answer
      cases answer with
      | none => exact ⟨_, .missing, rfl⟩
      | some place => exact ⟨_, .found place, rfl⟩

/-! ### Launching a command -/

/-- Something that is put into the box. -/
inductive Supply where
  | write (path : String) (data : Bytes)
  | copy (source path : String)
  deriving DecidableEq, Repr

namespace Supply

/-- The call that puts it there. -/
def call : Supply → Sandbox.Call
  | .write path data => .deliver path data false
  | .copy source path => .copyIn source path

/-- Where it is put. -/
def path : Supply → String
  | .write path _ => path
  | .copy _ path => path

/-- The call with its answer. -/
def entry : Supply → Except Sandbox.Error Unit → Entry
  | .write path data, answer => ⟨.box (.deliver path data false), answer⟩
  | .copy source path, answer => ⟨.box (.copyIn source path), answer⟩

/-- Puts it there. -/
def step : Supply → Steps Unit
  | .write path data => Task.write path data
  | .copy source path => Task.call (.copyIn source path)

lemma ends_step (supply : Supply) {post : Log → Except Failure Unit → Prop}
    (hok : post [supply.entry (.ok ())] (.ok ()))
    (herror : ∀ cause, post [supply.entry (.error cause)] (.error (.sandbox cause))) :
    Ends supply.step post := by
  cases supply with
  | write path data => exact ends_call (c := .deliver path data false) (fun _ => hok) herror
  | copy source path => exact ends_call (c := .copyIn source path) (fun _ => hok) herror

@[simp] lemma entry_fst (supply : Supply) (answer : Except Sandbox.Error Unit) :
    (supply.entry answer).1 = .box supply.call := by cases supply <;> rfl

@[simp] lemma failed_entry (supply : Supply) (cause : Sandbox.Error) :
    (supply.entry (.error cause)).Failed := by cases supply <;> exact ⟨cause, rfl⟩

@[simp] lemma not_failed_entry (supply : Supply) : ¬ (supply.entry (.ok ())).Failed := by
  cases supply <;> exact fun ⟨_, h⟩ => nomatch h

end Supply

/-- Puts things into the box and runs a command there that is made from the resolved one. -/
def launch (command : List String) (invocation : List String → List String) (config : RunConfig) :
    List Supply → Steps RunStats
  | [] => do
    let found ← resolved command
    call (.run (invocation found) config)
  | supply :: supplies => do
    supply.step
    launch command invocation config supplies

/-- What has been asked for when a command is about to be run: all is in the box, and the program
was found. -/
def ready (supplies : List Supply) (search : Log) : Log :=
  supplies.map (·.entry (.ok ())) ++ search

lemma Located.runs_ready {command : List String} {search : Log}
    {found : Except CommandError (List String)} (h : Located command search found)
    (supplies : List Supply) : runs (ready supplies search) = [] := by
  have hsupplies : runs (supplies.map (·.entry (.ok ()))) = [] := by
    rw [runs, List.filterMap_map, List.filterMap_eq_nil_iff]
    rintro (_ | _) _ <;> rfl
  rw [ready, runs_append, hsupplies]
  cases h <;> rfl

/-- A log in which a command is run once, when all is in the box. -/
structure RanOnce (command : List String) (invocation : List String → List String)
    (config : RunConfig) (supplies : List Supply) (log : Log) (found : List String)
    (stats : RunStats) : Prop where
  log_eq : ∃ search rest, Located command search (.ok found) ∧
    log = ready supplies search ++ ⟨.box (.run (invocation found) config), .ok stats⟩ :: rest
  once : runs log = [(invocation found, .ok stats)]

section Launched

variable {command : List String} {invocation : List String → List String} {config : RunConfig}

/-- How a command is launched: a supply is refused, the command cannot be resolved, or it is run. -/
inductive Launched (command : List String) (invocation : List String → List String)
    (config : RunConfig) : List Supply → Log → Except Failure RunStats → Prop
  | refused {supply : Supply} {supplies : List Supply} (cause : Sandbox.Error) :
    Launched command invocation config (supply :: supplies) [supply.entry (.error cause)]
      (.error (.sandbox cause))
  | supplied {supply : Supply} {supplies : List Supply} {log : Log}
      {result : Except Failure RunStats}
      (h : Launched command invocation config supplies log result) :
    Launched command invocation config (supply :: supplies) (supply.entry (.ok ()) :: log) result
  | unresolved {search : Log} {cause : CommandError} (h : Located command search (.error cause)) :
    Launched command invocation config [] search (.error (.command cause))
  | notRun {search : Log} {found : List String} (h : Located command search (.ok found))
      (cause : Sandbox.Error) :
    Launched command invocation config []
      (search ++ [⟨.box (.run (invocation found) config), .error cause⟩]) (.error (.sandbox cause))
  | ran {search : Log} {found : List String} (h : Located command search (.ok found))
      (stats : RunStats) :
    Launched command invocation config []
      (search ++ [⟨.box (.run (invocation found) config), .ok stats⟩]) (.ok stats)

theorem ends_launch (command : List String) (invocation : List String → List String)
    (config : RunConfig) (supplies : List Supply) :
    Ends (launch command invocation config supplies)
      (Launched command invocation config supplies) := by
  induction supplies with
  | nil =>
    rw [launch, ends_bind]
    refine (ends_resolved command).mono ?_
    rintro search _ ⟨_ | _, hlocated, rfl⟩
    · exact .unresolved hlocated
    · exact ends_call (.ran hlocated) (.notRun hlocated)
  | cons supply supplies ih =>
    rw [launch, ends_bind]
    exact supply.ends_step (ih.mono fun _ _ => .supplied) .refused

namespace Launched

variable {supplies : List Supply} {log : Log} {result : Except Failure RunStats}
  (h : Launched command invocation config supplies log result)
include h

/-- Nothing is asked for after a failure. -/
lemma pairwise : log.Pairwise fun earlier _ => ¬ earlier.Failed := by
  induction h with
  | refused cause => simp
  | supplied _ ih => simp [ih]
  | unresolved h => cases h <;> simp
  | notRun h | ran h => cases h <;> simp

/-- What is asked for. -/
lemma request_of_mem {entry : Entry} (hmem : entry ∈ log) :
    (∃ supply ∈ supplies, entry.1 = .box supply.call) ∨ (∃ name, entry.1 = .findProgram name) ∨
      ∃ found, entry.1 = .box (.run (invocation found) config) := by
  induction h with
  | @refused supply supplies cause =>
    obtain rfl := List.mem_singleton.mp hmem
    exact .inl ⟨supply, by simp⟩
  | @supplied supply supplies log result _ ih =>
    rcases List.mem_cons.mp hmem with rfl | hmem
    · exact .inl ⟨supply, by simp⟩
    · refine (ih hmem).imp_left fun ⟨other, hother, heq⟩ => ⟨other, ?_, heq⟩
      exact List.mem_cons_of_mem _ hother
  | unresolved hlocated => exact .inr (.inl (hlocated.request_of_mem hmem))
  | notRun hlocated | ran hlocated =>
    rcases List.mem_append.mp hmem with hmem | hmem
    · exact .inr (.inl (hlocated.request_of_mem hmem))
    · obtain rfl := List.mem_singleton.mp hmem
      exact .inr (.inr ⟨_, rfl⟩)

/-- A launch reads no file of the box. -/
lemma ne_fetch {entry : Entry} (hmem : entry ∈ log) (path : String) :
    entry.1 ≠ .box (.fetch path) := by
  intro heq
  rcases h.request_of_mem hmem with ⟨supply, -, hsupply⟩ | ⟨name, hname⟩ | ⟨found, hfound⟩
  · cases supply <;> simp [heq, Supply.call] at hsupply
  · simp [heq] at hname
  · simp [heq] at hfound

/-- A launch stores nothing. -/
lemma idle : Idle log := by
  intro entry hmem path data executable heq
  rcases h.request_of_mem hmem with ⟨supply, -, hsupply⟩ | ⟨name, hname⟩ | ⟨found, hfound⟩
  · simp [heq] at hsupply
  · simp [heq] at hname
  · simp [heq] at hfound

/-- A launch that succeeds makes all its steps. -/
lemma eq_of_ok {stats : RunStats} (hok : result = .ok stats) :
    ∃ search found, Located command search (.ok found) ∧
      log = ready supplies search ++ [⟨.box (.run (invocation found) config), .ok stats⟩] := by
  induction h with
  | refused | unresolved | notRun => contradiction
  | supplied _ ih =>
    obtain ⟨search, found, hlocated, rfl⟩ := ih hok
    exact ⟨search, found, hlocated, rfl⟩
  | ran hlocated =>
    obtain rfl := Except.ok.inj hok
    exact ⟨_, _, hlocated, rfl⟩

/-- A launch that succeeds runs one command, and it is the only one if none is run later. -/
lemma ranOnce {stats : RunStats} (hok : result = .ok stats) {rest : Log} (hrest : runs rest = []) :
    ∃ found, RanOnce command invocation config supplies (log ++ rest) found stats := by
  obtain ⟨search, found, hlocated, rfl⟩ := h.eq_of_ok hok
  refine ⟨found, ⟨search, rest, hlocated, by simp⟩, ?_⟩
  rw [runs_append, runs_append, hlocated.runs_ready, hrest]
  rfl

/-- No step of a launch that succeeds fails. -/
lemma sound {stats : RunStats} (hok : result = .ok stats) :
    command ≠ [] ∧ ∀ entry ∈ log, ¬ entry.Failed := by
  induction h with
  | refused | unresolved | notRun => contradiction
  | supplied _ ih => simpa using ih hok
  | ran hlocated => cases hlocated <;> simp

lemma not_fails {stats : RunStats} (hok : result = .ok stats) (request : Request) :
    ¬ Fails log request :=
  fun ⟨entry, hmem, _, hfailed⟩ => (h.sound hok).2 entry hmem hfailed

/-- A launch fails when one of its steps does. -/
theorem error_iff : (∃ failure, result = .error failure) ↔
    (∃ supply ∈ supplies, Fails log (.box supply.call)) ∨ Unresolved command log ∨
      ∃ found, Fails log (.box (.run (invocation found) config)) := by
  constructor
  · rintro ⟨failure, herror⟩
    induction h with
    | @refused supply supplies cause => exact .inl ⟨supply, by simp⟩
    | @supplied supply supplies log result _ ih =>
      rcases ih herror with ⟨other, hother, hfails⟩ | hunresolved | ⟨found, hfails⟩
      · exact .inl ⟨other, by simp [hother], by simp [hfails]⟩
      · exact .inr (.inl (hunresolved.imp_right fun ⟨program, hprogram, hfails⟩ =>
          ⟨program, hprogram, by simp [hfails]⟩))
      · exact .inr (.inr ⟨found, by simp [hfails]⟩)
    | unresolved hlocated =>
      cases hlocated with
      | empty => exact .inr (.inl (.inl rfl))
      | missing => exact .inr (.inl (.inr ⟨_, rfl, by simp⟩))
    | @notRun search found => exact .inr (.inr ⟨found, by simp⟩)
    | ran => contradiction
  · intro hfault
    cases hresult : result with
    | error failure => exact ⟨failure, rfl⟩
    | ok stats =>
      have hnone := h.not_fails hresult
      rcases hfault with ⟨_, _, hfails⟩ | (hempty | ⟨_, _, hfails⟩) | ⟨_, hfails⟩
      · exact absurd hfails (hnone _)
      · exact absurd hempty (h.sound hresult).1
      · exact absurd hfails (hnone _)
      · exact absurd hfails (hnone _)

end Launched

end Launched
end Judge.Task
