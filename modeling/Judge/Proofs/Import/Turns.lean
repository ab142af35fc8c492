import Judge.Proofs.Import.Orderly

/-!
Imports into one problem take turns. Whoever has its lock has it until after its last store call,
whether or not anybody waits for it, and those that were started before are over by then. So what is
seen of one import is seen before anything of the next one.
-/

namespace Judge.Archive.Imports

variable {σ : Type}

/-- What is seen of an import that has its lock. -/
inductive Act where
  | begins (entries : List Entry)
  | calls (call : Store.Call)

structure Deed where
  ticket : Int
  problem : Int
  act : Act

def deed? (imports : Imports σ) : Event → Option Deed
  | .start problem entries =>
    let (ticket, locks) := imports.locks.request problem
    if locks.holds ticket then some ⟨ticket, problem, .begins entries⟩ else none
  | .poll ticket =>
    match imports.jobs.get? ticket with
    | some job =>
      match job.stage with
      | .waiting =>
        if (imports.locks.poll ticket).holds ticket then
          some ⟨ticket, job.problem, .begins job.entries⟩
        else none
      | _ => none
    | none => none
  | .work ticket =>
    match imports.jobs.get? ticket with
    | some job =>
      match job.stage with
      | .running (.call call _) => some ⟨ticket, job.problem, .calls call⟩
      | _ => none
    | none => none
  | .abandon _ => none

def deeds (handle : Store.Handler σ) (imports : Imports σ) : List Event → List Deed
  | [] => []
  | event :: events => (imports.deed? event).toList ++ deeds handle (imports.step handle event) events

def Deed.begun? (deed : Deed) : Option (Int × List Entry) :=
  match deed.act with
  | .begins entries => some (deed.problem, entries)
  | .calls _ => none

/-- The imports that get their locks in events, in this order. -/
def order (handle : Store.Handler σ) (imports : Imports σ) (events : List Event) :
    List (Int × List Entry) :=
  (deeds handle imports events).filterMap Deed.begun?

/-- What imports leave that run one after the other. -/
def serially (handle : Store.Handler σ) (s : σ) (imports : List (Int × List Entry)) : σ :=
  imports.foldl (fun s e => (Transfer.runOn handle (importArchive e.2 e.1) s).2) s

/-- What imports leave of a store that they share from the start. -/
def shared (handle : Store.Handler σ) (start : σ) (events : List Event) : σ :=
  (run handle { store := start } events).store

/-- What the same imports leave that run one after the other as they got their locks. -/
def inTurn (handle : Store.Handler σ) (start : σ) (events : List Event) : σ :=
  serially handle start (order handle { store := start } events)

/-- No import into a problem waits or runs. -/
def Ended (imports : Imports σ) (problem : Int) : Prop :=
  ∀ ticket job, imports.jobs.get? ticket = some job → job.problem = problem →
    job.stage.isOver = true

def Within (scope : Int → List Entry → Prop) (imports : Imports σ) : Prop :=
  ∀ ticket job, imports.jobs.get? ticket = some job → scope job.problem job.entries

def Event.Within (scope : Int → List Entry → Prop) : Event → Prop
  | .start problem entries => scope problem entries
  | .poll _ | .work _ | .abandon _ => True

/-- In an event the store is left alone, or it answers a call. -/
lemma store_step (handle : Store.Handler σ) (imports : Imports σ) (event : Event) :
    (imports.step handle event).store = imports.store ∨
      ∃ call, (imports.step handle event).store = (handle call imports.store).2 := by
  have henter : ∀ (locks : Locks) ticket job,
      (({ imports with locks } : Imports σ).enter ticket job).store = imports.store := by
    intro locks ticket job
    rw [enter]
    split <;> rfl
  cases event with
  | start problem entries => exact .inl (henter _ _ _)
  | poll ticket =>
    rw [step, poll]
    split
    · split
      · exact .inl (henter _ _ _)
      · exact .inl rfl
    · exact .inl rfl
  | work ticket =>
    rw [step, work]
    split
    · split
      · exact .inr ⟨_, rfl⟩
      · exact .inl rfl
      · exact .inl rfl
    · exact .inl rfl
  | abandon ticket =>
    rw [step, abandon]
    split
    · split
      · exact .inl rfl
      · exact .inl rfl
    · exact .inl rfl

/-- What an import does to its stage and the store, and what is seen of it. -/
inductive Advance (handle : Store.Handler σ) (ticket : Int) (job : LockedImport) (s : σ) :
    ImportStage → σ → Option Deed → Prop where
  | waits (h : job.stage = .waiting) : Advance handle ticket job s .waiting s none
  | begins (h : job.stage = .waiting) :
    Advance handle ticket job s (.running (importArchive job.entries job.problem).run) s
      (some ⟨ticket, job.problem, .begins job.entries⟩)
  | calls {call : Store.Call} {next : call.Answer → Store.Program (Except Error Summary)}
      (h : job.stage = .running (.call call next)) :
    Advance handle ticket job s (.running (next (handle call s).1)) (handle call s).2
      (some ⟨ticket, job.problem, .calls call⟩)
  | ends {result : Except Error Summary} (h : job.stage = .running (.done result)) :
    Advance handle ticket job s (.finished result) s none
  | leaves (h : job.stage = .waiting) : Advance handle ticket job s .withdrawn s none

namespace Advance

variable {handle : Store.Handler σ} {ticket : Int} {job : LockedImport} {s t : σ}
  {stage : ImportStage} {seen : Option Deed} {deed : Deed}

lemma isServed (h : Advance handle ticket job s stage t seen) (hserved : job.stage.isServed = true) :
    stage.isServed = true := by
  cases h with
  | calls | ends => rfl
  | waits hstage | begins hstage | leaves hstage =>
    rw [hstage, ImportStage.isServed] at hserved
    contradiction

lemma running (h : Advance handle ticket job s stage t (some deed)) :
    deed.ticket = ticket ∧ deed.problem = job.problem ∧ ∃ program, stage = .running program := by
  cases h with
  | begins | calls => exact ⟨rfl, rfl, _, rfl⟩

lemma begun {e : Int × List Entry} (h : Advance handle ticket job s stage t (some deed))
    (hbegun : deed.begun? = some e) : e = (job.problem, job.entries) := by
  cases h with
  | begins => exact (Option.some.inj hbegun).symm
  | calls => simp [Deed.begun?] at hbegun

end Advance

section Steps

variable {handle : Store.Handler σ} {imports : Imports σ} {ticket : Int} {job : LockedImport}

/-- In an event one import does something. -/
structure Changes (handle : Store.Handler σ) (imports next : Imports σ) (event : Event)
    (deed : Option Deed) (ticket : Int) (job : LockedImport) (stage : ImportStage) : Prop where
  was : imports.jobs.get? ticket = some job ∨
    imports.jobs.get? ticket = none ∧ job.stage = .waiting ∧ event = .start job.problem job.entries
  jobs : next.jobs = imports.jobs.insert ticket { job with stage }
  advance : Advance handle ticket job imports.store stage next.store deed

lemma changes_enter {locks : Locks} {event : Event} (hstage : job.stage = .waiting)
    (hwas : imports.jobs.get? ticket = some job ∨
      imports.jobs.get? ticket = none ∧ event = .start job.problem job.entries) :
    ∃ stage, Changes handle imports (({ imports with locks } : Imports σ).enter ticket job) event
      (if locks.holds ticket then some ⟨ticket, job.problem, .begins job.entries⟩ else none)
      ticket job stage := by
  have hwas := hwas.imp_right fun ⟨hnone, hevent⟩ => And.intro hnone (And.intro hstage hevent)
  rw [enter]
  by_cases hholds : locks.holds ticket = true
  · simp only [hholds, if_true]
    exact ⟨_, hwas, rfl, .begins hstage⟩
  · simp only [hholds, Bool.false_eq_true, if_false]
    exact ⟨_, hwas, rfl, .waits hstage⟩

/-- In an event nothing happens to the imports and the store, or one import does something. -/
theorem step_cases (h : Orderly imports) (event : Event) :
    ((imports.step handle event).jobs = imports.jobs ∧
      (imports.step handle event).store = imports.store ∧ imports.deed? event = none) ∨
    ∃ ticket job stage, Changes handle imports (imports.step handle event) event
      (imports.deed? event) ticket job stage := by
  cases event with
  | start problem entries =>
    refine .inr ⟨imports.locks.next, { problem, entries }, ?_⟩
    refine changes_enter rfl (.inr ⟨?_, rfl⟩)
    -- No import has a ticket that was not given out yet.
    by_contra hsome
    obtain ⟨job, hjob⟩ := Option.ne_none_iff_exists'.mp hsome
    exact Int.lt_irrefl _ (h.numbered _ job hjob)
  | poll ticket =>
    rw [step, poll, deed?]
    cases hget : imports.jobs.get? ticket with
    | none => exact .inl ⟨rfl, rfl, rfl⟩
    | some job =>
      dsimp only
      rcases hstage : job.stage with _ | program | result | _
      · exact .inr ⟨ticket, job, changes_enter hstage (.inl hget)⟩
      all_goals exact .inl ⟨rfl, rfl, rfl⟩
  | work ticket =>
    rw [step, work, deed?]
    cases hget : imports.jobs.get? ticket with
    | none => exact .inl ⟨rfl, rfl, rfl⟩
    | some job =>
      dsimp only
      rcases hstage : job.stage with _ | (result | ⟨call, next⟩) | result | _
      · exact .inl ⟨rfl, rfl, rfl⟩
      · exact .inr ⟨ticket, job, _, .inl hget, rfl, .ends hstage⟩
      · exact .inr ⟨ticket, job, _, .inl hget, rfl, .calls hstage⟩
      all_goals exact .inl ⟨rfl, rfl, rfl⟩
  | abandon ticket =>
    rw [step, abandon, deed?]
    cases hget : imports.jobs.get? ticket with
    | none => exact .inl ⟨rfl, rfl, rfl⟩
    | some job =>
      dsimp only
      rcases hstage : job.stage with _ | program | result | _
      · exact .inr ⟨ticket, job, _, .inl hget, rfl, .leaves hstage⟩
      all_goals exact .inl ⟨rfl, rfl, rfl⟩

variable {event : Event} {events : List Event} {deed : Deed}

/-- An import that got its lock is not asked for it again. -/
lemma served_step (h : Orderly imports) (hget : imports.jobs.get? ticket = some job)
    (hserved : job.stage.isServed = true) :
    ∃ now, (imports.step handle event).jobs.get? ticket = some now ∧ now.problem = job.problem ∧
      now.stage.isServed = true := by
  rcases @step_cases _ handle _ h event with ⟨hjobs, -, -⟩ | ⟨other, found, stage, hwas, hjobs, hadv⟩
  · exact ⟨job, by rw [hjobs, hget], rfl, hserved⟩
  · rw [hjobs, Table.get?_insert]
    split
    · next hticket =>
      subst hticket
      refine ⟨_, rfl, ?_⟩
      rcases hwas with hwas | ⟨hnone, -, -⟩
      · obtain rfl := Option.some.inj (hget.symm.trans hwas)
        exact ⟨rfl, hadv.isServed hserved⟩
      · rw [hget] at hnone
        contradiction
    · exact ⟨job, hget, rfl, hserved⟩

lemma Changes.get? {next : Imports σ} {event : Event} {seen : Option Deed} {stage : ImportStage}
    {program : Store.Program (Except Error Summary)}
    (h : Changes handle imports next event seen ticket job stage)
    (hstage : job.stage = .running program) : imports.jobs.get? ticket = some job := by
  rcases h.was with hget | ⟨-, hwaits, -⟩
  · exact hget
  · simp [hstage] at hwaits

lemma Changes.within {scope : Int → List Entry → Prop} {next : Imports σ} {event : Event}
    {seen : Option Deed} {stage : ImportStage}
    (h : Changes handle imports next event seen ticket job stage) (hwithin : imports.Within scope)
    (hevent : event.Within scope) : scope job.problem job.entries := by
  rcases h.was with hget | ⟨-, -, rfl⟩
  · exact hwithin ticket job hget
  · exact hevent

lemma within_step {scope : Int → List Entry → Prop} (h : Orderly imports)
    (hwithin : imports.Within scope) (hevent : event.Within scope) :
    (imports.step handle event).Within scope ∧
      ∀ e ∈ (imports.deed? event).toList.filterMap Deed.begun?, scope e.1 e.2 := by
  rcases @step_cases _ handle _ h event with ⟨hjobs, -, hnone⟩ | ⟨ticket, job, stage, hchanges⟩
  · rw [hnone]
    exact ⟨fun other found hfound => hwithin other found (hjobs ▸ hfound), by simp⟩
  · have hscope := hchanges.within hwithin hevent
    constructor
    · intro other found hfound
      rw [hchanges.jobs, Table.get?_insert] at hfound
      split at hfound
      · obtain rfl := Option.some.inj hfound
        exact hscope
      · exact hwithin other found hfound
    · intro e he
      obtain ⟨deed, hdeed, hbegun⟩ := List.mem_filterMap.mp he
      have hadv := hchanges.advance
      rw [Option.mem_toList.mp hdeed] at hadv
      obtain rfl := hadv.begun hbegun
      exact hscope

lemma order_cons (imports : Imports σ) (event : Event) (events : List Event) :
    order handle imports (event :: events) = (imports.deed? event).toList.filterMap Deed.begun? ++
      order handle (imports.step handle event) events := by
  rw [order, deeds, List.filterMap_append, order]

/-- The imports that get their locks are those that were started. -/
lemma within_order {scope : Int → List Entry → Prop} (h : Orderly imports)
    (hwithin : imports.Within scope) (hevents : ∀ event ∈ events, event.Within scope) :
    ∀ e ∈ order handle imports events, scope e.1 e.2 := by
  induction events generalizing imports with
  | nil => simp [order, deeds]
  | cons event events ih =>
    obtain ⟨hnext, hbegun⟩ := @within_step _ handle _ event _ h hwithin (hevents event (by simp))
    rw [order_cons]
    intro e he
    rcases List.mem_append.mp he with he | he
    · exact hbegun e he
    · exact ih (h.step event) hnext (fun other hother => hevents other (by simp [hother])) e he

lemma running_of_deed (h : Orderly imports) (hdeed : imports.deed? event = some deed) :
    ∃ job program, (imports.step handle event).jobs.get? deed.ticket = some job ∧
      job.problem = deed.problem ∧ job.stage = .running program := by
  rcases @step_cases _ handle _ h event with ⟨-, -, hnone⟩ | ⟨other, found, stage, -, hjobs, hadv⟩
  · rw [hdeed] at hnone
    contradiction
  · rw [hdeed] at hadv
    obtain ⟨rfl, hfor, program, rfl⟩ := hadv.running
    rw [hjobs]
    exact ⟨_, program, Table.get?_insert_self .., hfor.symm, rfl⟩

/-- After an import got its lock, nothing is seen of those that were started before. -/
lemma le_of_mem_deeds (h : Orderly imports) (hget : imports.jobs.get? ticket = some job)
    (hserved : job.stage.isServed = true) (hdeed : deed ∈ deeds handle imports events)
    (hproblem : deed.problem = job.problem) : ticket ≤ deed.ticket := by
  -- Who has got the lock stays so in every event, and who is seen has got it too.
  induction events generalizing imports job with
  | nil => simp [deeds] at hdeed
  | cons event events ih =>
    obtain ⟨now, hnow, hsame, hserved'⟩ := @served_step _ handle _ _ _ event h hget hserved
    rw [deeds, List.mem_append, Option.mem_toList] at hdeed
    rcases hdeed with hdeed | hdeed
    · obtain ⟨other, program, hother, hfor, hstage⟩ := @running_of_deed _ handle _ _ _ h hdeed
      by_contra hlt
      have hover := (h.step event).turns deed.ticket ticket other now hother hnow
        (by rw [hfor, hproblem, hsame]) (by omega) hserved'
      rw [hstage, ImportStage.isOver] at hover
      contradiction
    · exact ih (h.step event) hnow hserved' hdeed (hproblem.trans hsame.symm)

/-- What is seen of imports into one problem is seen of one after the other, as they were started. -/
theorem pairwise_deeds (h : Orderly imports) (problem : Int) (events : List Event) :
    ((deeds handle imports events).filter (·.problem == problem)).Pairwise
      (·.ticket ≤ ·.ticket) := by
  induction events generalizing imports with
  | nil => exact .nil
  | cons event events ih =>
    rw [deeds, List.filter_append, List.pairwise_append]
    refine ⟨?_, ih (h.step event), ?_⟩
    · cases imports.deed? event <;> simp [List.filter_cons, apply_ite]
    · intro deed hdeed later hlater
      rw [List.mem_filter, Option.mem_toList, beq_iff_eq] at hdeed
      rw [List.mem_filter, beq_iff_eq] at hlater
      obtain ⟨job, program, hget, hfor, hstage⟩ := @running_of_deed _ handle _ _ _ h hdeed.1
      exact le_of_mem_deeds (h.step event) hget (by rw [hstage, ImportStage.isServed]) hlater.1
        (by rw [hlater.2, hfor, hdeed.2])

end Steps

end Judge.Archive.Imports
