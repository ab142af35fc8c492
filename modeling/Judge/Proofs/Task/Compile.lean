import Judge.Proofs.Task.Handover
import Judge.Proofs.Task.Launch
import Judge.Sandbox.Scripted
import Judge.Task.Compile

/-!
Compiling a source file: there is a new file on the host exactly when the outcome says so, and it is
the source of an interpreted language or the file that the compiler left.
-/

namespace Judge.Task.Compile

open Language (Registry)
open Language.Registry (Offers)
open Sandbox (RunStats)

variable {languages : List Language} {registry : Registry} {task : Compile} {language : Language}

/-! ### The course of a compilation -/

/-- What is done after the run: the file that a successful compiler left is handed over. -/
def finish (task : Compile) (language : Language) (stats : RunStats) : Steps CompileOutcome :=
  if !stats.success then return .rejected (report stats)
  else handOver language.compiledName task.outputPath true (.rejected (report stats))
    (.compiled (report stats))

/-- Stores the source as it is. -/
def keepSource (task : Compile) : Steps CompileOutcome := do
  store task.outputPath task.source true
  return .compiled ""

/-- Runs the compiler. -/
def build (task : Compile) (language : Language) : Steps CompileOutcome := do
  let wanted ← orFail .noCompileCommand (language.compileCommandFor language.sourceName)
  let stats ← launch wanted id (config language) []
  task.finish language stats

lemma compileIn_eq (task : Compile) (language : Language) :
    task.compileIn language = (do
      (Supply.write language.sourceName task.source).step
      if language.compiled then task.build language else task.keepSource) := by
  rw [compileIn]
  refine bind_congr fun _ => ?_
  cases language.compiled with
  | false => rfl
  | true =>
    simp only [build, launch, bind_assoc]
    refine bind_congr fun wanted => bind_congr fun command => bind_congr fun stats => ?_
    rw [finish]
    cases stats.success with
    | false => rfl
    | true => exact bind_congr fun answer => by cases answer <;> rfl

/-- How a run of the compiler is concluded. -/
inductive Finished (task : Compile) (language : Language) (stats : RunStats) :
    Log → Except Failure CompileOutcome → Prop
  | rejected (h : stats.success = false) :
    Finished task language stats [] (.ok (.rejected (report stats)))
  | ended {rest : Log} {result : Except Failure CompileOutcome} (h : stats.success = true)
    (hrest : HandedOver language.compiledName task.outputPath true
      (CompileOutcome.rejected (report stats)) (.compiled (report stats)) rest result) :
    Finished task language stats rest result

lemma ends_finish (task : Compile) (language : Language) (stats : RunStats) :
    Ends (task.finish language stats) (Finished task language stats) := by
  rw [finish]
  cases hsuccess : stats.success with
  | false => exact .rejected hsuccess
  | true => exact (ends_handOver _ _ _ _ _).mono fun _ _ => .ended hsuccess

/-- How a source file is compiled once it is in the box. -/
inductive Built (task : Compile) (language : Language) : Log → Except Failure CompileOutcome → Prop
  | kept (h : language.compiled = false) :
    Built task language [⟨.store task.outputPath task.source true, .ok ()⟩] (.ok (.compiled ""))
  | unkept (h : language.compiled = false) (cause : IoError) :
    Built task language [⟨.store task.outputPath task.source true, .error cause⟩]
      (.error (.storing task.outputPath cause))
  | noCommand (h : language.compiled = true) {cause : Language.CommandError}
    (hwanted : language.compileCommandFor language.sourceName = .error cause) :
    Built task language [] (.error (.noCompileCommand cause))
  | notRun (h : language.compiled = true) {wanted : List String} {log : Log} {failure : Failure}
    (hwanted : language.compileCommandFor language.sourceName = .ok wanted)
    (hrun : Launched wanted id (config language) [] log (.error failure)) :
    Built task language log (.error failure)
  | ran (h : language.compiled = true) {wanted : List String} {log rest : Log} {stats : RunStats}
    {result : Except Failure CompileOutcome}
    (hwanted : language.compileCommandFor language.sourceName = .ok wanted)
    (hrun : Launched wanted id (config language) [] log (.ok stats))
    (hrest : Finished task language stats rest result) : Built task language (log ++ rest) result

lemma ends_built (task : Compile) (language : Language) :
    Ends (if language.compiled then task.build language else task.keepSource)
      (Built task language) := by
  cases hcompiled : language.compiled with
  | false => exact ends_bind.mpr (ends_store (.kept hcompiled) (.unkept hcompiled))
  | true =>
    rw [if_pos rfl, build, ends_bind, ends_orFail]
    cases hwanted : language.compileCommandFor language.sourceName with
    | error cause => exact .noCommand hcompiled hwanted
    | ok wanted =>
      refine ends_bind.mpr ((ends_launch _ _ _ _).mono fun log result hrun => ?_)
      cases result with
      | error failure => exact .notRun hcompiled hwanted hrun
      | ok stats =>
        exact (ends_finish task language stats).mono fun rest result => .ran hcompiled hwanted hrun

/-- How a source file is compiled in a language. -/
inductive Course (task : Compile) (language : Language) : Log → Except Failure CompileOutcome → Prop
  | refused (cause : Sandbox.Error) :
    Course task language [⟨.box (.deliver language.sourceName task.source false), .error cause⟩]
      (.error (.sandbox cause))
  | built {log : Log} {result : Except Failure CompileOutcome} (h : Built task language log result) :
    Course task language
      (⟨.box (.deliver language.sourceName task.source false), .ok ()⟩ :: log) result

lemma ends_compileIn (task : Compile) (language : Language) :
    Ends (task.compileIn language) (Course task language) := by
  rw [compileIn_eq, ends_bind]
  exact Supply.ends_step _ ((ends_built task language).mono fun _ _ => .built) .refused

lemma always_program (hload : Registry.ofList languages = .ok registry) (task : Compile) :
    Script.Always (task.program registry)
      (Settled languages task.language (Course task) .failed) :=
  always_settled hload (ends_compileIn task) (fun _ => rfl) fun _ => rfl

/-! ### Outcomes -/

/-- Why the judge is at fault. -/
inductive Fault (languages : List Language) (task : Compile) (log : Log) : Prop
  /-- The language is unknown or disabled. -/
  | language (h : ∀ language, ¬ Offers languages task.language language)
  | source {language : Language} (hlanguage : Offers languages task.language language)
    (h : Fails log (.box (.deliver language.sourceName task.source false)))
  /-- A compiled language has no compile command. -/
  | noCommand {language : Language} (hlanguage : Offers languages task.language language)
    (hcompiled : language.compiled = true) {cause : Language.CommandError}
    (h : language.compileCommandFor language.sourceName = .error cause)
  | command {language : Language} (hlanguage : Offers languages task.language language)
    {wanted : List String} (hwanted : language.compileCommandFor language.sourceName = .ok wanted)
    (h : Unresolved wanted log)
  | run {command : List String} {config : Sandbox.RunConfig}
    (h : Fails log (.box (.run command config)))
  | storing {data : Bytes} (h : Fails log (.store task.outputPath data true))

namespace Finished

variable {stats : RunStats} {rest : Log} {outcome : CompileOutcome}
  (h : Finished task language stats rest (.ok outcome))
include h

/-- Only the compiled file may be missing in a compilation that comes to an outcome. -/
lemma eq_fetch_of_fails {request : Request} (hfails : Fails rest request) :
    request = .box (.fetch language.compiledName) := by
  cases h with
  | rejected => simp at hfails
  | ended _ hrest => exact hrest.eq_fetch_of_fails rfl hfails

lemma outcome_ne : outcome ≠ .pending ∧ outcome ≠ .failed := by
  cases h with
  | rejected => simp
  | ended _ hrest => cases hrest <;> simp

lemma runs_eq_nil : runs rest = [] := by
  cases h with
  | rejected => rfl
  | ended _ hrest => exact hrest.runs_eq_nil

end Finished

namespace Course

variable {log : Log}

lemma outcome_ne {outcome : CompileOutcome} (h : Course task language log (.ok outcome)) :
    outcome ≠ .pending ∧ outcome ≠ .failed := by
  cases h with
  | built h =>
    cases h with
    | kept => simp
    | ran _ _ _ hfinished => exact hfinished.outcome_ne

lemma runs_of_interpreted {result : Except Failure CompileOutcome}
    (h : Course task language log result) (hinterpreted : language.compiled = false) :
    runs log = [] := by
  cases h with
  | refused => rfl
  | built h =>
    cases h with
    | kept | unkept | noCommand => rfl
    | notRun hcompiled | ran hcompiled => simp [hinterpreted] at hcompiled

/-- A compilation that comes to no outcome. -/
lemma fault_of_error {failure : Failure} (h : Course task language log (.error failure))
    (hlanguage : Offers languages task.language language) : Fault languages task log := by
  cases h with
  | refused => exact .source hlanguage (by simp)
  | built h =>
    cases h with
    | unkept => exact @Fault.storing _ _ _ task.source (by simp)
    | noCommand hcompiled hwanted => exact .noCommand hlanguage hcompiled hwanted
    | notRun _ hwanted hrun =>
      rcases hrun.error_iff.mp ⟨_, rfl⟩ with
        ⟨_, hsupply, _⟩ | ⟨hempty | ⟨program, hprogram, hfails⟩⟩ | ⟨_, hfails⟩
      · simp at hsupply
      · exact .command hlanguage hwanted (.inl hempty)
      · exact .command hlanguage hwanted (.inr ⟨program, hprogram, by simp [hfails]⟩)
      · exact .run (by simpa using hfails)
    | ran _ _ _ hfinished =>
      cases hfinished with
      | ended _ hrest =>
        cases hrest with
        | refused data => exact @Fault.storing _ _ _ data (by simp)

/-- A compilation that comes to an outcome has no fault. -/
lemma not_fault_of_ok {outcome : CompileOutcome} (h : Course task language log (.ok outcome))
    (hload : Registry.ofList languages = .ok registry)
    (hlanguage : Offers languages task.language language) : ¬ Fault languages task log := by
  -- Most faults are requests that fail, but only fetching the compiled file can fail here.
  have hfetch : ∀ request, Fails log request → request = .box (.fetch language.compiledName) := by
    intro request hfails
    cases h with
    | built h =>
      cases h with
      | kept => simp at hfails
      | ran _ _ hrun hfinished =>
        exact hfinished.eq_fetch_of_fails ((fails_append.mp (by simpa using hfails)).resolve_left
          (hrun.not_fails rfl request))
  rintro (hnone | ⟨_, hsource⟩ | ⟨hother, hcompiled, hwanted⟩ | ⟨hother, hwanted, hunresolved⟩ |
    hrun | hstoring)
  · exact hnone language hlanguage
  · exact absurd (hfetch _ hsource) (by simp)
  · obtain rfl := hlanguage.eq hload hother
    cases h with
    | built h =>
      cases h with
      | kept hinterpreted => simp [hinterpreted] at hcompiled
      | ran _ hfound => simp [hfound] at hwanted
  · obtain rfl := hlanguage.eq hload hother
    cases h with
    | built h =>
      cases h with
      | kept hinterpreted => simp [Language.compileCommandFor, hinterpreted] at hwanted
      | ran _ hfound hrun =>
        obtain rfl := Except.ok.inj (hfound.symm.trans hwanted)
        rcases hunresolved with hempty | ⟨program, -, hfails⟩
        · exact (hrun.sound rfl).1 hempty
        · exact absurd (hfetch _ hfails) (by simp)
  · exact absurd (hfetch _ hrun) (by simp)
  · exact absurd (hfetch _ hstoring) (by simp)

end Course

/-- Whether a compiler did not end well. -/
def Complains (stats : RunStats) : Prop :=
  stats.exitCode ≠ 0 ∨ stats.signal ≠ none ∨ stats.killed = true ∨ stats.memoryExceeded = true

lemma success_eq_true_iff {stats : RunStats} : stats.success = true ↔ ¬ Complains stats := by
  simp [RunStats.success, Complains, and_assoc]

/-- The outcome of a run of the compiler: the source is rejected unless all went well and there is
a file. -/
structure Judged (language : Language) (log : Log) (stats : RunStats) (outcome : CompileOutcome) :
    Prop where
  rejected : outcome = .rejected (report stats) ↔
    Complains stats ∨ Fails log (.box (.fetch language.compiledName))
  compiled : outcome = .compiled (report stats) ↔
    ¬ Complains stats ∧ ¬ Fails log (.box (.fetch language.compiledName))

lemma Finished.judged {stats : RunStats} {log rest : Log} {outcome : CompileOutcome}
    (h : Finished task language stats rest (.ok outcome))
    (hlog : ¬ Fails log (.box (.fetch language.compiledName))) :
    Judged language (log ++ rest) stats outcome := by
  cases h with
  | rejected h =>
    have hcomplains : Complains stats := by
      rw [← not_not (a := Complains stats), ← success_eq_true_iff, h]
      simp
    constructor <;> simp [hcomplains]
  | ended h hrest =>
    have hcomplains := success_eq_true_iff.mp h
    cases hrest <;> constructor <;> simp [hcomplains, hlog]

/-- What is stored for a language. -/
def Origin (task : Compile) (log : Log) (language : Language) (data : Bytes) : Prop :=
  (language.compiled = false → data = task.source) ∧
    (language.compiled = true → ⟨.box (.fetch language.compiledName), .ok data⟩ ∈ log)

/-- A file is stored at last, exactly if the outcome is a compiled program. -/
lemma Course.delivers {log : Log} {result : Except Failure CompileOutcome}
    (h : Course task language log result) :
    Delivers task.outputPath true (Origin task log language) log
      (∃ outcome, result = .ok outcome ∧ outcome.success = true) := by
  cases h with
  | refused => exact delivers_idle (by simp) (by simp)
  | built h =>
    have hsource : Idle [⟨.box (.deliver language.sourceName task.source false), .ok ()⟩] := by simp
    cases h with
    | kept hinterpreted =>
      exact delivers_last hsource (by simp [CompileOutcome.success]) (by simp [Origin, hinterpreted])
    | unkept hinterpreted =>
      exact delivers_last hsource (by simp) (by simp [Origin, hinterpreted])
    | noCommand => exact delivers_idle hsource (by simp)
    | notRun _ _ hrun => exact delivers_idle (by simpa using hrun.idle) (by simp)
    | @ran hcompiled _ log _ _ _ _ hrun hfinished =>
      have hidle := idle_append.mpr ⟨hsource, hrun.idle⟩
      cases hfinished with
      | rejected => exact delivers_idle (by simpa using hrun.idle) (by simp [CompileOutcome.success])
      | ended _ hrest =>
        refine (hrest.delivers hidle (P := fun outcome => outcome.success = true) nofun rfl).mono ?_
        exact fun data hdata => ⟨by simp [hcompiled], fun _ => hdata⟩

/-! ### What is promised -/

/-- What compiling a source file does on a host: the requests `log` lead from `s` to `t`. -/
structure Processed {σ : Type} (languages : List Language) (runner : Runner σ) (task : Compile)
    (s : σ) (log : Log) (outcome : CompileOutcome) (t : σ) : Prop where
  decided : outcome ≠ .pending
  failed : outcome = .failed ↔ Fault languages task log
  /-- Nothing is run for an interpreted language, and nothing is said. -/
  interpreted : ∀ language, Offers languages task.language language → language.compiled = false →
    runs log = [] ∧ (outcome ≠ .failed → outcome = .compiled "" ∧
      ⟨.box (.deliver language.sourceName task.source false), .ok ()⟩ ∈ log)
  /-- Without a fault the compiler of a compiled language was run once. -/
  compiled : ∀ language, Offers languages task.language language → language.compiled = true →
    outcome ≠ .failed → ∃ wanted command stats,
      language.compileCommandFor language.sourceName = .ok wanted ∧
        RanOnce wanted id (config language) [.write language.sourceName task.source] log command
          stats ∧ Judged language log stats outcome
  stored : outcome.success = true ↔ ∃ data, ⟨.store task.outputPath data true, .ok ()⟩ ∈ log
  /-- A compiled program is on the host as it was in the box, an interpreted one is the source. -/
  holds : outcome.success = true → ∃ data,
    (∀ language, Offers languages task.language language → Origin task log language data) ∧
      (runner.host t).fileAt? task.outputPath = some (data, true)
  /-- The host is left alone by a task that does not come to storing. -/
  untouched : outcome.success = false →
    (∀ data, ¬ Fails log (.store task.outputPath data true)) →
    ∀ P : Host → Prop, runner.Keeps P → P (runner.host s) → P (runner.host t)

section Settled

variable {log : Log} {outcome : CompileOutcome}
  (h : Settled languages task.language (Course task) .failed log outcome)
include h

lemma decided_of_settled : outcome ≠ .pending := by
  cases h with
  | unknown | failed => simp
  | ended _ hcourse => exact hcourse.outcome_ne.1

variable (hload : Registry.ofList languages = .ok registry)
include hload

/-- The judge fails exactly when there is a fault. -/
lemma failed_iff_of_settled : outcome = .failed ↔ Fault languages task log := by
  cases h with
  | unknown hnone => exact iff_of_true rfl (.language hnone)
  | failed hlanguage hcourse => exact iff_of_true rfl (hcourse.fault_of_error hlanguage)
  | ended hlanguage hcourse =>
    exact iff_of_false hcourse.outcome_ne.2 (hcourse.not_fault_of_ok hload hlanguage)

lemma delivers_of_settled : Delivers task.outputPath true
    (fun data => ∀ language, Offers languages task.language language →
      Origin task log language data) log (outcome.success = true) := by
  cases h with
  | unknown => exact delivers_idle idle_nil nofun
  | failed hlanguage hcourse | ended hlanguage hcourse =>
    have hdelivers := hcourse.delivers
    refine Delivers.mono (by simpa [CompileOutcome.success] using hdelivers) ?_
    intro data hdata other hother
    obtain rfl := hlanguage.eq hload hother
    exact hdata

lemma interpreted_of_settled (hlanguage : Offers languages task.language language)
    (hinterpreted : language.compiled = false) :
    runs log = [] ∧ (outcome ≠ .failed → outcome = .compiled "" ∧
      ⟨.box (.deliver language.sourceName task.source false), .ok ()⟩ ∈ log) := by
  cases h with
  | unknown => exact ⟨rfl, fun hne => absurd rfl hne⟩
  | failed hother hcourse =>
    obtain rfl := hother.eq hload hlanguage
    exact ⟨hcourse.runs_of_interpreted hinterpreted, fun hne => absurd rfl hne⟩
  | ended hother hcourse =>
    obtain rfl := hother.eq hload hlanguage
    refine ⟨hcourse.runs_of_interpreted hinterpreted, fun _ => ?_⟩
    cases hcourse with
    | built h =>
      cases h with
      | kept => simp
      | ran hcompiled => simp [hinterpreted] at hcompiled

lemma compiled_of_settled (hlanguage : Offers languages task.language language)
    (hcompiled : language.compiled = true) (houtcome : outcome ≠ .failed) :
    ∃ wanted command stats, language.compileCommandFor language.sourceName = .ok wanted ∧
      RanOnce wanted id (config language) [.write language.sourceName task.source] log command
        stats ∧ Judged language log stats outcome := by
  cases h with
  | unknown | failed => exact absurd rfl houtcome
  | ended hother hcourse =>
    obtain rfl := hother.eq hload hlanguage
    cases hcourse with
    | built h =>
      cases h with
      | kept hinterpreted => simp [hcompiled] at hinterpreted
      | ran _ hwanted hrun hfinished =>
        -- The source is the only thing that is put into the box.
        have hsupplied : Launched _ id (config language)
            [.write language.sourceName task.source] _ _ := .supplied hrun
        obtain ⟨command, hran⟩ := hsupplied.ranOnce rfl hfinished.runs_eq_nil
        have hfetch := not_fails_of_ne fun entry hmem =>
          hsupplied.ne_fetch hmem language.compiledName
        exact ⟨_, command, _, hwanted, hran, hfinished.judged hfetch⟩

end Settled

/-- Compiling a source file in any sandbox comes to an outcome that tells what is on the host. -/
theorem processed {σ : Type} {runner : Runner σ} (hload : Registry.ofList languages = .ok registry)
    (hlaw : runner.Lawful) (task : Compile) (s : σ) :
    Processed languages runner task s ((task.program registry).log runner.handle s)
      ((task.program registry).run runner.handle s).1
      ((task.program registry).run runner.handle s).2 := by
  have hsettled := (always_program hload task).run runner.handle s
  have hdelivers := delivers_of_settled hsettled hload
  constructor
  case decided => exact decided_of_settled hsettled
  case failed => exact failed_iff_of_settled hsettled hload
  case interpreted => exact fun language => interpreted_of_settled hsettled hload
  case compiled => exact fun language => compiled_of_settled hsettled hload
  case stored => exact hdelivers.stored_iff
  case holds =>
    intro hsuccess
    obtain ⟨data, mark, horigin, hfile, hmark⟩ := hdelivers.holds hlaw hsuccess
    obtain rfl := hmark rfl
    exact ⟨data, horigin, hfile⟩
  case untouched =>
    exact fun hfailure hstore P => hdelivers.untouched (by simp [hfailure]) hstore

/-- A source file in Go that is none. -/
def someSource : Compile where
  language := "golang"
  source := [63]
  outputPath := "/submissions/8.bin"

/-- A sandbox where every command ends badly and says so. -/
def complaining : Runner (Host × Sandbox.Scripted) := .apart (Sandbox.Scripted.handle {
  stats := { exitCode := 2, output := [10, 110, 111, 10] } })

theorem processed_someSource :
    Registry.ofList Language.catalog = .ok Language.defaultRegistry ∧ complaining.Lawful ∧
      let script := someSource.program Language.defaultRegistry
      let run := script.run complaining.handle ({}, {})
      Processed Language.catalog complaining someSource ({}, {})
        (script.log complaining.handle ({}, {})) run.1 run.2 ∧ run.1 = .rejected "no" := by
  have hload := Registry.ofList_catalog
  have hlaw : complaining.Lawful := Runner.lawful_apart _
  refine ⟨hload, hlaw, processed hload hlaw someSource _, ?_⟩
  have hlanguage : Language.defaultRegistry.get? someSource.language = some Language.golang := by
    decide +kernel
  have hwanted : Language.golang.compileCommandFor Language.golang.sourceName =
      .ok ["/usr/bin/go", "build", "/box/main.go"] := by decide +kernel
  have hresolve : resolve ["/usr/bin/go", "build", "/box/main.go"] =
      pure (.ok ["/usr/bin/go", "build", "/box/main.go"]) := resolve_of_path (by simp)
  rw [program, steps, enabledLanguage, hlanguage]
  simp only [pure_bind, compileIn, hwanted, orFail, resolved, hresolve]
  decide +kernel

end Judge.Task.Compile
