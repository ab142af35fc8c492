import Judge.Proofs.Task.Handover
import Judge.Proofs.Task.Launch
import Judge.Sandbox.Scripted
import Judge.Task.Execute

/-!
Running a submission always comes to a verdict. The judge is at fault exactly when the language is
not offered, the limit is no limit or a step fails; otherwise the verdict is told by the way the run
ended, and the output is stored on the host exactly when the verdict is good.
-/

namespace Judge.Task.Execute

open Decimal (Binary64)
open Language (Registry)
open Language.Registry (Offers)
open Sandbox (RunStats)

variable {languages : List Language} {registry : Registry} {task : Execute} {language : Language}

/-! ### What a run amounts to -/

/-- Whether a run took too long: it was stopped, or it went over a limit that there is. -/
def Late (stats : RunStats) (limit : Binary64) : Prop :=
  stats.killed = true ∨ (Binary64.zero.lt limit = true ∧ limit.lt stats.time = true)

/-- What a run amounts to. -/
inductive Classified (stats : RunStats) (limit : Binary64) : Verdict → Prop
  | memory (h : stats.memoryExceeded = true) : Classified stats limit .memoryLimitExceeded
  | time (hmemory : stats.memoryExceeded = false) (h : Late stats limit) :
    Classified stats limit .timeLimitExceeded
  | complaint (hmemory : stats.memoryExceeded = false) (htime : ¬ Late stats limit)
    (h : stats.signal ≠ none ∨ stats.exitCode ≠ 0) (message : String) :
    Classified stats limit (.runtimeError message)
  | ok (hmemory : stats.memoryExceeded = false) (htime : ¬ Late stats limit)
    (hsignal : stats.signal = none) (hstatus : stats.exitCode = 0) : Classified stats limit .ok

lemma classified_classify (stats : RunStats) (limit : Binary64) :
    Classified stats limit (classify stats limit) := by
  have hlate : (stats.killed || (Binary64.zero.lt limit && limit.lt stats.time)) = true ↔
      Late stats limit := by simp [Late]
  rw [classify]
  split
  · next hmemory => exact .memory hmemory
  · next hmemory =>
    have hmemory := Bool.eq_false_iff.mpr hmemory
    split
    · next htime => exact .time hmemory (hlate.mp htime)
    · next htime =>
      have htime := mt hlate.mpr htime
      split
      · next signal hsignal => exact .complaint hmemory htime (.inl (by simp [hsignal])) _
      · next hsignal =>
        split
        · next hstatus => exact .complaint hmemory htime (.inr hstatus) _
        · next hstatus => exact .ok hmemory htime hsignal (not_not.mp hstatus)

/-! ### The course of a submission -/

/-- An outcome with what a run used. -/
def outcomeOf (stats : RunStats) (verdict : Verdict) : ExecuteOutcome :=
  { verdict, time := stats.time, memory := stats.memory }

/-- What is done after the run: the output of a run that ended well is handed over. -/
def finish (task : Execute) (stats : RunStats) : Steps ExecuteOutcome :=
  match classify stats task.timeLimit with
  | .ok => handOver task.boxPaths.2 task.outputPath false
    (outcomeOf stats (.runtimeError "Missing output file")) (outcomeOf stats .ok)
  | verdict => return outcomeOf stats verdict

/-- What is put into the box. -/
def supplies (task : Execute) (language : Language) : List Supply :=
  [.write task.boxPaths.1 task.input, .copy task.binaryPath language.compiledName]

lemma executeIn_eq (task : Execute) (language : Language) :
    task.executeIn language = (do
      let limit ← orFail id (wallTimeLimit task.timeLimit)
      let stats ← launch language.runCommand id (task.config language limit)
        (task.supplies language)
      task.finish stats) := by
  simp only [executeIn, supplies, launch, Supply.step, bind_assoc]
  refine bind_congr fun limit => bind_congr fun _ => bind_congr fun _ => bind_congr fun command =>
    bind_congr fun stats => ?_
  rw [finish]
  cases classify stats task.timeLimit with
  | ok => exact bind_congr fun answer => by cases answer <;> rfl
  | _ => rfl

/-- How a run is concluded. -/
inductive Finished (task : Execute) (stats : RunStats) : Log → Except Failure ExecuteOutcome → Prop
  | stopped {verdict : Verdict} (h : Classified stats task.timeLimit verdict) (hne : verdict ≠ .ok) :
    Finished task stats [] (.ok (outcomeOf stats verdict))
  | ended {rest : Log} {result : Except Failure ExecuteOutcome}
    (h : Classified stats task.timeLimit .ok)
    (hrest : HandedOver task.boxPaths.2 task.outputPath false
      (outcomeOf stats (.runtimeError "Missing output file")) (outcomeOf stats .ok) rest result) :
    Finished task stats rest result

lemma ends_finish (task : Execute) (stats : RunStats) :
    Ends (task.finish stats) (Finished task stats) := by
  have hclassified := classified_classify stats task.timeLimit
  by_cases hok : classify stats task.timeLimit = .ok
  · rw [hok] at hclassified
    rw [finish, hok]
    exact (ends_handOver _ _ _ _ _).mono fun _ _ => .ended hclassified
  · have hfinish : task.finish stats = pure (outcomeOf stats (classify stats task.timeLimit)) := by
      rw [finish]
      split
      · contradiction
      · rfl
    rw [hfinish]
    exact .stopped hclassified hok

/-- How a submission is run in a language. -/
inductive Course (task : Execute) (language : Language) :
    Log → Except Failure ExecuteOutcome → Prop
  | badLimit {failure : Failure} (h : wallTimeLimit task.timeLimit = .error failure) :
    Course task language [] (.error failure)
  | notRun {limit : Binary64} {failure : Failure} {log : Log}
    (hlimit : wallTimeLimit task.timeLimit = .ok limit)
    (h : Launched language.runCommand id (task.config language limit) (task.supplies language) log
      (.error failure)) : Course task language log (.error failure)
  | ran {limit : Binary64} {stats : RunStats} {log rest : Log}
    {result : Except Failure ExecuteOutcome}
    (hlimit : wallTimeLimit task.timeLimit = .ok limit)
    (h : Launched language.runCommand id (task.config language limit) (task.supplies language) log
      (.ok stats)) (hrest : Finished task stats rest result) :
    Course task language (log ++ rest) result

lemma ends_executeIn (task : Execute) (language : Language) :
    Ends (task.executeIn language) (Course task language) := by
  rw [executeIn_eq, ends_bind, ends_orFail]
  cases hlimit : wallTimeLimit task.timeLimit with
  | error failure => exact .badLimit hlimit
  | ok limit =>
    refine ends_bind.mpr ((ends_launch ..).mono fun log result hlaunched => ?_)
    cases result with
    | error failure => exact .notRun hlimit hlaunched
    | ok stats => exact (ends_finish task stats).mono fun rest result => .ran hlimit hlaunched

/-! ### Verdicts -/

/-- Why the judge is at fault. -/
inductive Fault (languages : List Language) (task : Execute) (log : Log) : Prop
  /-- The language is unknown or disabled. -/
  | language (h : ∀ language, ¬ Offers languages task.language language)
  /-- The limit on the time is not finite or negative. -/
  | limit (h : task.timeLimit.isFinite = false ∨ task.timeLimit.lt .zero = true)
  | input (h : Fails log (.box (.deliver task.boxPaths.1 task.input false)))
  | binary {language : Language} (hlanguage : Offers languages task.language language)
    (h : Fails log (.box (.copyIn task.binaryPath language.compiledName)))
  | command {language : Language} (hlanguage : Offers languages task.language language)
    (h : Unresolved language.runCommand log)
  | run {command : List String} {config : Sandbox.RunConfig}
    (h : Fails log (.box (.run command config)))
  | storing {data : Bytes} (h : Fails log (.store task.outputPath data false))

lemma wallTimeLimit_error_iff {limit : Binary64} :
    (∃ failure, wallTimeLimit limit = .error failure) ↔
      limit.isFinite = false ∨ limit.lt .zero = true := by
  rw [wallTimeLimit]
  split
  · simp_all
  · split <;> simp_all

namespace Finished

variable {stats : RunStats} {rest : Log} {outcome : ExecuteOutcome}
  (h : Finished task stats rest (.ok outcome))
include h

/-- Only the output may be missing in a run that comes to an outcome. -/
lemma eq_fetch_of_fails {request : Request} (hfails : Fails rest request) :
    request = .box (.fetch task.boxPaths.2) := by
  cases h with
  | stopped => simp at hfails
  | ended _ hrest => exact hrest.eq_fetch_of_fails rfl hfails

lemma verdict_ne : outcome.verdict ≠ .pending ∧ outcome.verdict ≠ .failed := by
  cases h with
  | stopped h => cases h <;> simp [outcomeOf]
  | ended _ hrest => cases hrest <;> simp [outcomeOf]

lemma runs_eq_nil : runs rest = [] := by
  cases h with
  | stopped => rfl
  | ended _ hrest => exact hrest.runs_eq_nil

end Finished

namespace Course

variable {log : Log}

/-- A run that comes to no outcome. -/
lemma fault_of_error {failure : Failure} (h : Course task language log (.error failure))
    (hlanguage : Offers languages task.language language) : Fault languages task log := by
  cases h with
  | badLimit hlimit => exact .limit (wallTimeLimit_error_iff.mp ⟨_, hlimit⟩)
  | notRun hlimit hlaunched =>
    rcases hlaunched.error_iff.mp ⟨_, rfl⟩ with ⟨supply, hsupply, hfails⟩ | hcommand | ⟨_, hfails⟩
    · rcases List.mem_pair.mp hsupply with rfl | rfl
      · exact .input hfails
      · exact .binary hlanguage hfails
    · exact .command hlanguage hcommand
    · exact .run hfails
  | ran hlimit hlaunched hfinished =>
    cases hfinished with
    | ended _ hrest =>
      cases hrest with
      | refused data => exact @Fault.storing _ _ _ data (by simp)

/-- A run that comes to an outcome has no fault. -/
lemma not_fault_of_ok {outcome : ExecuteOutcome} (h : Course task language log (.ok outcome))
    (hload : Registry.ofList languages = .ok registry)
    (hlanguage : Offers languages task.language language) : ¬ Fault languages task log := by
  cases h with
  | @ran limit stats log rest _ hlimit hlaunched hfinished =>
    -- Most faults are requests that fail, but only fetching the output can fail here.
    have hfetch : ∀ request, Fails (log ++ rest) request → request = .box (.fetch task.boxPaths.2) :=
      fun request hfails => hfinished.eq_fetch_of_fails
        ((fails_append.mp hfails).resolve_left (hlaunched.not_fails rfl request))
    rintro (hnone | hlimits | hinput | ⟨_, hbinary⟩ | ⟨hother, hunresolved⟩ | hrun | hstoring)
    · exact hnone language hlanguage
    · obtain ⟨failure, hfailure⟩ := wallTimeLimit_error_iff.mpr hlimits
      rw [hlimit] at hfailure
      contradiction
    · exact absurd (hfetch _ hinput) (by simp)
    · exact absurd (hfetch _ hbinary) (by simp)
    · obtain rfl := hlanguage.eq hload hother
      rcases hunresolved with hempty | ⟨program, -, hfails⟩
      · exact (hlaunched.sound rfl).1 hempty
      · exact absurd (hfetch _ hfails) (by simp)
    · exact absurd (hfetch _ hrun) (by simp)
    · exact absurd (hfetch _ hstoring) (by simp)

end Course

/-- The verdict on a run: memory comes first, then time, then the way it ended and the output. -/
structure Judged (task : Execute) (log : Log) (stats : RunStats) (verdict : Verdict) : Prop where
  memory : verdict = .memoryLimitExceeded ↔ stats.memoryExceeded = true
  time : verdict = .timeLimitExceeded ↔ stats.memoryExceeded = false ∧ Late stats task.timeLimit
  complaint : (∃ message, verdict = .runtimeError message) ↔
    stats.memoryExceeded = false ∧ ¬ Late stats task.timeLimit ∧
      (stats.signal ≠ none ∨ stats.exitCode ≠ 0 ∨ Fails log (.box (.fetch task.boxPaths.2)))
  ok : verdict = .ok ↔ stats.memoryExceeded = false ∧ ¬ Late stats task.timeLimit ∧
    stats.signal = none ∧ stats.exitCode = 0 ∧ ¬ Fails log (.box (.fetch task.boxPaths.2))

lemma Finished.judged {stats : RunStats} {log rest : Log} {outcome : ExecuteOutcome}
    (h : Finished task stats rest (.ok outcome))
    (hlog : ¬ Fails log (.box (.fetch task.boxPaths.2))) :
    Judged task (log ++ rest) stats outcome.verdict := by
  cases h with
  | stopped h hne =>
    cases h with
    | ok => contradiction
    | memory | time => constructor <;> simp_all [outcomeOf]
    | complaint hmemory htime hcause =>
      constructor <;> simp_all [outcomeOf]
      exact fun hsignal => hcause.resolve_left (not_not.mpr hsignal)
  | ended h hrest =>
    cases h with
    | ok => cases hrest <;> constructor <;> simp_all [outcomeOf]

/-- The output is handed over at last, exactly if the verdict is good. -/
lemma Course.delivers {log : Log} {result : Except Failure ExecuteOutcome}
    (h : Course task language log result) : Delivers task.outputPath false
      (fun data => ⟨.box (.fetch task.boxPaths.2), .ok data⟩ ∈ log) log
      (∃ outcome, result = .ok outcome ∧ outcome.verdict = .ok) := by
  cases h with
  | badLimit => exact delivers_idle idle_nil (by simp)
  | notRun _ hlaunched => exact delivers_idle hlaunched.idle (by simp)
  | ran _ hlaunched hfinished =>
    cases hfinished with
    | stopped _ hne =>
      exact delivers_idle (by simpa using hlaunched.idle) (by simpa [outcomeOf] using hne)
    | ended _ hrest =>
      exact hrest.delivers hlaunched.idle (P := fun outcome => outcome.verdict = .ok) nofun rfl

/-! ### What is promised -/

/-- How a submission fares on a host: the requests `log` lead from `s` to `t`. -/
structure Executed {σ : Type} (languages : List Language) (runner : Runner σ) (task : Execute)
    (s : σ) (log : Log) (outcome : ExecuteOutcome) (t : σ) : Prop where
  decided : outcome.verdict ≠ .pending
  failed : outcome.verdict = .failed ↔ Fault languages task log
  /-- Without a fault a command was run once, and the verdict tells how it ended. -/
  judged : outcome.verdict ≠ .failed → ∃ language limit command stats,
    Offers languages task.language language ∧ wallTimeLimit task.timeLimit = .ok limit ∧
      RanOnce language.runCommand id (task.config language limit) (task.supplies language) log
        command stats ∧ Judged task log stats outcome.verdict
  stored : outcome.verdict = .ok ↔ ∃ data, ⟨.store task.outputPath data false, .ok ()⟩ ∈ log
  /-- A good output is on the host as it was in the box. -/
  holds : outcome.verdict = .ok → ∃ data mark, ⟨.box (.fetch task.boxPaths.2), .ok data⟩ ∈ log ∧
    (runner.host t).fileAt? task.outputPath = some (data, mark)
  /-- The host is left alone by a task that does not come to storing. -/
  untouched : outcome.verdict ≠ .ok →
    (∀ data, ¬ Fails log (.store task.outputPath data false)) →
    ∀ P : Host → Prop, runner.Keeps P → P (runner.host s) → P (runner.host t)
  /-- Without a good verdict the files of the host are kept, also when storing fails. -/
  kept : outcome.verdict ≠ .ok → ∀ path file, runner.Keeps (·.fileAt? path = some file) →
    (runner.host s).fileAt? path = some file → (runner.host t).fileAt? path = some file

lemma always_program (hload : Registry.ofList languages = .ok registry) (task : Execute) :
    Script.Always (task.program registry)
      (Settled languages task.language (Course task) { verdict := .failed }) :=
  always_settled hload (ends_executeIn task) (fun _ => rfl) fun _ => rfl

section Settled

variable {log : Log} {outcome : ExecuteOutcome}
  (h : Settled languages task.language (Course task) { verdict := .failed } log outcome)
include h

lemma decided_of_settled : outcome.verdict ≠ .pending := by
  cases h with
  | unknown | failed => simp
  | ended _ hcourse =>
    cases hcourse with
    | ran _ _ hfinished => exact hfinished.verdict_ne.1

/-- The judge fails exactly when there is a fault. -/
lemma failed_iff_of_settled (hload : Registry.ofList languages = .ok registry) :
    outcome.verdict = .failed ↔ Fault languages task log := by
  cases h with
  | unknown hnone => exact iff_of_true rfl (.language hnone)
  | failed hlanguage hcourse => exact iff_of_true rfl (hcourse.fault_of_error hlanguage)
  | ended hlanguage hcourse =>
    refine iff_of_false ?_ (hcourse.not_fault_of_ok hload hlanguage)
    cases hcourse with
    | ran _ _ hfinished => exact hfinished.verdict_ne.2

lemma judged_of_settled (hverdict : outcome.verdict ≠ .failed) : ∃ language limit command stats,
    Offers languages task.language language ∧ wallTimeLimit task.timeLimit = .ok limit ∧
      RanOnce language.runCommand id (task.config language limit) (task.supplies language) log
        command stats ∧ Judged task log stats outcome.verdict := by
  cases h with
  | unknown | failed => exact absurd rfl hverdict
  | ended hlanguage hcourse =>
    cases hcourse with
    | ran hlimit hlaunched hfinished =>
      obtain ⟨command, hran⟩ := hlaunched.ranOnce rfl hfinished.runs_eq_nil
      have hfetch := not_fails_of_ne fun entry hmem => hlaunched.ne_fetch hmem task.boxPaths.2
      exact ⟨_, _, command, _, hlanguage, hlimit, hran, hfinished.judged hfetch⟩

/-- The output is handed over at last, exactly if the verdict is good. -/
lemma delivers_of_settled : Delivers task.outputPath false
    (fun data => ⟨.box (.fetch task.boxPaths.2), .ok data⟩ ∈ log) log (outcome.verdict = .ok) := by
  cases h with
  | unknown => exact delivers_idle idle_nil nofun
  | failed _ hcourse => simpa using hcourse.delivers
  | ended _ hcourse => simpa using hcourse.delivers

end Settled

/-- Running a submission in any sandbox comes to a verdict that tells what happened. -/
theorem executed {σ : Type} {runner : Runner σ} (hload : Registry.ofList languages = .ok registry)
    (hlaw : runner.Lawful) (task : Execute) (s : σ) :
    Executed languages runner task s ((task.program registry).log runner.handle s)
      ((task.program registry).run runner.handle s).1
      ((task.program registry).run runner.handle s).2 := by
  have hsettled := (always_program hload task).run runner.handle s
  have hdelivers := delivers_of_settled hsettled
  constructor
  case decided => exact decided_of_settled hsettled
  case failed => exact failed_iff_of_settled hsettled hload
  case judged => exact judged_of_settled hsettled
  case stored => exact hdelivers.stored_iff
  case holds =>
    intro hverdict
    obtain ⟨data, mark, hfetched, hfile, -⟩ := hdelivers.holds hlaw hverdict
    exact ⟨data, mark, hfetched, hfile⟩
  case untouched => exact fun hverdict hstore P => hdelivers.untouched hverdict hstore
  case kept => exact fun hverdict path file => hdelivers.kept hlaw hverdict

/-- A submission in C++. -/
def someSubmission : Execute where
  language := "cpp17"
  binaryPath := "/submissions/7.bin"
  input := [49, 32, 50]
  outputPath := "sum.out"
  testName := "sum"
  consoleInput := false
  timeLimit := .ofInt 2
  memoryLimit := 65536

/-- A sandbox where every command has to be stopped. -/
def stopping : Runner (Host × Sandbox.Scripted) := .apart (Sandbox.Scripted.handle {
  stats := { killed := true } })

theorem executed_someSubmission :
    Registry.ofList Language.catalog = .ok Language.defaultRegistry ∧ stopping.Lawful ∧
      let script := someSubmission.program Language.defaultRegistry
      let run := script.run stopping.handle ({}, {})
      Executed Language.catalog stopping someSubmission ({}, {})
        (script.log stopping.handle ({}, {})) run.1 run.2 ∧ run.1.verdict = .timeLimitExceeded := by
  have hload := Registry.ofList_catalog
  have hlaw : stopping.Lawful := Runner.lawful_apart _
  refine ⟨hload, hlaw, executed hload hlaw someSubmission _, ?_⟩
  have hlanguage : Language.defaultRegistry.get? someSubmission.language =
      some (Language.cpp "-std=c++17" "C++17" "cpp17" ".cpp17") := by decide +kernel
  have hresolve : resolve (Language.cpp "-std=c++17" "C++17" "cpp17" ".cpp17").runCommand =
      pure (.ok ["/box/output"]) := resolve_of_path (by simp)
  rw [program, steps, enabledLanguage, hlanguage]
  simp only [pure_bind, executeIn, resolved, hresolve]
  decide +kernel

end Judge.Task.Execute
