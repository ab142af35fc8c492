import Judge.Proofs.Decimal.Integer
import Judge.Proofs.Language.Registry
import Judge.Proofs.Task.Launch
import Judge.Proofs.Text.Blank
import Judge.Sandbox.Scripted
import Judge.Task.Check
import Judge.Task.Runner

/-!
Judging an output with a compiled checker. A check fails exactly when there is no language or a step
fails, and nothing is done after that step. Otherwise the checker ran once, on the data that it was
given, and what it wrote alone decides the verdict.
-/

namespace Judge.Checker

open Decimal (Writes int32)
open Text (isBlank)

/-- A text that tells a score: blanks, a whole number of 32 bits, and after a blank a message. -/
inductive Tells (text : List Char) (score : Int) : String → Prop
  | alone {blanks token : List Char} (htext : text = blanks ++ token)
    (hblanks : ∀ c ∈ blanks, isBlank c = true) (htoken : Writes token score)
    (hscore : int32.contains score = true) : Tells text score ""
  | message {blanks token rest : List Char} {blank : Char}
    (htext : text = blanks ++ (token ++ blank :: rest)) (hblanks : ∀ c ∈ blanks, isBlank c = true)
    (htoken : Writes token score) (hscore : int32.contains score = true)
    (hblank : isBlank blank = true) : Tells text score (String.ofList (Text.trim rest))

lemma readOutput_of_cut {text token rest : List Char}
    (h : Text.cutBlank (Text.trimStart text) = (token, rest)) {score : Int} {message : String} :
    readOutput text = .ok (score, message) ↔ (Writes token score ∧ int32.contains score = true) ∧
      String.ofList (Text.trim rest) = message := by
  rw [← Decimal.readInteger_eq_ok_iff (by decide) (by decide)]
  simp only [readOutput, h]
  cases Decimal.readInteger int32 token <;> simp

/-- Exactly the texts that tell a score are read, as that score and the trimmed message. -/
theorem readOutput_eq_ok_iff {text : List Char} {score : Int} {message : String} :
    readOutput text = .ok (score, message) ↔ Tells text score message := by
  constructor
  · intro h
    obtain ⟨blanks, hblanks, htext⟩ := Text.exists_eq_append_trimStart text
    rcases Text.noBlank_or_exists_word (Text.trimStart text) with
      hnone | ⟨word, blank, rest, hword, hnone, hblank⟩
    · obtain ⟨⟨htoken, hscore⟩, rfl⟩ := (readOutput_of_cut (Text.cutBlank_eq_self hnone)).mp h
      exact .alone htext hblanks htoken hscore
    · have hcut := Text.cutBlank_append hnone hblank rest
      rw [← hword] at hcut
      obtain ⟨⟨htoken, hscore⟩, rfl⟩ := (readOutput_of_cut hcut).mp h
      exact .message (htext.trans (by rw [hword])) hblanks htoken hscore hblank
  · have hstart : ∀ {blanks token : List Char}, (∀ c ∈ blanks, isBlank c = true) →
        Writes token score → ∀ rest, Text.trimStart (blanks ++ (token ++ rest)) = token ++ rest := by
      intro blanks token hblanks htoken rest
      obtain ⟨hne, hnone⟩ := htoken.not_isBlank
      rw [Text.trimStart_append hblanks, Text.trimStart_of_head]
      intro c hc
      rw [List.head?_append_of_ne_nil _ hne] at hc
      exact hnone c (List.mem_of_mem_head? hc)
    -- The blanks in front end where the number starts, and the number ends at a blank.
    intro h
    cases h with
    | @alone blanks token htext hblanks htoken hscore =>
      have hcut : Text.cutBlank (Text.trimStart text) = (token, []) := by
        rw [htext, ← List.append_nil token, hstart hblanks htoken, List.append_nil]
        exact Text.cutBlank_eq_self htoken.not_isBlank.2
      exact (readOutput_of_cut hcut).mpr ⟨⟨htoken, hscore⟩, rfl⟩
    | @message blanks token rest blank htext hblanks htoken hscore hblank =>
      have hcut : Text.cutBlank (Text.trimStart text) = (token, rest) := by
        rw [htext, hstart hblanks htoken]
        exact Text.cutBlank_append htoken.not_isBlank.2 hblank rest
      exact (readOutput_of_cut hcut).mpr ⟨⟨htoken, hscore⟩, rfl⟩

end Judge.Checker

namespace Judge.Task.Check

open Checker (Tells)
open Language (Registry)
open Sandbox (RunStats)
open Script (after)

variable {registry : Registry} {task : Check} {language : Language} {log : Log}
  {verdict : Checker.Verdict}

/-! ### The course of a check -/

/-- What is put into the box. -/
def supplies (task : Check) (language : Language) : List Supply :=
  [.write programOutputPath task.programOutput, .write correctInputPath task.correctInput,
    .write correctOutputPath task.correctOutput, .copy task.binaryPath language.compiledName]

/-- The command of the checker with the paths that it is given. -/
def invocation (command : List String) : List String :=
  command ++ [programOutputPath, correctOutputPath, correctInputPath]

lemma runIn_eq (task : Check) (language : Language) :
    task.runIn language = (do
      let stats ← launch language.runCommand invocation (config language) (task.supplies language)
      return stats.output) := by
  simp only [runIn, supplies, launch, Supply.step, bind_assoc]
  rfl

/-- How a check is made. -/
inductive Course (registry : Registry) (task : Check) : Log → Checker.Verdict → Prop
  | unknown (h : registry.resolveLanguage task.checkerFile = none) : Course registry task [] .failed
  | failed {language : Language} {log : Log} {failure : Failure}
    (hlanguage : registry.resolveLanguage task.checkerFile = some language)
    (h : Launched language.runCommand invocation (config language) (task.supplies language) log
      (.error failure)) : Course registry task log .failed
  | ran {language : Language} {log : Log} {stats : RunStats}
    (hlanguage : registry.resolveLanguage task.checkerFile = some language)
    (h : Launched language.runCommand invocation (config language) (task.supplies language) log
      (.ok stats)) : Course registry task log (verdictOf stats.output)

lemma ends_runIn (task : Check) (language : Language) :
    Ends (task.runIn language) fun log result => ∃ launched,
      Launched language.runCommand invocation (config language) (task.supplies language) log
        launched ∧ result = launched.map (·.output) := by
  rw [runIn_eq, ends_bind]
  refine (ends_launch _ _ _ _).mono fun log launched h => ?_
  cases launched with
  | ok stats => exact ⟨.ok stats, by simpa using h, rfl⟩
  | error failure => exact ⟨.error failure, h, rfl⟩

lemma always_program (registry : Registry) (task : Check) :
    Script.Always (task.program registry) (Course registry task) := by
  rw [program]
  cases hlanguage : registry.resolveLanguage task.checkerFile with
  | none => exact .unknown hlanguage
  | some language =>
    simp only
    rw [Script.always_bind]
    refine Script.Always.mono (ends_runIn task language) ?_
    rintro log _ ⟨_ | stats, h, rfl⟩
    · change Course registry task (log ++ []) .failed
      rw [List.append_nil]
      exact .failed hlanguage h
    · change Course registry task (log ++ []) (verdictOf stats.output)
      rw [List.append_nil]
      exact .ran hlanguage h

/-! ### What is in the box -/

section View

variable {σ : Type} {handle : (request : Request) → σ → request.Answer × σ} {paths : List String}
  {view : σ → String → Option Bytes}

/-- A view of the files of a box at some paths: it shows what is put there, and nothing else that is
done before a command is run changes it. -/
structure Shows (handle : (request : Request) → σ → request.Answer × σ) (paths : List String)
    (view : σ → String → Option Bytes) : Prop where
  delivered : ∀ s, ∀ path ∈ paths, ∀ data, (handle (.box (.deliver path data false)) s).1 = .ok () →
    view (handle (.box (.deliver path data false)) s).2 path = some data
  beside : ∀ s, ∀ path ∈ paths, ∀ data, ∀ other ∈ paths, other ≠ path →
    view (handle (.box (.deliver path data false)) s).2 other = view s other
  copied : ∀ s, ∀ path ∈ paths, ∀ source, ∀ other ∈ paths, other ≠ path →
    view (handle (.box (.copyIn source path)) s).2 other = view s other
  found : ∀ s name, ∀ other ∈ paths, view (handle (.findProgram name) s).2 other = view s other

/-- The files of a scripted sandbox are such a view. -/
lemma shows_scripted (script : Sandbox.Script) (paths : List String) :
    Shows (Runner.apart (Sandbox.Scripted.handle script)).handle paths
      fun s path => s.2.files.lookup path := by
  constructor
  case delivered =>
    intro s path _ data hok
    simp only [Runner.handle, Runner.apart, Sandbox.Scripted.handle] at hok ⊢
    split at hok
    · contradiction
    · next hallowed => simp [hallowed]
  case beside =>
    intro s path _ data other _ hne
    simp only [Runner.handle, Runner.apart, Sandbox.Scripted.handle]
    split
    · rfl
    · simp [List.lookup_cons, beq_false_of_ne hne]
  case copied => exact fun _ _ _ _ _ _ _ => rfl
  case found => exact fun _ _ _ _ => rfl

section Supplied

variable (h : Shows handle paths view)
include h

/-- Looking for a program changes no file of the box. -/
lemma Shows.located {command : List String} {search : Log}
    {found : Except CommandError (List String)} (hlocated : Located command search found)
    {path : String} (hpath : path ∈ paths) (s : σ) :
    view (after handle search s) path = view s path := by
  cases hlocated with
  | empty | path => rfl
  | found | missing => exact h.found s _ path hpath

/-- What is put elsewhere does not change a file. -/
lemma Shows.beside_supplies {path : String} (hpath : path ∈ paths) {supplies : List Supply}
    (hsupplies : ∀ supply ∈ supplies, supply.path ∈ paths ∧ path ≠ supply.path) (s : σ) :
    view (after handle (supplies.map (·.entry (.ok ()))) s) path = view s path := by
  induction supplies generalizing s with
  | nil => rfl
  | cons supply supplies ih =>
    obtain ⟨⟨hmem, hne⟩, hrest⟩ := List.forall_mem_cons.mp hsupplies
    refine (ih hrest _).trans ?_
    cases supply with
    | write other data => exact h.beside s other hmem data path hpath hne
    | copy source other => exact h.copied s other hmem source path hpath hne

end Supplied

/-- What is written is there after all supplies, if no two of them go to one path. -/
lemma Shows.written {supplies : List Supply} (h : Shows handle (supplies.map (·.path)) view)
    (hnodup : (supplies.map (·.path)).Nodup) {α : Type} {script : Program α} {s : σ} {back : Log}
    (hlog : script.log handle s = supplies.map (·.entry (.ok ())) ++ back) {path : String}
    {data : Bytes} (hmem : .write path data ∈ supplies) :
    view (after handle (supplies.map (·.entry (.ok ()))) s) path = some data := by
  obtain ⟨front, rest, rfl⟩ := List.append_of_mem hmem
  have hpath := List.mem_map_of_mem (f := (·.path)) hmem
  have hrest : ∀ supply ∈ rest,
      supply.path ∈ (front ++ .write path data :: rest).map (·.path) ∧ path ≠ supply.path := by
    rw [List.map_append, List.nodup_append, List.map_cons, List.nodup_cons] at hnodup
    intro supply hsupply
    refine ⟨List.mem_map_of_mem (by simp [hsupply]), fun heq => ?_⟩
    exact hnodup.2.1.1 (List.mem_map.mpr ⟨supply, hsupply, heq.symm⟩)
  rw [List.map_append, List.map_cons] at hlog ⊢
  rw [List.append_assoc] at hlog
  have hanswer := Script.answer_of_log hlog
  -- It is there once it is delivered, and the later supplies go elsewhere.
  rw [after, List.foldl_append]
  refine (h.beside_supplies hpath hrest _).trans ?_
  exact h.delivered _ path hpath data hanswer

end View

/-! ### Verdicts -/

/-- Why the judge is at fault. -/
inductive Fault (registry : Registry) (task : Check) (log : Log) : Prop
  | language (h : registry.resolveLanguage task.checkerFile = none)
  | programOutput (h : Fails log (.box (.deliver programOutputPath task.programOutput false)))
  | correctInput (h : Fails log (.box (.deliver correctInputPath task.correctInput false)))
  | correctOutput (h : Fails log (.box (.deliver correctOutputPath task.correctOutput false)))
  | binary {language : Language}
    (hlanguage : registry.resolveLanguage task.checkerFile = some language)
    (h : Fails log (.box (.copyIn task.binaryPath language.compiledName)))
  | command {language : Language}
    (hlanguage : registry.resolveLanguage task.checkerFile = some language)
    (h : Unresolved language.runCommand log)
  | run {command : List String} {config : Sandbox.RunConfig}
    (h : Fails log (.box (.run command config)))

/-- The verdict of a checker: a score if its output tells one. -/
structure Judged (output : Bytes) (verdict : Checker.Verdict) : Prop where
  graded : ∀ score message, verdict = .graded score message ↔
    Tells (Utf8.decodeLossy output) score message
  badOutput : verdict = .badOutput ↔
    ∀ score message, ¬ Tells (Utf8.decodeLossy output) score message

lemma judged_verdictOf (output : Bytes) : Judged output (verdictOf output) := by
  rw [verdictOf]
  cases hread : Checker.readOutput (Utf8.decodeLossy output) with
  | ok told =>
    refine ⟨fun score message => ?_, ?_⟩
    · simp [← Checker.readOutput_eq_ok_iff, hread, Prod.ext_iff]
    · exact iff_of_false nofun fun hnone => hnone _ _ (Checker.readOutput_eq_ok_iff.mp hread)
  | error problem => constructor <;> simp [← Checker.readOutput_eq_ok_iff, hread]

lemma verdictOf_ne (output : Bytes) :
    verdictOf output ≠ .pending ∧ verdictOf output ≠ .failed := by
  rw [verdictOf]
  split <;> simp

namespace Course

variable (h : Course registry task log verdict)
include h

lemma decided : verdict ≠ .pending := by
  cases h with
  | unknown | failed => simp
  | ran => exact (verdictOf_ne _).1

/-- Nothing is asked for after a failure. -/
lemma pairwise : log.Pairwise fun earlier _ => ¬ earlier.Failed := by
  cases h with
  | unknown => exact .nil
  | failed _ h | ran _ h => exact h.pairwise

/-- The judge fails exactly when there is a fault. -/
lemma failed_iff : verdict = .failed ↔ Fault registry task log := by
  cases h with
  | unknown hnone => exact iff_of_true rfl (.language hnone)
  | failed hlanguage h =>
    refine iff_of_true rfl ?_
    rcases h.error_iff.mp ⟨_, rfl⟩ with ⟨supply, hsupply, hfails⟩ | hcommand | ⟨_, hfails⟩
    · simp only [supplies, List.mem_cons, List.not_mem_nil, or_false] at hsupply
      rcases hsupply with rfl | rfl | rfl | rfl
      · exact .programOutput hfails
      · exact .correctInput hfails
      · exact .correctOutput hfails
      · exact .binary hlanguage hfails
    · exact .command hlanguage hcommand
    · exact .run hfails
  | ran hlanguage h =>
    refine iff_of_false (verdictOf_ne _).2 ?_
    have hnone := h.not_fails rfl
    rintro (hunknown | hfails | hfails | hfails | ⟨_, hfails⟩ | ⟨hother, hempty | ⟨_, _, hfails⟩⟩ |
      hfails)
    · simp [hlanguage] at hunknown
    · exact hnone _ hfails
    · exact hnone _ hfails
    · exact hnone _ hfails
    · exact hnone _ hfails
    · obtain rfl := Option.some.inj (hlanguage.symm.trans hother)
      exact (h.sound rfl).1 hempty
    · exact hnone _ hfails
    · exact hnone _ hfails

end Course

/-! ### What is promised -/

/-- A state of the box that shows the data of a task at the paths that the checker is told. -/
structure Provided {σ : Type} (view : σ → String → Option Bytes) (task : Check) (s : σ) : Prop where
  programOutput : view s programOutputPath = some task.programOutput
  correctInput : view s correctInputPath = some task.correctInput
  correctOutput : view s correctOutputPath = some task.correctOutput

/-- How a compiled checker is run: all is put into the box, its program is looked for, and then it
is run once, which is the last request. -/
structure Ran {σ : Type} (handle : (request : Request) → σ → request.Answer × σ) (task : Check)
    (language : Language) (s : σ) (log : Log) (stats : RunStats) (search : Log)
    (command : List String) : Prop where
  located : Located language.runCommand search (.ok command)
  log_eq : log = ready (task.supplies language) search ++
    [⟨.box (.run (invocation command) (config language)), .ok stats⟩]
  provided : ∀ view, Shows handle ((task.supplies language).map (·.path)) view →
    Provided view task (after handle (ready (task.supplies language) search) s)

/-- How an output fares with a checker: the requests `log` are made from `s`. -/
structure Checked {σ : Type} (registry : Registry)
    (handle : (request : Request) → σ → request.Answer × σ) (task : Check) (s : σ) (log : Log)
    (verdict : Checker.Verdict) : Prop where
  decided : verdict ≠ .pending
  failed : verdict = .failed ↔ Fault registry task log
  /-- No request follows one that fails. -/
  stops : log.Pairwise fun earlier _ => ¬ earlier.Failed
  unknown : registry.resolveLanguage task.checkerFile = none → log = []
  /-- Without a fault the checker was run, and what it wrote is judged. -/
  judged : verdict ≠ .failed → ∃ language search command stats,
    registry.resolveLanguage task.checkerFile = some language ∧
      Ran handle task language s log stats search command ∧ Judged stats.output verdict

section Run

variable {σ : Type} {handle : (request : Request) → σ → request.Answer × σ} {s : σ}
  {view : σ → String → Option Bytes}

/-- The data are still there when the checker is run, for no two supplies go to one path. -/
lemma Shows.provided (h : Shows handle ((task.supplies language).map (·.path)) view)
    (hnodup : ((task.supplies language).map (·.path)).Nodup) {α : Type} {script : Program α}
    {search rest : Log} {command : List String}
    (hlocated : Located language.runCommand search (.ok command))
    (hlog : script.log handle s = ready (task.supplies language) search ++ rest) :
    Provided view task (after handle (ready (task.supplies language) search) s) := by
  have hwritten : ∀ {path : String} {data : Bytes}, .write path data ∈ task.supplies language →
      view (after handle (ready (task.supplies language) search) s) path = some data := by
    intro path data hmem
    rw [ready, List.append_assoc] at hlog
    rw [ready, after, List.foldl_append]
    have hpath : path ∈ (task.supplies language).map (·.path) := List.mem_map_of_mem hmem
    exact (h.located hlocated hpath _).trans (h.written hnodup hlog hmem)
  constructor <;> exact hwritten (by simp [supplies])

end Run

/-- A checker of the catalog in any sandbox comes to a verdict that tells what happened. -/
theorem checked (disabled : List String) : ∃ registry, Registry.load disabled = .ok registry ∧
    ∀ {σ : Type} (handle : (request : Request) → σ → request.Answer × σ) (task : Check) (s : σ),
      Checked registry handle task s ((task.program registry).log handle s)
        ((task.program registry).run handle s).1 := by
  obtain ⟨languages, registry, hload, hlist, hplain⟩ := Registry.exists_load disabled
  refine ⟨registry, hload, fun handle task s => ?_⟩
  have hcourse := (always_program registry task).run handle s
  constructor
  case decided => exact hcourse.decided
  case failed => exact hcourse.failed_iff
  case stops => exact hcourse.pairwise
  case unknown =>
    intro hunknown
    rw [program, hunknown]
    rfl
  case judged =>
    intro hverdict
    -- No language of the catalog keeps its program where the data go.
    have hnodup : ∀ {language}, registry.resolveLanguage task.checkerFile = some language →
        [programOutputPath, correctInputPath, correctOutputPath, language.compiledName].Nodup :=
      Registry.of_resolveLanguage (P := fun language => [_, _, _, language.compiledName].Nodup)
        hlist hplain (by decide)
    generalize hlog : (task.program registry).log handle s = log at hcourse ⊢
    generalize ((task.program registry).run handle s).1 = verdict at hcourse hverdict ⊢
    cases hcourse with
    | unknown | failed => exact absurd rfl hverdict
    | @ran language log stats hlanguage h =>
      obtain ⟨search, command, hlocated, rfl⟩ := h.eq_of_ok rfl
      refine ⟨language, search, command, stats, hlanguage, ⟨hlocated, rfl, ?_⟩, judged_verdictOf _⟩
      exact fun view hview => hview.provided (hnodup hlanguage) hlocated hlog

/-- An output to be judged by a checker in Go. -/
def someOutput : Check where
  checkerFile := "check.go"
  binaryPath := "/checkers/3.bin"
  programOutput := [51]
  correctInput := [49, 32, 50]
  correctOutput := [51, 10]

/-- A sandbox where every command writes the same score and message. -/
def scoring : Runner (Host × Sandbox.Scripted) := .apart (Sandbox.Scripted.handle {
  stats := { output := [32, 43, 55, 10, 102, 105, 110, 101, 10] } })

theorem checked_someOutput : ∃ registry language search command stats,
    Registry.load [] = .ok registry ∧
      Ran scoring.handle someOutput language ({}, {})
        ((someOutput.program registry).log scoring.handle ({}, {})) stats search command ∧
      Provided (fun s path => s.2.files.lookup path) someOutput
        (after scoring.handle (ready (someOutput.supplies language) search) ({}, {})) ∧
      Judged stats.output (.graded 7 "fine") := by
  obtain ⟨registry, hload, hchecked⟩ := checked []
  obtain rfl : Language.defaultRegistry = registry :=
    Except.ok.inj (Registry.ofList_catalog.symm.trans hload)
  have hlanguage : Language.defaultRegistry.resolveLanguage someOutput.checkerFile =
      some Language.golang := by decide +kernel
  have hresolve : resolve Language.golang.runCommand = pure (.ok ["/box/main"]) :=
    resolve_of_path (by simp)
  have hverdict : ((someOutput.program Language.defaultRegistry).run scoring.handle ({}, {})).1 =
      .graded 7 "fine" := by
    rw [program, hlanguage]
    simp only [runIn, resolved, hresolve]
    decide +kernel
  have hrun := hchecked scoring.handle someOutput ({}, {})
  rw [hverdict] at hrun
  obtain ⟨language, search, command, stats, -, hran, hjudged⟩ := hrun.judged (by simp)
  have hprovided := hran.provided _ (shows_scripted _ _)
  exact ⟨_, language, search, command, stats, hload, hran, hprovided, hjudged⟩

end Judge.Task.Check
