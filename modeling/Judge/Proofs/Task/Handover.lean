import Judge.Proofs.Host.Storing
import Judge.Proofs.Language.Registry
import Judge.Proofs.Task.Course
import Judge.Task.Runner

/-!
How tasks end: a file may be fetched from the box and stored on the host, which is the last request.
What the sandbox keeps of the host is kept until then, and what is stored is there in the end.
-/

namespace Judge.Task

open Script (after)

/-! ### Storing at last -/

/-- A log in which something is stored at last or not at all, with what is stored and the answer. -/
inductive Storing (path : String) (executable : Bool) :
    Log → Option (Bytes × Except IoError Unit) → Prop
  | idle {log : Log} (h : Idle log) : Storing path executable log none
  | last {front : Log} (h : Idle front) (data : Bytes) (answer : Except IoError Unit) :
    Storing path executable (front ++ [⟨.store path data executable, answer⟩]) (some (data, answer))

section Storing

variable {path : String} {executable : Bool} {log : Log} {data : Bytes}
  {stored : Option (Bytes × Except IoError Unit)}

lemma Storing.mem_iff (h : Storing path executable log stored) {answer : Except IoError Unit} :
    ⟨.store path data executable, answer⟩ ∈ log ↔ stored = some (data, answer) := by
  cases h with
  | idle h => exact iff_of_false (fun hmem => h _ hmem _ _ _ rfl) nofun
  | @last front h other given =>
    have hfront : (⟨.store path data executable, answer⟩ : Entry) ∉ front :=
      fun hmem => h _ hmem _ _ _ rfl
    rw [List.mem_append, List.mem_singleton, or_iff_right hfront]
    constructor
    · rintro ⟨⟩
      rfl
    · rintro ⟨⟩
      rfl

lemma Storing.fails_iff (h : Storing path executable log stored) :
    Fails log (.store path data executable) ↔ ∃ cause, stored = some (data, .error cause) := by
  constructor
  · rintro ⟨⟨_, answer⟩, hmem, rfl, cause, rfl⟩
    exact ⟨cause, h.mem_iff.mp hmem⟩
  · rintro ⟨cause, hstored⟩
    exact ⟨_, h.mem_iff.mpr hstored, rfl, cause, rfl⟩

end Storing

/-! ### Handing over a file -/

section HandOver

variable {α : Type}

/-- Fetches a file of the box and stores it on the host. The result tells whether there was one. -/
def handOver (inside path : String) (executable : Bool) (missing handed : α) : Steps α := do
  match ← ask (.box (.fetch inside)) with
  | .error _ => return missing
  | .ok data =>
    store path data executable
    return handed

/-- How a file is handed over. -/
inductive HandedOver (inside path : String) (executable : Bool) (missing handed : α) :
    Log → Except Failure α → Prop
  | missing (cause : Sandbox.Error) : HandedOver inside path executable missing handed
    [⟨.box (.fetch inside), .error cause⟩] (.ok missing)
  | refused (data : Bytes) (cause : IoError) : HandedOver inside path executable missing handed
    [⟨.box (.fetch inside), .ok data⟩, ⟨.store path data executable, .error cause⟩]
    (.error (.storing path cause))
  | handed (data : Bytes) : HandedOver inside path executable missing handed
    [⟨.box (.fetch inside), .ok data⟩, ⟨.store path data executable, .ok ()⟩] (.ok handed)

lemma ends_handOver (inside path : String) (executable : Bool) (missing handed : α) :
    Ends (handOver inside path executable missing handed)
      (HandedOver inside path executable missing handed) := by
  rintro (cause | data)
  · exact .missing cause
  · exact ends_bind.mpr (ends_store (.handed data) (.refused data))

namespace HandedOver

variable {inside path : String} {executable : Bool} {missing handed : α} {log : Log}
  {result : Except Failure α}

/-- Only the file of the box may be missing when a result comes out. -/
lemma eq_fetch_of_fails (h : HandedOver inside path executable missing handed log result)
    {outcome : α} (hok : result = .ok outcome) {request : Request} (hfails : Fails log request) :
    request = .box (.fetch inside) := by
  cases h with
  | missing => simpa [eq_comm] using hfails
  | refused => contradiction
  | handed => simp at hfails

lemma runs_eq_nil (h : HandedOver inside path executable missing handed log result) :
    runs log = [] := by cases h <;> rfl

end HandedOver

/-- Something is stored at last exactly if all is good, and what is to be stored is what `origin`
tells. -/
structure Delivers (path : String) (executable : Bool) (origin : Bytes → Prop) (log : Log)
    (good : Prop) : Prop where
  storing : ∃ stored, Storing path executable log stored ∧
    (good ↔ ∃ data, stored = some (data, .ok ())) ∧
    ∀ data answer, stored = some (data, answer) → origin data

section Delivers

variable {path inside : String} {executable : Bool} {log : Log} {good : Prop}
  {origin : Bytes → Prop}

lemma delivers_idle (hlog : Idle log) (hgood : ¬ good) : Delivers path executable origin log good :=
  ⟨none, .idle hlog, by simp [hgood], nofun⟩

lemma delivers_last {data : Bytes} {answer : Except IoError Unit} (hlog : Idle log)
    (hgood : good ↔ answer = .ok ()) (horigin : origin data) :
    Delivers path executable origin (log ++ [⟨.store path data executable, answer⟩]) good := by
  refine ⟨_, .last hlog data answer, ?_, ?_⟩
  · simpa using hgood
  · rintro _ _ ⟨⟩
    exact horigin

/-- A file that is handed over is the one of the box. -/
lemma HandedOver.delivers {missing handed : α} {rest : Log} {result : Except Failure α}
    (h : HandedOver inside path executable missing handed rest result) (hlog : Idle log)
    {P : α → Prop} (hmissing : ¬ P missing) (hhanded : P handed) :
    Delivers path executable (fun data => ⟨.box (.fetch inside), .ok data⟩ ∈ log ++ rest)
      (log ++ rest) (∃ outcome, result = .ok outcome ∧ P outcome) := by
  cases h with
  | missing => exact delivers_idle (by simpa using hlog) (by simpa using hmissing)
  | refused data =>
    rw [List.append_cons]
    exact delivers_last (by simpa using hlog) (by simp) (by simp)
  | handed data =>
    rw [List.append_cons]
    exact delivers_last (by simpa using hlog) (by simpa using hhanded) (by simp)

lemma Delivers.mono (h : Delivers path executable origin log good) {other : Bytes → Prop}
    (himp : ∀ data, origin data → other data) : Delivers path executable other log good := by
  obtain ⟨stored, hstoring, hgood, horigin⟩ := h
  exact ⟨stored, hstoring, hgood, fun data answer hstored => himp _ (horigin _ _ hstored)⟩

lemma Delivers.stored_iff (h : Delivers path executable origin log good) :
    good ↔ ∃ data, ⟨.store path data executable, .ok ()⟩ ∈ log := by
  obtain ⟨stored, hstoring, hgood, -⟩ := h
  simpa [hstoring.mem_iff] using hgood

end Delivers

end HandOver

/-! ### Tasks in a language -/

section Settled

open Language (Registry)
open Language.Registry (Offers)

variable {α : Type} {languages : List Language} {registry : Registry} {name : String}
  {course : Language → Log → Except Failure α → Prop} {failed : α}

/-- How a task in a language is settled: there is no such language, or a failure is its outcome, or
it comes to an outcome of its own. -/
inductive Settled (languages : List Language) (name : String)
    (course : Language → Log → Except Failure α → Prop) (failed : α) : Log → α → Prop
  | unknown (h : ∀ language, ¬ Offers languages name language) :
    Settled languages name course failed [] failed
  | failed {language : Language} {log : Log} {failure : Failure}
    (hlanguage : Offers languages name language) (h : course language log (.error failure)) :
    Settled languages name course failed log failed
  | ended {language : Language} {log : Log} {outcome : α}
    (hlanguage : Offers languages name language) (h : course language log (.ok outcome)) :
    Settled languages name course failed log outcome

lemma always_settled (hload : Registry.ofList languages = .ok registry)
    {steps : Language → Steps α} (hsteps : ∀ language, Ends (steps language) (course language))
    {settle : Except Failure α → Program α} (hok : ∀ outcome, settle (.ok outcome) = pure outcome)
    (herror : ∀ failure, settle (.error failure) = pure failed) :
    Script.Always ((enabledLanguage registry name >>= steps).run >>= settle)
      (Settled languages name course failed) := by
  have hget := fun language => @Registry.get?_eq_some_iff languages registry hload name language
  rw [Script.always_bind, enabledLanguage]
  cases hlanguage : registry.get? name with
  | none =>
    have hnone : ∀ language, ¬ Offers languages name language := by
      intro language hoffers
      rw [(hget language).mpr hoffers] at hlanguage
      contradiction
    change (settle (.error (.unknownLanguage name))).Always _
    rw [herror]
    exact .unknown hnone
  | some language =>
    have hoffers := (hget language).mp hlanguage
    refine (hsteps language).mono fun log result hcourse => ?_
    cases result with
    | ok outcome =>
      rw [hok]
      change Settled languages name course failed (log ++ []) outcome
      rw [List.append_nil]
      exact .ended hoffers hcourse
    | error failure =>
      rw [herror]
      change Settled languages name course failed (log ++ []) failed
      rw [List.append_nil]
      exact .failed hoffers hcourse

end Settled

/-! ### The host -/

section Host

variable {σ α : Type} {runner : Runner σ} {script : Program α} {s : σ} {P : Host → Prop}

namespace Runner

/-- The host that is set is the host that is there. -/
def Lawful (runner : Runner σ) : Prop := ∀ host s, runner.host (runner.setHost host s) = host

/-- What no call to the sandbox takes away from the host. -/
def Keeps (runner : Runner σ) (P : Host → Prop) : Prop :=
  ∀ call s, P (runner.host s) → P (runner.host (runner.box call s).2)

lemma lawful_apart (box : Sandbox.Handler σ) : (Runner.apart box).Lawful := fun _ _ => rfl

lemma keeps_apart (box : Sandbox.Handler σ) (P : Host → Prop) : (Runner.apart box).Keeps P :=
  fun _ _ h => h

/-- What the sandbox keeps is kept as long as nothing is stored. -/
lemma Keeps.after (h : runner.Keeps P) {log : Log}
    (hlog : Idle log) (hP : P (runner.host s)) : P (runner.host (after runner.handle log s)) := by
  induction log generalizing s with
  | nil => exact hP
  | cons entry log ih =>
    refine ih (fun other hother => hlog other (by simp [hother])) ?_
    have hentry := hlog entry (by simp)
    obtain ⟨request, answer⟩ := entry
    cases request with
    | box call => exact h call s hP
    | findProgram name => exact hP
    | store path data executable => exact absurd rfl (hentry path data executable)

end Runner

lemma after_append {log rest : Log} :
    after runner.handle (log ++ rest) s = after runner.handle rest (after runner.handle log s) :=
  List.foldl_append

section Storing

variable {path : String} {data : Bytes} {executable : Bool}
  {stored : Option (Bytes × Except IoError Unit)} {answer : Except IoError Unit}

/-- The host is left alone by a task that does not come to storing. -/
lemma Storing.keeps (h : Storing path executable (script.log runner.handle s) none)
    (hkeeps : runner.Keeps P) (hP : P (runner.host s)) :
    P (runner.host (script.run runner.handle s).2) := by
  rw [Script.snd_run_eq_after]
  generalize script.log runner.handle s = log at h ⊢
  cases h with
  | idle h => exact hkeeps.after h hP

/-- Storing starts on a host that has all that the sandbox keeps, and is the last change of it. -/
lemma Storing.exists_storeFile
    (h : Storing path executable (script.log runner.handle s) (some (data, answer)))
    (hlaw : runner.Lawful) : ∃ host : Host,
      host.storeFile path data executable = (answer, runner.host (script.run runner.handle s).2) ∧
      ∀ P : Host → Prop, runner.Keeps P → P (runner.host s) → P host := by
  generalize hlog : script.log runner.handle s = log at h
  cases h with
  | @last front h =>
    -- Storing is answered where all requests before it lead.
    refine ⟨runner.host (after runner.handle front s), ?_, fun P hkeeps hP => hkeeps.after h hP⟩
    rw [Script.snd_run_eq_after, hlog, after_append]
    exact Prod.ext (Script.answer_of_log hlog) (hlaw _ _).symm

/-- What is stored is there in the end. -/
lemma Storing.fileAt?
    (h : Storing path executable (script.log runner.handle s) (some (data, .ok ())))
    (hlaw : runner.Lawful) :
    ∃ mark, (runner.host (script.run runner.handle s).2).fileAt? path = some (data, mark) ∧
      (executable = true → mark = true) := by
  obtain ⟨host, hstore, -⟩ := h.exists_storeFile hlaw
  exact Host.fileAt?_stored hstore

/-- The files of the host are kept when storing fails, if no permissions are to be set. -/
lemma Storing.fileAt?_of_error {cause : IoError}
    (h : Storing path false (script.log runner.handle s) (some (data, .error cause)))
    (hlaw : runner.Lawful) {other : String} {file : Bytes × Bool}
    (hkeeps : runner.Keeps (·.fileAt? other = some file))
    (hfile : (runner.host s).fileAt? other = some file) :
    (runner.host (script.run runner.handle s).2).fileAt? other = some file := by
  obtain ⟨host, hstore, hkept⟩ := h.exists_storeFile hlaw
  exact Host.fileAt?_of_storeFile_error hstore (hkept _ hkeeps hfile)

end Storing

/-! ### What is left on the host -/

section Delivers

variable {path : String} {executable : Bool} {origin : Bytes → Prop} {good : Prop}
  (h : Delivers path executable origin (script.log runner.handle s) good)
include h

/-- What is delivered is there in the end. -/
theorem Delivers.holds (hlaw : runner.Lawful) (hgood : good) : ∃ data mark, origin data ∧
    (runner.host (script.run runner.handle s).2).fileAt? path = some (data, mark) ∧
      (executable = true → mark = true) := by
  obtain ⟨stored, hstoring, hiff, horigin⟩ := h
  obtain ⟨data, rfl⟩ := hiff.mp hgood
  obtain ⟨mark, hfile⟩ := hstoring.fileAt? hlaw
  exact ⟨data, mark, horigin data _ rfl, hfile⟩

/-- A task that does not come to storing leaves the host alone. -/
theorem Delivers.untouched (hbad : ¬ good)
    (hstore : ∀ data, ¬ Fails (script.log runner.handle s) (.store path data executable))
    (hkeeps : runner.Keeps P) (hP : P (runner.host s)) :
    P (runner.host (script.run runner.handle s).2) := by
  obtain ⟨_ | ⟨data, _ | cause⟩, hstoring, hiff, -⟩ := h
  · exact hstoring.keeps hkeeps hP
  · exact absurd (hstoring.fails_iff.mpr ⟨_, rfl⟩) (hstore data)
  · exact absurd (hiff.mpr ⟨data, rfl⟩) hbad

end Delivers

/-- Without a delivery the files of the host are kept, if no permissions are to be set. -/
theorem Delivers.kept {path : String} {origin : Bytes → Prop} {good : Prop}
    (h : Delivers path false origin (script.log runner.handle s) good) (hlaw : runner.Lawful)
    (hbad : ¬ good) {other : String} {file : Bytes × Bool}
    (hkeeps : runner.Keeps (·.fileAt? other = some file))
    (hfile : (runner.host s).fileAt? other = some file) :
    (runner.host (script.run runner.handle s).2).fileAt? other = some file := by
  obtain ⟨_ | ⟨data, _ | cause⟩, hstoring, hiff, -⟩ := h
  · exact hstoring.keeps hkeeps hfile
  · exact hstoring.fileAt?_of_error hlaw hkeeps hfile
  · exact absurd (hiff.mpr ⟨data, rfl⟩) hbad

end Host

end Judge.Task
