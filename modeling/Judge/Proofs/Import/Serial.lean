import Judge.Proofs.Import.Turns
import Judge.Proofs.Store.Parts

/-!
What imports under locks leave of the part of a problem, as far as it can be seen, is what the same
imports leave when each of them runs alone, in the order in which they get their locks.
-/

namespace Judge.Archive.Imports

open Store (Handler Parts)
open Transfer (runOn)

variable {σ γ : Type} {handle : Handler σ}

/-- What is seen of the part of one problem, and how an import into the problem changes it, when
there are imports in a scope. -/
structure Sight (parts : Parts handle) (scope : Int → List Entry → Prop) (problem : Int)
    (γ : Type) where
  see : σ → γ
  after : List Entry → γ → γ
  same : ∀ {s t}, parts.Same problem s t → see t = see s
  achieves : ∀ owner entries s, scope owner entries → parts.Sound s →
    parts.Achieves owner (fun _ t => owner = problem → see t = after entries (see s))
      (importArchive entries owner).run s

namespace Sight

variable {parts : Parts handle} {scope : Int → List Entry → Prop} {problem : Int}

def outcome (sight : Sight parts scope problem γ) (imports : List (Int × List Entry))
    (seen : γ) : γ :=
  imports.foldl (fun seen e => if e.1 = problem then sight.after e.2 seen else seen) seen

variable {sight : Sight parts scope problem γ}

lemma see_serially {imports : List (Int × List Entry)} {s : σ} (hs : parts.Sound s)
    (hscope : ∀ e ∈ imports, scope e.1 e.2) :
    sight.see (serially handle s imports) = sight.outcome imports (sight.see s) := by
  induction imports generalizing s with
  | nil => rfl
  | cons e imports ih =>
    obtain ⟨owner, entries⟩ := e
    have hachieves := sight.achieves owner entries s (hscope (owner, entries) (by simp)) hs
    obtain ⟨hsees, hsound, hsame⟩ := hachieves.run hs
    rw [← Transfer.runOn] at hsees hsound hsame
    have hnow : sight.see (runOn handle (importArchive entries owner) s).2 =
        if owner = problem then sight.after entries (sight.see s) else sight.see s := by
      split
      · next howner => exact hsees howner
      · next howner => exact sight.same (hsame problem (Ne.symm howner))
    have hrest : ∀ e ∈ imports, scope e.1 e.2 := fun e he => hscope e (List.mem_cons_of_mem _ he)
    have hserially : serially handle s ((owner, entries) :: imports) =
        serially handle (runOn handle (importArchive entries owner) s).2 imports := rfl
    rw [hserially, ih hsound hrest, hnow]
    rfl

end Sight

/-- While imports run, what is seen of a problem is expected as soon as none into it runs. -/
structure Tracks {parts : Parts handle} {scope : Int → List Entry → Prop} {problem : Int}
    (sight : Sight parts scope problem γ) (expected : γ) (imports : Imports σ) : Prop where
  orderly : Orderly imports
  sound : parts.Sound imports.store
  within : imports.Within scope
  runs : ∀ ticket job program, imports.jobs.get? ticket = some job →
    job.stage = .running program → parts.Achieves job.problem
      (fun _ t => job.problem = problem → sight.see t = expected) program imports.store
  rests : (∀ ticket job program, imports.jobs.get? ticket = some job → job.problem = problem →
    job.stage ≠ .running program) → sight.see imports.store = expected

namespace Tracks

variable {parts : Parts handle} {scope : Int → List Entry → Prop} {problem : Int}
  {sight : Sight parts scope problem γ} {expected : γ} {imports next : Imports σ} {event : Event}
  {seen : Option Deed} {ticket : Int} {job : LockedImport} {stage : ImportStage}

/-- One import comes to another stage, and what is expected changes with it. -/
lemma advance (h : Tracks sight expected imports) (horderly : Orderly next) {expected' : γ}
    (hjobs : next.jobs = imports.jobs.insert ticket { job with stage })
    (hsound : parts.Sound next.store) (hwithin : scope job.problem job.entries)
    (hrun : ∀ program, stage = .running program → parts.Achieves job.problem
      (fun _ t => job.problem = problem → sight.see t = expected') program next.store)
    (hothers : ∀ other found program, other ≠ ticket → imports.jobs.get? other = some found →
      found.stage = .running program → parts.Achieves found.problem
        (fun _ t => found.problem = problem → sight.see t = expected') program next.store)
    (hrest : (∀ program, job.problem = problem → stage ≠ .running program) →
      (∀ other found program, other ≠ ticket → imports.jobs.get? other = some found →
        found.problem = problem → found.stage ≠ .running program) →
      sight.see next.store = expected') :
    Tracks sight expected' next := by
  have hget : ∀ other found, next.jobs.get? other = some found →
      other = ticket ∧ found = { job with stage } ∨
        other ≠ ticket ∧ imports.jobs.get? other = some found := by
    intro other found hfound
    rw [hjobs, Table.get?_insert] at hfound
    split at hfound
    · next heq => exact .inl ⟨heq.symm, (Option.some.inj hfound).symm⟩
    · next hne => exact .inr ⟨Ne.symm hne, hfound⟩
  constructor
  case orderly => exact horderly
  case sound => exact hsound
  case within =>
    intro other found hfound
    rcases hget other found hfound with ⟨-, rfl⟩ | ⟨-, hfound⟩
    · exact hwithin
    · exact h.within other found hfound
  case runs =>
    intro other found program hfound hstage
    rcases hget other found hfound with ⟨-, rfl⟩ | ⟨hne, hfound⟩
    · exact hrun program hstage
    · exact hothers other found program hne hfound hstage
  case rests =>
    intro hnone
    refine hrest (fun program => ?_) fun other found program hne hfound => ?_
    · exact hnone ticket { job with stage } program (by rw [hjobs, Table.get?_insert_self])
    · refine hnone other found program ?_
      rwa [hjobs, Table.get?_insert_of_ne _ _ (Ne.symm hne)]

lemma changes (h : Tracks sight expected imports) (horderly : Orderly next)
    (hevent : event.Within scope)
    (hchanges : Changes handle imports next event seen ticket job stage) :
    Tracks sight (sight.outcome (seen.toList.filterMap Deed.begun?) expected) next := by
  have hwithin := hchanges.within h.within hevent
  have hrunning := fun program => @Changes.get? _ _ _ _ _ _ _ _ _ program hchanges
  obtain ⟨hwas, hjobs, hadv⟩ := hchanges
  have hset : next.jobs.get? ticket = some { job with stage } := by
    rw [hjobs, Table.get?_insert_self]
  -- No import into a problem runs beside another one.
  have halone : ∀ program, stage = .running program → ∀ other found rest, other ≠ ticket →
      imports.jobs.get? other = some found → found.stage = .running rest →
        found.problem ≠ job.problem := by
    intro program hstage other found rest hne hfound hrest hproblem
    refine hne (horderly.exclusive hset hstage ?_ hrest hproblem)
    rwa [hjobs, Table.get?_insert_of_ne _ _ (Ne.symm hne)]
  -- What no import changes is seen as it was expected.
  have hidle : (∀ program, job.problem = problem → job.stage ≠ .running program) →
      (∀ other found program, other ≠ ticket → imports.jobs.get? other = some found →
        found.problem = problem → found.stage ≠ .running program) →
      sight.see imports.store = expected := by
    intro hmine hothers
    refine h.rests fun other found program hfound => ?_
    by_cases heq : other = ticket
    · subst heq
      rcases hwas with hget | ⟨hnone, -⟩
      · obtain rfl := Option.some.inj (hfound.symm.trans hget)
        exact hmine program
      · simp [hfound] at hnone
    · exact hothers other found program heq hfound
  obtain ⟨store, locks, jobs⟩ := next
  cases hadv with
  | waits hstage | leaves hstage =>
    refine h.advance horderly hjobs h.sound hwithin (fun _ hrun => by simp at hrun)
      (fun other found program _ hfound => h.runs other found program hfound) fun _ hothers => ?_
    exact hidle (fun _ _ => by simp [hstage]) hothers
  | begins hstage =>
    have halone := halone _ rfl
    refine h.advance horderly hjobs h.sound hwithin ?_ ?_ ?_
    · rintro _ ⟨⟩
      refine (sight.achieves job.problem job.entries imports.store hwithin h.sound).mono ?_
      intro _ t hsees hproblem
      have hseen : sight.see imports.store = expected := by
        refine hidle (fun _ _ => by simp [hstage]) fun other found program hne hfound hfor hrun => ?_
        exact halone other found program hne hfound hrun (hfor.trans hproblem.symm)
      rw [hsees hproblem, hseen]
      simp [Sight.outcome, Deed.begun?, hproblem]
    · intro other found program hne hfound hrun
      refine (h.runs other found program hfound hrun).mono fun _ t hsees hproblem => ?_
      have hnot : job.problem ≠ problem := fun heq =>
        halone other found program hne hfound hrun (hproblem.trans heq.symm)
      rw [hsees hproblem]
      simp [Sight.outcome, Deed.begun?, hnot]
    · intro hmine hothers
      have hnot : job.problem ≠ problem := fun heq => hmine _ heq rfl
      rw [hidle (fun _ heq => absurd heq hnot) hothers]
      simp [Sight.outcome, Deed.begun?, hnot]
  | @calls call rest hstage =>
    have hget := hrunning _ hstage
    obtain ⟨howns, hnext⟩ := h.runs ticket job _ hget hstage imports.store h.sound
      (parts.refl job.problem imports.store)
    have hsame := parts.same h.sound howns
    refine h.advance horderly hjobs (parts.sound h.sound howns) hwithin ?_ ?_ ?_
    · rintro _ ⟨⟩
      exact hnext
    · intro other found program hne hfound hrun
      have hnot := halone _ rfl other found program hne hfound hrun
      exact (h.runs other found program hfound hrun).of_same (hsame found.problem hnot)
    · intro hmine hothers
      have hnot : job.problem ≠ problem := fun heq => hmine _ heq rfl
      rw [← hidle (fun _ heq => absurd heq hnot) hothers]
      exact sight.same (hsame problem (Ne.symm hnot))
  | @ends result hstage =>
    have hget := hrunning _ hstage
    refine h.advance horderly hjobs h.sound hwithin (fun _ hrun => by simp at hrun)
      (fun other found program _ hfound => h.runs other found program hfound) fun _ hothers => ?_
    by_cases hproblem : job.problem = problem
    · exact h.runs ticket job _ hget hstage imports.store h.sound (parts.refl _ _) hproblem
    · exact hidle (fun _ heq => absurd heq hproblem) hothers

lemma empty {start : σ} (hs : parts.Sound start) :
    Tracks sight (sight.see start) ({ store := start } : Imports σ) where
  orderly := .empty start
  sound := hs
  within _ _ h := by simp at h
  runs _ _ _ h := by simp at h
  rests _ := rfl

lemma step (h : Tracks sight expected imports) (hevent : event.Within scope) :
    Tracks sight (sight.outcome ((imports.deed? event).toList.filterMap Deed.begun?) expected)
      (imports.step handle event) := by
  have horderly := @Orderly.step _ _ handle h.orderly event
  rcases @step_cases _ handle _ h.orderly event with ⟨hjobs, hstore, hnone⟩ |
    ⟨ticket, job, stage, hchanges⟩
  · rw [hnone]
    have hwithin := (@within_step _ handle _ event _ h.orderly h.within hevent).1
    exact ⟨horderly, hstore ▸ h.sound, hwithin, by rw [hjobs, hstore]; exact h.runs,
      by rw [hjobs, hstore]; exact h.rests⟩
  · exact h.changes horderly hevent hchanges

lemma run (h : Tracks sight expected imports) (events : List Event)
    (hevents : ∀ event ∈ events, event.Within scope) :
    Tracks sight (sight.outcome (order handle imports events) expected)
      (imports.run handle events) := by
  induction events generalizing imports expected with
  | nil => exact h
  | cons event events ih =>
    rw [order_cons, Sight.outcome, List.foldl_append]
    exact ih (h.step (hevents event (by simp))) fun e he => hevents e (by simp [he])

/-- An event in which nothing is seen of a problem leaves its part alone. -/
lemma same_step (h : Tracks sight expected imports) (owner : Int)
    (hnone : ∀ deed, imports.deed? event = some deed → deed.problem ≠ owner) :
    parts.Same owner imports.store (imports.step handle event).store := by
  rcases @step_cases _ handle _ h.orderly event with ⟨-, hstore, -⟩ |
    ⟨ticket, job, stage, hchanges⟩
  · rw [hstore]
    exact parts.refl owner imports.store
  · have hadv := hchanges.advance
    have hrunning := fun program => @Changes.get? _ _ _ _ _ _ _ _ _ program hchanges
    generalize hseen : imports.deed? event = seen at hadv
    generalize (imports.step handle event).store = store at hadv ⊢
    cases hadv with
    | waits | begins | ends | leaves => exact parts.refl owner imports.store
    | calls hstage =>
      have hachieves := h.runs ticket job _ (hrunning _ hstage) hstage
      have howns := (hachieves imports.store h.sound (parts.refl _ _)).1
      exact parts.same h.sound howns owner (Ne.symm (hnone _ hseen))

lemma same_run (h : Tracks sight expected imports) {events : List Event}
    (hevents : ∀ event ∈ events, event.Within scope) (owner : Int)
    (hnone : ∀ deed ∈ deeds handle imports events, deed.problem ≠ owner) :
    parts.Same owner imports.store (imports.run handle events).store := by
  induction events generalizing imports expected with
  | nil => exact parts.refl owner imports.store
  | cons event events ih =>
    have hevent := hevents event (by simp)
    have hfirst : parts.Same owner imports.store (imports.step handle event).store :=
      h.same_step owner fun deed hdeed => hnone deed (by simp [deeds, hdeed])
    refine parts.trans hfirst (ih (h.step hevent) (fun e he => hevents e (by simp [he])) ?_)
    exact fun deed hdeed => hnone deed (by simp [deeds, hdeed])

end Tracks

/-- When the imports into a problem ended, its part is seen as if they had run one after the other. -/
theorem see_run {parts : Parts handle} {scope : Int → List Entry → Prop} {problem : Int}
    (sight : Sight parts scope problem γ) {start : σ} (hs : parts.Sound start) {events : List Event}
    (hevents : ∀ event ∈ events, event.Within scope)
    (hended : (run handle { store := start } events).Ended problem) :
    sight.see (shared handle start events) = sight.see (inTurn handle start events) := by
  have hempty : Tracks sight _ ({ store := start } : Imports σ) := .empty hs
  have hscope := @within_order _ handle _ events _ hempty.orderly hempty.within hevents
  rw [inTurn, sight.see_serially hs hscope]
  -- None into the problem runs any more, so what is seen is what was expected.
  refine (hempty.run events hevents).rests fun ticket job program hget hproblem hstage => ?_
  have hover := hended ticket job hget hproblem
  rw [hstage, ImportStage.isOver] at hover
  contradiction

/-- An import that nobody disturbs ends as it does without a lock. -/
lemma workOff_eq (handle : Handler σ) {program : Store.Program (Except Error Summary)}
    {imports : Imports σ} {ticket : Int} {job : LockedImport}
    (hget : imports.jobs.get? ticket = some job) (hstage : job.stage = .running program) :
    (imports.workOff handle ticket program).store = (program.run handle imports.store).2 ∧
      ∃ now, (imports.workOff handle ticket program).jobs.get? ticket = some now ∧
        now.stage = .finished (program.run handle imports.store).1 := by
  induction program generalizing imports job with
  | done result =>
    have hwork : imports.work handle ticket =
        ({ imports with locks := imports.locks.drop ticket } : Imports σ).advance ticket job
          (.finished result) := by
      simp only [work, hget, hstage]
    rw [workOff, hwork]
    exact ⟨rfl, _, Table.get?_insert_self .., rfl⟩
  | call call next ih =>
    have hwork : imports.work handle ticket =
        ({ imports with store := (handle call imports.store).2 } : Imports σ).advance ticket job
          (.running (next (handle call imports.store).1)) := by
      simp only [work, hget, hstage]
    rw [workOff, Script.run_call, hwork]
    exact ih _ (Table.get?_insert_self ..) rfl

theorem importLocked_eq (handle : Handler σ) (entries : List Entry) (problem : Int) (s : σ) :
    importLocked handle entries problem s =
      (.finished (runOn handle (importArchive entries problem) s).1,
        (runOn handle (importArchive entries problem) s).2) := by
  have hholds : (({} : Locks).request problem).2.holds 0 = true :=
    (Locks.holds_request_iff Locks.sound_empty).mpr rfl
  have hstart : ({ store := s } : Imports σ).start problem entries =
      ({ store := s, locks := (({} : Locks).request problem).2 } : Imports σ).advance 0
        { problem, entries } (.running (importArchive entries problem).run) := by
    rw [start_eq, enter, if_pos hholds]
  have hget : (({ store := s } : Imports σ).start problem entries).jobs.get? 0 = some
      { problem, entries, stage := .running (importArchive entries problem).run } := by
    rw [hstart]
    exact Table.get?_insert_self ..
  obtain ⟨hstore, now, hnow, hstage⟩ := workOff_eq handle hget rfl
  rw [importLocked]
  simp only [hstore, hnow, hstage, Option.map_some, Option.getD_some]
  rfl

/-! ### The whole store -/

/-- A store as it is seen by imports into one problem. -/
def wholeSight (handle : Handler σ) (problem : Int) :
    Sight (Parts.whole handle problem) (fun owner _ => owner = problem) problem σ where
  see := id
  after entries s := (runOn handle (importArchive entries problem) s).2
  same hsame := (hsame rfl).symm
  achieves := by
    rintro owner entries s rfl -
    refine (Parts.achieves_whole handle owner _ s).mono fun result t ht _ => ?_
    exact congrArg Prod.snd ht

end Judge.Archive.Imports
