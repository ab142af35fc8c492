import Judge.Archive.Imports
import Judge.Proofs.Archive.LockOrder

/-!
What holds of imports under locks after any events. Whoever runs has its lock, whoever is not over
asks for it, and those that were started before an import that got its lock are over.
-/

namespace Judge.Archive

/-- An import that makes no store calls any more. -/
def ImportStage.isOver : ImportStage → Bool
  | .finished _ | .withdrawn => true
  | .waiting | .running _ => false

/-- An import that got its lock. -/
def ImportStage.isServed : ImportStage → Bool
  | .running _ | .finished _ => true
  | .waiting | .withdrawn => false

namespace Imports

inductive Event where
  | start (problem : Int) (entries : List Entry)
  | poll (ticket : Int)
  | work (ticket : Int)
  | abandon (ticket : Int)

variable {σ : Type}

def step (handle : Store.Handler σ) (imports : Imports σ) : Event → Imports σ
  | .start problem entries => imports.start problem entries
  | .poll ticket => imports.poll ticket
  | .work ticket => imports.work handle ticket
  | .abandon ticket => imports.abandon ticket

def run (handle : Store.Handler σ) (imports : Imports σ) (events : List Event) : Imports σ :=
  events.foldl (step handle) imports

lemma start_eq (imports : Imports σ) (problem : Int) (entries : List Entry) :
    imports.start problem entries =
      ({ imports with locks := (imports.locks.request problem).2 } : Imports σ).enter
        imports.locks.next { problem, entries } := rfl

structure Orderly (imports : Imports σ) : Prop where
  locks : Locks.Sound imports.locks
  numbered : ∀ ticket job, imports.jobs.get? ticket = some job → ticket < imports.locks.next
  asks : ∀ ticket job, imports.jobs.get? ticket = some job → job.stage.isOver = false →
    ticket ∈ imports.locks.asking job.problem
  holds : ∀ ticket job program, imports.jobs.get? ticket = some job →
    job.stage = .running program → imports.locks.holds ticket = true
  /-- Those that were started before an import that got its lock are over. -/
  turns : ∀ ticket later job other, imports.jobs.get? ticket = some job →
    imports.jobs.get? later = some other → job.problem = other.problem → ticket < later →
      other.stage.isServed = true → job.stage.isOver = true

namespace Orderly

variable {imports : Imports σ} {handle : Store.Handler σ} {ticket : Int} {job : LockedImport}

lemma empty (store : σ) : Orderly ({ store } : Imports σ) where
  locks := Locks.sound_empty
  numbered _ _ h := by simp at h
  asks _ _ h := by simp at h
  holds _ _ _ h := by simp at h
  turns _ _ _ _ h := by simp at h

/-- One import comes to another stage, and the locks change in what concerns its request only. -/
lemma advance (h : Orderly imports) {store : σ} {locks : Locks} {stage : ImportStage}
    (hlocks : Locks.Sound locks) (hnext : imports.locks.next ≤ locks.next)
    (hticket : ticket < locks.next)
    (hothers : ∀ other ≠ ticket,
      locks.requests.get? other = imports.locks.requests.get? other)
    (hasks : stage.isOver = false → ticket ∈ locks.asking job.problem)
    (hholds : ∀ program, stage = .running program → locks.holds ticket = true)
    (hbefore : stage.isServed = true → ∀ earlier other, earlier < ticket →
      imports.jobs.get? earlier = some other → other.problem = job.problem →
        other.stage.isOver = true)
    (hafter : stage.isOver = false → ∀ later other, ticket < later →
      imports.jobs.get? later = some other → other.problem = job.problem →
        other.stage.isServed = false) :
    Orderly (({ imports with store, locks } : Imports σ).advance ticket job stage) := by
  have hget : ∀ {other found}, (imports.jobs.insert ticket { job with stage }).get? other =
      some found → ticket = other ∧ found = { job with stage } ∨
        ticket ≠ other ∧ imports.jobs.get? other = some found := by
    intro other found hfound
    rw [Table.get?_insert] at hfound
    split at hfound
    · next heq => exact .inl ⟨heq, (Option.some.inj hfound).symm⟩
    · next hne => exact .inr ⟨hne, hfound⟩
  constructor
  case locks => exact hlocks
  case numbered =>
    intro other found hfound
    rcases hget hfound with ⟨rfl, -⟩ | ⟨-, hfound⟩
    · exact hticket
    · exact Int.lt_of_lt_of_le (h.numbered other found hfound) hnext
  case asks =>
    intro other found hfound hover
    rcases hget hfound with ⟨rfl, rfl⟩ | ⟨hne, hfound⟩
    · exact hasks hover
    · have hasking := h.asks other found hfound hover
      rw [Locks.mem_asking] at hasking ⊢
      rwa [← hothers other (Ne.symm hne)] at hasking
  case holds =>
    intro other found program hfound hrunning
    rcases hget hfound with ⟨rfl, rfl⟩ | ⟨hne, hfound⟩
    · exact hholds program hrunning
    · have hholds := h.holds other found program hfound hrunning
      rw [Locks.holds_iff] at hholds ⊢
      rwa [← hothers other (Ne.symm hne)] at hholds
  case turns =>
    intro earlier later found other hfound hother hproblem hlt hserved
    rcases hget hfound with ⟨rfl, rfl⟩ | ⟨-, hfound⟩ <;>
      rcases hget hother with ⟨rfl, rfl⟩ | ⟨-, hother⟩
    · omega
    · by_contra hover
      have hnot := hafter (by simpa using hover) later other hlt hother hproblem.symm
      rw [hnot] at hserved
      contradiction
    · exact hbefore hserved earlier found hlt hfound hproblem
    · exact h.turns earlier later found other hfound hother hproblem hlt hserved

/-- An import that stands in line begins if it has its lock. -/
lemma enter (h : Orderly imports) {locks : Locks} (hlocks : Locks.Sound locks)
    (hnext : imports.locks.next ≤ locks.next) (hticket : ticket < locks.next)
    (hothers : ∀ other ≠ ticket,
      locks.requests.get? other = imports.locks.requests.get? other)
    (hasking : ticket ∈ locks.asking job.problem)
    (hafter : ∀ later other, ticket < later → imports.jobs.get? later = some other →
      other.problem = job.problem → other.stage.isServed = false) :
    Orderly (({ imports with locks } : Imports σ).enter ticket job) := by
  rw [Imports.enter]
  split
  · next hholds =>
    refine h.advance hlocks hnext hticket hothers (fun _ => hasking) (fun _ _ => hholds) ?_
      fun _ => hafter
    -- Whoever was started before and is not over asks for the lock, so this one would not have it.
    intro _ earlier other hlt hother hproblem
    by_contra hover
    have hwaits := h.asks earlier other hother (by simpa using hover)
    obtain ⟨request, hrequest, hfor⟩ := Locks.mem_asking.mp hwaits
    obtain ⟨own, hown, hfor'⟩ := Locks.mem_asking.mp hasking
    obtain ⟨only, honly, holdest⟩ := Locks.oldest_of_holds hlocks hholds
    obtain rfl := Option.some.inj (hown.symm.trans honly)
    rw [← hothers earlier (Int.ne_of_lt hlt)] at hrequest
    have hle := holdest earlier request hrequest (by rw [hfor, hfor', hproblem])
    omega
  · exact h.advance hlocks hnext hticket hothers (fun _ => hasking)
      (fun _ hstage => by simp at hstage)
      (fun hserved => by simp [ImportStage.isServed] at hserved) fun _ => hafter

lemma start (h : Orderly imports) (problem : Int) (entries : List Entry) :
    Orderly (imports.start problem entries) := by
  have hnext : (imports.locks.request problem).2.next = imports.locks.next + 1 := rfl
  rw [start_eq]
  refine h.enter (h.locks.request problem) (by omega) (by omega) (fun other hne => ?_) ?_ ?_
  · rw [Locks.get?_requests_request, if_neg (Ne.symm hne)]
  · rw [Locks.asking_request h.locks, if_pos rfl]
    simp
  · intro later other hlt hother
    have hbelow := h.numbered later other hother
    omega

/-- Those behind an import that is not over did not get the lock. -/
lemma not_served_behind (h : Orderly imports) (hget : imports.jobs.get? ticket = some job)
    (hover : job.stage.isOver = false) (later : Int) (other : LockedImport) (hlt : ticket < later)
    (hother : imports.jobs.get? later = some other) (hproblem : other.problem = job.problem) :
    other.stage.isServed = false := by
  by_contra hserved
  have hdone := h.turns ticket later job other hget hother hproblem.symm hlt (by simpa using hserved)
  rw [hover] at hdone
  contradiction

lemma poll (h : Orderly imports) (ticket : Int) : Orderly (imports.poll ticket) := by
  rw [Imports.poll]
  split
  · next job hget =>
    split
    · next hstage =>
      have hover : job.stage.isOver = false := by rw [hstage, ImportStage.isOver]
      obtain ⟨-, -, hnext⟩ := Locks.poll_keeps imports.locks ticket
      refine h.enter (h.locks.poll ticket) (by omega) (hnext ▸ h.numbered ticket job hget)
        (fun other hne => ?_) ?_ (h.not_served_behind hget hover)
      · rw [Locks.get?_requests_poll, if_neg (Ne.symm hne)]
      · rw [Locks.asking_poll]
        exact h.asks ticket job hget hover
    · exact h
  · exact h

lemma leave (h : Orderly imports) (hget : imports.jobs.get? ticket = some job) {stage : ImportStage}
    (hover : stage.isOver = true) (hserved : stage.isServed = true → job.stage.isServed = true) :
    Orderly (({ imports with locks := imports.locks.drop ticket } : Imports σ).advance ticket job
      stage) := by
  obtain ⟨-, hnext⟩ := Locks.drop_keeps imports.locks ticket
  refine h.advance (h.locks.drop ticket) (by omega) (hnext ▸ h.numbered ticket job hget)
    (fun other hne => ?_) (by simp [hover]) (fun program hstage => ?_) (fun hmine => ?_)
    (by simp [hover])
  · rw [Locks.get?_requests_drop, if_neg (Ne.symm hne)]
  · rw [hstage, ImportStage.isOver] at hover
    contradiction
  · exact fun earlier other hlt hother hproblem =>
      h.turns earlier ticket other job hother hget hproblem hlt (hserved hmine)

lemma work (h : Orderly imports) (ticket : Int) : Orderly (imports.work handle ticket) := by
  rw [Imports.work]
  split
  · next job hget =>
    split
    · next call next hstage =>
      have hover : job.stage.isOver = false := by rw [hstage, ImportStage.isOver]
      have hserved : job.stage.isServed = true := by rw [hstage, ImportStage.isServed]
      exact h.advance h.locks (Int.le_refl _) (h.numbered ticket job hget) (fun _ _ => rfl)
        (fun _ => h.asks ticket job hget hover) (fun _ _ => h.holds ticket job _ hget hstage)
        (fun _ earlier other hlt hother hproblem =>
          h.turns earlier ticket other job hother hget hproblem hlt hserved)
        fun _ => h.not_served_behind hget hover
    · next result hstage =>
      exact h.leave hget rfl fun _ => by rw [hstage, ImportStage.isServed]
    · exact h
  · exact h

lemma abandon (h : Orderly imports) (ticket : Int) : Orderly (imports.abandon ticket) := by
  rw [Imports.abandon]
  split
  · next job hget =>
    split
    · exact h.leave hget rfl fun hserved => by simp [ImportStage.isServed] at hserved
    · exact h
  · exact h

lemma step (h : Orderly imports) (event : Event) : Orderly (imports.step handle event) := by
  cases event with
  | start problem entries => exact h.start problem entries
  | poll ticket => exact h.poll ticket
  | work ticket => exact h.work ticket
  | abandon ticket => exact h.abandon ticket

lemma run (h : Orderly imports) (events : List Event) : Orderly (imports.run handle events) := by
  induction events generalizing imports with
  | nil => exact h
  | cons event events ih => exact ih (h.step event)

/-- No two imports into one problem run. -/
lemma exclusive (h : Orderly imports) {other : Int} {found : LockedImport}
    {program rest : Store.Program (Except Error Summary)}
    (hget : imports.jobs.get? ticket = some job) (hstage : job.stage = .running program)
    (hother : imports.jobs.get? other = some found) (hstage' : found.stage = .running rest)
    (hproblem : found.problem = job.problem) : other = ticket := by
  have hover : ∀ {stage program}, stage = ImportStage.running program →
      stage.isServed = true ∧ stage.isOver = false := by
    rintro _ program rfl
    exact ⟨rfl, rfl⟩
  by_contra hne
  -- The later of the two has got its lock, so the earlier one would be over.
  rcases Int.lt_or_gt_of_ne hne with hlt | hlt
  · have hdone := h.turns other ticket found job hother hget hproblem hlt (hover hstage).1
    simp [(hover hstage').2] at hdone
  · have hdone := h.turns ticket other job found hget hother hproblem.symm hlt (hover hstage').1
    simp [(hover hstage).2] at hdone

end Orderly

end Imports
end Judge.Archive
