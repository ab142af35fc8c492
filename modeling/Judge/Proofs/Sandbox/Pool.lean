import Judge.Proofs.Table
import Judge.Sandbox.Pool

/-!
The accounts of a pool. Permits and numbers are kept apart and change at different moments, but
between any two steps they are balanced: a permit is free or a call has it, and so is each number.
-/

namespace Judge.Sandbox.Pool

inductive Event where
  | start
  | move (call : Int) (move : Move)
  deriving DecidableEq, Repr

def step (pool : Pool) : Event → Pool
  | .start => pool.start.2
  | .move call move => pool.move call move

def run (pool : Pool) (events : List Event) : Pool := events.foldl step pool

def Stage.number? : Stage → Option Nat
  | .building id | .working id | .releasing id | .returning id => some id
  | .waiting | .permitted | .refused | .leaving => none

def Stage.isPermitted (stage : Stage) : Bool := stage != .waiting

/-- The accounts of a pool of a size: its permits and numbers are free, or calls at these stages have
them, and every permit comes with a number. -/
structure Accounts (size permits : Nat) (free : List Nat) (stages : List Stage) : Prop where
  permits : permits + stages.countP Stage.isPermitted = size
  numbers : (free ++ stages.filterMap Stage.number?).Perm (List.range size)
  provided : .refused ∉ stages

namespace Accounts

variable {size permits id : Nat} {free : List Nat} {stage : Stage} {stages : List Stage}

lemma of_perm {others : List Stage} (hperm : stages.Perm others)
    (h : Accounts size permits free stages) : Accounts size permits free others where
  permits := by rw [← h.permits, hperm.countP_eq]
  numbers := ((hperm.filterMap _).symm.append_left _).trans h.numbers
  provided := by
    rw [← hperm.mem_iff]
    exact h.provided

/-- What one call has, besides what the others have. -/
lemma cons_iff : Accounts size permits free (stage :: stages) ↔
    permits + (stages.countP Stage.isPermitted + if stage = .waiting then 0 else 1) = size ∧
      (free ++ (stage.number?.toList ++ stages.filterMap Stage.number?)).Perm (List.range size) ∧
        stage ≠ .refused ∧ .refused ∉ stages := by
  have hpermits : (stage :: stages).countP Stage.isPermitted =
      stages.countP Stage.isPermitted + if stage = .waiting then 0 else 1 := by
    rw [List.countP_cons]
    by_cases h : stage = .waiting <;> simp [Stage.isPermitted, h]
  have hnumbers : (stage :: stages).filterMap Stage.number? =
      stage.number?.toList ++ stages.filterMap Stage.number? := by
    rw [List.filterMap_cons]
    cases stage.number? <;> rfl
  have hprovided : .refused ∉ stage :: stages ↔ stage ≠ .refused ∧ .refused ∉ stages := by
    rw [List.mem_cons, not_or, ne_comm]
  rw [← hpermits, ← hnumbers, ← hprovided]
  exact ⟨fun h => ⟨h.permits, h.numbers, h.provided⟩, fun h => ⟨h.1, h.2.1, h.2.2⟩⟩

lemma start (h : Accounts size permits free stages) :
    Accounts size permits free (.waiting :: stages) :=
  cons_iff.mpr ⟨h.permits, h.numbers, by simp, h.provided⟩

lemma leave (h : Accounts size permits free (.waiting :: stages)) :
    Accounts size permits free stages := by
  obtain ⟨hpermits, hnumbers, -, hprovided⟩ := cons_iff.mp h
  exact ⟨hpermits, hnumbers, hprovided⟩

lemma acquire (h : Accounts size (permits + 1) free (.waiting :: stages)) :
    Accounts size permits free (.permitted :: stages) := by
  obtain ⟨hpermits, hnumbers, -, hprovided⟩ := cons_iff.mp h
  refine cons_iff.mpr ⟨?_, hnumbers, by simp, hprovided⟩
  simp at hpermits ⊢
  omega

lemma free_ne_nil (h : Accounts size permits free (.permitted :: stages)) : free ≠ [] := by
  obtain ⟨hpermits, hnumbers, -, -⟩ := cons_iff.mp h
  -- The others that have a number have a permit too, and one more permit is this call's.
  have hle : (stages.filterMap Stage.number?).length ≤ stages.countP Stage.isPermitted := by
    rw [List.length_filterMap_eq_countP]
    refine List.countP_mono_left fun stage _ hstage => ?_
    cases stage <;> simp_all [Stage.number?, Stage.isPermitted]
  have hlength := hnumbers.length_eq
  rintro rfl
  simp [Stage.number?] at hpermits hlength
  omega

lemma takeNumber (h : Accounts size permits (id :: free) (.permitted :: stages)) :
    Accounts size permits free (.building id :: stages) := by
  obtain ⟨hpermits, hnumbers, -, hprovided⟩ := cons_iff.mp h
  exact cons_iff.mpr ⟨hpermits, List.perm_middle.trans hnumbers, by simp, hprovided⟩

/-- A call may come to a stage at which it has the same. -/
lemma proceed {next : Stage} (h : Accounts size permits free (stage :: stages))
    (hnumber : next.number? = stage.number?) (hpermit : next = .waiting ↔ stage = .waiting)
    (hnext : next ≠ .refused) : Accounts size permits free (next :: stages) := by
  obtain ⟨hpermits, hnumbers, -, hprovided⟩ := cons_iff.mp h
  rw [cons_iff, hnumber]
  simp only [hpermit]
  exact ⟨hpermits, hnumbers, hnext, hprovided⟩

lemma giveNumber (h : Accounts size permits free (.returning id :: stages)) :
    Accounts size permits (id :: free) (.leaving :: stages) := by
  obtain ⟨hpermits, hnumbers, -, hprovided⟩ := cons_iff.mp h
  exact cons_iff.mpr ⟨hpermits, List.perm_middle.symm.trans hnumbers, by simp, hprovided⟩

lemma givePermit (h : Accounts size permits free (.leaving :: stages)) :
    Accounts size (permits + 1) free stages := by
  obtain ⟨hpermits, hnumbers, -, hprovided⟩ := cons_iff.mp h
  refine ⟨?_, hnumbers, hprovided⟩
  simp at hpermits
  omega

end Accounts

/-- A pool of a size whose accounts are in order. -/
structure Balanced (size : Nat) (pool : Pool) : Prop where
  accounts : Accounts size pool.permits pool.free pool.calls.values
  started : ∀ call stage, pool.calls.get? call = some stage → call < pool.next

namespace Balanced

variable {size : Nat} {pool : Pool} {call : Int} {stage : Stage}

lemma accounts_call (h : Balanced size pool) (hcall : pool.calls.get? call = some stage) :
    Accounts size pool.permits pool.free (stage :: (pool.calls.erase call).values) :=
  h.accounts.of_perm (Table.values_perm hcall)

lemma of_advance (hstarted : ∀ call stage, pool.calls.get? call = some stage → call < pool.next)
    (hcall : call < pool.next)
    (h : Accounts size pool.permits pool.free (stage :: (pool.calls.erase call).values)) :
    Balanced size (pool.advance call stage) where
  accounts := h.of_perm (Table.values_insert_perm ..).symm
  started other found hother := by
    change (pool.calls.insert call stage).get? other = some found at hother
    rw [Table.get?_insert] at hother
    split at hother
    · next heq => exact heq ▸ hcall
    · exact hstarted other found hother

lemma of_finish (hstarted : ∀ call stage, pool.calls.get? call = some stage → call < pool.next)
    (h : Accounts size pool.permits pool.free (pool.calls.erase call).values) :
    Balanced size (pool.finish call) where
  accounts := h
  started other found hother := by
    change (pool.calls.erase call).get? other = some found at hother
    rw [Table.get?_erase] at hother
    split at hother
    · contradiction
    · exact hstarted other found hother

lemma start (h : Balanced size pool) : Balanced size pool.start.2 := by
  have hnew : pool.calls.erase pool.next = pool.calls := by
    apply Table.ext_get?
    intro call
    rw [Table.get?_erase]
    split
    · next heq =>
      rw [eq_comm, Option.eq_none_iff_forall_ne_some]
      intro stage hcall
      have := h.started call stage hcall
      omega
    · rfl
  have hlt : ∀ call stage, pool.calls.get? call = some stage → call < pool.next + 1 :=
    fun call stage hcall => Int.lt_add_one_of_le (Int.le_of_lt (h.started call stage hcall))
  have haccounts := h.accounts.start
  rw [← hnew] at haccounts
  let later : Pool := { pool with next := pool.next + 1 }
  exact (of_advance hlt (Int.lt_succ _) haccounts : Balanced size (later.advance pool.next .waiting))

lemma acquire (h : Balanced size pool) (hcall : pool.calls.get? call = some .waiting) {other : Pool}
    (htake : pool.takePermit? = some other) : Balanced size (other.advance call .permitted) := by
  rw [takePermit?] at htake
  split at htake
  · contradiction
  · next hne =>
    obtain rfl := Option.some.inj htake
    refine of_advance h.started (h.started call _ hcall) (Accounts.acquire ?_)
    have haccounts := h.accounts_call hcall
    rwa [← Nat.sub_one_add_one hne] at haccounts

lemma takeNumber (h : Balanced size pool) (hcall : pool.calls.get? call = some .permitted) :
    ∃ id other, pool.takeNumber? = some (id, other) ∧
      Balanced size (other.advance call (.building id)) := by
  have haccounts := h.accounts_call hcall
  obtain ⟨id, free, hfree⟩ := List.exists_cons_of_ne_nil haccounts.free_ne_nil
  rw [hfree] at haccounts
  refine ⟨id, { pool with free }, by rw [takeNumber?, hfree], ?_⟩
  exact of_advance h.started (h.started call _ hcall) haccounts.takeNumber

lemma proceed (h : Balanced size pool) {next : Stage} (hcall : pool.calls.get? call = some stage)
    (hnumber : next.number? = stage.number?) (hpermit : next = .waiting ↔ stage = .waiting)
    (hnext : next ≠ .refused) : Balanced size (pool.advance call next) :=
  of_advance h.started (h.started call stage hcall)
    ((h.accounts_call hcall).proceed hnumber hpermit hnext)

/-- Every step of a call keeps the accounts. -/
theorem move (h : Balanced size pool) (call : Int) (move : Move) :
    Balanced size (pool.move call move) := by
  unfold Pool.move
  split
  case h_1 hcall =>
    split
    · exact h
    · next other htake => exact h.acquire hcall htake
  case h_2 hcall => exact of_finish h.started (h.accounts_call hcall).leave
  case h_3 hcall =>
    obtain ⟨id, other, htake, hother⟩ := h.takeNumber hcall
    rw [htake]
    exact hother
  case h_4 hcall => exact h.proceed hcall rfl (by simp) (by simp)
  case h_5 hcall => exact absurd (h.accounts_call hcall).provided (by simp)
  case h_13 id hcall =>
    exact of_advance h.started (h.started call _ hcall) (h.accounts_call hcall).giveNumber
  case h_14 hcall => exact of_finish h.started (h.accounts_call hcall).givePermit
  case h_15 => exact h
  -- The box comes and goes without a change of the accounts.
  all_goals
    next hcall => exact h.proceed hcall rfl (by simp) (by simp)

theorem step (h : Balanced size pool) (event : Event) : Balanced size (pool.step event) := by
  cases event with
  | start => exact h.start
  | move call move => exact h.move call move

theorem run (h : Balanced size pool) (events : List Event) : Balanced size (pool.run events) := by
  induction events generalizing pool with
  | nil => exact h
  | cons event events ih => exact ih (h.step event)

end Balanced

theorem balanced_ofSize (settings : Settings) (boxes : Nat) :
    Balanced (max boxes 1) (ofSize settings boxes) where
  accounts := ⟨rfl, by simp [ofSize], by simp [ofSize]⟩
  started _ _ h := by simp [ofSize] at h

/-- What a pool of a size guarantees. -/
structure Safe (size : Nat) (pool : Pool) : Prop where
  /-- No two calls have one number. -/
  exclusive : ∀ call other stage found id, pool.calls.get? call = some stage →
    pool.calls.get? other = some found → stage.number? = some id → found.number? = some id →
      call = other
  bounded : ∀ call stage id, pool.calls.get? call = some stage → stage.number? = some id → id < size
  /-- A call with a permit finds a number. -/
  provided : ∀ call, pool.calls.get? call = some .permitted → pool.takeNumber?.isSome
  notRefused : ∀ call, pool.calls.get? call ≠ some .refused
  /-- With no call in progress all permits are there, and each number is free once. -/
  whole : pool.calls = .empty → pool.permits = size ∧ pool.free.Perm (List.range size)

/-- A pool is safe after any steps of any calls. -/
theorem safe_run (settings : Settings) (boxes : Nat) (events : List Event) :
    Safe (max boxes 1) ((ofSize settings boxes).run events) := by
  have h := (balanced_ofSize settings boxes).run events
  generalize (ofSize settings boxes).run events = pool at h
  generalize max boxes 1 = size at h
  have hnodup : (pool.free ++ pool.calls.values.filterMap Stage.number?).Nodup :=
    h.accounts.numbers.nodup_iff.mpr List.nodup_range
  constructor
  case exclusive =>
    intro call other stage found id hcall hother hid hid'
    -- Otherwise the number would be there twice among the numbers of the calls.
    by_contra hne
    have hfound : found ∈ (pool.calls.erase call).values :=
      Table.mem_values ((Table.get?_erase ..).trans ((if_neg hne).trans hother))
    have hperm := (Table.values_perm hcall).filterMap Stage.number?
    rw [List.filterMap_cons, hid] at hperm
    have htwice := hperm.nodup_iff.mp (List.nodup_append.mp hnodup).2.1
    exact (List.nodup_cons.mp htwice).1 (List.mem_filterMap.mpr ⟨found, hfound, hid'⟩)
  case bounded =>
    intro call stage id hcall hid
    have hmem : id ∈ pool.calls.values.filterMap Stage.number? :=
      List.mem_filterMap.mpr ⟨stage, Table.mem_values hcall, hid⟩
    exact List.mem_range.mp (h.accounts.numbers.mem_iff.mp (List.mem_append_right _ hmem))
  case provided =>
    intro call hcall
    obtain ⟨id, other, htake, -⟩ := h.takeNumber hcall
    rw [htake, Option.isSome_some]
  case notRefused =>
    intro call hcall
    exact absurd (h.accounts_call hcall).provided (by simp)
  case whole =>
    intro hnone
    have hpermits := h.accounts.permits
    have hnumbers := h.accounts.numbers
    rw [hnone] at hpermits hnumbers
    exact ⟨by simpa using hpermits, by simpa using hnumbers⟩

end Judge.Sandbox.Pool

namespace Judge.Sandbox.Site

variable {α β : Type}

/-- What an action does to the pool is made up of the steps of calls. -/
def Steps (action : StateM Site α) : Prop :=
  ∀ site, ∃ events, (action.run site).2.pool = site.pool.run events

lemma steps_pure (a : α) : Steps (pure a) := fun _ => ⟨[], rfl⟩

lemma steps_get : Steps (get : StateM Site Site) := fun _ => ⟨[], rfl⟩

lemma Steps.bind {action : StateM Site α} {next : α → StateM Site β} (h : Steps action)
    (hnext : ∀ a, Steps (next a)) : Steps (action >>= next) := by
  intro site
  obtain ⟨events, hevents⟩ := h site
  obtain ⟨more, hmore⟩ := hnext (action.run site).1 (action.run site).2
  refine ⟨events ++ more, ?_⟩
  have hrun : site.pool.run (events ++ more) = (site.pool.run events).run more :=
    List.foldl_append
  rw [hrun, ← hevents]
  exact hmore

lemma steps_onWorld (action : StateM World α) : Steps (onWorld action) := fun _ => ⟨[], rfl⟩

lemma steps_start : Steps (onPool (·.start.2)) := fun _ => ⟨[.start], rfl⟩

lemma steps_move (call : Int) (move : Pool.Move) : Steps (onPool (·.move call move)) :=
  fun _ => ⟨[.move call move], rfl⟩

section Task

variable {task : Box → StateM Site (Except Error α × Box)}

lemma steps_runIn (h : ∀ box, Steps (task box)) (call : Int) (id : Nat) :
    Steps (runIn call id task) := by
  refine steps_get.bind fun site => (steps_onWorld _).bind fun built => ?_
  cases built with
  | error cause => exact (steps_move _ _).bind fun _ => steps_pure _
  | ok box =>
    refine (steps_move _ _).bind fun _ => (h box).bind fun done => ?_
    refine (steps_move _ _).bind fun _ => (steps_onWorld _).bind fun released => ?_
    exact (steps_move _ _).bind fun _ => (steps_onWorld _).bind fun _ => steps_pure _

/-- A task that is run takes its permit and its number as a call does, and gives them back, if what
it does with the pool itself does so. -/
theorem steps_runTask (h : ∀ box, Steps (task box)) : Steps (runTask task) := by
  refine steps_get.bind fun site => steps_start.bind fun _ => (steps_move _ _).bind fun _ => ?_
  refine steps_get.bind fun permitted => ?_
  split
  · refine (steps_move _ _).bind fun _ => steps_get.bind fun numbered => ?_
    split
    · refine (steps_runIn h _ _).bind fun result => (steps_move _ _).bind fun _ => ?_
      exact (steps_move _ _).bind fun _ => steps_pure _
    · exact (steps_move _ _).bind fun _ => steps_pure _
  · exact (steps_move _ _).bind fun _ => steps_pure _

end Task

/-- What a program asks of its box and of the host leaves the pool alone. -/
lemma pool_run (program : Task.Program α) (s : Site × Box) :
    (program.run runner.handle s).2.1.pool = s.1.pool := by
  induction program generalizing s with
  | done result => rfl
  | call request next ih =>
    rw [Script.run_call, ih]
    cases request <;> rfl

theorem steps_runProgram (program : Task.Program α) : Steps (runProgram program) :=
  steps_runTask fun box site => ⟨[], pool_run program (site, box)⟩

end Judge.Sandbox.Site
