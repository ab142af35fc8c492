import Mathlib.Data.List.Dedup
import Judge.Archive.Locks
import Judge.Proofs.Table

/-!
What the locks guarantee after any sequence of requests, polls and drops. The invariant is `Sound`: a
mutex that a request refers to stays in the table under the problem of the request, so the line at it
has all requests for the problem and no others.
-/

namespace Judge.Archive.Locks

inductive Event where
  | request (problem : Int)
  | poll (ticket : Int)
  | drop (ticket : Int)
  | tracked
  deriving DecidableEq, Repr

def step (locks : Locks) : Event → Locks
  | .request problem => (locks.request problem).2
  | .poll ticket => locks.poll ticket
  | .drop ticket => locks.drop ticket
  | .tracked => locks.tracked.2

def run (locks : Locks) (events : List Event) : Locks := events.foldl step locks

/-- The live requests for a problem, in the order of their first poll. -/
def asking (locks : Locks) (problem : Int) : List Int :=
  (locks.requests.filter fun _ request => request.problem == problem).keys

/-- A live request for whose problem there is none that was polled before it. -/
def Oldest (locks : Locks) (ticket : Int) : Prop :=
  ∃ request, locks.requests.get? ticket = some request ∧ ∀ other found,
    locks.requests.get? other = some found → found.problem = request.problem → ticket ≤ other

structure Sound (locks : Locks) : Prop where
  numbered : ∀ ticket request, locks.requests.get? ticket = some request → ticket < locks.next
  placed : ∀ ticket request, locks.requests.get? ticket = some request →
    locks.table.get? request.problem = some request.mutex
  made : ∀ problem mutex, locks.table.get? problem = some mutex → mutex < locks.next
  own : ∀ problem other mutex, locks.table.get? problem = some mutex →
    locks.table.get? other = some mutex → problem = other
  line : ∀ problem mutex, locks.table.get? problem = some mutex →
    locks.line mutex = locks.asking problem
  unmade : ∀ mutex, locks.next ≤ mutex → locks.line mutex = []
  first : ∀ ticket request, locks.requests.get? ticket = some request → request.held = true →
    (locks.asking request.problem).head? = some ticket

section Asking

variable {locks : Locks} {problem : Int} {ticket : Int}

lemma mem_asking : ticket ∈ locks.asking problem ↔
    ∃ request, locks.requests.get? ticket = some request ∧ request.problem = problem := by
  rw [asking, Table.mem_keys_iff, Table.get?_filter, Option.isSome_iff_exists]
  refine exists_congr fun request => ?_
  rw [Option.filter_eq_some_iff, beq_iff_eq]

lemma ascending_asking (locks : Locks) (problem : Int) :
    (locks.asking problem).Pairwise (· < ·) := Table.ascending_keys _

lemma nodup_asking (locks : Locks) (problem : Int) : (locks.asking problem).Nodup :=
  (ascending_asking locks problem).imp Int.ne_of_lt

lemma asking_eq {tickets : List Int} (h : tickets.Pairwise (· < ·))
    (hmem : ∀ ticket, ticket ∈ tickets ↔
      ∃ request, locks.requests.get? ticket = some request ∧ request.problem = problem) :
    locks.asking problem = tickets := by
  apply Table.eq_of_mem_iff_of_ascending id (ascending_asking locks problem) h
  exact fun ticket => mem_asking.trans (hmem ticket).symm

lemma head?_asking_iff {request : LockRequest} (h : locks.requests.get? ticket = some request) :
    (locks.asking request.problem).head? = some ticket ↔ locks.Oldest ticket := by
  have hmem : ticket ∈ locks.asking request.problem := mem_asking.mpr ⟨request, h, rfl⟩
  have hasc := ascending_asking locks request.problem
  constructor
  · intro hhead
    refine ⟨request, h, fun other found hother hproblem => ?_⟩
    obtain ⟨rest, hrest⟩ := List.head?_eq_some_iff.mp hhead
    have hother' : other ∈ locks.asking request.problem := mem_asking.mpr ⟨found, hother, hproblem⟩
    rw [hrest] at hasc hother'
    rcases List.mem_cons.mp hother' with rfl | hother'
    · exact Int.le_refl _
    · exact Int.le_of_lt ((List.pairwise_cons.mp hasc).1 other hother')
  · rintro ⟨only, honly, hle⟩
    obtain rfl : request = only := Option.some.inj (h.symm.trans honly)
    cases hasking : locks.asking request.problem with
    | nil => simp [hasking] at hmem
    | cons first rest =>
      have hfirst : first ∈ locks.asking request.problem := by simp [hasking]
      obtain ⟨found, hfound, hproblem⟩ := mem_asking.mp hfirst
      have hle' := hle first found hfound hproblem
      rw [hasking] at hmem hasc
      rcases List.mem_cons.mp hmem with rfl | hmem
      · rfl
      · have hlt := (List.pairwise_cons.mp hasc).1 ticket hmem
        exact absurd (Int.lt_of_lt_of_le hlt hle') (Int.lt_irrefl _)

end Asking

section Prune

variable {locks : Locks}

@[simp] theorem asking_prune (locks : Locks) : locks.prune.asking = locks.asking := rfl

@[simp] theorem line_prune (locks : Locks) : locks.prune.line = locks.line := rfl

lemma count_values_eq_one (h : Sound locks) {problem mutex : Int}
    (hget : locks.table.get? problem = some mutex) : locks.table.values.count mutex = 1 := by
  have hnodup : locks.table.values.Nodup := by
    refine List.pairwise_map.mpr (locks.table.ascending.imp_of_mem ?_)
    rintro ⟨p, m⟩ ⟨q, n⟩ hp hq hlt rfl
    have := h.own p q m (Table.get?_eq_some_iff.mpr hp) (Table.get?_eq_some_iff.mpr hq)
    simp only at hlt
    omega
  exact List.count_eq_one_of_mem hnodup (Table.mem_values hget)

/-- Only the mutexes of problems without live requests are dropped. -/
lemma get?_prune (h : Sound locks) (problem : Int) : locks.prune.table.get? problem =
    if locks.asking problem = [] then none else locks.table.get? problem := by
  rw [prune, Table.get?_filter]
  cases hget : locks.table.get? problem with
  | none => simp
  | some mutex =>
    have hreferred : mutex ∈ locks.requests.values.map (·.mutex) ↔ locks.asking problem ≠ [] := by
      constructor
      · intro hmem
        obtain ⟨request, hrequest, rfl⟩ := List.mem_map.mp hmem
        obtain ⟨⟨ticket, _⟩, hentry, rfl⟩ := List.mem_map.mp hrequest
        have hlive := Table.get?_eq_some_iff.mpr hentry
        exact List.ne_nil_of_mem
          (mem_asking.mpr ⟨_, hlive, h.own _ _ _ (h.placed _ _ hlive) hget⟩)
      · intro hne
        obtain ⟨ticket, hticket⟩ := List.exists_mem_of_ne_nil _ hne
        obtain ⟨request, hlive, rfl⟩ := mem_asking.mp hticket
        obtain rfl := Option.some.inj (hget.symm.trans (h.placed _ _ hlive))
        exact List.mem_map_of_mem (Table.mem_values hlive)
    have hreferences : 1 < locks.references mutex ↔ locks.asking problem ≠ [] := by
      rw [references, count_values_eq_one h hget, ← hreferred, ← List.count_pos_iff]
      omega
    by_cases hnone : locks.asking problem = [] <;> simp [Option.filter, hreferences, hnone]

lemma Sound.prune (h : Sound locks) : Sound locks.prune := by
  have hget : ∀ {problem mutex}, locks.prune.table.get? problem = some mutex →
      locks.table.get? problem = some mutex := by
    intro problem mutex hsome
    rw [get?_prune h] at hsome
    split at hsome
    · contradiction
    · exact hsome
  refine { h with placed := ?_, made := ?_, own := ?_, line := ?_ }
  · intro ticket request hlive
    have hmem : ticket ∈ locks.asking request.problem := mem_asking.mpr ⟨request, hlive, rfl⟩
    rw [get?_prune h, if_neg (List.ne_nil_of_mem hmem)]
    exact h.placed ticket request hlive
  · exact fun problem mutex hsome => h.made problem mutex (hget hsome)
  · exact fun problem other mutex hp hq => h.own problem other mutex (hget hp) (hget hq)
  · exact fun problem mutex hsome => h.line problem mutex (hget hsome)

end Prune

section Step

variable {locks : Locks} {problem : Int} {ticket : Int}

/-- The mutex at which a request for a problem stands in line. -/
def mutexFor (locks : Locks) (problem : Int) : Int :=
  (locks.prune.table.get? problem).getD locks.next

lemma get?_requests_request (locks : Locks) (problem : Int) (ticket : Int) :
    (locks.request problem).2.requests.get? ticket =
      if locks.next = ticket then some
        { problem
          mutex := locks.mutexFor problem
          held := (locks.line (locks.mutexFor problem) ++ [locks.next]).head? == some locks.next }
      else locks.requests.get? ticket := Table.get?_insert ..

lemma get?_table_request (locks : Locks) (problem other : Int) :
    (locks.request problem).2.table.get? other =
      if problem = other then some (locks.mutexFor problem) else locks.prune.table.get? other :=
  Table.get?_insert ..

lemma line_request (locks : Locks) (problem mutex : Int) :
    (locks.request problem).2.line mutex =
      if locks.mutexFor problem = mutex then locks.line (locks.mutexFor problem) ++ [locks.next]
      else locks.line mutex := by
  have hget : (locks.request problem).2.lines.get? mutex =
      if locks.mutexFor problem = mutex then
        some (locks.line (locks.mutexFor problem) ++ [locks.next])
      else locks.lines.get? mutex := Table.get?_insert ..
  rw [line, hget]
  split <;> rfl

lemma asking_request (h : Sound locks) (problem other : Int) :
    (locks.request problem).2.asking other =
      if problem = other then locks.asking problem ++ [locks.next] else locks.asking other := by
  have hlt : ∀ ticket ∈ locks.asking other, ticket < locks.next := by
    intro ticket hticket
    obtain ⟨request, hlive, -⟩ := mem_asking.mp hticket
    exact h.numbered ticket request hlive
  by_cases hp : problem = other
  · subst hp
    rw [if_pos rfl]
    apply asking_eq
    · rw [List.pairwise_append]
      exact ⟨ascending_asking locks problem, List.pairwise_singleton .., by simpa using hlt⟩
    · intro ticket
      rw [List.mem_append, List.mem_singleton, mem_asking, get?_requests_request]
      by_cases hnew : locks.next = ticket
      · subst hnew
        simp
      · simp [hnew, Ne.symm hnew]
  · rw [if_neg hp]
    apply asking_eq (ascending_asking locks other)
    intro ticket
    rw [mem_asking, get?_requests_request]
    by_cases hnew : locks.next = ticket
    · subst hnew
      have hnone : ∀ request, locks.requests.get? locks.next ≠ some request :=
        fun request hlive => Int.lt_irrefl _ (h.numbered _ request hlive)
      simp [hnone, hp]
    · simp [hnew]

/-- The line that a request joins has all live requests for its problem. -/
lemma line_mutexFor (h : Sound locks) (problem : Int) :
    locks.line (locks.mutexFor problem) = locks.asking problem := by
  rw [mutexFor]
  cases hget : locks.prune.table.get? problem with
  | some mutex => exact h.prune.line problem mutex hget
  | none =>
    rw [Option.getD_none, h.unmade _ (Int.le_refl _), eq_comm, List.eq_nil_iff_forall_not_mem]
    intro ticket hticket
    obtain ⟨request, hlive, rfl⟩ := mem_asking.mp hticket
    have hplaced := h.prune.placed ticket request hlive
    rw [hget] at hplaced
    contradiction

/-- The mutex of a request is its own or new. -/
lemma mutexFor_eq_iff (h : Sound locks) {other mutex : Int}
    (hget : locks.prune.table.get? other = some mutex) :
    locks.mutexFor problem = mutex ↔ problem = other := by
  constructor
  · rw [mutexFor]
    cases hproblem : locks.prune.table.get? problem with
    | some own =>
      rw [Option.getD_some]
      rintro rfl
      exact h.prune.own problem other own hproblem hget
    | none =>
      rintro rfl
      exact absurd (h.prune.made other _ hget) (Int.lt_irrefl _)
  · rintro rfl
    rw [mutexFor, hget, Option.getD_some]

lemma mutexFor_le (h : Sound locks) (problem : Int) : locks.mutexFor problem ≤ locks.next := by
  rw [mutexFor]
  cases hget : locks.prune.table.get? problem with
  | some mutex => exact Int.le_of_lt (h.prune.made problem mutex hget)
  | none => exact Int.le_refl _

lemma Sound.request (h : Sound locks) (problem : Int) : Sound (locks.request problem).2 := by
  have hnext : (locks.request problem).2.next = locks.next + 1 := rfl
  constructor
  case numbered =>
    intro ticket request hlive
    rw [get?_requests_request] at hlive
    rw [hnext]
    split at hlive
    · omega
    · have := h.numbered ticket request hlive
      omega
  case placed =>
    intro ticket request hlive
    rw [get?_requests_request] at hlive
    rw [get?_table_request]
    split at hlive
    · obtain rfl := Option.some.inj hlive
      rw [if_pos rfl]
    · have hplaced := h.prune.placed ticket request hlive
      split
      · next hp => rw [(mutexFor_eq_iff h hplaced).mpr hp]
      · exact hplaced
  case made =>
    intro other mutex hget
    rw [get?_table_request] at hget
    rw [hnext]
    split at hget
    · obtain rfl := Option.some.inj hget
      have := mutexFor_le h problem
      omega
    · have hlt : mutex < locks.next := h.prune.made other mutex hget
      omega
  case own =>
    intro p q mutex hp hq
    rw [get?_table_request] at hp hq
    split at hp
    · next hproblem =>
      subst hproblem
      obtain rfl := Option.some.inj hp
      split at hq
      · assumption
      · exact (mutexFor_eq_iff h hq).mp rfl
    · split at hq
      · next hproblem =>
        subst hproblem
        obtain rfl := Option.some.inj hq
        exact ((mutexFor_eq_iff h hp).mp rfl).symm
      · exact h.prune.own p q mutex hp hq
  case line =>
    intro other mutex hget
    rw [get?_table_request] at hget
    rw [line_request, asking_request h, line_mutexFor h]
    split at hget
    · next hproblem =>
      rw [if_pos (Option.some.inj hget), if_pos hproblem]
    · next hproblem =>
      rw [if_neg (mt (mutexFor_eq_iff h hget).mp hproblem), if_neg hproblem]
      exact h.prune.line other mutex hget
  case unmade =>
    intro mutex hmutex
    have hle := mutexFor_le h problem
    rw [hnext] at hmutex
    rw [line_request, if_neg (by omega)]
    exact h.unmade mutex (by omega)
  case first =>
    intro ticket request hlive hheld
    rw [get?_requests_request] at hlive
    rw [asking_request h]
    split at hlive
    · next hnew =>
      obtain rfl := Option.some.inj hlive
      subst hnew
      rw [if_pos rfl, ← line_mutexFor h]
      simpa using hheld
    · have hfirst := h.first ticket request hlive hheld
      split
      · next hp =>
        rw [hp, List.head?_append, hfirst]
        rfl
      · exact hfirst

lemma get?_requests_poll (locks : Locks) (ticket other : Int) :
    (locks.poll ticket).requests.get? other =
      if ticket = other then (locks.requests.get? ticket).map fun request =>
        { request with held := (locks.line request.mutex).head? == some ticket }
      else locks.requests.get? other := by
  rw [poll]
  cases hget : locks.requests.get? ticket with
  | none =>
    by_cases hticket : ticket = other
    · subst hticket
      simp [hget]
    · simp [hticket]
  | some request => exact Table.get?_insert ..

lemma poll_keeps (locks : Locks) (ticket : Int) : (locks.poll ticket).table = locks.table ∧
    (locks.poll ticket).line = locks.line ∧ (locks.poll ticket).next = locks.next := by
  rw [poll]
  cases locks.requests.get? ticket <;> exact ⟨rfl, rfl, rfl⟩

lemma asking_poll (locks : Locks) (ticket problem : Int) :
    (locks.poll ticket).asking problem = locks.asking problem := by
  apply asking_eq (ascending_asking locks problem)
  intro other
  rw [mem_asking, get?_requests_poll]
  by_cases hticket : ticket = other
  · subst hticket
    cases hget : locks.requests.get? ticket <;> simp
  · simp [hticket]

lemma Sound.poll (h : Sound locks) (ticket : Int) : Sound (locks.poll ticket) := by
  obtain ⟨htable, hline, hnext⟩ := poll_keeps locks ticket
  -- Nothing but the mark of one request changes, and that is set at the head of a line only.
  have hsame : ∀ {other request}, (locks.poll ticket).requests.get? other = some request →
      ∃ former, locks.requests.get? other = some former ∧ former.problem = request.problem ∧
        former.mutex = request.mutex ∧ (request.held = true → former.held = true ∨
          (locks.line former.mutex).head? = some other) := by
    intro other request hlive
    rw [get?_requests_poll] at hlive
    split at hlive
    · next hticket =>
      subst hticket
      obtain ⟨former, hformer, rfl⟩ := Option.map_eq_some_iff.mp hlive
      exact ⟨former, hformer, rfl, rfl, fun hheld => .inr (by simpa using hheld)⟩
    · exact ⟨request, hlive, rfl, rfl, .inl⟩
  constructor
  case numbered =>
    intro other request hlive
    obtain ⟨former, hformer, -⟩ := hsame hlive
    rw [hnext]
    exact h.numbered other former hformer
  case placed =>
    intro other request hlive
    obtain ⟨former, hformer, hproblem, hmutex, -⟩ := hsame hlive
    rw [htable, ← hproblem, ← hmutex]
    exact h.placed other former hformer
  case made =>
    rw [htable, hnext]
    exact h.made
  case own =>
    rw [htable]
    exact h.own
  case line =>
    intro problem mutex hget
    rw [htable] at hget
    rw [hline, asking_poll]
    exact h.line problem mutex hget
  case unmade =>
    rw [hline, hnext]
    exact h.unmade
  case first =>
    intro other request hlive hheld
    obtain ⟨former, hformer, hproblem, -, hmark⟩ := hsame hlive
    rw [asking_poll, ← hproblem]
    rcases hmark hheld with hheld | hhead
    · exact h.first other former hformer hheld
    · rwa [h.line _ _ (h.placed other former hformer)] at hhead

lemma get?_requests_drop (locks : Locks) (ticket other : Int) :
    (locks.drop ticket).requests.get? other =
      if ticket = other then none else locks.requests.get? other := by
  rw [drop]
  cases hget : locks.requests.get? ticket with
  | none =>
    by_cases hticket : ticket = other
    · subst hticket
      simp [hget]
    · simp [hticket]
  | some request => exact Table.get?_erase ..

lemma drop_keeps (locks : Locks) (ticket : Int) :
    (locks.drop ticket).table = locks.table ∧ (locks.drop ticket).next = locks.next := by
  rw [drop]
  cases locks.requests.get? ticket <;> exact ⟨rfl, rfl⟩

lemma asking_drop (locks : Locks) (ticket problem : Int) :
    (locks.drop ticket).asking problem = (locks.asking problem).erase ticket := by
  apply asking_eq ((ascending_asking locks problem).sublist List.erase_sublist)
  intro other
  rw [(nodup_asking locks problem).mem_erase_iff, mem_asking, get?_requests_drop]
  by_cases hticket : ticket = other
  · subst hticket
    simp
  · simp [hticket, Ne.symm hticket]

lemma line_drop (h : Sound locks) {mutex : Int} (hget : locks.table.get? problem = some mutex) :
    (locks.drop ticket).line mutex = (locks.line mutex).erase ticket := by
  rw [h.line problem mutex hget]
  have hnot : (∀ request, locks.requests.get? ticket = some request → request.mutex ≠ mutex) →
      (locks.asking problem).erase ticket = locks.asking problem := by
    intro hne
    apply List.erase_of_not_mem
    intro hmem
    obtain ⟨request, hlive, rfl⟩ := mem_asking.mp hmem
    exact hne request hlive (Option.some.inj ((h.placed ticket request hlive).symm.trans hget))
  rw [drop]
  cases hlive : locks.requests.get? ticket with
  | none =>
    rw [hnot (by simp [hlive])]
    exact h.line problem mutex hget
  | some request =>
    rw [line, Table.get?_insert]
    split
    · next hmutex => rw [Option.getD_some, hmutex, h.line problem mutex hget]
    · next hmutex =>
      rw [hnot (by simpa [hlive] using hmutex)]
      exact h.line problem mutex hget

lemma Sound.drop (h : Sound locks) (ticket : Int) : Sound (locks.drop ticket) := by
  obtain ⟨htable, hnext⟩ := drop_keeps locks ticket
  have hsame : ∀ {other request}, (locks.drop ticket).requests.get? other = some request →
      other ≠ ticket ∧ locks.requests.get? other = some request := by
    intro other request hlive
    rw [get?_requests_drop] at hlive
    split at hlive
    · contradiction
    · next hticket => exact ⟨Ne.symm hticket, hlive⟩
  constructor
  case numbered =>
    intro other request hlive
    rw [hnext]
    exact h.numbered other request (hsame hlive).2
  case placed =>
    intro other request hlive
    rw [htable]
    exact h.placed other request (hsame hlive).2
  case made =>
    rw [htable, hnext]
    exact h.made
  case own =>
    rw [htable]
    exact h.own
  case line =>
    intro problem mutex hget
    rw [htable] at hget
    rw [line_drop h hget, asking_drop, h.line problem mutex hget]
  case unmade =>
    intro mutex hmutex
    rw [hnext] at hmutex
    have hnone := h.unmade mutex hmutex
    rw [Locks.drop]
    cases locks.requests.get? ticket with
    | none => exact hnone
    | some request =>
      rw [Locks.line, Table.get?_insert]
      split
      · next heq => rw [Option.getD_some, heq, hnone, List.erase_nil]
      · exact hnone
  case first =>
    intro other request hlive hheld
    obtain ⟨hne, hlive⟩ := hsame hlive
    obtain ⟨rest, hrest⟩ := List.head?_eq_some_iff.mp (h.first other request hlive hheld)
    rw [asking_drop, hrest, List.erase_cons_tail (by simpa using hne), List.head?_cons]

lemma Sound.step (h : Sound locks) (event : Event) : Sound (locks.step event) := by
  cases event with
  | request problem => exact h.request problem
  | poll ticket => exact h.poll ticket
  | drop ticket => exact h.drop ticket
  | tracked => exact h.prune

lemma sound_empty : Sound {} where
  numbered _ _ h := by simp at h
  placed _ _ h := by simp at h
  made _ _ h := by simp at h
  own _ _ _ h := by simp at h
  line _ _ h := by simp at h
  unmade _ _ := rfl
  first _ _ h := by simp at h

lemma Sound.run (h : Sound locks) (events : List Event) : Sound (locks.run events) := by
  induction events generalizing locks with
  | nil => exact h
  | cons event events ih => exact ih (h.step event)

end Step

end Judge.Archive.Locks
