import Judge.Proofs.Archive.Locks

/-!
Locks go from request to request in the order of the first polls: a request is granted at a poll
exactly when no older one for its problem is left. So guards exclude each other, no lock is lost when
a request is dropped, and problems do not wait for one another.
-/

namespace Judge.Archive.Locks

variable {locks : Locks} {problem ticket : Int}

lemma holds_iff : locks.holds ticket = true ↔
    ∃ request, locks.requests.get? ticket = some request ∧ request.held = true := by
  rw [holds, Option.any_eq_true]

lemma oldest_of_holds (h : Sound locks) (hholds : locks.holds ticket = true) :
    locks.Oldest ticket := by
  obtain ⟨request, hlive, hheld⟩ := holds_iff.mp hholds
  exact (head?_asking_iff hlive).mp (h.first ticket request hlive hheld)

/-- A request is granted at a poll exactly when it is the oldest one for its problem. -/
theorem holds_poll_iff (h : Sound locks) :
    (locks.poll ticket).holds ticket = true ↔ locks.Oldest ticket := by
  rw [holds_iff, get?_requests_poll, if_pos rfl]
  cases hlive : locks.requests.get? ticket with
  | none => simp [Oldest, hlive]
  | some request =>
    rw [← head?_asking_iff hlive, ← h.line _ _ (h.placed ticket request hlive)]
    simp

theorem holds_request_iff (h : Sound locks) :
    (locks.request problem).2.holds (locks.request problem).1 = true ↔
      locks.asking problem = [] := by
  have hticket : (locks.request problem).1 = locks.next := rfl
  rw [hticket, holds_iff, get?_requests_request, if_pos rfl, line_mutexFor h]
  cases hasking : locks.asking problem with
  | nil => simp
  | cons first rest =>
    obtain ⟨request, hlive, -⟩ := mem_asking.mp (by rw [hasking]; exact List.mem_cons_self)
    have hlt := h.numbered first request hlive
    have hne : first ≠ locks.next := Int.ne_of_lt hlt
    simp [hne]

lemma oldest_iff : locks.Oldest ticket ↔ ∃ problem, (locks.asking problem).head? = some ticket := by
  constructor
  · intro holdest
    obtain ⟨request, hlive, -⟩ := id holdest
    exact ⟨request.problem, (head?_asking_iff hlive).mpr holdest⟩
  · rintro ⟨problem, hhead⟩
    obtain ⟨request, hlive, rfl⟩ := mem_asking.mp (List.mem_of_head? hhead)
    exact (head?_asking_iff hlive).mp hhead

/-- The oldest request for a problem remains so until it is dropped. -/
lemma Oldest.step (h : Sound locks) (holdest : locks.Oldest ticket) {event : Event}
    (hne : event ≠ .drop ticket) : (locks.step event).Oldest ticket := by
  obtain ⟨problem, hhead⟩ := oldest_iff.mp holdest
  refine oldest_iff.mpr ⟨problem, ?_⟩
  cases event with
  | request other =>
    rw [Locks.step, asking_request h]
    split
    · next hproblem =>
      rw [hproblem, List.head?_append, hhead]
      rfl
    · exact hhead
  | poll other => rwa [Locks.step, asking_poll]
  | drop other =>
    -- Who leaves stood behind the first one.
    have hother : ticket ≠ other := fun heq => hne (congrArg Event.drop heq.symm)
    obtain ⟨rest, hrest⟩ := List.head?_eq_some_iff.mp hhead
    rw [Locks.step, asking_drop, hrest, List.erase_cons_tail (by simpa using hother),
      List.head?_cons]
  | tracked => exact hhead

lemma Oldest.run (h : Sound locks) (holdest : locks.Oldest ticket) {events : List Event}
    (hnot : .drop ticket ∉ events) : (locks.run events).Oldest ticket := by
  induction events generalizing locks with
  | nil => exact holdest
  | cons event events ih =>
    rw [List.mem_cons, not_or] at hnot
    exact ih (h.step event) (holdest.step h (Ne.symm hnot.1)) hnot.2

lemma mem_problems : problem ∈ locks.requests.values.map (·.problem) ↔ locks.asking problem ≠ [] := by
  constructor
  · intro hmem
    obtain ⟨request, hrequest, rfl⟩ := List.mem_map.mp hmem
    obtain ⟨⟨ticket, _⟩, hentry, rfl⟩ := List.mem_map.mp hrequest
    exact List.ne_nil_of_mem (mem_asking.mpr ⟨_, Table.get?_eq_some_iff.mpr hentry, rfl⟩)
  · intro hne
    obtain ⟨ticket, hticket⟩ := List.exists_mem_of_ne_nil _ hne
    obtain ⟨request, hlive, rfl⟩ := mem_asking.mp hticket
    exact List.mem_map_of_mem (Table.mem_values hlive)

lemma tracked_eq (h : Sound locks) :
    locks.tracked.1 = (locks.requests.values.map (·.problem)).dedup.length := by
  have hmem : ∀ problem, problem ∈ locks.prune.table.keys ↔
      problem ∈ locks.requests.values.map (·.problem) := by
    intro problem
    rw [Table.mem_keys_iff, get?_prune h, mem_problems]
    by_cases hnone : locks.asking problem = []
    · simp [hnone]
    · obtain ⟨ticket, hticket⟩ := List.exists_mem_of_ne_nil _ hnone
      obtain ⟨request, hlive, rfl⟩ := mem_asking.mp hticket
      simp [hnone, h.placed ticket request hlive]
  rw [tracked, ← Table.length_keys]
  apply List.Perm.length_eq
  rw [List.perm_ext_iff_of_nodup (Table.nodup_keys _) (List.nodup_dedup _)]
  intro problem
  rw [List.mem_dedup, hmem]

/-- What locks guarantee to those who ask for them. -/
structure Serves (locks : Locks) : Prop where
  /-- There are no two guards for one problem. -/
  exclusive : ∀ ticket other request found, locks.requests.get? ticket = some request →
    locks.requests.get? other = some found → request.held = true → found.held = true →
      request.problem = found.problem → ticket = other
  /-- Nobody is a guard before a request for the same problem that was polled earlier. -/
  inOrder : ∀ ticket, locks.holds ticket = true → locks.Oldest ticket
  /-- The oldest request gets the lock at a poll. -/
  granted : ∀ ticket, (locks.poll ticket).holds ticket = true ↔ locks.Oldest ticket
  /-- When the oldest request is dropped, be it a guard or not, the lock goes to the next one, which
  gets it when it is polled next, whatever happens before that. -/
  handedOn : ∀ problem ticket next rest, locks.asking problem = ticket :: next :: rest →
    ∀ events, .drop next ∉ events →
      (((locks.drop ticket).run events).poll next).holds next = true
  /-- A request for a problem that nobody asks for is granted at once. -/
  idle : ∀ problem, (∀ ticket request, locks.requests.get? ticket = some request →
    request.problem ≠ problem) → (locks.request problem).2.holds (locks.request problem).1 = true
  /-- As many problems are tracked as there are with live requests. -/
  tracked : locks.tracked.1 = (locks.requests.values.map (·.problem)).dedup.length

/-- Locks serve those who ask for them after any requests, polls and drops. -/
theorem serves_run (events : List Event) : Serves (run {} events) := by
  have h := sound_empty.run events
  generalize run {} events = locks at h
  constructor
  case exclusive =>
    intro ticket other request found hlive hfound hheld hheld' hproblem
    have hfirst := h.first ticket request hlive hheld
    have hfirst' := h.first other found hfound hheld'
    rw [hproblem, hfirst'] at hfirst
    exact (Option.some.inj hfirst).symm
  case inOrder => exact fun ticket => oldest_of_holds h
  case granted => exact fun ticket => holds_poll_iff h
  case handedOn =>
    intro problem ticket next rest hasking events hnot
    have hnext : (locks.drop ticket).Oldest next := by
      rw [oldest_iff]
      refine ⟨problem, ?_⟩
      rw [asking_drop, hasking, List.erase_cons_head, List.head?_cons]
    exact (holds_poll_iff ((h.drop ticket).run events)).mpr (hnext.run (h.drop ticket) hnot)
  case idle =>
    intro problem hnone
    rw [holds_request_iff h, List.eq_nil_iff_forall_not_mem]
    intro ticket hmem
    obtain ⟨request, hlive, hproblem⟩ := mem_asking.mp hmem
    exact hnone ticket request hlive hproblem
  case tracked => exact tracked_eq h

end Judge.Archive.Locks
