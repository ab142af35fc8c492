import Mathlib.Tactic.Lemma
import Judge.Archive.Transfer
import Judge.Proofs.Store.Ids

/-!
Runs of programs that move data: what a composed program does is what its parts do one after the
other, and what goes wrong in a store call is an error of the store. `Sat` says what calls a program
makes, whatever it is answered, so what one such call keeps a whole run keeps.
-/

namespace Judge

namespace Archive

/-- An error that a store call caused. -/
def Error.IsStore (error : Error) : Prop := ∃ purpose cause, error = .store purpose cause

namespace Transfer

variable {α β σ : Type} {handle : Store.Handler σ}

/-- The store calls that a program makes. -/
def calls (handle : Store.Handler σ) (transfer : Transfer α) (s : σ) : List Store.Call :=
  Script.trace handle transfer.run s

@[simp] theorem calls_ofExcept (result : Except Error α) (s : σ) :
    calls handle (ofExcept result) s = [] := rfl

theorem runOn_bind_of_ok {first : Transfer α} {s t : σ} {a : α}
    (h : runOn handle first s = (.ok a, t)) (next : α → Transfer β) :
    runOn handle (first >>= next) s = runOn handle (next a) t := by
  rw [runOn_bind, h]

theorem runOn_bind_ok_iff {first : Transfer α} {next : α → Transfer β} {s t : σ} {b : β} :
    runOn handle (first >>= next) s = (.ok b, t) ↔
      ∃ a u, runOn handle first s = (.ok a, u) ∧ runOn handle (next a) u = (.ok b, t) := by
  rw [runOn_bind]
  rcases runOn handle first s with ⟨e | a, u⟩
  · simp
  · constructor
    · exact fun h => ⟨a, u, rfl, h⟩
    · rintro ⟨_, _, ⟨rfl, rfl⟩, h⟩
      exact h

theorem runOn_bind_error_iff {first : Transfer α} {next : α → Transfer β} {s t : σ} {e : Error} :
    runOn handle (first >>= next) s = (.error e, t) ↔
      runOn handle first s = (.error e, t) ∨
        ∃ a u, runOn handle first s = (.ok a, u) ∧ runOn handle (next a) u = (.error e, t) := by
  rw [runOn_bind]
  rcases runOn handle first s with ⟨e | a, u⟩
  · simp
  · constructor
    · exact fun h => .inr ⟨a, u, rfl, h⟩
    · rintro (h | ⟨_, _, ⟨rfl, rfl⟩, h⟩)
      · simp at h
      · exact h

/-- A request succeeds exactly when its store call does, with what the call gives. -/
theorem runOn_request_ok_iff {purpose : Purpose} {call : Store.Call} {s t : σ} {value : call.Value} :
    runOn handle (request purpose call) s = (.ok value, t) ↔ handle call s = (.ok value, t) := by
  rw [runOn_request]
  rcases handle call s with ⟨cause | answer, u⟩
  · change (Except.error (Error.store purpose cause), u) = (Except.ok value, t) ↔ _
    simp
  · change (Except.ok answer, u) = (Except.ok value, t) ↔ _
    simp

/-- A request fails exactly when its store call does, with an error of the store. -/
theorem runOn_request_error_iff {purpose : Purpose} {call : Store.Call} {s t : σ} {e : Error} :
    runOn handle (request purpose call) s = (.error e, t) ↔
      ∃ cause, handle call s = (.error cause, t) ∧ e = .store purpose cause := by
  rw [runOn_request]
  rcases handle call s with ⟨cause | answer, u⟩
  · change (Except.error (Error.store purpose cause), u) = (Except.error e, t) ↔ _
    constructor
    · intro h
      obtain ⟨herror, rfl⟩ := Prod.mk.inj h
      exact ⟨cause, rfl, (Except.error.inj herror).symm⟩
    · rintro ⟨_, h, rfl⟩
      obtain ⟨herror, rfl⟩ := Prod.mk.inj h
      rw [Except.error.inj herror]
  · change (Except.ok answer, u) = (Except.error e, t) ↔ _
    simp

/-- A store call that fails gives an error of the store. -/
theorem isStore_of_request {purpose : Purpose} {call : Store.Call} {s t : σ} {e : Error}
    (h : runOn handle (request purpose call) s = (.error e, t)) : e.IsStore := by
  obtain ⟨cause, -, rfl⟩ := runOn_request_error_iff.mp h
  exact ⟨purpose, cause, rfl⟩

/-! ### Calls -/

section Sat

/-- A program makes allowed calls only, ends with an error at the first one that fails, and gives
what it should if it succeeds, as long as the values that it is given are the expected ones. -/
def Satisfies (allowed : Store.Call → Prop) (expected : (call : Store.Call) → call.Value → Prop)
    (post : α → Prop) : Store.Program (Except Error α) → Prop
  | .done result => ∀ a, result = .ok a → post a
  | .call call next => allowed call ∧
    (∀ cause, ∃ error, next (.error cause) = .done (.error error)) ∧
    ∀ value, expected call value → Satisfies allowed expected post (next (.ok value))

variable {allowed : Store.Call → Prop} {expected : (call : Store.Call) → call.Value → Prop}
  {post : α → Prop} {post' : β → Prop} {transfer : Transfer α}

/-- What a program does as it is allowed to. -/
def Sat (allowed : Store.Call → Prop) (expected : (call : Store.Call) → call.Value → Prop)
    (post : α → Prop) (transfer : Transfer α) : Prop :=
  Satisfies allowed expected post transfer.run

lemma sat_pure {a : α} (h : post a) : Sat allowed expected post (pure a) :=
  fun _ hb => Except.ok.inj hb ▸ h

lemma sat_throw (error : Error) : Sat allowed expected post (throw error : Transfer α) :=
  fun _ hb => absurd hb (by simp)

lemma sat_ofExcept {result : Except Error α} (h : ∀ a, result = .ok a → post a) :
    Sat allowed expected post (ofExcept result) := h

lemma sat_request {purpose : Purpose} {call : Store.Call} {post : call.Value → Prop}
    (hcall : allowed call) (h : ∀ value, expected call value → post value) :
    Sat allowed expected post (request purpose call) := by
  refine ⟨hcall, fun cause => ⟨.store purpose cause, rfl⟩, fun value hvalue a ha => ?_⟩
  obtain rfl : value = a := Except.ok.inj ha
  exact h value hvalue

lemma Sat.bind {first : Transfer α} {next : α → Transfer β} (h : Sat allowed expected post first)
    (hnext : ∀ a, post a → Sat allowed expected post' (next a)) :
    Sat allowed expected post' (first >>= next) := by
  have hprogram : ∀ program : Store.Program (Except Error α),
      Satisfies allowed expected post program →
        Satisfies allowed expected post' (program.bind (ExceptT.bindCont next)) := by
    intro program hprogram
    induction program with
    | done result =>
      cases result with
      | error error => exact fun b hb => absurd hb (by simp)
      | ok a => exact hnext a (hprogram a rfl)
    | call call rest ih =>
      obtain ⟨hcall, hended, hrest⟩ := hprogram
      refine ⟨hcall, fun cause => ?_, fun value hvalue => ih _ (hrest value hvalue)⟩
      obtain ⟨error, hdone⟩ := hended cause
      exact ⟨error, by simp only [hdone]; rfl⟩
  exact hprogram first.run h

/-- What a whole run keeps if each allowed call does. The invariant may count down the calls that
are still to come, and the change from state to state may be told by a transitive relation. -/
theorem Sat.run {inv : Nat → σ → Prop} {change : σ → σ → Prop} (hrefl : ∀ s, change s s)
    (htrans : ∀ s t u, change s t → change t u → change s u)
    (hstep : ∀ n call s, allowed call → inv (n + 1) s →
      (∀ value, (handle call s).1 = .ok value → expected call value) ∧ inv n (handle call s).2 ∧
        change s (handle call s).2)
    (h : Sat allowed expected post transfer) {n : Nat} {s : σ}
    (hs : inv ((calls handle transfer s).length + n) s) :
    inv n (runOn handle transfer s).2 ∧ change s (runOn handle transfer s).2 := by
  have hprogram : ∀ program : Store.Program (Except Error α),
      Satisfies allowed expected post program → ∀ s, inv ((program.trace handle s).length + n) s →
        inv n (program.run handle s).2 ∧ change s (program.run handle s).2 := by
    -- Each call uses up one of those that the invariant counts; a failed one is the last.
    intro program hprogram
    induction program with
    | done result => exact fun s hs => ⟨by simpa [Script.trace] using hs, hrefl s⟩
    | call call next ih =>
      intro s hs
      obtain ⟨hcall, hended, hrest⟩ := hprogram
      have hcount : inv (((next (handle call s).1).trace handle (handle call s).2).length + n + 1)
          s := by
        simpa [Script.trace, Nat.add_right_comm] using hs
      obtain ⟨hvalue, hinv, hchange⟩ := hstep _ call s hcall hcount
      rw [Script.run_call]
      cases hanswer : (handle call s).1 with
      | error cause =>
        obtain ⟨error, hdone⟩ := hended cause
        rw [hanswer, hdone] at hinv
        rw [hdone]
        exact ⟨by simpa [Script.trace] using hinv, hchange⟩
      | ok value =>
        rw [hanswer] at hinv
        obtain ⟨hleft, hlater⟩ := ih _ (hrest value (hvalue value hanswer)) _ hinv
        exact ⟨hleft, htrans _ _ _ hchange hlater⟩
  exact hprogram transfer.run h s hs

/-- Two stores on which every allowed call is answered alike are told apart by no program that makes
such calls only. The relation between them may need that the ids are bounded. -/
theorem Sat.lockstep {τ : Type} {handle' : Store.Handler τ} {related : σ → τ → Prop} {bound : Int}
    (hstep : ∀ call s t, allowed call → related s t →
      (∀ id, call.newId? (handle call s).1 = some id → id ≤ bound) →
      Store.Alike (handle call s).1 (handle' call t).1 ∧
        related (handle call s).2 (handle' call t).2 ∧
        ∀ value, (handle call s).1 = .ok value → expected call value)
    (h : Sat allowed expected post transfer) {s : σ} {t : τ} (hs : related s t)
    (hids : ∀ id ∈ Store.Handler.assigned handle (calls handle transfer s) s, id ≤ bound) :
    Store.Alike (runOn handle transfer s).1 (runOn handle' transfer t).1 ∧
      related (runOn handle transfer s).2 (runOn handle' transfer t).2 ∧
      Store.Handler.assigned handle' (calls handle' transfer t) t =
        Store.Handler.assigned handle (calls handle transfer s) s := by
  have hprogram : ∀ program : Store.Program (Except Error α),
      Satisfies allowed expected post program → ∀ s t, related s t →
      (∀ id ∈ Store.Handler.assigned handle (program.trace handle s) s, id ≤ bound) →
      Store.Alike (program.run handle s).1 (program.run handle' t).1 ∧
        related (program.run handle s).2 (program.run handle' t).2 ∧
        Store.Handler.assigned handle' (program.trace handle' t) t =
          Store.Handler.assigned handle (program.trace handle s) s := by
    intro program hprogram
    induction program with
    | done result => exact fun s t hs _ => ⟨rfl, hs, rfl⟩
    | call call next ih =>
      intro s t hs hids
      obtain ⟨hcall, hended, hrest⟩ := hprogram
      simp only [Script.trace, Store.Handler.assigned, List.forall_mem_append,
        Option.mem_toList] at hids
      obtain ⟨halike, hrelated, hvalue⟩ := hstep call s t hcall hs hids.1
      simp only [Script.run_call, Script.trace, Store.Handler.assigned,
        ← Store.newId?_congr halike, List.append_cancel_left_eq]
      -- Both answer with the same value, or both programs end here.
      cases hanswer : (handle call s).1 with
      | error cause =>
        cases hanswer' : (handle' call t).1 with
        | error cause' =>
          obtain ⟨error, hdone⟩ := hended cause
          obtain ⟨error', hdone'⟩ := hended cause'
          rw [hdone, hdone']
          exact ⟨rfl, hrelated, rfl⟩
        | ok value => simp [Store.Alike, hanswer, hanswer', Except.toOption] at halike
      | ok value =>
        cases hanswer' : (handle' call t).1 with
        | error cause => simp [Store.Alike, hanswer, hanswer', Except.toOption] at halike
        | ok value' =>
          obtain rfl : value = value' := by
            simpa [Store.Alike, hanswer, hanswer', Except.toOption] using halike
          rw [hanswer] at hids
          exact ih _ (hrest value (hvalue value hanswer)) _ _ hrelated hids.2
  exact hprogram transfer.run h s t hs hids

end Sat

end Transfer
end Archive
end Judge
