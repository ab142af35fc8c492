import Mathlib.Tactic.Lemma
import Judge.Store.Call

/-!
Programs that share a store. The store has a part for each problem, and the calls that a program makes
for its problem leave the other parts alone. What such a program achieves, it achieves however the
calls of programs for other problems come between its own.
-/

namespace Judge.Store

/-- The parts of a store, of which each belongs to a problem. -/
structure Parts {σ : Type} (handle : Handler σ) where
  /-- What always holds of the store. -/
  Sound : σ → Prop
  /-- The calls that may be made for a problem. -/
  Owns : Int → Call → σ → Prop
  /-- The part of a problem did not change. -/
  Same : Int → σ → σ → Prop
  refl : ∀ problem s, Same problem s s
  trans : ∀ {problem s t u}, Same problem s t → Same problem t u → Same problem s u
  sound : ∀ {problem call s}, Sound s → Owns problem call s → Sound (handle call s).2
  same : ∀ {problem call s}, Sound s → Owns problem call s →
    ∀ other ≠ problem, Same other s (handle call s).2

namespace Parts

variable {σ α β : Type} {handle : Handler σ}

/-- From a state on a program makes calls for its problem only and ends as it should, whatever happens
to other parts before each of its calls and before its end. -/
def Achieves (parts : Parts handle) (problem : Int) (post : α → σ → Prop) : Program α → σ → Prop
  | .done result, s => ∀ t, parts.Sound t → parts.Same problem s t → post result t
  | .call call next, s => ∀ t, parts.Sound t → parts.Same problem s t →
    parts.Owns problem call t ∧ parts.Achieves problem post (next (handle call t).1) (handle call t).2

variable {parts : Parts handle} {problem : Int} {post mid : α → σ → Prop} {program : Program α}
  {s t : σ}

lemma Achieves.of_same (h : parts.Achieves problem post program s) (hsame : parts.Same problem s t) :
    parts.Achieves problem post program t := by
  -- Only the first call is asked about this state: the next one starts from what it left.
  cases program with
  | done result => exact fun u hu hother => h u hu (parts.trans hsame hother)
  | call call next => exact fun u hu hother => h u hu (parts.trans hsame hother)

lemma Achieves.mono (h : parts.Achieves problem mid program s)
    (himp : ∀ result t, mid result t → post result t) : parts.Achieves problem post program s := by
  induction program generalizing s with
  | done result => exact fun t ht hsame => himp result t (h t ht hsame)
  | call call next ih =>
    intro t ht hsame
    obtain ⟨howns, hnext⟩ := h t ht hsame
    exact ⟨howns, ih _ hnext⟩

/-- A program achieves what its second part does after its first one. -/
lemma Achieves.bind {post : β → σ → Prop} {next : α → Program β} (hs : parts.Sound s)
    (h : parts.Achieves problem mid program s)
    (hnext : ∀ result t, parts.Sound t → parts.Achieves problem mid (.done result) t →
      parts.Achieves problem post (next result) t) :
    parts.Achieves problem post (program.bind next) s := by
  induction program generalizing s with
  | done result => exact hnext result s hs h
  | call call rest ih =>
    intro t ht hsame
    obtain ⟨howns, hrest⟩ := h t ht hsame
    exact ⟨howns, ih _ (parts.sound ht howns) hrest⟩

lemma Achieves.run (h : parts.Achieves problem post program s) (hs : parts.Sound s) :
    post (program.run handle s).1 (program.run handle s).2 ∧
      parts.Sound (program.run handle s).2 ∧
      ∀ other ≠ problem, parts.Same other s (program.run handle s).2 := by
  induction program generalizing s with
  | done result => exact ⟨h s hs (parts.refl problem s), hs, fun other _ => parts.refl other s⟩
  | call call next ih =>
    obtain ⟨howns, hnext⟩ := h s hs (parts.refl problem s)
    obtain ⟨hpost, hsound, hsame⟩ := ih _ hnext (parts.sound hs howns)
    exact ⟨hpost, hsound, fun other hne =>
      parts.trans (parts.same hs howns other hne) (hsame other hne)⟩

/-- The store as one part that belongs to one problem. -/
def whole (handle : Handler σ) (problem : Int) : Parts handle where
  Sound _ := True
  Owns owner _ _ := owner = problem
  Same owner s t := owner = problem → s = t
  refl _ _ _ := rfl
  trans h k hproblem := (h hproblem).trans (k hproblem)
  sound _ _ := trivial
  same _ howner _ hne hproblem := absurd (hproblem.trans howner.symm) hne

/-- Nothing comes between the calls of a program that has the whole store. -/
lemma achieves_whole (handle : Handler σ) (problem : Int) (program : Program α) (s : σ) :
    (whole handle problem).Achieves problem (fun result t => (result, t) = program.run handle s)
      program s := by
  induction program generalizing s with
  | done result =>
    intro t _ hsame
    rw [hsame rfl, Script.run_done]
  | call call next ih =>
    intro t _ hsame
    rw [← hsame rfl]
    exact ⟨rfl, ih _ _⟩

end Parts
end Judge.Store
