import Mathlib.Data.List.Forall2
import Mathlib.Tactic.Lemma

/-!
Lists that are related member by member: what the relation says of single members holds of all, and
keys that agree along the relation agree as lists. A computation that may fail succeeds only if each
of its parts does; one that also has a state runs from part to part.
-/

namespace Judge

variable {α β γ : Type} {R : α → β → Prop} {as : List α} {bs : List β}

theorem forall_mem_of_forall₂ {P : β → Prop} (h : List.Forall₂ R as bs) (hR : ∀ a b, R a b → P b) :
    ∀ b ∈ bs, P b := by
  induction h with
  | nil => simp
  | cons hab _ ih => exact List.forall_mem_cons.mpr ⟨hR _ _ hab, ih⟩

theorem exists_of_mem_of_forall₂ (h : List.Forall₂ R as bs) {a : α} (ha : a ∈ as) :
    ∃ b ∈ bs, R a b := by
  induction h with
  | nil => simp at ha
  | cons hab _ ih =>
    rcases List.mem_cons.mp ha with rfl | ha
    · exact ⟨_, List.mem_cons_self, hab⟩
    · obtain ⟨b, hb, hR⟩ := ih ha
      exact ⟨b, List.mem_cons_of_mem _ hb, hR⟩

/-- Along two lists a relation can be replaced by one that is the same for their members. -/
lemma forall₂_congr_of_mem {S : α → β → Prop} (h : ∀ a ∈ as, ∀ b ∈ bs, (R a b ↔ S a b)) :
    List.Forall₂ R as bs ↔ List.Forall₂ S as bs := by
  induction as generalizing bs with
  | nil => cases bs <;> simp
  | cons a as ih =>
    cases bs with
    | nil => simp
    | cons b bs =>
      have hrest : List.Forall₂ R as bs ↔ List.Forall₂ S as bs :=
        ih fun x hx y hy => h x (List.mem_cons_of_mem _ hx) y (List.mem_cons_of_mem _ hy)
      rw [List.forall₂_cons, List.forall₂_cons, h a List.mem_cons_self b List.mem_cons_self, hrest]

/-- Relations along three lists compose. -/
theorem forall₂_comp {δ : Type} {S : β → δ → Prop} {ds : List δ} (h : List.Forall₂ R as bs)
    (k : List.Forall₂ S bs ds) : List.Forall₂ (fun a d => ∃ b, R a b ∧ S b d) as ds := by
  induction h generalizing ds with
  | nil =>
    cases k
    exact .nil
  | cons hab _ ih =>
    cases k with
    | cons hbd k => exact .cons ⟨_, hab, hbd⟩ (ih k)

theorem map_eq_map_of_forall₂ {f : α → γ} {g : β → γ} (h : List.Forall₂ R as bs)
    (hR : ∀ a b, R a b → g b = f a) : bs.map g = as.map f := by
  induction h with
  | nil => rfl
  | cons hab _ ih => rw [List.map_cons, List.map_cons, hR _ _ hab, ih]

/-- What ascends on one side ascends on the other. -/
theorem pairwise_lt_of_forall₂ {f : α → Int} {g : β → Int} (h : List.Forall₂ R as bs)
    (hR : ∀ a b, R a b → g b = f a) (has : as.Pairwise fun x y => f x < f y) :
    bs.Pairwise fun x y => g x < g y := by
  rw [← List.pairwise_map (f := g) (R := (· < ·)), map_eq_map_of_forall₂ h hR]
  exact List.pairwise_map.mpr has

/-- Steps that all succeed succeed together. -/
theorem mapM_map_eq_ok {ε : Type} {f : β → Except ε γ} {g : α → β} {h : α → γ} {as : List α}
    (hstep : ∀ a ∈ as, f (g a) = .ok (h a)) : (as.map g).mapM f = .ok (as.map h) := by
  induction as with
  | nil => rfl
  | cons a as ih =>
    rw [List.map_cons, List.mapM_cons, hstep a (by simp), ih fun b hb => hstep b (by simp [hb])]
    rfl

/-- Results of steps that succeed together are the results of the steps. -/
theorem forall₂_of_mapM {ε : Type} {f : α → Except ε β} (h : as.mapM f = .ok bs) :
    List.Forall₂ (fun a b => f a = .ok b) as bs := by
  induction as generalizing bs with
  | nil =>
    obtain rfl : [] = bs := by simpa [pure, Except.pure] using h
    exact .nil
  | cons a as ih =>
    rw [List.mapM_cons] at h
    cases ha : f a with
    | error cause => simp [ha, bind, Except.bind] at h
    | ok b =>
      cases has : as.mapM f with
      | error cause => simp [ha, has, bind, Except.bind] at h
      | ok rest =>
        obtain rfl : b :: rest = bs := by
          simpa [ha, has, bind, Except.bind, pure, Except.pure] using h
        exact .cons ha (ih has)

section Lookup

variable [BEq α] [LawfulBEq α] {pairs : List (α × β)} {key : α}

/-- Under keys that differ each pair is found. -/
theorem lookup_eq_some_iff_mem (h : (pairs.map (·.1)).Nodup) {value : β} :
    pairs.lookup key = some value ↔ (key, value) ∈ pairs := by
  rw [List.lookup_eq_some_iff]
  constructor
  · rintro ⟨front, rest, rfl, -⟩
    simp
  · intro hmem
    obtain ⟨front, rest, rfl⟩ := List.append_of_mem hmem
    refine ⟨front, rest, rfl, fun pair hpair => ?_⟩
    rw [List.map_append, List.nodup_append] at h
    have hne := h.2.2 pair.1 (List.mem_map_of_mem hpair) key (by simp)
    simpa using Ne.symm hne

theorem lookup_of_perm {others : List (α × β)} (h : (pairs.map (·.1)).Nodup)
    (hperm : pairs.Perm others) : pairs.lookup key = others.lookup key := by
  have h' : (others.map (·.1)).Nodup := (hperm.map _).nodup_iff.mp h
  apply Option.ext
  intro value
  rw [lookup_eq_some_iff_mem h, lookup_eq_some_iff_mem h', hperm.mem_iff]

end Lookup

lemma exists_of_bind_eq_ok {ε : Type} {first : Except ε α} {next : α → Except ε β} {b : β}
    (h : first >>= next = .ok b) : ∃ a, first = .ok a ∧ next a = .ok b := by
  cases first with
  | error cause => contradiction
  | ok a => exact ⟨a, rfl, h⟩

lemma exists_of_map_eq_ok {ε : Type} {f : α → β} {result : Except ε α} {b : β}
    (h : result.map f = .ok b) : ∃ a, result = .ok a ∧ f a = b := by
  cases result with
  | error cause => contradiction
  | ok a => exact ⟨a, rfl, Except.ok.inj h⟩

section Run

variable {σ ε : Type} {s t : σ} {action : ExceptT ε (StateM σ) α}
  {next : α → ExceptT ε (StateM σ) β}

lemma run_bind_of_ok {a : α} (h : action.run.run s = (.ok a, t)) :
    (action >>= next).run.run s = (next a).run.run t := by
  rw [ExceptT.run_bind, StateT.run_bind, h]
  rfl

lemma run_bind_of_error {cause : ε} (h : action.run.run s = (.error cause, t)) :
    (action >>= next).run.run s = (.error cause, t) := by
  rw [ExceptT.run_bind, StateT.run_bind, h]
  rfl

lemma run_bind_get (next : σ → ExceptT ε (StateM σ) β) (s : σ) :
    (get >>= next).run.run s = (next s).run.run s := rfl

end Run

end Judge
