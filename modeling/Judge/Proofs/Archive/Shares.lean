import Mathlib.Algebra.BigOperators.Group.List.Basic
import Mathlib.Algebra.Order.BigOperators.Group.List
import Mathlib.Algebra.Ring.Int.Defs
import Judge.Proofs.Archive.Prepare
import Judge.Proofs.Decimal.Integer

/-!
The shares of tests without an explicit score. They are the quotient of the points that are left, or
one point more, in ascending order; together with the explicit scores they make 100 points, and
shares that were given are not given again. If the explicit scores make more than 100 points, the
tests without one share what is missing.
-/

namespace Judge.Archive
namespace Scan

/-- The share at a place when points are split: the quotient, and one point more at the last
places, as many as the remainder. -/
def fairShare (points : Int) (count place : Nat) : Int :=
  points / count + if (place : Int) < count - points % count then 0 else 1

/-- The largest share when points are split: the quotient rounded up. -/
def largestShare (points : Int) (count : Nat) : Int := (points + count - 1) / count

section Fair

variable {points : Int} {count : Nat}

lemma fairShare_eq_or (points : Int) (count place : Nat) :
    fairShare points count place = points / count ∨
      fairShare points count place = points / count + 1 := by
  rw [fairShare]
  split
  · exact .inl (Int.add_zero _)
  · exact .inr rfl

lemma fairShare_mono (points : Int) (count : Nat) {i j : Nat} (h : i ≤ j) :
    fairShare points count i ≤ fairShare points count j := by
  simp only [fairShare]
  split <;> split <;> omega

/-- A share above the quotient is given only if there is a remainder. -/
lemma fairShare_le_largestShare (points : Int) {place : Nat} (hplace : place < count) :
    fairShare points count place ≤ largestShare points count := by
  have hcount : (0 : Int) < count := by omega
  have hmod := Int.emod_nonneg points (show (count : Int) ≠ 0 by omega)
  have hdiv := Int.mul_ediv_add_emod points count
  apply Int.le_ediv_of_mul_le hcount
  rw [fairShare]
  split
  · rw [Int.add_zero, Int.mul_comm]
    omega
  · rw [Int.add_mul, Int.mul_comm (points / count)]
    omega

lemma fairShare_nonneg (hpoints : 0 ≤ points) (count place : Nat) :
    0 ≤ fairShare points count place := by
  have hdiv : 0 ≤ points / (count : Int) := Int.ediv_nonneg hpoints (Int.natCast_nonneg count)
  rcases fairShare_eq_or points count place with h | h <;> omega

/-- The first `places` shares are as many quotients, and a point more behind the cutoff. -/
lemma sum_fairShare_range (points : Int) (hcount : 0 < count) (places : Nat) :
    ((List.range places).map (fairShare points count)).sum =
      places * (points / count) + max 0 (places - (count - points % count)) := by
  have hmod : points % count < count := Int.emod_lt_of_pos points (by omega)
  induction places with
  | zero => simp; omega
  | succ places ih =>
    rw [List.range_succ, List.map_append, List.sum_append, ih, List.map_singleton,
      List.sum_singleton, fairShare]
    have hmul : ((places + 1 : Nat) : Int) * (points / count) =
        places * (points / count) + points / count := by
      rw [Int.natCast_succ, Int.add_mul, Int.one_mul]
    rw [hmul]
    split <;> omega

/-- The shares make up all points. -/
theorem sum_fairShare (points : Int) (hcount : 0 < count) :
    ((List.range count).map (fairShare points count)).sum = points := by
  have hmod := Int.emod_nonneg points (show (count : Int) ≠ 0 by omega)
  have hdiv := Int.mul_ediv_add_emod points count
  rw [sum_fairShare_range points hcount]
  omega

/-- The loop gives these shares if they fit in 32 bits. -/
lemma shareAt_eq_fairShare (hpoints : 0 ≤ points) {place : Nat} (hplace : place < count)
    (hfit : Decimal.int32.contains (largestShare points count) = true) :
    shareAt (points.tdiv count + 1) (count - points.tmod count) place =
      fairShare points count place := by
  have hloop : shareAt (points.tdiv count + 1) (count - points.tmod count) place =
      Decimal.wrap32 (fairShare points count place) := by
    rw [Int.tdiv_eq_ediv_of_nonneg hpoints, Int.tmod_eq_emod_of_nonneg hpoints, shareAt, fairShare]
    congr 1
    split <;> omega
  rw [hloop]
  apply Decimal.wrap32_of_contains
  have hle := fairShare_le_largestShare points hplace
  have hnonneg := fairShare_nonneg hpoints count place
  rw [Decimal.Bounds.contains_iff] at hfit ⊢
  simp only [Decimal.int32] at hfit ⊢
  omega

/-- If there is a remainder, the share at the last place is not zero. -/
lemma wrap32_tdiv_pos (hpoints : 0 ≤ points) (hcount : 0 < count) (hrest : 0 < points.tmod count)
    (hfit : Decimal.int32.contains (largestShare points count) = true) :
    0 < Decimal.wrap32 (points.tdiv count + 1) := by
  rw [Int.tmod_eq_emod_of_nonneg hpoints] at hrest
  have hlast : fairShare points count (count - 1) = points / count + 1 := by
    rw [fairShare, if_neg (by omega)]
  have hle := fairShare_le_largestShare points (show count - 1 < count by omega)
  have hdiv : 0 ≤ points / (count : Int) := Int.ediv_nonneg hpoints (Int.natCast_nonneg count)
  have hcontains : Decimal.int32.contains (points / count + 1) = true := by
    rw [Decimal.Bounds.contains_iff] at hfit ⊢
    simp only [Decimal.int32] at hfit ⊢
    omega
  rw [Int.tdiv_eq_ediv_of_nonneg hpoints, Decimal.wrap32_of_contains hcontains]
  omega

end Fair

lemma map_idxOf_of_nodup {α : Type} {l : List Int} (h : l.Nodup) (f : Nat → α) :
    (l.map fun number => f (l.idxOf number)) = (List.range l.length).map f := by
  apply List.ext_getElem
  · simp
  · intro i hi _
    rw [List.length_map] at hi
    simp [h.idxOf_getElem i hi]

/-- Shares that were given are given again. A test with points is passed over and takes up no place;
those without any come first, at places that only move to the front. -/
lemma assignShares_assignShares {scored : List Int} {share cutoff : Int}
    {entries : List (Int × TestFiles)} {place later : Int} (hle : place ≤ later)
    (hzero : ∀ e ∈ entries, e.1 ∉ scored → e.2.score = 0)
    (hhigh : cutoff < later + (unscoredKeys scored entries).length → 0 < Decimal.wrap32 share) :
    assignShares scored share cutoff place (assignShares scored share cutoff later entries) =
      assignShares scored share cutoff later entries := by
  induction entries generalizing place later with
  | nil => rfl
  | cons head rest ih =>
    obtain ⟨number, files⟩ := head
    have hzero' : ∀ e ∈ rest, e.1 ∉ scored → e.2.score = 0 :=
      fun e he => hzero e (List.mem_cons_of_mem _ he)
    by_cases hs : number ∈ scored
    · have hkeys : unscoredKeys scored ((number, files) :: rest) = unscoredKeys scored rest := by
        simp [unscoredKeys, hs]
      rw [hkeys] at hhigh
      simp [assignShares, hs, ih hle hzero' hhigh]
    · have hkeys : (unscoredKeys scored ((number, files) :: rest)).length =
          (unscoredKeys scored rest).length + 1 := by simp [unscoredKeys, hs]
      rw [hkeys] at hhigh
      have hscore : files.score = 0 := hzero (number, files) (by simp) hs
      have hgiven : assignShares scored share cutoff later ((number, files) :: rest) =
          (number, { files with score := shareAt share cutoff later }) ::
            assignShares scored share cutoff (later + 1) rest := by
        simp [assignShares, shareAt, hs, hscore]
      rw [hgiven]
      by_cases hpoints : 0 < shareAt share cutoff later
      · have hpassed := ih (show place ≤ later + 1 by omega) hzero'
          fun h => hhigh (by push_cast; omega)
        simp [assignShares, hs, hpoints, hpassed]
      · -- No points are given in front of the cutoff only.
        have hfront : later < cutoff := by
          by_contra hbehind
          rw [shareAt, if_neg hbehind] at hpoints
          exact hpoints (hhigh (by push_cast; omega))
        have hsame : shareAt share cutoff place = shareAt share cutoff later := by
          rw [shareAt, shareAt, if_pos hfront, if_pos (by omega)]
        have hagain := ih (show place + 1 ≤ later + 1 by omega) hzero'
          fun h => hhigh (by push_cast; omega)
        rw [shareAt] at hsame
        simp [assignShares, hs, hpoints, hagain, hsame]

/-- The total of the explicit scores. -/
def explicitTotal (scan : Scan) : Int :=
  (scan.scored.map fun number => (scan.test number).score).sum

section Infer

variable {scan : Scan}

lemma remaining_eq_sub (scan : Scan) : scan.remaining = 100 - scan.explicitTotal := by
  rw [remaining, explicitTotal, List.sum_eq_foldl, List.foldl_map]

@[simp] lemma unscored_inferScores (scan : Scan) :
    scan.inferScores.unscored = scan.unscored := by
  rw [unscored, unscored, keys_inferScores, scored_inferScores]

lemma ascending_unscored (scan : Scan) : scan.unscored.Pairwise (· < ·) :=
  scan.tests.ascending_keys.filter _

lemma nodup_unscored (scan : Scan) : scan.unscored.Nodup :=
  scan.ascending_unscored.imp fun hlt => Int.ne_of_lt hlt

lemma inferScores_eq_self
    (hentries : assignShares scan.scored (scan.remaining.tdiv scan.unscored.length + 1)
      (scan.unscored.length - scan.remaining.tmod scan.unscored.length) 0 scan.tests.entries =
        scan.tests.entries) : scan.inferScores = scan := by
  rw [inferScores]
  split
  · rfl
  · change { scan with tests := ⟨_, _⟩ } = { scan with tests := scan.tests }
    congr 1
    exact Table.ext hentries

section Shares

variable (h : scan.Unshared) (hne : scan.unscored ≠ [])
include h hne

lemma test_inferScores_of_scored {number : Int} (hs : number ∈ scan.scored) :
    scan.inferScores.test number = scan.test number := by
  apply test_of_mem
  rw [entries_inferScores_of_unshared h hne]
  exact List.mem_map.mpr ⟨_, mem_entries_of_known (h.known number hs), if_pos hs⟩

/-- What is left is the same before and after. -/
lemma explicitTotal_inferScores : scan.inferScores.explicitTotal = scan.explicitTotal := by
  rw [explicitTotal, explicitTotal, scored_inferScores]
  congr 1
  exact List.map_congr_left fun number hs => by rw [test_inferScores_of_scored h hne hs]

/-- A test without an explicit score gets what the loop gives at its place. -/
lemma score_inferScores_eq_shareAt {number : Int} (hu : number ∈ scan.unscored) :
    (scan.inferScores.test number).score =
      shareAt ((100 - scan.explicitTotal).tdiv scan.unscored.length + 1)
        (scan.unscored.length - (100 - scan.explicitTotal).tmod scan.unscored.length)
        (scan.unscored.idxOf number) := by
  obtain ⟨hknown, hs⟩ : number ∈ scan.tests.keys ∧ number ∉ scan.scored := by
    simpa [unscored] using hu
  have htest : scan.inferScores.test number = { scan.test number with
      score := shareAt ((100 - scan.explicitTotal).tdiv scan.unscored.length + 1)
        (scan.unscored.length - (100 - scan.explicitTotal).tmod scan.unscored.length)
        (scan.unscored.idxOf number) } := by
    apply test_of_mem
    rw [entries_inferScores_of_unshared h hne, remaining_eq_sub]
    exact List.mem_map.mpr ⟨_, mem_entries_of_known hknown, if_neg hs⟩
  rw [htest]

variable (hsum : scan.explicitTotal ≤ 100)
  (hfit : Decimal.int32.contains
    (largestShare (100 - scan.explicitTotal) scan.unscored.length) = true)
include hsum hfit

lemma score_inferScores_of_unscored {number : Int} (hu : number ∈ scan.unscored) :
    (scan.inferScores.test number).score =
      fairShare (100 - scan.explicitTotal) scan.unscored.length (scan.unscored.idxOf number) := by
  rw [score_inferScores_eq_shareAt h hne hu]
  exact shareAt_eq_fairShare (by omega) (List.idxOf_lt_length_of_mem hu) hfit

lemma map_score_unscored :
    (scan.unscored.map fun number => (scan.inferScores.test number).score) =
      (List.range scan.unscored.length).map
        (fairShare (100 - scan.explicitTotal) scan.unscored.length) := by
  rw [List.map_congr_left fun number hu =>
    score_inferScores_of_unscored h hne hsum hfit hu]
  exact map_idxOf_of_nodup scan.nodup_unscored _

/-- The explicit scores and the shares make 100 points. -/
lemma sum_scores_inferScores : (scan.inferScores.scores.map (·.2)).sum = 100 := by
  have hscores : scan.inferScores.scores.map (·.2) =
      scan.tests.keys.map fun number => (scan.inferScores.test number).score := by
    rw [scores, scan.inferScores.tests.entries_eq_map_keys {}, keys_inferScores, List.map_map,
      List.map_map]
    rfl
  have hexplicit : scan.scored.map (fun number => (scan.inferScores.test number).score) =
      scan.scored.map fun number => (scan.test number).score :=
    List.map_congr_left fun number hs => by rw [test_inferScores_of_scored h hne hs]
  rw [hscores, (h.keys_perm.map _).sum_eq, List.map_append, List.sum_append, hexplicit,
    map_score_unscored h hne hsum hfit,
    sum_fairShare _ (List.length_pos_iff.mpr hne), ← explicitTotal]
  omega

/-- The shares ascend with the numbers of the tests. -/
lemma score_inferScores_mono {number other : Int} (hnumber : number ∈ scan.unscored)
    (hother : other ∈ scan.unscored) (hle : number ≤ other) :
    (scan.inferScores.test number).score ≤ (scan.inferScores.test other).score := by
  rw [score_inferScores_of_unscored h hne hsum hfit hnumber,
    score_inferScores_of_unscored h hne hsum hfit hother]
  apply fairShare_mono
  by_contra hlt
  have hlast := List.idxOf_lt_length_of_mem hnumber
  have hbefore := List.pairwise_iff_getElem.mp scan.ascending_unscored
    (scan.unscored.idxOf other) (scan.unscored.idxOf number) (by omega) hlast (by omega)
  rw [List.getElem_idxOf, List.getElem_idxOf] at hbefore
  omega

/-- Shares that were given are not given again. -/
theorem inferScores_inferScores : scan.inferScores.inferScores = scan.inferScores := by
  have hremaining : scan.inferScores.remaining = scan.remaining := by
    rw [remaining_eq_sub, remaining_eq_sub, explicitTotal_inferScores h hne]
  have hgiven : scan.inferScores.tests.entries = assignShares scan.scored
      (scan.remaining.tdiv scan.unscored.length + 1)
      (scan.unscored.length - scan.remaining.tmod scan.unscored.length) 0 scan.tests.entries := by
    simp only [inferScores, if_neg (mt h.size_le_iff.mp hne)]
  apply inferScores_eq_self
  rw [unscored_inferScores, scored_inferScores, hremaining, hgiven]
  apply assignShares_assignShares (Int.le_refl 0) fun _ => h.score_eq_zero_of_mem
  have hkeys : unscoredKeys scan.scored scan.tests.entries = scan.unscored := rfl
  have hpoints : 0 ≤ scan.remaining := by
    rw [remaining_eq_sub]
    omega
  intro hcutoff
  rw [hkeys] at hcutoff
  rw [← remaining_eq_sub] at hfit
  exact wrap32_tdiv_pos hpoints (List.length_pos_iff.mpr hne) (by omega) hfit

end Shares

end Infer

/-- How 100 points are shared between the tests of a scan: explicit scores are as they were, every
other test has the quotient of what is left, or one point more, in ascending order, and all scores
make 100 points. -/
structure Shares (before after : Scan) : Prop where
  scored : after.scored = before.scored
  keys : after.tests.keys = before.tests.keys
  explicit : ∀ number ∈ before.scored, after.test number = before.test number
  total : (after.scores.map (·.2)).sum = 100
  balanced : ∀ number ∈ before.unscored,
    (after.test number).score = (100 - before.explicitTotal) / before.unscored.length ∨
      (after.test number).score = (100 - before.explicitTotal) / before.unscored.length + 1
  ordered : ∀ number ∈ before.unscored, ∀ other ∈ before.unscored, number ≤ other →
    (after.test number).score ≤ (after.test other).score
  settled : after.inferScores = after

/-- Whatever was read, and whether or not all of it could be read, inference shares 100 points
between the tests. It changes nothing if every test has an explicit score. -/
theorem shares_afterReadings (readings : List Reading) :
    let scan := afterReadings {} readings
    (scan.unscored ≠ [] → scan.explicitTotal ≤ 100 →
      Decimal.int32.contains (largestShare (100 - scan.explicitTotal) scan.unscored.length) = true →
        scan.Shares scan.inferScores) ∧
      (scan.unscored = [] → scan.inferScores = scan) := by
  intro scan
  have hunshared : scan.Unshared := unshared_afterReadings readings
  refine ⟨fun hne hsum hfit => ?_, fun hnil => ?_⟩
  · exact {
      scored := scored_inferScores scan
      keys := keys_inferScores scan
      explicit := fun number => test_inferScores_of_scored hunshared hne
      total := sum_scores_inferScores hunshared hne hsum hfit
      balanced := by
        intro number hu
        rw [score_inferScores_of_unscored hunshared hne hsum hfit hu]
        exact fairShare_eq_or _ _ _
      ordered := fun number hu other ho => score_inferScores_mono hunshared hne hsum hfit hu ho
      settled := inferScores_inferScores hunshared hne hsum hfit }
  · rw [inferScores, if_pos (hunshared.size_le_iff.mpr hnil)]

/-- Data of three tests, one of which has a second input, and a score file that scores a test again:
two of the calls fail. -/
def interrupted : List Reading :=
  let entries : List Entry := [
    { name := "3-sum.in", data := [51] }, { name := "1-sum.in", data := [49] },
    { name := "sum.1.in", data := [50] }, { name := "sum.-7.ok", data := [52] }]
  [.entry entries 0, .entry entries 1, .entry entries 2, .entry entries 3,
    .scores ⟨Utf8.encode "2 30\nnone\n5 -10\n2 1\n3 1\n".toList, none⟩]

theorem shares_afterReadings_interrupted :
    (afterReadings {} interrupted).unscored = [-7, 1, 3] ∧
      (afterReadings {} interrupted).Shares (afterReadings {} interrupted).inferScores := by
  have hunscored : (afterReadings {} interrupted).unscored = [-7, 1, 3] := by decide +kernel
  refine ⟨hunscored, (shares_afterReadings interrupted).1 ?_ ?_ ?_⟩
  · rw [hunscored]
    decide
  · decide +kernel
  · decide +kernel

example : (afterReadings {} interrupted).inferScores.scores =
    [(-7, 26), (1, 27), (2, 30), (3, 27), (5, -10)] := by decide +kernel

/-! ### Totals above 100 points -/

section Share

variable {points : Int} {count place : Nat}

/-- Where no points are left, the loop gives the quotient at every place. -/
lemma shareAt_of_nonpos (hpoints : points ≤ 0) (hplace : place < count) :
    shareAt (points.tdiv count + 1) (count - points.tmod count) place =
      Decimal.wrap32 (-(-points / count)) := by
  obtain ⟨missing, rfl⟩ : ∃ missing : Int, points = -missing := ⟨-points, by omega⟩
  have hmissing : 0 ≤ missing := by omega
  have hmod : 0 ≤ missing.tmod count := Int.tmod_nonneg _ hmissing
  rw [shareAt, Int.neg_tmod, if_pos (by omega), Int.neg_tdiv, Int.tdiv_eq_ediv_of_nonneg hmissing]
  congr 1
  rw [Int.neg_neg]
  omega

/-- No share is negative while less is missing than there are shares. -/
lemma shareAt_nonneg (hleast : -count < points) (hgreatest : points ≤ 100) (hplace : place < count) :
    0 ≤ shareAt (points.tdiv count + 1) (count - points.tmod count) place := by
  by_cases hpoints : 0 ≤ points
  · have hlargest : 0 ≤ largestShare points count ∧ largestShare points count ≤ 100 := by
      have hcount : (0 : Int) < count := by omega
      constructor
      · exact Int.ediv_nonneg (by omega) (by omega)
      · apply Int.ediv_le_of_le_mul hcount
        omega
    rw [shareAt_eq_fairShare hpoints hplace]
    · exact fairShare_nonneg hpoints count place
    · rw [Decimal.Bounds.contains_iff]
      simp only [Decimal.int32]
      omega
  · have hquotient : -points / (count : Int) = 0 := Int.ediv_eq_zero_of_lt (by omega) (by omega)
    rw [shareAt_of_nonpos (by omega) hplace, hquotient]
    decide

end Share

section Infer

variable {scan : Scan}

/-- Only tests without an explicit score get another one. -/
lemma score_inferScores_of_notMem (h : scan.Unshared) {number : Int} (hu : number ∉ scan.unscored) :
    (scan.inferScores.test number).score = (scan.test number).score := by
  by_cases hne : scan.unscored = []
  · rw [inferScores, if_pos (h.size_le_iff.mpr hne)]
  by_cases hs : number ∈ scan.scored
  · rw [test_inferScores_of_scored h hne hs]
  · have hunknown : number ∉ scan.tests.keys := fun hknown => hu (by simp [unscored, hknown, hs])
    have hafter : number ∉ scan.inferScores.tests.keys := by rwa [keys_inferScores]
    rw [test_of_notMem hunknown, test_of_notMem hafter]

section Nonneg

variable (hscored : ∀ number ∈ scan.scored, 0 ≤ (scan.test number).score)
include hscored

lemma explicitTotal_nonneg : 0 ≤ scan.explicitTotal := by
  apply List.sum_nonneg
  simpa only [List.forall_mem_map] using hscored

lemma Unshared.score_nonneg (h : scan.Unshared) (number : Int) : 0 ≤ (scan.test number).score := by
  by_cases hs : number ∈ scan.scored
  · exact hscored number hs
  · rw [h.score_eq_zero number hs]

lemma score_inferScores_nonneg (h : scan.Unshared)
    (hfew : scan.explicitTotal < 100 + scan.unscored.length) {number : Int}
    (hu : number ∈ scan.unscored) : 0 ≤ (scan.inferScores.test number).score := by
  have htotal := explicitTotal_nonneg hscored
  rw [score_inferScores_eq_shareAt h (List.ne_nil_of_mem hu) hu]
  exact shareAt_nonneg (by omega) (by omega) (List.idxOf_lt_length_of_mem hu)

end Nonneg

end Infer

/-- With explicit scores from 0 to 100, whatever they add up to, inference changes only the tests
without one. None of these loses points as long as less is missing than there are such tests, and
otherwise each gets an equal part of what is missing. -/
theorem score_inferScores_of_bounded (readings : List Reading)
    (hbounded : ∀ number ∈ (afterReadings {} readings).scored,
      0 ≤ ((afterReadings {} readings).test number).score ∧
        ((afterReadings {} readings).test number).score ≤ 100) :
    let scan := afterReadings {} readings
    (∀ number ∉ scan.unscored,
      (scan.inferScores.test number).score = (scan.test number).score) ∧
    (scan.unscored = [] ∨ scan.explicitTotal < 100 + scan.unscored.length →
      ∀ number, 0 ≤ (scan.inferScores.test number).score ∧
        (scan.test number).score ≤ (scan.inferScores.test number).score) ∧
    (100 ≤ scan.explicitTotal → ∀ number ∈ scan.unscored, (scan.inferScores.test number).score =
      Decimal.wrap32 (-((scan.explicitTotal - 100) / scan.unscored.length))) := by
  intro scan
  have hunshared : scan.Unshared := unshared_afterReadings readings
  have hkept : ∀ number ∉ scan.unscored,
      (scan.inferScores.test number).score = (scan.test number).score :=
    fun number => score_inferScores_of_notMem hunshared
  have hscored : ∀ number ∈ scan.scored, 0 ≤ (scan.test number).score :=
    fun number hs => (hbounded number hs).1
  refine ⟨hkept, ?_, ?_⟩
  · intro hfew number
    by_cases hu : number ∈ scan.unscored
    · have hs : number ∉ scan.scored := by
        simp only [unscored, List.mem_filter] at hu
        simpa using hu.2
      have hnonneg := score_inferScores_nonneg hscored hunshared
        (hfew.resolve_left (List.ne_nil_of_mem hu)) hu
      rw [hunshared.score_eq_zero number hs]
      exact ⟨hnonneg, hnonneg⟩
    · rw [hkept number hu]
      exact ⟨hunshared.score_nonneg hscored number, Int.le_refl _⟩
  · intro hover number hu
    have hmissing : -(100 - scan.explicitTotal) = scan.explicitTotal - 100 := by omega
    rw [score_inferScores_eq_shareAt hunshared (List.ne_nil_of_mem hu) hu,
      shareAt_of_nonpos (by omega) (List.idxOf_lt_length_of_mem hu), hmissing]

/-- The tests 1 and 2 have 101 points, and there are data of two more. -/
def onePointOver : List Reading :=
  [.scores ⟨Utf8.encode "1 60\n2 41\n".toList, none⟩, .entry [{ name := "3-sum.in", data := [] }] 0,
    .entry [{ name := "4-sum.in", data := [] }] 0]

theorem score_inferScores_of_bounded_onePointOver :
    let scan := afterReadings {} onePointOver
    scan.explicitTotal = 101 ∧ scan.unscored = [3, 4] ∧
      ∀ number, 0 ≤ (scan.inferScores.test number).score := by
  have hbounded : ∀ number ∈ (afterReadings {} onePointOver).scored,
      0 ≤ ((afterReadings {} onePointOver).test number).score ∧
        ((afterReadings {} onePointOver).test number).score ≤ 100 := by decide +kernel
  have htotal : (afterReadings {} onePointOver).explicitTotal = 101 := by decide +kernel
  have hunscored : (afterReadings {} onePointOver).unscored = [3, 4] := by decide +kernel
  have hnonneg := (score_inferScores_of_bounded onePointOver hbounded).2.1
    (.inr (by rw [htotal, hunscored]; decide))
  exact ⟨htotal, hunscored, fun number => (hnonneg number).1⟩

/-- The tests 1 and 2 have all points twice, and there are data of one more. -/
def hundredPointsOver : List Reading :=
  [.scores ⟨Utf8.encode "1 100\n2 100\n".toList, none⟩,
    .entry [{ name := "3-sum.in", data := [] }] 0]

theorem scores_inferScores_hundredPointsOver :
    let scan := afterReadings {} hundredPointsOver
    (∀ number ∈ scan.scored, 0 ≤ (scan.test number).score ∧ (scan.test number).score ≤ 100) ∧
      scan.inferScores.scores = [(1, 100), (2, 100), (3, -100)] := by decide +kernel

end Scan
end Judge.Archive
