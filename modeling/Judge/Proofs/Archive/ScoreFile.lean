import Judge.Proofs.Archive.Scan
import Judge.Proofs.Decimal.Integer
import Judge.Proofs.Text.Blank
import Judge.Proofs.Text.Stretches

/-!
Score files with any bytes. The lines that give a test a score are described by their form, and a
file that is text throughout is read as these lines say: it fails only if a test is scored again,
and what else is in it has no effect. Reading ends at the first line that is no text.
-/

namespace Judge.Archive.Scan

open Text (byteLines isBlank)
open Decimal (Writes int32)

/-! ### Lines -/

section Lines

variable {line : Bytes} {number score : Int}

/-- A line that gives a test a score: two whole numbers of 32 bits, with white space between them
and no more than white space around them. -/
def Scores (line : List Char) (number score : Int) : Prop :=
  ∃ before test between points after, line = before ++ test ++ between ++ points ++ after ∧
    (∀ c ∈ before ++ between ++ after, isBlank c = true) ∧ between ≠ [] ∧
    (Writes test number ∧ int32.contains number = true) ∧
    (Writes points score ∧ int32.contains score = true)

/-- A line of bytes that is text and gives a test a score. -/
def Gives (line : Bytes) (number score : Int) : Prop :=
  ∃ text, line = Utf8.encode text ∧ Scores text number score

theorem scoreLine?_eq_some_iff {text : List Char} :
    scoreLine? text = some (number, score) ↔ Scores text number score := by
  have hread : ∀ word n, Decimal.readInteger? int32 word = some n ↔
      Writes word n ∧ int32.contains n = true :=
    fun _ _ => Decimal.readInteger?_eq_some_iff (by decide) (by decide)
  constructor
  · intro h
    rw [scoreLine?] at h
    split at h
    · next test points hwords =>
      obtain ⟨first, hfirst, h⟩ := Option.bind_eq_some_iff.mp h
      obtain ⟨second, hsecond, h⟩ := Option.bind_eq_some_iff.mp h
      obtain ⟨rfl, rfl⟩ := Prod.mk.inj (Option.some.inj h)
      obtain ⟨before, between, after, hline, hblank, hne, -, -⟩ := Text.words_eq_pair_iff.mp hwords
      exact ⟨before, test, between, points, after, hline, hblank, hne, (hread _ _).mp hfirst,
        (hread _ _).mp hsecond⟩
    · contradiction
  · rintro ⟨before, test, between, points, after, hline, hblank, hne, htest, hpoints⟩
    have hwords : Text.words text = [test, points] := Text.words_eq_pair_iff.mpr
      ⟨before, between, after, hline, hblank, hne, htest.1.not_isBlank, hpoints.1.not_isBlank⟩
    simp only [scoreLine?, hwords, (hread _ _).mpr htest, (hread _ _).mpr hpoints]
    rfl

lemma gives_iff : Gives line number score ↔
    ∃ text, Utf8.decode? line = some text ∧ scoreLine? text = some (number, score) := by
  simp only [Gives, Utf8.decode?_eq_some_iff, scoreLine?_eq_some_iff]

end Lines

/-- A line scores a test that has an explicit score, from before or from a line in front of it. -/
def ScoredAgain (scored : List Int) (lines : List Bytes) : Prop :=
  ∃ front line rest number score, lines = front ++ line :: rest ∧ Gives line number score ∧
    (number ∈ scored ∨ ∃ earlier ∈ front, ∃ other, Gives earlier number other)

/-- Exactly the scores that lines give were taken, no test was scored again, and nothing else
changed. -/
structure Takes (before : Scan) (lines : List Bytes) (after : Scan) : Prop where
  once : ¬ ScoredAgain before.scored lines
  scored : ∀ number, number ∈ after.scored ↔
    number ∈ before.scored ∨ ∃ line ∈ lines, ∃ score, Gives line number score
  known : ∀ number, number ∈ after.tests.keys ↔
    number ∈ before.tests.keys ∨ ∃ line ∈ lines, ∃ score, Gives line number score
  given : ∀ line ∈ lines, ∀ number score, Gives line number score →
    after.test number = { before.test number with score := score }
  others : ∀ number, (∀ line ∈ lines, ∀ score, ¬ Gives line number score) →
    after.test number = before.test number
  properties : after.properties = before.properties

/-! ### Steps -/

section Steps

variable {before scan : Scan} {lines : List Bytes} {line : Bytes} {number score : Int}

lemma scoredAgain_concat {scored : List Int} (h : ScoredAgain scored (lines ++ [line])) :
    ScoredAgain scored lines ∨ ∃ number score, Gives line number score ∧
      (number ∈ scored ∨ ∃ earlier ∈ lines, ∃ other, Gives earlier number other) := by
  obtain ⟨front, again, rest, number, score, hlines, hgives, hearlier⟩ := h
  rcases List.eq_nil_or_concat' rest with rfl | ⟨rest, last, rfl⟩
  · obtain ⟨rfl, hlast⟩ := List.append_inj' hlines rfl
    obtain rfl := (List.cons.inj hlast).1
    exact .inr ⟨number, score, hgives, hearlier⟩
  · rw [← List.cons_append, ← List.append_assoc] at hlines
    obtain ⟨rfl, -⟩ := List.append_inj' hlines rfl
    exact .inl ⟨front, again, rest, number, score, rfl, hgives, hearlier⟩

lemma Takes.refl (scan : Scan) : Takes scan [] scan where
  once := by
    rintro ⟨front, again, rest, -, -, hlines, -⟩
    simp at hlines
  scored number := by simp
  known number := by simp
  given := by simp
  others _ _ := rfl
  properties := rfl

/-- A line that gives no score has no effect. -/
lemma Takes.skip (h : Takes before lines scan) (hline : ∀ number score, ¬ Gives line number score) :
    Takes before (lines ++ [line]) scan where
  once hagain := by
    rcases scoredAgain_concat hagain with hagain | ⟨number, score, hgives, -⟩
    · exact h.once hagain
    · exact hline number score hgives
  scored number := by simp [h.scored, or_and_right, exists_or, hline]
  known number := by simp [h.known, or_and_right, exists_or, hline]
  given other hother number score hgives := by
    rcases List.mem_append.mp hother with hother | hother
    · exact h.given other hother number score hgives
    · obtain rfl := List.mem_singleton.mp hother
      exact absurd hgives (hline number score)
  others number hnone := h.others number fun other hother =>
    hnone other (List.mem_append_left _ hother)
  properties := h.properties

lemma Gives.unique {other points : Int} (h : Gives line number score) (h' : Gives line other points) :
    number = other ∧ score = points := by
  obtain ⟨text, htext, hscore⟩ := gives_iff.mp h
  obtain ⟨text', htext', hscore'⟩ := gives_iff.mp h'
  obtain rfl := Option.some.inj (htext.symm.trans htext')
  exact Prod.mk.inj (Option.some.inj (hscore.symm.trans hscore'))

lemma test_setScore (scan : Scan) (number score other : Int) :
    (scan.setScore number score).test other =
      if number = other then { scan.test number with score := score } else scan.test other :=
  test_setTest scan number other _

/-- A line that gives a test its first score. -/
lemma Takes.setScore (h : Takes before lines scan) (hline : Gives line number score)
    (hnew : number ∉ scan.scored) :
    Takes before (lines ++ [line]) (scan.setScore number score) := by
  have hgiven : ∀ {other points}, Gives line other points → other = number ∧ points = score :=
    fun h => h.unique hline
  have hfirst : ∀ earlier ∈ lines, ∀ points, ¬ Gives earlier number points :=
    fun earlier hearlier points hpoints =>
      hnew ((h.scored number).mpr (.inr ⟨earlier, hearlier, points, hpoints⟩))
  have hlines : ∀ other, (∃ earlier ∈ lines ++ [line], ∃ points, Gives earlier other points) ↔
      (∃ earlier ∈ lines, ∃ points, Gives earlier other points) ∨ other = number := by
    intro other
    simp only [List.mem_append, List.mem_singleton, or_and_right, exists_or, exists_eq_left]
    exact or_congr_right ⟨fun ⟨_, hpoints⟩ => (hgiven hpoints).1, fun heq => ⟨score, heq ▸ hline⟩⟩
  constructor
  case once =>
    intro hagain
    rcases scoredAgain_concat hagain with hagain | ⟨other, points, hpoints, hearlier⟩
    · exact h.once hagain
    · obtain ⟨rfl, -⟩ := hgiven hpoints
      exact hnew ((h.scored other).mpr hearlier)
  case scored =>
    intro other
    have hscored : other ∈ (scan.setScore number score).scored ↔
        other ∈ scan.scored ∨ other = number := by simp [Scan.setScore]
    rw [hscored, h.scored, hlines, or_assoc]
  case known =>
    intro other
    have hknown : other ∈ (scan.setScore number score).tests.keys ↔
        other = number ∨ other ∈ scan.tests.keys := mem_keys_setTest
    rw [hknown, h.known, hlines, or_comm, or_assoc]
  case given =>
    intro earlier hearlier other points hpoints
    rw [test_setScore]
    rcases List.mem_append.mp hearlier with hearlier | hearlier
    · have hne : number ≠ other := by
        rintro rfl
        exact hfirst earlier hearlier points hpoints
      rw [if_neg hne, h.given earlier hearlier other points hpoints]
    · obtain rfl := List.mem_singleton.mp hearlier
      obtain ⟨rfl, rfl⟩ := hgiven hpoints
      rw [if_pos rfl, h.others other hfirst]
  case others =>
    intro other hnone
    have hne : number ≠ other := by
      rintro rfl
      exact hnone line (by simp) score hline
    rw [test_setScore, if_neg hne]
    exact h.others other fun earlier hearlier => hnone earlier (List.mem_append_left _ hearlier)
  case properties => exact h.properties

end Steps

/-! ### Files -/

/-- How lines are read: all of them, or those in front of one that scores a test again. -/
inductive Outcome (before : Scan) (lines : List Bytes) (otherwise : Option Error) :
    Scan × Option Error → Prop
  | all {after : Scan} (h : Takes before lines after) :
    Outcome before lines otherwise (after, otherwise)
  | again {after : Scan} {line : Bytes} {number score : Int} {front rest : List Bytes}
      (hlines : lines = front ++ line :: rest) (h : Takes before front after)
      (hgives : Gives line number score) (hscored : number ∈ after.scored) :
    Outcome before lines otherwise (after, some .badScores)

/-- Lines of text are read one by one, up to lines at which reading ends. -/
lemma outcome_readScoreLines {before scan : Scan} {front lines : List Bytes}
    {fault : Option IoError} {otherwise : Option Error} (stop : List Bytes)
    (hfront : Takes before front scan)
    (htext : ∀ line ∈ lines, ∃ text, line = Utf8.encode text)
    (hstop : ∀ scan, readScoreLines fault scan stop = (scan, otherwise)) :
    Outcome before (front ++ lines) otherwise (readScoreLines fault scan (lines ++ stop)) := by
  -- The lines in front grow by each line that was read, whether or not it had an effect.
  induction lines generalizing scan front with
  | nil =>
    rw [List.nil_append, hstop, List.append_nil]
    exact .all hfront
  | cons line lines ih =>
    obtain ⟨⟨text, hline⟩, hlines⟩ := List.forall_mem_cons.mp htext
    have hd := Utf8.decode?_eq_some_iff.mpr hline
    have hsplit : front ++ line :: lines = front ++ [line] ++ lines := by simp
    rw [List.cons_append]
    cases hs : scoreLine? text with
    | none =>
      have hnone : ∀ number score, ¬ Gives line number score := by simp [gives_iff, hd, hs]
      rw [readScoreLines_skip hd hs, hsplit]
      exact ih (hfront.skip hnone) hlines
    | some given =>
      obtain ⟨number, score⟩ := given
      have hgives : Gives line number score := gives_iff.mpr ⟨text, hd, hs⟩
      by_cases hn : number ∈ scan.scored
      · rw [readScoreLines_twice hd hs hn]
        exact .again rfl hfront hgives hn
      · rw [readScoreLines_score hd hs hn, hsplit]
        exact ih (hfront.setScore hgives hn) hlines

/-- What reading comes to: it fails if a test is scored again. Otherwise it ends as it does and has
taken all the lines. In any case it has taken the first lines only, in full. -/
structure ReadsScores (before : Scan) (lines : List Bytes) (otherwise : Option Error)
    (result : Scan × Option Error) : Prop where
  again : result.2 = some .badScores ↔ ScoredAgain before.scored lines
  takes : ¬ ScoredAgain before.scored lines → result.2 = otherwise ∧ Takes before lines result.1
  kept : ∃ front, front <+: lines ∧ Takes before front result.1

lemma Outcome.readsScores {before : Scan} {lines : List Bytes} {otherwise : Option Error}
    {result : Scan × Option Error} (h : Outcome before lines otherwise result)
    (hne : otherwise ≠ some .badScores) : ReadsScores before lines otherwise result := by
  cases h with
  | all h => exact ⟨iff_of_false hne h.once, fun _ => ⟨rfl, h⟩, lines, List.prefix_rfl, h⟩
  | again hlines h hgives hscored =>
    have hagain : ScoredAgain before.scored lines :=
      ⟨_, _, _, _, _, hlines, hgives, (h.scored _).mp hscored⟩
    exact ⟨iff_of_true rfl hagain, fun hnot => absurd hagain hnot, _, ⟨_, hlines.symm⟩, h⟩

/-- A score file that is text fails only if a test is scored again, and otherwise takes the scores
of all lines that give one. A file with lines that are no text is read up to the first of these, and
then fails with that. -/
theorem readScores_bytes (scan : Scan) (bytes : Bytes) :
    ((∀ line ∈ byteLines bytes, ∃ text, line = Utf8.encode text) →
      ReadsScores scan (byteLines bytes) none (scan.readScores ⟨bytes, none⟩)) ∧
    ∀ front line rest, byteLines bytes = front ++ line :: rest →
      (∀ earlier ∈ front, ∃ text, earlier = Utf8.encode text) →
      (∀ text, line ≠ Utf8.encode text) →
        ReadsScores scan front (some (.io .badText)) (scan.readScores ⟨bytes, none⟩) := by
  constructor
  · intro htext
    have hread : Outcome scan ([] ++ byteLines bytes) none
        (readScoreLines none scan (byteLines bytes ++ [])) :=
      outcome_readScoreLines [] (Takes.refl scan) htext fun _ => rfl
    rw [List.append_nil] at hread
    exact hread.readsScores (by simp)
  · intro front line rest hbytes hfront hline
    have hd : Utf8.decode? line = none := Option.eq_none_iff_forall_ne_some.mpr fun text htext =>
      hline text (Utf8.decode?_eq_some_iff.mp htext)
    have hread : Outcome scan ([] ++ front) (some (.io .badText))
        (readScoreLines none scan (front ++ line :: rest)) :=
      outcome_readScoreLines (line :: rest) (Takes.refl scan) hfront
        fun scan => readScoreLines_badText hd
    rw [← hbytes] at hread
    exact hread.readsScores (by simp)

/-- The lines `1 5` and `x`, and `1 5` in front of a byte that is no text. -/
theorem readScores_bytes_fivePoints :
    byteLines [0x31, 0x20, 0x35, 0x0A, 0x78] = [[0x31, 0x20, 0x35]] ++ [[0x78]] ∧
      (({} : Scan).readScores ⟨[0x31, 0x20, 0x35, 0x0A, 0x78], none⟩).2 = none ∧
      ((({} : Scan).readScores ⟨[0x31, 0x20, 0x35, 0x0A, 0x78], none⟩).1.test 1).score = 5 ∧
      byteLines [0x31, 0x20, 0x35, 0x0A, 0xFF] = [[0x31, 0x20, 0x35]] ++ [[0xFF]] ∧
      (({} : Scan).readScores ⟨[0x31, 0x20, 0x35, 0x0A, 0xFF], none⟩).2 = some (.io .badText) := by
  have hlines : byteLines [0x31, 0x20, 0x35, 0x0A, 0x78] = [[0x31, 0x20, 0x35]] ++ [[0x78]] := by
    decide
  have hlines' : byteLines [0x31, 0x20, 0x35, 0x0A, 0xFF] = [[0x31, 0x20, 0x35]] ++ [[0xFF]] := by
    decide
  have hscore : Utf8.decode? [0x31, 0x20, 0x35] = some ['1', ' ', '5'] := by decide +kernel
  have hword : Utf8.decode? [0x78] = some ['x'] := by decide +kernel
  have hnone : Utf8.decode? [0xFF] = none := by decide +kernel
  have htext : ∀ {line : Bytes} {text : List Char}, Utf8.decode? line = some text →
      ∃ text, line = Utf8.encode text := fun h => ⟨_, Utf8.decode?_eq_some_iff.mp h⟩
  have hread := (readScores_bytes {} [0x31, 0x20, 0x35, 0x0A, 0x78]).1
    (by simpa [hlines] using ⟨htext hscore, htext hword⟩)
  have hread' := (readScores_bytes {} [0x31, 0x20, 0x35, 0x0A, 0xFF]).2 _ _ _ hlines'
    (by simpa using htext hscore)
    fun text h => by simp [Utf8.decode?_eq_some_iff.mpr h] at hnone
  have htakes := hread.takes (hread.again.not.mp (by decide +kernel))
  refine ⟨hlines, htakes.1, ?_, hlines',
    (hread'.takes (hread'.again.not.mp (by decide +kernel))).1⟩
  rw [htakes.2.given [0x31, 0x20, 0x35] (by simp [hlines]) 1 5
    (gives_iff.mpr ⟨['1', ' ', '5'], hscore, by decide⟩)]

/-- A line that is no text in front of `1 5` makes a score file fail, and not for a test that is
scored again. -/
theorem readScores_illFormed :
    (∀ text, [0xFF] ≠ Utf8.encode text) ∧ Gives [0x31, 0x20, 0x35] 1 5 ∧
      byteLines [0xFF, 0x0A, 0x31, 0x20, 0x35] = [[0xFF], [0x31, 0x20, 0x35]] ∧
      ({} : Scan).readScores ⟨[0xFF, 0x0A, 0x31, 0x20, 0x35], none⟩ = ({}, some (.io .badText)) := by
  have hnone : Utf8.decode? [0xFF] = none := by decide +kernel
  refine ⟨fun text h => ?_, gives_iff.mpr ⟨['1', ' ', '5'], by decide +kernel, by decide⟩,
    by decide, ?_⟩
  · simp [Utf8.decode?_eq_some_iff.mpr h] at hnone
  · exact readScoreLines_badText hnone

end Judge.Archive.Scan
