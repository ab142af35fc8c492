import Judge.Path
import Judge.Proofs.Text.Lines

/-!
The file that a path leads to: it is the last part of the path, whatever directories stand in front.
The exception are paths that have no component of their own. Of these, those that end in a dot lead
to the directory that is put in front of them.
-/

namespace Judge.Path

/-- Whether a path is a dot that stands for the directory in which it is looked up: it ends in a dot,
and all its parts are single dots. -/
def isHere (path : List Char) : Bool :=
  path.getLast? == some '.' &&
    (Text.splitAt '/' path).all fun piece => piece == [] || piece == ['.']

lemma laterComponents_append (pieces more : List (List Char)) :
    laterComponents (pieces ++ more) = laterComponents pieces ++ laterComponents more :=
  List.filterMap_append

lemma laterComponents_eq_nil {pieces : List (List Char)} (h : laterComponents pieces = []) :
    ∀ piece ∈ pieces, piece = [] ∨ piece = ['.'] := by
  intro piece hpiece
  have hnone := List.filterMap_eq_nil_iff.mp h piece hpiece
  split at hnone
  · exact .inl rfl
  · exact .inr rfl
  · contradiction
  · contradiction

/-- The components of a path end with those of its pieces. -/
lemma exists_components (path : List Char) :
    ∃ front, components path = front ++ laterComponents (Text.splitAt '/' path) := by
  unfold components
  split
  · next h => exact ⟨[], by rw [h]; rfl⟩
  · next pieces h => exact ⟨_, by rw [h]; rfl⟩
  · next pieces h => exact ⟨[.current], by rw [h]; rfl⟩
  · exact ⟨[], rfl⟩

/-- With a component of its own a path leads to the same file in every directory. -/
theorem fileName?_folder {path : List Char} (h : laterComponents (Text.splitAt '/' path) ≠ [])
    (folder : List Char) : fileName? (folder ++ '/' :: path) = fileName? path := by
  obtain ⟨front, hfront⟩ := exists_components path
  obtain ⟨front', hfront'⟩ := exists_components (folder ++ '/' :: path)
  rw [Text.splitAt_append_cons, laterComponents_append, ← List.append_assoc] at hfront'
  rw [fileName?, fileName?, hfront, hfront', List.getLast?_append_of_ne_nil _ h,
    List.getLast?_append_of_ne_nil _ h]

section Last

variable {path : List Char} {c : Char}

/-- A path without separators that ends in no dot is one component. -/
lemma laterComponents_of_notMem (h : '/' ∉ path) (hlast : path.getLast? = some c) (hc : c ≠ '.') :
    laterComponents (Text.splitAt '/' path) = [.normal path] := by
  have hdot : ∀ dots, dots.getLast? = some '.' → path ≠ dots := by
    rintro dots hdots rfl
    exact hc (Option.some.inj (hlast.symm.trans hdots))
  rw [Text.splitAt_of_notMem h, laterComponents, List.filterMap_cons, List.filterMap_nil]
  split
  · next hnone =>
    split at hnone
    · simp at hlast
    · exact absurd rfl (hdot ['.'] rfl)
    · contradiction
    · contradiction
  · next component hsome =>
    split at hsome
    · contradiction
    · contradiction
    · exact absurd rfl (hdot ['.', '.'] rfl)
    · rw [Option.some.inj hsome]

theorem fileName?_of_notMem (h : '/' ∉ path) (hlast : path.getLast? = some c) (hc : c ≠ '.') :
    fileName? path = some path := by
  obtain ⟨front, hfront⟩ := exists_components path
  rw [fileName?, hfront, laterComponents_of_notMem h hlast hc, List.getLast?_append]
  rfl

/-- What is in front of an ending decides what is in front of it in the name of the file. -/
theorem exists_fileName? (front : List Char) : ∃ base : List Char, ∀ (ending : List Char) (c : Char),
    '/' ∉ ending → ending.getLast? = some c → c ≠ '.' →
      fileName? (front ++ ending) = some (base ++ ending) := by
  have hlast : ∀ (base ending : List Char) (c : Char), ending.getLast? = some c →
      (base ++ ending).getLast? = some c := by
    intro base ending c h
    rw [List.getLast?_append, h]
    rfl
  have hnone : ∀ base : List Char, '/' ∉ base → ∀ (ending : List Char) (c : Char), '/' ∉ ending →
      ending.getLast? = some c → c ≠ '.' →
        fileName? (base ++ ending) = some (base ++ ending) ∧
          laterComponents (Text.splitAt '/' (base ++ ending)) ≠ [] := by
    intro base hbase ending c hending hc hdot
    have hslash : '/' ∉ base ++ ending := by simp [hbase, hending]
    rw [laterComponents_of_notMem hslash (hlast base ending c hc) hdot]
    exact ⟨fileName?_of_notMem hslash (hlast base ending c hc) hdot, by simp⟩
  by_cases h : '/' ∈ front
  · -- The part behind the last separator is the first one of the path read backwards.
    obtain ⟨base, folder, hreverse, hbase⟩ :=
      List.eq_append_cons_of_mem (List.mem_reverse.mpr h)
    have hfront : front = folder.reverse ++ '/' :: base.reverse := by
      simpa using congrArg List.reverse hreverse
    refine ⟨base.reverse, fun ending c hending hc hdot => ?_⟩
    obtain ⟨hname, hcomponent⟩ := hnone base.reverse (by simpa using hbase) ending c hending hc hdot
    rw [hfront, List.append_assoc, List.cons_append, fileName?_folder hcomponent, hname]
  · exact ⟨front, fun ending c hending hc hdot => (hnone front h ending c hending hc hdot).1⟩

lemma eq_of_mem_of_dots {d : Char}
    (h : ∀ piece ∈ Text.splitAt '/' path, piece = [] ∨ piece = ['.']) (hd : d ∈ path) :
    d = '/' ∨ d = '.' := by
  rw [← Text.join_splitAt '/' path] at hd
  rcases Text.mem_join hd with hd | ⟨piece, hpiece, hd⟩
  · exact .inl (List.mem_singleton.mp hd)
  · rcases h piece hpiece with rfl | rfl
    · contradiction
    · exact .inr (List.mem_singleton.mp hd)

/-- A path without a component of its own is empty, or ends in a separator, or is a dot. -/
theorem isHere_of_laterComponents (hlast : path.getLast? = some c) (hc : c ≠ '/')
    (h : laterComponents (Text.splitAt '/' path) = []) : isHere path = true := by
  have hdots := laterComponents_eq_nil h
  have hdot := (eq_of_mem_of_dots hdots (List.mem_of_getLast? hlast)).resolve_left hc
  rw [isHere, hlast, hdot, Bool.and_eq_true, List.all_eq_true]
  exact ⟨by simp, fun piece hpiece => by simpa using hdots piece hpiece⟩

end Last

section Down

variable {path : List Char} {pieces : List (List Char)}

/-- A path that leads down from where it starts: along names only, and along one at least. -/
structure LeadsDown (path : List Char) : Prop where
  nonempty : path ≠ []
  relative : path.head? ≠ some '/'
  undotted : (Text.splitAt '/' path).head? ≠ some ['.']
  down : ['.', '.'] ∉ Text.splitAt '/' path

lemma laterComponents_cons (piece : List Char) (pieces : List (List Char)) :
    laterComponents (piece :: pieces) = laterComponents [piece] ++ laterComponents pieces :=
  laterComponents_append [piece] pieces

/-- What leads up is two dots; everything else that counts is a name. -/
lemma forall_laterComponents_iff :
    (∀ part ∈ laterComponents pieces, ∃ name, part = .normal name) ↔ ['.', '.'] ∉ pieces := by
  have hpiece : ∀ piece : List Char,
      (∀ part ∈ laterComponents [piece], ∃ name, part = .normal name) ↔ ['.', '.'] ≠ piece := by
    intro piece
    rw [laterComponents, List.filterMap_cons, List.filterMap_nil]
    split
    · next hnone =>
      split at hnone
      · simp
      · simp
      · contradiction
      · contradiction
    · next component hsome =>
      split at hsome
      · contradiction
      · contradiction
      · obtain rfl := Option.some.inj hsome
        simp
      · next hup =>
        obtain rfl := Option.some.inj hsome
        simpa [eq_comm] using hup
  induction pieces with
  | nil => simp [laterComponents]
  | cons piece pieces ih =>
    rw [laterComponents_cons, List.forall_mem_append, hpiece, List.mem_cons, not_or]
    exact and_congr_right' ih

/-- The first piece of a relative path is not empty. -/
lemma exists_splitAt (hnonempty : path ≠ []) (hrelative : path.head? ≠ some '/') :
    ∃ first pieces, Text.splitAt '/' path = first :: pieces ∧ first ≠ [] := by
  cases path with
  | nil => contradiction
  | cons c rest =>
    have hc : c ≠ '/' := by simpa using hrelative
    rw [Text.splitAt, if_neg (by simpa using hc)]
    split
    · exact ⟨_, _, rfl, by simp⟩
    · exact ⟨_, _, rfl, by simp⟩

/-- The components of a relative path are all names if it leads down, and only then. -/
theorem leadsDown_iff (hrelative : path.head? ≠ some '/') : LeadsDown path ↔
    path ≠ [] ∧ ∀ part ∈ components path, ∃ name, part = .normal name := by
  by_cases hnonempty : path = []
  · exact ⟨fun h => absurd hnonempty h.nonempty, fun h => absurd hnonempty h.1⟩
  obtain ⟨first, pieces, hsplit, hfirst⟩ := exists_splitAt hnonempty hrelative
  have hdown : LeadsDown path ↔ first ≠ ['.'] ∧ ['.', '.'] ∉ first :: pieces := by
    constructor
    · intro h
      have hundotted := h.undotted
      rw [hsplit, List.head?_cons] at hundotted
      exact ⟨fun heq => hundotted (congrArg some heq), hsplit ▸ h.down⟩
    · rintro ⟨hundotted, hdown⟩
      exact ⟨hnonempty, hrelative, by rwa [hsplit, List.head?_cons, Ne, Option.some.injEq],
        hsplit ▸ hdown⟩
  rw [hdown, components, hsplit, and_iff_right hnonempty]
  by_cases hdot : first = ['.']
  · subst hdot
    simp
  · rw [and_iff_right hdot, ← forall_laterComponents_iff]
    split
    · contradiction
    · next heq => exact absurd (List.cons.inj heq).1 hfirst
    · next heq => exact absurd (List.cons.inj heq).1 hdot
    · rfl

end Down

end Judge.Path
