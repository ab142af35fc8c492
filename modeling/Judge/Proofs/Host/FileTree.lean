import Mathlib.Tactic.Lemma
import Judge.Host.FileTree
import Judge.Proofs.Basic

/-!
What the operations of a file tree do, in terms of what they find: reading, writing, replacing and
removing a file in a directory that can be reached, and making the last directory of a way.
-/

namespace Judge.Host.FileTree

variable {tree : FileTree} {directory location other : Location} {name : String} {content : Content}

theorem lookup_erase (tree : FileTree) (h : location ≠ []) :
    (tree.erase location).lookup other =
      if location = other then none else tree.lookup other := by
  unfold lookup erase
  by_cases ho : other = []
  · subst ho; simp [h]
  · by_cases he : location = other
    · subst he
      simp only [List.isEmpty_iff, ho, if_false, if_true, Option.map_eq_none_iff, List.find?_eq_none]
      intro e hmem
      simpa using (List.mem_filter.mp hmem).2
    · simp only [List.isEmpty_iff, ho, if_false, he]
      rw [find?_filter_ne he]

lemma isDirectory_iff : tree.isDirectory location = true ↔
    ∃ mode, tree.lookup location = some (.directory mode) := by
  rw [isDirectory]
  split
  · next mode h => simp [h]
  · next h =>
    simp only [Bool.false_eq_true, false_iff, not_exists]
    exact h

lemma checkName_eq_ok (h : name.utf8ByteSize ≤ 255) : checkName name = .ok () := by
  rw [checkName, if_neg (by omega)]

lemma checkDirectory_eq_ok_iff :
    checkDirectory tree location = .ok () ↔ tree.isDirectory location = true := by
  rw [checkDirectory, isDirectory]
  rcases tree.lookup location with _ | _ | _ | _ <;> simp

/-- A directory that can be reached: names lead to it through directories. -/
def Reached (tree : FileTree) (directory : Location) : Prop :=
  checkThrough tree [] directory = .ok ()

lemma checkThrough_append (tree : FileTree) (above first second : Location) :
    checkThrough tree above (first ++ second) = (do
      checkThrough tree above first
      checkThrough tree (above ++ first) second) := by
  induction first generalizing above with
  | nil => simp [checkThrough, bind, Except.bind]
  | cons name first ih =>
    rw [List.cons_append, checkThrough, checkThrough, ih]
    simp [bind_assoc]

/-- What is a directory in a reached directory is reached. -/
lemma Reached.snoc (h : Reached tree directory) (hname : name.utf8ByteSize ≤ 255)
    (hdirectory : tree.isDirectory (directory ++ [name]) = true) :
    Reached tree (directory ++ [name]) := by
  rw [Reached, checkThrough_append, h]
  simp [checkThrough, checkName_eq_ok hname, checkDirectory_eq_ok_iff.mpr hdirectory, bind,
    Except.bind]

lemma checkThrough_cons_iff {above names : Location} :
    checkThrough tree above (name :: names) = .ok () ↔ checkName name = .ok () ∧
      tree.isDirectory (above ++ [name]) = true ∧
      checkThrough tree (above ++ [name]) names = .ok () := by
  rw [checkThrough]
  constructor
  · intro h
    cases hname : checkName name with
    | error cause => simp [hname, bind, Except.bind] at h
    | ok _ =>
      cases hdirectory : checkDirectory tree (above ++ [name]) with
      | error cause => simp [hname, hdirectory, bind, Except.bind] at h
      | ok _ =>
        refine ⟨rfl, checkDirectory_eq_ok_iff.mp hdirectory, ?_⟩
        simpa [hname, hdirectory, bind, Except.bind] using h
  · rintro ⟨hname, hdirectory, hrest⟩
    simp [hname, checkDirectory_eq_ok_iff.mpr hdirectory, hrest, bind, Except.bind]

/-- What is reached is a directory. -/
lemma Reached.isDirectory (h : Reached tree directory) : tree.isDirectory directory = true := by
  rcases List.eq_nil_or_concat directory with rfl | ⟨above, name, rfl⟩
  · rfl
  · rw [List.concat_eq_append] at h ⊢
    rw [Reached, checkThrough_append] at h
    cases habove : checkThrough tree [] above with
    | error cause => simp [habove, bind, Except.bind] at h
    | ok _ =>
      have hlast : checkThrough tree ([] ++ above) [name] = .ok () := by
        simpa [habove, bind, Except.bind] using h
      exact (checkThrough_cons_iff.mp hlast).2.1

/-- What is reached stays so as long as directories stay. -/
lemma checkThrough_mono {changed : FileTree}
    (h : ∀ location, tree.isDirectory location = true → changed.isDirectory location = true)
    {above names : Location} (hreached : checkThrough tree above names = .ok ()) :
    checkThrough changed above names = .ok () := by
  induction names generalizing above with
  | nil => rfl
  | cons name names ih =>
    obtain ⟨hname, hdirectory, hrest⟩ := checkThrough_cons_iff.mp hreached
    exact checkThrough_cons_iff.mpr ⟨hname, h _ hdirectory, ih hrest⟩

lemma checkReach_append (tree : FileTree) (directory : Location) (name : String) :
    checkReach tree (directory ++ [name]) = (do
      checkThrough tree [] directory
      checkName name) := by
  rw [checkReach, List.dropLast_concat, List.getLast?_concat]

lemma Reached.checkReach (h : Reached tree directory) (hname : name.utf8ByteSize ≤ 255) :
    checkReach tree (directory ++ [name]) = .ok () := by
  rw [checkReach_append, h]
  exact checkName_eq_ok hname

/-- Nothing is read under a name that no file can have. -/
lemma read_of_long (h : Reached tree directory) (hname : 255 < name.utf8ByteSize) :
    tree.read (directory ++ [name]) = .error .nameTooLong := by
  rw [read, stat, checkReach_append, h, checkName, if_pos hname]
  rfl

/-! ### Files in a reached directory -/

section File

variable (h : Reached tree directory) (hname : name.utf8ByteSize ≤ 255)
include h hname

lemma stat_of_some {node : Node} (hnode : tree.lookup (directory ++ [name]) = some node) :
    tree.stat (directory ++ [name]) = .ok node := by
  simp only [stat, h.checkReach hname, hnode]
  rfl

lemma stat_of_none (hnone : tree.lookup (directory ++ [name]) = none) :
    tree.stat (directory ++ [name]) = .error .missing := by
  simp only [stat, h.checkReach hname, hnone]
  rfl

lemma read_of_file {mode : Nat}
    (hfile : tree.lookup (directory ++ [name]) = some (.file content mode)) :
    tree.read (directory ++ [name]) = .ok content := by
  rw [read, stat_of_some h hname hfile]
  rfl

lemma read_of_none (hnone : tree.lookup (directory ++ [name]) = none) :
    tree.read (directory ++ [name]) = .error .missing := by
  rw [read, stat_of_none h hname hnone]
  rfl

lemma write_of_file {old : Content} {mode : Nat}
    (hfile : tree.lookup (directory ++ [name]) = some (.file old mode)) :
    tree.write (directory ++ [name]) content =
      .ok (tree.put (directory ++ [name]) (.file content mode)) := by
  simp only [write, h.checkReach hname, hfile]
  rfl

lemma write_of_none (hnone : tree.lookup (directory ++ [name]) = none) :
    tree.write (directory ++ [name]) content =
      .ok (tree.put (directory ++ [name]) (.file content 0o644)) := by
  simp only [write, h.checkReach hname, hnone]
  rfl

lemma removeFile_of_file {mode : Nat}
    (hfile : tree.lookup (directory ++ [name]) = some (.file content mode)) :
    tree.removeFile (directory ++ [name]) = .ok (tree.erase (directory ++ [name])) := by
  rw [removeFile, stat_of_some h hname hfile]
  rfl

lemma removeFile_of_none (hnone : tree.lookup (directory ++ [name]) = none) :
    tree.removeFile (directory ++ [name]) = .error .missing := by
  rw [removeFile, stat_of_none h hname hnone]
  rfl

/-- Nothing is read from a directory that is not there. -/
lemma read_of_missing (file : String) (hnone : tree.lookup (directory ++ [name]) = none) :
    tree.read (directory ++ [name] ++ [file]) = .error .missing := by
  have hmissing : checkDirectory tree (directory ++ [name]) = .error .missing := by
    rw [checkDirectory, hnone]
  rw [read, stat, checkReach_append, checkThrough_append, h]
  simp [checkThrough, checkName_eq_ok hname, hmissing, bind, Except.bind]

/-- A file replaces another one of the same directory. -/
lemma rename_of_file {source : String} {mode : Nat} (hsource : source.utf8ByteSize ≤ 255)
    (hfile : tree.lookup (directory ++ [source]) = some (.file content mode))
    (htarget : tree.isDirectory (directory ++ [name]) = false) :
    tree.rename (directory ++ [source]) (directory ++ [name]) =
      .ok ((tree.erase (directory ++ [source])).put (directory ++ [name]) (.file content mode)) := by
  rw [rename, stat_of_some h hsource hfile]
  simp only [bind, Except.bind, h.checkReach hname, htarget]
  rfl

/-- A file that is written under another name first takes the place of the one that there was. -/
lemma exists_replaced {draft : String} (hdraft : draft.utf8ByteSize ≤ 255) (hne : draft ≠ name)
    (hnone : tree.lookup (directory ++ [draft]) = none)
    (htarget : tree.isDirectory (directory ++ [name]) = false) (content : Content) :
    ∃ drafted replaced, tree.write (directory ++ [draft]) content = .ok drafted ∧
      drafted.rename (directory ++ [draft]) (directory ++ [name]) = .ok replaced ∧
      ∀ location, replaced.lookup location =
        if directory ++ [name] = location then some (.file content 0o644)
        else if directory ++ [draft] = location then none
        else tree.lookup location := by
  have hlookup : ∀ location, (tree.put (directory ++ [draft]) (.file content 0o644)).lookup location =
      if directory ++ [draft] = location then some (.file content 0o644)
      else tree.lookup location := fun location => lookup_put tree _ (by simp)
  have hkeeps : ∀ location, tree.isDirectory location = true →
      (tree.put (directory ++ [draft]) (.file content 0o644)).isDirectory location = true := by
    intro location hlocation
    rw [isDirectory_iff] at hlocation ⊢
    rw [hlookup, if_neg]
    · exact hlocation
    · rintro rfl
      obtain ⟨mode, hmode⟩ := hlocation
      rw [hnone] at hmode
      contradiction
  have htarget' :
      (tree.put (directory ++ [draft]) (.file content 0o644)).isDirectory (directory ++ [name]) =
        false := by
    rw [isDirectory] at htarget ⊢
    rwa [hlookup, if_neg (by simpa using hne)]
  refine ⟨_, _, write_of_none h hdraft hnone,
    rename_of_file (checkThrough_mono hkeeps h) hname hdraft (by rw [hlookup, if_pos rfl]) htarget',
    fun location => ?_⟩
  rw [lookup_put _ _ (by simp), lookup_erase _ (by simp), hlookup]
  by_cases hsame : directory ++ [draft] = location <;> simp [hsame]

end File

/-! ### Making directories -/

/-- A directory that is reached need not be made. -/
lemma makeDirectoriesFrom_of_through {above names rest : Location}
    (h : checkThrough tree above names = .ok ()) :
    makeDirectoriesFrom tree above (names ++ rest) =
      makeDirectoriesFrom tree (above ++ names) rest := by
  induction names generalizing above with
  | nil => simp
  | cons name names ih =>
    obtain ⟨hname, hdirectory, hrest⟩ := checkThrough_cons_iff.mp h
    obtain ⟨mode, hmode⟩ := isDirectory_iff.mp hdirectory
    rw [List.cons_append, makeDirectoriesFrom]
    simp only [hname, hmode, bind, Except.bind, ih hrest]
    simp

lemma Reached.makeDirectories (h : Reached tree directory) :
    tree.makeDirectories directory = .ok tree := by
  have hmade : makeDirectoriesFrom tree [] (directory ++ []) =
      makeDirectoriesFrom tree ([] ++ directory) [] := makeDirectoriesFrom_of_through h
  rw [List.append_nil] at hmade
  exact hmade

/-- A directory that is missing in a reached one is made there. -/
lemma Reached.makeDirectories_of_none (h : Reached tree directory)
    (hname : name.utf8ByteSize ≤ 255) (hnone : tree.lookup (directory ++ [name]) = none) :
    tree.makeDirectories (directory ++ [name]) =
      .ok (tree.put (directory ++ [name]) (.directory 0o755)) := by
  rw [FileTree.makeDirectories, makeDirectoriesFrom_of_through h, makeDirectoriesFrom,
    checkName_eq_ok hname]
  simp only [List.nil_append, hnone, bind, Except.bind]
  rfl

lemma isDirectory_put (tree : FileTree) (hne : directory ≠ []) {mode : Nat}
    (h : tree.isDirectory location = true) :
    (tree.put directory (.directory mode)).isDirectory location = true := by
  rw [isDirectory_iff] at h ⊢
  rw [lookup_put tree _ hne]
  split
  · exact ⟨mode, rfl⟩
  · exact h

/-- When directories were made, names lead through them. What was a directory is one, and off the
way nothing changed. -/
lemma through_of_makeDirectoriesFrom {above names : Location} {changed : FileTree}
    (h : tree.makeDirectoriesFrom above names = .ok changed) :
    checkThrough changed above names = .ok () ∧
      (∀ location, tree.isDirectory location = true → changed.isDirectory location = true) ∧
      ∀ location, ¬ location <+: above ++ names → changed.lookup location = tree.lookup location := by
  induction names generalizing tree above with
  | nil =>
    obtain rfl := Except.ok.inj h
    exact ⟨rfl, fun _ hlocation => hlocation, fun _ _ => rfl⟩
  | cons name names ih =>
    rw [makeDirectoriesFrom] at h
    cases hname : checkName name with
    | error cause => simp [hname, bind, Except.bind] at h
    | ok _ =>
      simp only [hname, bind, Except.bind] at h
      have hway : above ++ [name] ++ names = above ++ name :: names := by simp
      split at h
      · next mode hhere =>
        obtain ⟨hthrough, hkeeps, hsame⟩ := ih h
        rw [hway] at hsame
        have hdirectory := hkeeps _ (isDirectory_iff.mpr ⟨mode, hhere⟩)
        exact ⟨checkThrough_cons_iff.mpr ⟨hname, hdirectory, hthrough⟩, hkeeps, hsame⟩
      · contradiction
      · obtain ⟨hthrough, hkeeps, hsame⟩ := ih h
        rw [hway] at hsame
        have hlookup : ∀ location,
            (tree.put (above ++ [name]) (.directory 0o755)).lookup location =
              if above ++ [name] = location then some (.directory 0o755) else tree.lookup location :=
          fun location => lookup_put tree _ (by simp)
        have hdirectory := hkeeps (above ++ [name])
          (isDirectory_iff.mpr ⟨0o755, by rw [hlookup, if_pos rfl]⟩)
        refine ⟨checkThrough_cons_iff.mpr ⟨hname, hdirectory, hthrough⟩,
          fun location hlocation => hkeeps _ (isDirectory_put tree (by simp) hlocation),
          fun location hoff => ?_⟩
        rw [hsame location hoff, hlookup, if_neg]
        rintro rfl
        exact hoff ⟨names, hway⟩

lemma reached_of_makeDirectories {changed : FileTree}
    (h : tree.makeDirectories directory = .ok changed) :
    changed.Reached directory ∧
      (∀ location, tree.isDirectory location = true → changed.isDirectory location = true) ∧
      ∀ location, ¬ location <+: directory → changed.lookup location = tree.lookup location :=
  through_of_makeDirectoriesFrom h

lemma Reached.above (h : Reached tree (directory ++ location)) : Reached tree directory := by
  rw [Reached, checkThrough_append] at h
  cases habove : checkThrough tree [] directory with
  | error cause => simp [habove, bind, Except.bind] at h
  | ok _ => exact habove

/-! ### Beside a file that is written -/

/-- Whether names lead through directories depends on what is on their way. -/
lemma checkThrough_congr {changed : FileTree} {above names : Location}
    (h : ∀ location, location <+: above ++ names → changed.lookup location = tree.lookup location) :
    checkThrough changed above names = checkThrough tree above names := by
  induction names generalizing above with
  | nil => rfl
  | cons name names ih =>
    have hway : above ++ [name] ++ names = above ++ name :: names := by simp
    have hhere : checkDirectory changed (above ++ [name]) = checkDirectory tree (above ++ [name]) := by
      rw [checkDirectory, checkDirectory, h _ ⟨names, hway⟩]
    rw [checkThrough, checkThrough, hhere, ih (hway ▸ h)]

/-- A tree that differs from another one at a single location, where no directory was. -/
structure Differs (tree changed : FileTree) (location : Location) : Prop where
  others : ∀ other, location ≠ other → changed.lookup other = tree.lookup other
  directories : ∀ other, tree.isDirectory other = true → changed.isDirectory other = true

namespace Differs

variable {changed : FileTree}

lemma refl (tree : FileTree) (location : Location) : Differs tree tree location :=
  ⟨fun _ _ => rfl, fun _ h => h⟩

lemma of_file (hfile : tree.isDirectory location = false)
    (hothers : ∀ other, location ≠ other → changed.lookup other = tree.lookup other) :
    Differs tree changed location := by
  refine ⟨hothers, fun other hother => ?_⟩
  have hne : location ≠ other := by
    rintro rfl
    simp [hfile] at hother
  rwa [isDirectory, hothers other hne, ← isDirectory]

variable (h : Differs tree changed location)
include h

lemma reached (hreached : tree.Reached directory) : changed.Reached directory :=
  checkThrough_mono h.directories hreached

/-- What is not below the location is read as before. -/
lemma read (hoff : ¬ location <+: other) : changed.read other = tree.read other := by
  have hlookup : ∀ prior, prior <+: other → changed.lookup prior = tree.lookup prior :=
    fun prior hprior => h.others prior fun heq => hoff (heq ▸ hprior)
  have hreach : FileTree.checkReach changed other = FileTree.checkReach tree other := by
    rw [FileTree.checkReach, FileTree.checkReach, checkThrough_congr fun prior hprior =>
      hlookup prior (hprior.trans (List.dropLast_prefix other))]
  rw [FileTree.read, FileTree.read, stat, stat, hreach, hlookup other List.prefix_rfl]

/-- The location itself is reached as before, for the way to it ends above it. -/
lemma checkReach_self (hnil : location ≠ []) :
    FileTree.checkReach changed location = FileTree.checkReach tree location := by
  rw [FileTree.checkReach, FileTree.checkReach, checkThrough_congr fun prior hprior => h.others _ ?_]
  rintro rfl
  have hlength := hprior.length_le
  have hpos := List.length_pos_iff.mpr hnil
  rw [List.nil_append, List.length_dropLast] at hlength
  omega

end Differs

/-- Where a file can be put: nothing or a file is there. -/
def Free (tree : FileTree) (location : Location) : Prop :=
  ∀ node, tree.lookup location = some node → ∃ content mode, node = .file content mode

lemma free_of_none (h : tree.lookup location = none) : tree.Free location := by
  intro node hnode
  rw [h] at hnode
  contradiction

lemma free_of_file {mode : Nat} (h : tree.lookup location = some (.file content mode)) :
    tree.Free location := by
  intro node hnode
  rw [h] at hnode
  exact ⟨content, mode, (Option.some.inj hnode).symm⟩

lemma Free.isDirectory (h : tree.Free location) : tree.isDirectory location = false := by
  rw [Bool.eq_false_iff]
  intro hdirectory
  obtain ⟨mode, hmode⟩ := isDirectory_iff.mp hdirectory
  obtain ⟨_, _, hfile⟩ := h _ hmode
  contradiction

lemma Free.ne_link (h : tree.Free location) (target : String) :
    tree.lookup location ≠ some (.link target) := by
  intro hlink
  obtain ⟨_, _, hfile⟩ := h _ hlink
  contradiction

/-- What is put where a file can be put is found. -/
lemma stat_put {node : Node} (hnil : location ≠ []) (hfree : tree.Free location)
    (hreached : checkReach tree location = .ok ()) :
    (tree.put location node).stat location = .ok node := by
  have hdiffers : Differs tree (tree.put location node) location :=
    .of_file hfree.isDirectory fun other hne => by rw [lookup_put _ _ hnil, if_neg hne]
  have hnode : (tree.put location node).lookup location = some node := by
    rw [lookup_put _ _ hnil, if_pos rfl]
  simp only [stat, hdiffers.checkReach_self hnil, hreached, hnode]
  rfl

section Write

variable {changed : FileTree} (h : tree.write location content = .ok changed)
include h

/-- A write that succeeds puts a file where there was a file or nothing. -/
lemma exists_of_write : location ≠ [] ∧ checkReach tree location = .ok () ∧ tree.Free location ∧
    ∃ mode, changed = tree.put location (.file content mode) := by
  obtain ⟨⟨⟩, hreach, h⟩ := exists_of_bind_eq_ok h
  refine ⟨?_, hreach, ?_⟩
  · rintro rfl
    simp [lookup, throw, throwThe, MonadExceptOf.throw] at h
  · split at h
    · next old mode hfile => exact ⟨free_of_file hfile, mode, (Except.ok.inj h).symm⟩
    · contradiction
    · contradiction
    · next hnone => exact ⟨free_of_none hnone, 0o644, (Except.ok.inj h).symm⟩

lemma differs_of_write : Differs tree changed location := by
  obtain ⟨hnil, -, hfree, mode, rfl⟩ := exists_of_write h
  exact .of_file hfree.isDirectory fun other hne => by rw [lookup_put _ _ hnil, if_neg hne]

/-- What is not below a file that is written is read as before. -/
lemma read_of_write (hoff : ¬ location <+: other) : changed.read other = tree.read other :=
  (differs_of_write h).read hoff

/-- What was written is there. -/
lemma exists_written : ∃ mode, changed.stat location = .ok (.file content mode) := by
  obtain ⟨hnil, hreached, hfree, mode, rfl⟩ := exists_of_write h
  exact ⟨mode, stat_put hnil hfree hreached⟩

/-- What was written is read. -/
lemma read_written : changed.read location = .ok content := by
  obtain ⟨mode, hstat⟩ := exists_written h
  rw [read, hstat]
  rfl

end Write

section Remove

variable {changed : FileTree} (h : tree.removeFile location = .ok changed)
include h

/-- A removal that succeeds takes away what is there, which is no directory. -/
lemma eq_erase_of_removeFile : location ≠ [] ∧ checkReach tree location = .ok () ∧
    tree.isDirectory location = false ∧ changed = tree.erase location := by
  rw [removeFile, stat] at h
  cases hreach : checkReach tree location with
  | error cause => simp [hreach, bind, Except.bind] at h
  | ok _ =>
    cases hnode : tree.lookup location with
    | none => simp [hreach, hnode, bind, Except.bind, throw, throwThe, MonadExceptOf.throw] at h
    | some node =>
      simp only [hreach, hnode, bind, Except.bind, pure, Except.pure] at h
      cases node with
      | directory mode => contradiction
      | file content mode | link target =>
        refine ⟨?_, rfl, by rw [isDirectory, hnode], (Except.ok.inj h).symm⟩
        rintro rfl
        simp [lookup] at hnode

lemma differs_of_removeFile : Differs tree changed location := by
  obtain ⟨hnil, -, hfile, rfl⟩ := eq_erase_of_removeFile h
  exact .of_file hfile fun other hne => by rw [lookup_erase _ hnil, if_neg hne]

/-- What was removed is missing. -/
lemma read_removed : changed.read location = .error .missing := by
  have hdiffers := differs_of_removeFile h
  obtain ⟨hnil, hreached, -, rfl⟩ := eq_erase_of_removeFile h
  have hnone : (tree.erase location).lookup location = none := by
    rw [lookup_erase _ hnil, if_pos rfl]
  simp only [read, stat, hdiffers.checkReach_self hnil, hreached, hnone]
  rfl

end Remove

/-- What cannot be removed because it is missing is read as missing. -/
lemma read_of_removeFile_missing (h : tree.removeFile location = .error .missing) :
    tree.read location = .error .missing := by
  have hmissing : tree.stat location = .error .missing := by
    rw [removeFile] at h
    cases hstat : tree.stat location with
    | error cause =>
      simp only [hstat, bind, Except.bind] at h
      rw [Except.error.inj h]
    | ok node =>
      simp only [hstat, bind, Except.bind] at h
      cases node with
      | directory mode => exact absurd (Except.error.inj h) (by decide)
      | file | link => contradiction
  rw [read, hmissing]
  rfl

end Judge.Host.FileTree
