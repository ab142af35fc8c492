import Judge.Proofs.Host.FileTree
import Judge.Proofs.Store.Slot

/-!
The files of a store. A store leaves only whole files behind: every slot is one file or none, and
the files beside them are gone. On such a tree the actions of a store do to one slot what they say,
and nothing to the others.
-/

namespace Judge.Store.Disk

open Host (FileTree Location Content Node)
open Host.FileTree

variable {α β : Type} {root : Root} {slot other : Slot} {tree changed : FileTree}

/-! ### Actions -/

/-- Runs an action on the files of a store. -/
def runOn (action : Action α) (tree : FileTree) : Except Error α × FileTree := action.run tree

lemma handle_eq (call : Call) : handle root call tree = runOn (perform root call) tree := rfl

lemma runOn_bind (action : Action α) (next : α → Action β) (tree : FileTree) :
    runOn (action >>= next) tree =
      match runOn action tree with
      | (.ok a, tree) => runOn (next a) tree
      | (.error cause, tree) => (.error cause, tree) := by
  rcases hrun : runOn action tree with ⟨result, left⟩
  have hstate : StateT.run (ExceptT.run action) tree = (result, left) := hrun
  change StateT.run (ExceptT.run (action >>= next)) tree = _
  rw [ExceptT.run_bind, StateT.run_bind, hstate]
  cases result <;> rfl

@[simp] lemma runOn_pure (a : α) (tree : FileTree) :
    runOn (pure a : Action α) tree = (.ok a, tree) := rfl

@[simp] lemma runOn_throw (cause : Error) (tree : FileTree) :
    runOn (throw cause : Action α) tree = (.error cause, tree) := rfl

lemma runOn_bind_of_ok {action : Action α} {a : α} (h : runOn action tree = (.ok a, changed))
    (next : α → Action β) : runOn (action >>= next) tree = runOn (next a) changed := by
  rw [runOn_bind, h]

lemma runOn_bind_of_error {action : Action α} {cause : Error}
    (h : runOn action tree = (.error cause, changed)) (next : α → Action β) :
    runOn (action >>= next) tree = (.error cause, changed) := by
  rw [runOn_bind, h]

lemma runOn_change_of_ok {step : FileTree → Except IoError FileTree}
    (h : step tree = .ok changed) (error : IoError → Error) :
    runOn (change step error) tree = (.ok (), changed) := by
  have hget : runOn get tree = (.ok tree, tree) := rfl
  rw [change, runOn_bind_of_ok hget, h]
  rfl

lemma runOn_change_of_error {step : FileTree → Except IoError FileTree} {cause : IoError}
    (h : step tree = .error cause) (error : IoError → Error) :
    runOn (change step error) tree = (.error (error cause), tree) := by
  have hget : runOn get tree = (.ok tree, tree) := rfl
  rw [change, runOn_bind_of_ok hget, h]
  rfl

/-! ### Tidy trees -/

/-- What a file holds. -/
def content? (tree : FileTree) (location : Location) : Option Content :=
  match tree.lookup location with
  | some (.file content _) => some content
  | _ => none

/-- The tree of a store between two calls. -/
structure Tidy (root : Root) (tree : FileTree) : Prop where
  reached : tree.Reached root.location
  problems : tree.isDirectory (root.location ++ ["problems"]) = true
  tests : tree.isDirectory (root.location ++ ["tests"]) = true
  /-- The directory of a problem is there or missing. -/
  folder : ∀ id : Int, tree.lookup (root.location ++ ["problems", toString id]) = none ∨
    tree.isDirectory (root.location ++ ["problems", toString id]) = true
  /-- The file of a slot is there, in its directory, or missing. -/
  file : ∀ slot, tree.lookup (root.entry true slot) = none ∨
    (∃ content mode, tree.lookup (root.entry true slot) = some (.file content mode)) ∧
      tree.isDirectory (root.folder slot) = true
  spare : ∀ slot, tree.lookup (root.entry false slot) = none

namespace Tidy

lemma reached_problems (h : Tidy root tree) : tree.Reached (root.location ++ ["problems"]) :=
  h.reached.snoc (by decide) h.problems

lemma reached_tests (h : Tidy root tree) : tree.Reached (root.location ++ ["tests"]) :=
  h.reached.snoc (by decide) h.tests

/-- The directory of a slot can be reached, or it is that of a problem and missing. -/
lemma reached_folder (h : Tidy root tree) (hfits : slot.Fits) :
    tree.Reached (root.folder slot) ∨ ∃ id : Int, slot.number = id ∧
      root.folder slot = root.location ++ ["problems"] ++ [toString id] ∧
      tree.lookup (root.folder slot) = none := by
  cases slot with
  | counter =>
    left
    simpa [Root.folder, Slot.folder] using h.reached
  | input | output => exact .inl h.reached_tests
  | problem id | tests id | subtasks id =>
    have heq : root.location ++ ["problems", toString id] =
        root.location ++ ["problems"] ++ [toString id] := by simp
    rcases h.folder id with hnone | hdirectory
    · exact .inr ⟨id, rfl, heq, hnone⟩
    · left
      rw [heq] at hdirectory
      have hsize := utf8ByteSize_toString hfits
      simp only [Slot.number] at hsize
      have hreached := h.reached_problems.snoc (by omega) hdirectory
      simpa [Root.folder, Slot.folder] using hreached

lemma lookup_of_content? {location : Location} {content : Content}
    (h : content? tree location = some content) :
    ∃ mode, tree.lookup location = some (.file content mode) := by
  rw [content?] at h
  split at h
  · next mode hlookup => exact ⟨mode, by rw [hlookup, Option.some.inj h]⟩
  · contradiction

lemma lookup_of_content?_none (h : Tidy root tree)
    (hnone : content? tree (root.entry true slot) = none) :
    tree.lookup (root.entry true slot) = none := by
  rcases h.file slot with hmissing | ⟨⟨content, mode, hlookup⟩, -⟩
  · exact hmissing
  · simp [content?, hlookup] at hnone

lemma isDirectory_of_content? (h : Tidy root tree) {content : Content}
    (hcontent : content? tree (root.entry true slot) = some content) :
    tree.isDirectory (root.folder slot) = true := by
  obtain ⟨mode, hlookup⟩ := lookup_of_content? hcontent
  rcases h.file slot with hmissing | ⟨-, hdirectory⟩
  · rw [hlookup] at hmissing
    contradiction
  · exact hdirectory

/-- A slot is read, if it is there. -/
lemma read (h : Tidy root tree) (hfits : slot.Fits) : tree.read (root.entry true slot) =
    match content? tree (root.entry true slot) with
    | some content => .ok content
    | none => .error .missing := by
  have hname := hfits.name_le true
  rcases h.reached_folder hfits with hreached | ⟨id, hnumber, hfolder, hmissing⟩
  · cases hcontent : content? tree (root.entry true slot) with
    | none => exact read_of_none hreached hname (h.lookup_of_content?_none hcontent)
    | some content =>
      obtain ⟨mode, hlookup⟩ := lookup_of_content? hcontent
      exact read_of_file hreached hname hlookup
  · have hnone : content? tree (root.entry true slot) = none := by
      by_contra hsome
      obtain ⟨content, hcontent⟩ := Option.ne_none_iff_exists'.mp hsome
      obtain ⟨mode, hdirectory⟩ := isDirectory_iff.mp (h.isDirectory_of_content? hcontent)
      rw [hmissing] at hdirectory
      contradiction
    -- The file is missing as its directory is.
    have hsize := utf8ByteSize_toString hfits
    rw [hnumber] at hsize
    rw [hnone, Root.entry, hfolder]
    exact read_of_missing h.reached_problems (by omega) _ (hfolder ▸ hmissing)

lemma read_spare (h : Tidy root tree) (hfits : slot.Fits)
    (hreached : tree.Reached (root.folder slot)) :
    tree.read (root.entry false slot) = .error .missing :=
  read_of_none hreached (hfits.name_le false) (h.spare slot)

lemma not_isDirectory (h : Tidy root tree) (stays : Bool) :
    tree.isDirectory (root.entry stays slot) = false := by
  rw [Bool.eq_false_iff, Ne, isDirectory_iff]
  rintro ⟨mode, hmode⟩
  cases stays with
  | false =>
    rw [h.spare slot] at hmode
    contradiction
  | true =>
    rcases h.file slot with hnone | ⟨⟨content, mode', hlookup⟩, -⟩
    · rw [hnone] at hmode
      contradiction
    · simp [hlookup] at hmode

end Tidy

/-! ### Changes -/

/-- One slot has another content, and the others have what they had. -/
structure Becomes (root : Root) (tree changed : FileTree) (slot : Slot) (content : Option Content) :
    Prop where
  tidy : Tidy root changed
  same : content? changed (root.entry true slot) = content
  others : ∀ other, other ≠ slot →
    content? changed (root.entry true other) = content? tree (root.entry true other)

lemma content?_congr {location : Location} (h : changed.lookup location = tree.lookup location) :
    content? changed location = content? tree location := by
  rw [content?, content?, h]

/-- A tree that differs in the files of one slot only. -/
lemma Tidy.becomes (h : Tidy root tree) {slot : Slot} (file : Option (Content × Nat))
    (hdirectory : tree.isDirectory (root.folder slot) = true)
    (hchanged : ∀ location, changed.lookup location =
      if root.entry true slot = location then file.map fun f => Node.file f.1 f.2
      else if root.entry false slot = location then none
      else tree.lookup location) :
    Becomes root tree changed slot (file.map (·.1)) := by
  have hkeeps : ∀ location, tree.isDirectory location = true →
      changed.isDirectory location = true := by
    intro location hlocation
    -- No file of a store stands where a directory is, so the directories are left alone.
    have hfile : ∀ stays, root.entry stays slot ≠ location := by
      rintro stays rfl
      rw [h.not_isDirectory] at hlocation
      contradiction
    rw [isDirectory_iff] at hlocation ⊢
    rwa [hchanged, if_neg (hfile true), if_neg (hfile false)]
  have hother : ∀ other, other ≠ slot →
      changed.lookup (root.entry true other) = tree.lookup (root.entry true other) := by
    intro other hne
    have hfile : ∀ stays, root.entry stays slot ≠ root.entry true other := fun stays heq =>
      hne (Root.entry_inj heq).1.symm
    rw [hchanged, if_neg (hfile true), if_neg (hfile false)]
  have hself : changed.lookup (root.entry true slot) = file.map fun f => Node.file f.1 f.2 := by
    rw [hchanged, if_pos rfl]
  refine ⟨⟨?_, ?_, ?_, ?_, ?_, ?_⟩, ?_, ?_⟩
  · exact checkThrough_mono hkeeps h.reached
  · exact hkeeps _ h.problems
  · exact hkeeps _ h.tests
  · intro id
    have hfolder : ∀ stays, root.entry stays slot ≠ root.location ++ ["problems", toString id] :=
      fun stays heq => @Root.folder_ne_entry root (.problem id) slot stays heq.symm
    rcases h.folder id with hnone | hthere
    · left
      rw [hchanged, if_neg (hfolder true), if_neg (hfolder false), hnone]
    · exact .inr (hkeeps _ hthere)
  · intro other
    by_cases hsame : other = slot
    · subst hsame
      cases file with
      | none => exact .inl hself
      | some file => exact .inr ⟨⟨file.1, file.2, hself⟩, hkeeps _ hdirectory⟩
    · rw [hother other hsame]
      exact (h.file other).imp_right fun hfile => ⟨hfile.1, hkeeps _ hfile.2⟩
  · intro other
    have hne : root.entry true slot ≠ root.entry false other := fun heq => by
      simpa using (Root.entry_inj heq).2
    rw [hchanged, if_neg hne, h.spare other, ite_self]
  · cases file with
    | none => simp [content?, hself]
    | some file => simp [content?, hself]
  · exact fun other hne => content?_congr (hother other hne)

/-- A slot that already has a content becomes so. -/
lemma Tidy.becomes_self (h : Tidy root tree) (slot : Slot) :
    Becomes root tree tree slot (content? tree (root.entry true slot)) :=
  ⟨h, rfl, fun _ _ => rfl⟩

/-- The directory of a slot is made if it is missing; nothing else changes. -/
lemma Tidy.make (h : Tidy root tree) (hfits : slot.Fits) :
    ∃ made, tree.makeDirectories (root.folder slot) = .ok made ∧ Tidy root made ∧
      made.Reached (root.folder slot) ∧
      ∀ stays other, made.lookup (root.entry stays other) = tree.lookup (root.entry stays other) := by
  rcases h.reached_folder hfits with hreached | ⟨id, hnumber, hfolder, hmissing⟩
  · exact ⟨tree, hreached.makeDirectories, h, hreached, fun _ _ => rfl⟩
  · have hsize : (toString id).utf8ByteSize ≤ 255 := by
      have hsize := utf8ByteSize_toString hfits
      rw [hnumber] at hsize
      omega
    have hnil : root.folder slot ≠ [] := by
      rw [hfolder]
      simp
    have hlookup : ∀ location, (tree.put (root.folder slot) (.directory 0o755)).lookup location =
        if root.folder slot = location then some (.directory 0o755) else tree.lookup location :=
      fun location => lookup_put tree _ hnil
    have hentry : ∀ stays other, (tree.put (root.folder slot) (.directory 0o755)).lookup
        (root.entry stays other) = tree.lookup (root.entry stays other) := by
      intro stays other
      rw [hlookup, if_neg (Root.folder_ne_entry stays)]
    have hkeeps : ∀ location, tree.isDirectory location = true →
        (tree.put (root.folder slot) (.directory 0o755)).isDirectory location = true :=
      fun _ => isDirectory_put tree hnil
    have hmade : (tree.put (root.folder slot) (.directory 0o755)).isDirectory (root.folder slot) =
        true := isDirectory_iff.mpr ⟨0o755, by rw [hlookup, if_pos rfl]⟩
    -- A new directory is none of the files, so each slot has what it had.
    have htidy : Tidy root (tree.put (root.folder slot) (.directory 0o755)) := by
      refine ⟨checkThrough_mono hkeeps h.reached, hkeeps _ h.problems, hkeeps _ h.tests, ?_, ?_, ?_⟩
      · intro other
        by_cases hsame : root.folder slot = root.location ++ ["problems", toString other]
        · exact .inr (hsame ▸ hmade)
        · rw [hlookup, if_neg hsame]
          exact (h.folder other).imp_right (hkeeps _)
      · intro other
        rw [hentry]
        exact (h.file other).imp_right fun hfile => ⟨hfile.1, hkeeps _ hfile.2⟩
      · intro other
        rw [hentry, h.spare]
    refine ⟨_, ?_, htidy, ?_, hentry⟩
    · have hmissing' := hmissing
      rw [hfolder] at hmissing' ⊢
      exact h.reached_problems.makeDirectories_of_none hsize hmissing'
    · have hdirectory : (tree.put (root.folder slot) (.directory 0o755)).isDirectory
          (root.location ++ ["problems"] ++ [toString id]) = true := by
        rw [← hfolder]
        exact hmade
      have hreached := htidy.reached_problems.snoc hsize hdirectory
      rwa [← hfolder] at hreached

/-! ### Records -/

/-- The place of a slot. -/
def place (root : Root) : Slot → Place
  | .counter => root.counter
  | .problem id => root.problem id
  | .tests id => root.tests id
  | .subtasks id => root.subtasks id
  | .input test => root.input test
  | .output test => root.output test

section Record

variable (hrecord : slot.IsRecord)
include hrecord

lemma location_of_record : (place root slot).location = root.entry true slot := by
  cases slot with
  | input | output => exact hrecord.elim
  | counter | problem | tests | subtasks =>
    simp [place, Root.counter, Root.problem, Root.tests, Root.subtasks, Root.problemFile, Root.place,
      Root.entry, Root.folder, Slot.folder, Slot.name]

lemma dropLast_of_record : (place root slot).location.dropLast = root.folder slot := by
  rw [location_of_record hrecord, Root.entry, List.dropLast_concat]

lemma draft_of_record : (place root slot).draft.location = root.entry false slot := by
  rw [Place.draft, Place.addEnding, dropLast_of_record hrecord, location_of_record hrecord,
    Root.entry, Root.entry, List.getLast?_concat]
  cases slot with
  | input | output => exact hrecord.elim
  | counter | problem | tests | subtasks => rfl

/-- A record is what its file says. -/
lemma runOn_readRecord? (h : Tidy root tree) (hfits : slot.Fits) (decoder : Json.Decoder α) :
    runOn (readRecord? (place root slot) decoder) tree =
      (match content? tree (root.entry true slot) with
        | some content =>
          match Store.readRecord? decoder content.bytes with
          | some value => .ok (some value)
          | none => .error (.corrupt (place root slot).shown)
        | none => .ok none, tree) := by
  have hget : runOn get tree = (.ok tree, tree) := rfl
  rw [readRecord?, runOn_bind_of_ok hget, location_of_record hrecord, h.read hfits]
  rcases content? tree (root.entry true slot) with _ | content
  · rfl
  · simp only
    rcases Store.readRecord? decoder content.bytes with _ | value <;> rfl

/-- A record is written in the place of the one that there was. -/
lemma runOn_writeRecord (h : Tidy root tree) (hfits : slot.Fits) (value : Json.Value) :
    ∃ changed, runOn (writeRecord (place root slot) value) tree = (.ok (), changed) ∧
      Becomes root tree changed slot (some (.plain (recordText value))) := by
  obtain ⟨made, hmake, htidy, hreached, hentry⟩ := h.make hfits
  -- The record goes to its draft first, which is then renamed.
  have hne : slot.name false ≠ slot.name true := fun heq => by
    simpa using (@Slot.name_inj slot slot false true rfl heq).2
  obtain ⟨drafted, replaced, hwrite, hrename, hlookup⟩ := exists_replaced hreached
    (hfits.name_le true) (hfits.name_le false) hne (htidy.spare slot) (htidy.not_isDirectory true)
    (.plain (recordText value))
  refine ⟨replaced, ?_, ?_⟩
  · rw [writeRecord, dropLast_of_record hrecord, draft_of_record hrecord,
      location_of_record hrecord, runOn_bind_of_ok (runOn_change_of_ok hmake _)]
    simp only
    rw [runOn_bind_of_ok (runOn_change_of_ok hwrite _)]
    exact runOn_change_of_ok hrename _
  · have hbecomes : Becomes root made replaced slot _ :=
      htidy.becomes (some (.plain (recordText value), 0o644)) hreached.isDirectory hlookup
    exact ⟨hbecomes.tidy, hbecomes.same, fun other hother =>
      (hbecomes.others other hother).trans (content?_congr (hentry true other))⟩

end Record

/-! ### Test data -/

section Data

variable (hdata : ¬ slot.IsRecord)
include hdata

lemma location_of_data : (place root slot).location = root.entry false slot := by
  cases slot with
  | counter | problem | tests | subtasks => exact absurd trivial hdata
  | input | output =>
    simp [place, Root.input, Root.output, Root.place, Root.entry, Root.folder, Slot.folder,
      Slot.name, toString]

lemma compressed_of_data : (place root slot).compressed.location = root.entry true slot := by
  cases slot with
  | counter | problem | tests | subtasks => exact absurd trivial hdata
  | input | output =>
    rw [Place.compressed, Place.addEnding, location_of_data hdata, Root.entry,
      List.dropLast_concat, List.getLast?_concat]
    simp only [Root.entry, Option.getD_some, Slot.name, if_true, String.append_assoc]
    rfl

lemma reached_of_data (h : Tidy root tree) : tree.Reached (root.folder slot) := by
  cases slot with
  | counter | problem | tests | subtasks => exact absurd trivial hdata
  | input | output => exact h.reached_tests

/-- There is never a plain copy to remove. -/
lemma runOn_removeIfExists (h : Tidy root tree) (hfits : slot.Fits) :
    runOn (removeIfExists (place root slot)) tree = (.ok (), tree) := by
  have hget : runOn get tree = (.ok tree, tree) := rfl
  rw [removeIfExists, runOn_bind_of_ok hget, location_of_data hdata, Root.entry,
    removeFile_of_none (reached_of_data hdata h) (hfits.name_le false) (h.spare slot)]
  rfl

/-- Data is gone after it was removed. -/
lemma runOn_removeIfExists_compressed (h : Tidy root tree) (hfits : slot.Fits) :
    ∃ changed, runOn (removeIfExists (place root slot).compressed) tree = (.ok (), changed) ∧
      Becomes root tree changed slot none := by
  have hget : runOn get tree = (.ok tree, tree) := rfl
  have hreached := reached_of_data hdata h
  rw [removeIfExists, runOn_bind_of_ok hget, compressed_of_data hdata]
  rcases h.file slot with hnone | ⟨⟨content, mode, hlookup⟩, hdirectory⟩
  · rw [Root.entry] at hnone ⊢
    rw [removeFile_of_none hreached (hfits.name_le true) hnone]
    refine ⟨tree, rfl, ?_⟩
    have hself := h.becomes_self slot
    rwa [content?, Root.entry, hnone] at hself
  · rw [Root.entry] at hlookup ⊢
    rw [removeFile_of_file hreached (hfits.name_le true) hlookup]
    refine ⟨_, rfl, h.becomes none hdirectory fun location => ?_⟩
    rw [lookup_erase _ (by simp), ← Root.entry]
    split
    · rfl
    · split
      · next heq => rw [← heq, h.spare]
      · rfl

/-- Data is written, up to a fault of its stream. -/
lemma runOn_writeBlob (h : Tidy root tree) (hfits : slot.Fits) (source : Source) :
    ∃ changed, runOn (writeBlob (place root slot) source) tree =
        (match source.fault with | none => .ok () | some fault => .error (.io fault), changed) ∧
      Becomes root tree changed slot (some (.gzip source.delivered)) := by
  have hreached := reached_of_data hdata h
  obtain ⟨changed, hwrite, hbecomes⟩ : ∃ changed,
      tree.write (root.entry true slot) (.gzip source.delivered) = .ok changed ∧
        Becomes root tree changed slot (some (.gzip source.delivered)) := by
    have hlookup : ∀ (mode : Nat) (location : Location),
        (tree.put (root.entry true slot) (.file (.gzip source.delivered) mode)).lookup location =
          if root.entry true slot = location then some (.file (.gzip source.delivered) mode)
          else if root.entry false slot = location then none
          else tree.lookup location := by
      intro mode location
      rw [lookup_put _ _ (Root.entry_ne_nil true)]
      split
      · rfl
      · split
        · next heq => rw [← heq, h.spare]
        · rfl
    rcases h.file slot with hnone | ⟨⟨content, mode, hold⟩, hdirectory⟩
    · exact ⟨_, write_of_none hreached (hfits.name_le true) hnone,
        h.becomes (some (.gzip source.delivered, 0o644)) hreached.isDirectory (hlookup _)⟩
    · exact ⟨_, write_of_file hreached (hfits.name_le true) hold,
        h.becomes (some (.gzip source.delivered, mode)) hdirectory (hlookup _)⟩
  refine ⟨changed, ?_, hbecomes⟩
  have hchange : runOn (change (·.write (root.entry true slot) (.gzip source.delivered)) fun _ =>
      .cannotCreate (place root slot).compressed.shown) tree = (.ok (), changed) :=
    runOn_change_of_ok hwrite _
  rw [writeBlob, compressed_of_data hdata, runOn_bind_of_ok hchange]
  cases source.fault with
  | none => exact runOn_removeIfExists hdata hbecomes.tidy hfits
  | some fault => rfl

/-- Data is opened, if it is there. -/
lemma runOn_openBlob (h : Tidy root tree) (hfits : slot.Fits) :
    runOn (openBlob (place root slot)) tree =
      (match content? tree (root.entry true slot) with
        | some content => .ok content.decompressed
        | none => .error (.noBlob (place root slot).shown), tree) := by
  have hget : runOn get tree = (.ok tree, tree) := rfl
  rw [openBlob, runOn_bind_of_ok hget, location_of_data hdata,
    h.read_spare hfits (reached_of_data hdata h), compressed_of_data hdata, h.read hfits]
  rcases content? tree (root.entry true slot) with _ | content <;> rfl

end Data
end Judge.Store.Disk
