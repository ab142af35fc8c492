import Judge.Proofs.Store.FailedSave

/-!
Which bytes a store on disk answers for the data of a test. There are two files for it, a compressed
one and a plain one that is read in front of it. Data is saved into the first one, and anyone may put
the second one there. Still the bytes that came last are answered, and none after they were purged.
-/

namespace Judge.Store

open Host (FileTree Content)
open Host.FileTree

namespace Disk

/-- What happens to the data of tests. -/
inductive Event where
  | save (half : Half) (test : Int) (source : Source)
  | purge (test : Int)
  /-- A plain file is put where the store looks for one. -/
  | place (half : Half) (test : Int) (bytes : Bytes)
  /-- The store is opened again. -/
  | reopen

namespace Event

/-- Lets an event happen. -/
def run (root : Root) : Event → FileTree → Except Error Unit × FileTree
  | save half test source, tree => half.save (handle root) test source tree
  | purge test, tree => handle root (.purgeData test) tree
  | place half test bytes, tree =>
    runOn (change (·.write (Disk.place root (half.slot test)).location (.plain bytes)) .io) tree
  | reopen, tree => runOn (openStore root) tree

/-- What an event means for a half of the data of a test: new bytes, no bytes any more, or
nothing. -/
def effect? (half : Half) (test : Int) : Event → Option (Option Bytes)
  | save other number source => if (other, number) = (half, test) then some source.delivered else none
  | purge number => if number = test then some none else none
  | place other number bytes => if (other, number) = (half, test) then some bytes else none
  | reopen => none

end Event

/-- Events that succeed one after the other; the list begins with the last one. -/
inductive History (root : Root) (start : FileTree) : List Event → FileTree → Prop where
  | empty : History root start [] start
  | next {events : List Event} {event : Event} {tree changed : FileTree} :
      History root start events tree → event.run root tree = (.ok (), changed) →
      History root start (event :: events) changed

/-- The effect of the last event that meant anything for a half of the data of a test. -/
def latest? (half : Half) (test : Int) (events : List Event) : Option (Option Bytes) :=
  events.findSome? (·.effect? half test)

lemma latest?_cons (half : Half) (test : Int) (event : Event) (events : List Event) :
    latest? half test (event :: events) = (event.effect? half test).or (latest? half test events) := by
  rw [latest?, List.findSome?_cons]
  cases event.effect? half test <;> rfl

/-- What is answered for bytes, or without any. -/
def answerOf (root : Root) (half : Half) (test : Int) : Option Bytes → Except Error Source
  | some bytes => .ok ⟨bytes, none⟩
  | none => .error (.noBlob (place root (half.slot test)).shown)

variable {root : Root} {tree changed : FileTree} {half other : Half} {test number : Int}

/-! ### Two files -/

/-- What is answered is decided by the two files. -/
lemma answer_of_plain {content : Content}
    (h : tree.read (root.entry false (half.slot test)) = .ok content) :
    half.answer (handle root) test tree = .ok ⟨content.bytes, none⟩ := by
  have hget : runOn get tree = (.ok tree, tree) := rfl
  rw [answer_eq, openBlob, runOn_bind_of_ok hget, location_of_data (not_isRecord_slot half test), h]
  rfl

lemma answer_of_compressed {content : Content}
    (hplain : tree.read (root.entry false (half.slot test)) = .error .missing)
    (h : tree.read (root.entry true (half.slot test)) = .ok content) :
    half.answer (handle root) test tree = .ok content.decompressed := by
  have hdata := not_isRecord_slot half test
  have hget : runOn get tree = (.ok tree, tree) := rfl
  rw [answer_eq, openBlob, runOn_bind_of_ok hget, location_of_data hdata, hplain,
    compressed_of_data hdata, h]
  rfl

lemma answer_of_missing (hplain : tree.read (root.entry false (half.slot test)) = .error .missing)
    (h : tree.read (root.entry true (half.slot test)) = .error .missing) :
    half.answer (handle root) test tree = answerOf root half test none := by
  have hdata := not_isRecord_slot half test
  have hget : runOn get tree = (.ok tree, tree) := rfl
  rw [answer_eq, openBlob, runOn_bind_of_ok hget, location_of_data hdata, hplain,
    compressed_of_data hdata, h]
  rfl

/-- A change of one file of the data of tests leaves the others alone. -/
lemma read_of_differs {stays stays' : Bool}
    (h : Differs tree changed (root.entry stays (half.slot test)))
    (hne : root.entry stays (half.slot test) ≠ root.entry stays' (other.slot number)) :
    changed.read (root.entry stays' (other.slot number)) =
      tree.read (root.entry stays' (other.slot number)) := by
  apply h.read
  -- All of them are in one directory, so that none is above another.
  intro hbelow
  refine hne (hbelow.eq_of_length ?_)
  cases half <;> cases other <;> simp [Root.entry, Root.folder, Half.slot, Slot.folder]

lemma slot_inj (h : half.slot test = other.slot number) : half = other ∧ test = number := by
  cases half <;> cases other <;> cases h <;> exact ⟨rfl, rfl⟩

lemma entry_slot_inj {stays stays' : Bool}
    (h : root.entry stays (half.slot test) = root.entry stays' (other.slot number)) :
    (half, test) = (other, number) ∧ stays = stays' := by
  obtain ⟨hslot, hstays⟩ := Root.entry_inj h
  obtain ⟨rfl, rfl⟩ := slot_inj hslot
  exact ⟨rfl, hstays⟩

lemma answer_of_differs {stays : Bool} (h : Differs tree changed (root.entry stays (half.slot test)))
    (hne : (half, test) ≠ (other, number)) :
    other.answer (handle root) number changed = other.answer (handle root) number tree := by
  have hread : ∀ stays', changed.read (root.entry stays' (other.slot number)) =
      tree.read (root.entry stays' (other.slot number)) := fun stays' =>
    read_of_differs h fun heq => hne (entry_slot_inj heq).1
  exact answer_congr (hread false) fun _ => hread true

lemma Opened.of_differs {location : Host.Location} (hopened : Opened root tree)
    (h : Differs tree changed location) : Opened root changed :=
  ⟨h.reached hopened.problems, h.reached hopened.tests⟩

/-! ### Events -/

lemma differs_of_removeIfExists {target : Place}
    (h : runOn (removeIfExists target) tree = (.ok (), changed)) :
    Differs tree changed target.location ∧ changed.read target.location = .error .missing := by
  have hget : runOn get tree = (.ok tree, tree) := rfl
  rw [removeIfExists, runOn_bind_of_ok hget] at h
  cases hremove : tree.removeFile target.location with
  | ok left =>
    rw [hremove] at h
    obtain rfl : left = changed := (Prod.mk.inj h).2
    exact ⟨differs_of_removeFile hremove, read_removed hremove⟩
  | error cause =>
    rw [hremove] at h
    cases cause with
    | missing =>
      obtain rfl : tree = changed := (Prod.mk.inj h).2
      exact ⟨.refl tree _, read_of_removeFile_missing hremove⟩
    | _ => simp at h

/-- What an event that succeeds leaves: an open store, and for each half of the data of each test what
the event means for it. -/
structure Happens (root : Root) (event : Event) (tree changed : FileTree) : Prop where
  opened : Opened root tree → Opened root changed
  answers : Opened root tree → ∀ half test, half.answer (handle root) test changed =
    match event.effect? half test with
    | some bytes? => answerOf root half test bytes?
    | none => half.answer (handle root) test tree

lemma happens_save {source : Source}
    (h : half.save (handle root) test source tree = (.ok (), changed)) :
    Happens root (.save half test source) tree changed := by
  have hdata := not_isRecord_slot half test
  rw [save_eq, writeBlob, compressed_of_data hdata] at h
  -- The compressed file is written, and then a plain one is removed.
  cases hwrite : tree.write (root.entry true (half.slot test)) (.gzip source.delivered) with
  | error cause =>
    rw [runOn_bind_of_error (runOn_change_of_error hwrite _)] at h
    simp at h
  | ok written =>
    rw [runOn_bind_of_ok (runOn_change_of_ok hwrite _)] at h
    cases hfault : source.fault with
    | some fault =>
      simp [hfault] at h
    | none =>
      rw [hfault] at h
      obtain ⟨hremoved, hplain⟩ := differs_of_removeIfExists h
      rw [location_of_data hdata] at hremoved hplain
      have hwritten := differs_of_write hwrite
      refine ⟨fun hopened => (hopened.of_differs hwritten).of_differs hremoved, fun _ => ?_⟩
      intro other number
      by_cases hsame : (half, test) = (other, number)
      · obtain ⟨rfl, rfl⟩ := Prod.mk.inj hsame
        have hcompressed : changed.read (root.entry true (half.slot test)) =
            .ok (.gzip source.delivered) := by
          rw [read_of_differs hremoved fun heq => by simpa using (entry_slot_inj heq).2]
          exact read_written hwrite
        rw [Event.effect?, if_pos rfl]
        exact answer_of_compressed hplain hcompressed
      · rw [Event.effect?, if_neg hsame]
        exact (answer_of_differs hremoved hsame).trans (answer_of_differs hwritten hsame)

lemma happens_place {bytes : Bytes}
    (h : (Event.place half test bytes).run root tree = (.ok (), changed)) :
    Happens root (.place half test bytes) tree changed := by
  rw [Event.run, location_of_data (not_isRecord_slot half test)] at h
  cases hwrite : tree.write (root.entry false (half.slot test)) (.plain bytes) with
  | error cause =>
    rw [runOn_change_of_error hwrite] at h
    simp at h
  | ok written =>
    rw [runOn_change_of_ok hwrite] at h
    obtain rfl : written = changed := (Prod.mk.inj h).2
    have hwritten := differs_of_write hwrite
    refine ⟨fun hopened => hopened.of_differs hwritten, fun _ => ?_⟩
    intro other number
    by_cases hsame : (half, test) = (other, number)
    · obtain ⟨rfl, rfl⟩ := Prod.mk.inj hsame
      rw [Event.effect?, if_pos rfl]
      exact answer_of_plain (read_written hwrite)
    · rw [Event.effect?, if_neg hsame]
      exact answer_of_differs hwritten hsame

/-- Removes both files of a half of the data of a test. -/
def removeHalf (root : Root) (half : Half) (test : Int) : Action Unit := do
  removeIfExists (place root (half.slot test)).compressed
  removeIfExists (place root (half.slot test))

lemma handle_purgeData (root : Root) (test : Int) (tree : FileTree) :
    handle root (.purgeData test) tree = runOn (do
      removeHalf root .input test
      removeHalf root .output test) tree := by
  simp only [handle_eq, perform, removeHalf, List.forIn_cons, List.forIn_nil, bind_assoc, pure_bind,
    bind_pure_unit]
  rfl

/-- Removing both files is what a purge does to its half. -/
lemma answer_of_removeHalf (h : runOn (removeHalf root half test) tree = (.ok (), changed)) :
    (Opened root tree → Opened root changed) ∧
      half.answer (handle root) test changed = answerOf root half test none ∧
      ∀ other number, (half, test) ≠ (other, number) →
        other.answer (handle root) number changed = other.answer (handle root) number tree := by
  have hdata := not_isRecord_slot half test
  rw [removeHalf, runOn_bind] at h
  rcases hfirst : runOn (removeIfExists (place root (half.slot test)).compressed) tree with
    ⟨cause | _, left⟩
  · simp [hfirst] at h
  · rw [hfirst] at h
    obtain ⟨hcompressed, hmissing⟩ := differs_of_removeIfExists hfirst
    obtain ⟨hplain, hmissing'⟩ := differs_of_removeIfExists h
    rw [compressed_of_data hdata] at hcompressed hmissing
    rw [location_of_data hdata] at hplain hmissing'
    rw [← read_of_differs hplain fun heq => by simpa using (entry_slot_inj heq).2] at hmissing
    refine ⟨fun hopened => (hopened.of_differs hcompressed).of_differs hplain,
      answer_of_missing hmissing' hmissing, fun other number hne => ?_⟩
    exact (answer_of_differs hplain hne).trans (answer_of_differs hcompressed hne)

lemma happens_purge (h : handle root (.purgeData test) tree = (.ok (), changed)) :
    Happens root (.purge test) tree changed := by
  rw [handle_purgeData, runOn_bind] at h
  rcases hfirst : runOn (removeHalf root .input test) tree with ⟨cause | _, left⟩
  · simp [hfirst] at h
  · rw [hfirst] at h
    obtain ⟨hopened, hinput, hothers⟩ := answer_of_removeHalf hfirst
    obtain ⟨hopened', houtput, hothers'⟩ := answer_of_removeHalf h
    refine ⟨fun hopen => hopened' (hopened hopen), fun _ => ?_⟩
    intro half number
    by_cases hsame : test = number
    · subst hsame
      rw [Event.effect?, if_pos rfl]
      cases half with
      | input => exact (hothers' .input test (by simp)).trans hinput
      | output => exact houtput
    · rw [Event.effect?, if_neg hsame]
      exact (hothers' half number (by simp [hsame])).trans (hothers half number (by simp [hsame]))

/-- Every event does what it means. -/
lemma happens_of_run {event : Event} (h : event.run root tree = (.ok (), changed)) :
    Happens root event tree changed := by
  cases event with
  | save half test source => exact happens_save h
  | purge test => exact happens_purge h
  | place half test bytes => exact happens_place h
  | reopen =>
    have hsame : Opened root tree → changed = tree := fun hopened =>
      (Prod.mk.inj (h.symm.trans hopened.openStore)).2
    exact ⟨fun hopened => hsame hopened ▸ hopened, fun hopened _ _ => by rw [hsame hopened]; rfl⟩

/-- A store that was open stays so, and the last event that meant anything decides what is answered. -/
theorem History.answer {start : FileTree} {events : List Event} (h : History root start events tree)
    (hopen : Opened root start) : Opened root tree ∧
      ∀ half test, half.answer (handle root) test tree = match latest? half test events with
        | some bytes? => answerOf root half test bytes?
        | none => half.answer (handle root) test start := by
  induction h with
  | empty => exact ⟨hopen, fun _ _ => rfl⟩
  | @next events event tree changed _ hrun ih =>
    obtain ⟨hopened, hanswers⟩ := ih
    have hhappens := happens_of_run hrun
    refine ⟨hhappens.opened hopened, fun half test => ?_⟩
    rw [hhappens.answers hopened, hanswers, latest?_cons]
    cases event.effect? half test <;> rfl

/-! ### Room for events -/

/-- The files for the data of tests are files, if they are there. -/
structure Whole (root : Root) (tree : FileTree) : Prop extends Opened root tree where
  files : ∀ stays (half : Half) test, tree.lookup (root.entry stays (half.slot test)) = none ∨
    ∃ content mode, tree.lookup (root.entry stays (half.slot test)) = some (.file content mode)

lemma Tidy.whole (h : Tidy root tree) : Whole root tree := by
  refine ⟨h.isOpened, fun stays half test => ?_⟩
  cases stays with
  | false => exact .inl (h.spare _)
  | true => exact (h.file _).imp_right And.left

/-- An event has room: its number fits, and its stream delivers all its bytes. -/
def Event.Fits : Event → Prop
  | .save _ test source => Decimal.int64.contains test = true ∧ source.fault = none
  | .purge test | .place _ test _ => Decimal.int64.contains test = true
  | .reopen => True

namespace Whole

variable {stays : Bool}

lemma of_differs (h : Whole root tree)
    (hdiffers : Differs tree changed (root.entry stays (half.slot test)))
    (hfile : changed.lookup (root.entry stays (half.slot test)) = none ∨
      ∃ content mode, changed.lookup (root.entry stays (half.slot test)) =
        some (.file content mode)) : Whole root changed := by
  refine ⟨h.toOpened.of_differs hdiffers, fun stays' other number => ?_⟩
  by_cases hsame : root.entry stays (half.slot test) = root.entry stays' (other.slot number)
  · exact hsame ▸ hfile
  · rw [hdiffers.others _ hsame]
    exact h.files stays' other number

lemma reached (h : Whole root tree) (half : Half) (test : Int) :
    tree.Reached (root.folder (half.slot test)) := by
  cases half <;> exact h.tests

variable (h : Whole root tree) (hfits : Decimal.int64.contains test = true)
include h hfits

lemma exists_write (stays : Bool) (half : Half) (content : Content) :
    ∃ changed, tree.write (root.entry stays (half.slot test)) content = .ok changed ∧
      Whole root changed := by
  have hname : ((half.slot test).name stays).utf8ByteSize ≤ 255 := by
    refine Slot.Fits.name_le ?_ stays
    cases half <;> exact hfits
  obtain ⟨changed, hwrite⟩ : ∃ changed,
      tree.write (root.entry stays (half.slot test)) content = .ok changed := by
    rcases h.files stays half test with hnone | ⟨old, mode, hold⟩
    · exact ⟨_, write_of_none (h.reached half test) hname hnone⟩
    · exact ⟨_, write_of_file (h.reached half test) hname hold⟩
  obtain ⟨hnil, -, -, mode, hchanged⟩ := exists_of_write hwrite
  refine ⟨changed, hwrite, h.of_differs (differs_of_write hwrite) (.inr ⟨content, mode, ?_⟩)⟩
  rw [hchanged, lookup_put _ _ hnil, if_pos rfl]

lemma exists_remove (stays : Bool) (half : Half) {target : Place}
    (htarget : target.location = root.entry stays (half.slot test)) :
    ∃ changed, runOn (removeIfExists target) tree = (.ok (), changed) ∧ Whole root changed := by
  have hget : runOn get tree = (.ok tree, tree) := rfl
  have hname : ((half.slot test).name stays).utf8ByteSize ≤ 255 := by
    refine Slot.Fits.name_le ?_ stays
    cases half <;> exact hfits
  rw [removeIfExists, runOn_bind_of_ok hget, htarget]
  rcases h.files stays half test with hnone | ⟨content, mode, hfile⟩
  · have hmissing : tree.removeFile (root.entry stays (half.slot test)) = .error .missing :=
      removeFile_of_none (h.reached half test) hname hnone
    exact ⟨tree, by rw [hmissing]; rfl, h⟩
  · have hremove : tree.removeFile (root.entry stays (half.slot test)) =
        .ok (tree.erase (root.entry stays (half.slot test))) :=
      removeFile_of_file (h.reached half test) hname hfile
    refine ⟨_, by rw [hremove]; rfl, h.of_differs (differs_of_removeFile hremove) (.inl ?_)⟩
    rw [lookup_erase _ (Root.entry_ne_nil stays), if_pos rfl]

lemma exists_removeHalf (half : Half) : ∃ changed,
    runOn (removeHalf root half test) tree = (.ok (), changed) ∧ Whole root changed := by
  have hdata := not_isRecord_slot half test
  obtain ⟨left, hfirst, hleft⟩ := h.exists_remove hfits true half (compressed_of_data hdata)
  obtain ⟨changed, hsecond, hchanged⟩ := hleft.exists_remove hfits false half (location_of_data hdata)
  exact ⟨changed, by rw [removeHalf, runOn_bind_of_ok hfirst, hsecond], hchanged⟩

end Whole

/-- An event that has room succeeds. -/
lemma Whole.exists_run {event : Event} (h : Whole root tree) (hfits : event.Fits) :
    ∃ changed, event.run root tree = (.ok (), changed) ∧ Whole root changed := by
  cases event with
  | save half test source =>
    obtain ⟨hnumber, hfault⟩ := hfits
    have hdata := not_isRecord_slot half test
    obtain ⟨written, hwrite, hwritten⟩ := h.exists_write hnumber true half (.gzip source.delivered)
    obtain ⟨changed, hremove, hchanged⟩ :=
      hwritten.exists_remove hnumber false half (location_of_data hdata)
    refine ⟨changed, ?_, hchanged⟩
    rw [Event.run, save_eq, writeBlob, compressed_of_data hdata,
      runOn_bind_of_ok (runOn_change_of_ok hwrite _), hfault]
    exact hremove
  | purge test =>
    obtain ⟨left, hinput, hleft⟩ := h.exists_removeHalf hfits .input
    obtain ⟨changed, houtput, hchanged⟩ := hleft.exists_removeHalf hfits .output
    exact ⟨changed, by rw [Event.run, handle_purgeData, runOn_bind_of_ok hinput, houtput], hchanged⟩
  | place half test bytes =>
    obtain ⟨changed, hwrite, hchanged⟩ := h.exists_write hfits false half (.plain bytes)
    refine ⟨changed, ?_, hchanged⟩
    rw [Event.run, location_of_data (not_isRecord_slot half test)]
    exact runOn_change_of_ok hwrite _
  | reopen => exact ⟨tree, h.toOpened.openStore, h⟩

/-- Any events that have room happen, one after the other. -/
theorem Whole.exists_history (h : Whole root tree) {events : List Event}
    (hfits : ∀ event ∈ events, event.Fits) :
    ∃ after, History root tree events after ∧ Whole root after := by
  induction events with
  | nil => exact ⟨tree, .empty, h⟩
  | cons event events ih =>
    obtain ⟨hevent, hevents⟩ := List.forall_mem_cons.mp hfits
    obtain ⟨middle, hhistory, hmiddle⟩ := ih hevents
    obtain ⟨after, hrun, hafter⟩ := hmiddle.exists_run hevent
    exact ⟨after, .next hhistory hrun, hafter⟩

/-! ### A store without data -/

/-- Without any file nothing is answered, even for numbers that no file can be named after. -/
lemma toOption_answer_of_none (h : Opened root tree)
    (hnone : ∀ stays, tree.lookup (root.entry stays (half.slot test)) = none) :
    (half.answer (handle root) test tree).toOption = none := by
  have hdata := not_isRecord_slot half test
  have hget : runOn get tree = (.ok tree, tree) := rfl
  have hreached : tree.Reached (root.folder (half.slot test)) := by
    cases half <;> exact h.tests
  have hread : ∀ stays, tree.read (root.entry stays (half.slot test)) = .error .missing ∨
      tree.read (root.entry stays (half.slot test)) = .error .nameTooLong := by
    intro stays
    rcases Nat.lt_or_ge 255 ((half.slot test).name stays).utf8ByteSize with hlong | hshort
    · exact .inr (read_of_long hreached hlong)
    · exact .inl (read_of_none hreached hshort (hnone stays))
  rw [answer_eq, openBlob, runOn_bind_of_ok hget, location_of_data hdata, compressed_of_data hdata]
  rcases hread false with hplain | hplain
  · rcases hread true with hcompressed | hcompressed <;> rw [hplain, hcompressed] <;> rfl
  · rw [hplain]
    rfl

lemma lookup_of_blank {before opened : FileTree} (hblank : Blank root before)
    (hopen : runOn (openStore root) before = (.ok (), opened)) (stays : Bool) (half : Half)
    (test : Int) : opened.lookup (root.entry stays (half.slot test)) = none := by
  have hstores := stores_empty hblank hopen
  cases stays with
  | false => exact hstores.tidy.spare _
  | true =>
    apply hstores.tidy.lookup_of_content?_none
    cases half with
    | input => exact hstores.shows (.input test)
    | output => exact hstores.shows (.output test)

end Disk

/-- However often data was saved, put in front of the saved data, and purged, and the store opened
again: what is answered are the bytes that came last, none after they were purged, and what was there
at first if nothing happened to this half of the data of this test. -/
theorem Half.answer_latest {root : Root} {before opened after : FileTree} {events : List Disk.Event}
    (hopen : Disk.runOn (Disk.openStore root) before = (.ok (), opened))
    (h : Disk.History root opened events after) (half : Half) (test : Int) :
    (half.answer (Disk.handle root) test after = match Disk.latest? half test events with
      | some bytes? => Disk.answerOf root half test bytes?
      | none => half.answer (Disk.handle root) test opened) ∧
    (Disk.Blank root before → (half.answer (Disk.handle root) test after).toOption =
      (Disk.latest? half test events).join.map fun bytes => ⟨bytes, none⟩) := by
  have hopened := Disk.opened_of_openStore hopen
  have hanswer := (h.answer hopened).2 half test
  refine ⟨hanswer, fun hblank => ?_⟩
  rw [hanswer]
  cases Disk.latest? half test events with
  | some bytes? => cases bytes? <;> rfl
  | none =>
    exact Disk.toOption_answer_of_none hopened fun stays =>
      Disk.lookup_of_blank hblank hopen stays half test

/-- An input is saved, gets a plain copy in front of it, and is saved again after the store was opened
again. The data of another test is purged before that and put there afterwards. -/
def Disk.someEvents : List Disk.Event := [
  .place .input 2 [50], .save .input 1 ⟨[51], none⟩, .reopen, .purge 2, .place .input 1 [52],
  .save .output 1 ⟨[53], none⟩, .save .input 1 ⟨[54], none⟩]

theorem Half.answer_latest_someEvents : ∃ after,
    Disk.History Disk.newRoot Disk.newTree Disk.someEvents after ∧
      (Half.input.answer (Disk.handle Disk.newRoot) 1 after).toOption = some ⟨[51], none⟩ ∧
      (Half.output.answer (Disk.handle Disk.newRoot) 1 after).toOption = some ⟨[53], none⟩ ∧
      (Half.output.answer (Disk.handle Disk.newRoot) 2 after).toOption = none := by
  have htidy := (Disk.stores_empty Disk.blank_newRoot Disk.openStore_newRoot).tidy
  have hone : Decimal.int64.contains 1 = true := by decide
  have htwo : Decimal.int64.contains 2 = true := by decide
  have hfits : ∀ event ∈ Disk.someEvents, event.Fits := by
    simp only [Disk.someEvents, List.forall_mem_cons]
    exact ⟨htwo, ⟨hone, rfl⟩, trivial, htwo, hone, ⟨hone, rfl⟩, ⟨hone, rfl⟩, by simp⟩
  obtain ⟨after, hhistory, -⟩ := htidy.whole.exists_history hfits
  have hanswer := fun half test =>
    (Half.answer_latest Disk.openStore_newRoot hhistory half test).2 Disk.blank_newRoot
  exact ⟨after, hhistory, hanswer .input 1, hanswer .output 1, hanswer .output 2⟩

end Judge.Store
