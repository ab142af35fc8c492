import Judge.Proofs.Store.Memory
import Judge.Proofs.Store.View

/-!
What a save leaves whose stream fails. A store in memory is as it was. A store on disk has begun the
compressed file by then, so that the bytes that were delivered are read back as if they were all,
unless a plain copy is read in their place; nothing else that is read changes.
-/

namespace Judge.Store

open Host (FileTree Content)
open Host.FileTree

/-- A half of the data of a test. -/
inductive Half where
  | input
  | output
  deriving DecidableEq

namespace Half

/-- The slot in which a store on disk keeps a half. -/
def slot (test : Int) : Half → Slot
  | input => .input test
  | output => .output test

variable {σ : Type}

/-- Saves a half of the data of a test. -/
def save (handle : Handler σ) (test : Int) (source : Source) (s : σ) :
    Half → Except Error Unit × σ
  | input => handle (.saveInput test source) s
  | output => handle (.saveOutput test source) s

/-- What is answered when a half of the data of a test is asked for. -/
def answer (handle : Handler σ) (test : Int) (s : σ) : Half → Except Error Source
  | input => (handle (.input test) s).1
  | output => (handle (.output test) s).1

end Half

namespace Disk

variable {root : Root} {tree changed : FileTree} {half other : Half} {test number : Int}

lemma not_isRecord_slot (half : Half) (test : Int) : ¬ (half.slot test).IsRecord := by
  cases half <;> exact id

lemma save_eq (root : Root) (tree : FileTree) (half : Half) (test : Int) (source : Source) :
    half.save (handle root) test source tree =
      runOn (writeBlob (place root (half.slot test)) source) tree := by
  cases half <;> rfl

lemma answer_eq (root : Root) (tree : FileTree) (half : Half) (test : Int) :
    half.answer (handle root) test tree =
      (runOn (openBlob (place root (half.slot test))) tree).1 := by
  cases half <;> rfl

/-- Data whose files are read the same is answered the same. The compressed file is read only if
there is no plain one. -/
lemma answer_congr
    (hplain : changed.read (root.entry false (half.slot test)) =
      tree.read (root.entry false (half.slot test)))
    (hcompressed : tree.read (root.entry false (half.slot test)) = .error .missing →
      changed.read (root.entry true (half.slot test)) =
        tree.read (root.entry true (half.slot test))) :
    half.answer (handle root) test changed = half.answer (handle root) test tree := by
  have hget : ∀ tree, runOn get tree = (.ok tree, tree) := fun _ => rfl
  have hdata := not_isRecord_slot half test
  rw [answer_eq, answer_eq, openBlob, runOn_bind_of_ok (hget changed), runOn_bind_of_ok (hget tree),
    location_of_data hdata, compressed_of_data hdata, hplain]
  cases hread : tree.read (root.entry false (half.slot test)) with
  | ok content => rfl
  | error cause =>
    cases cause with
    | missing =>
      rw [hcompressed hread]
      cases tree.read (root.entry true (half.slot test)) with
      | ok content => rfl
      | error cause => cases cause <;> rfl
    | _ => rfl

/-- Only the compressed file of one half is written, and nothing else is read from it. -/
lemma read_of_write_blob {content : Content}
    (h : tree.write (root.entry true (half.slot test)) content = .ok changed) {stays : Bool}
    (hne : root.entry true (half.slot test) ≠ root.entry stays (other.slot number)) :
    changed.read (root.entry stays (other.slot number)) =
      tree.read (root.entry stays (other.slot number)) := by
  apply read_of_write h
  -- All data of a store is at the same depth, so that no file of it is above another.
  intro hbelow
  refine hne (hbelow.eq_of_length ?_)
  cases half <;> cases other <;> simp [Root.entry, Root.folder, Half.slot, Slot.folder]

/-- A save whose stream fails leaves everything as it is, or the delivered bytes in the compressed
file. -/
lemma save_of_fault {source : Source} {fault : IoError} (hfault : source.fault = some fault)
    (root : Root) (tree : FileTree) (half : Half) (test : Int) :
    (∃ cause,
      tree.write (root.entry true (half.slot test)) (.gzip source.delivered) = .error cause ∧
      half.save (handle root) test source tree =
        (.error (.cannotCreate (place root (half.slot test)).compressed.shown), tree)) ∨
    ∃ changed,
      tree.write (root.entry true (half.slot test)) (.gzip source.delivered) = .ok changed ∧
      half.save (handle root) test source tree = (.error (.io fault), changed) := by
  rw [save_eq, writeBlob, compressed_of_data (not_isRecord_slot half test)]
  cases hwrite : tree.write (root.entry true (half.slot test)) (.gzip source.delivered) with
  | error cause =>
    refine .inl ⟨cause, rfl, ?_⟩
    exact runOn_bind_of_error (runOn_change_of_error hwrite _) _
  | ok changed =>
    refine .inr ⟨changed, rfl, ?_⟩
    rw [runOn_bind_of_ok (runOn_change_of_ok hwrite _), hfault]
    rfl

/-- What a save of one half leaves that failed with this cause. -/
structure FailedSave (root : Root) (half : Half) (test : Int) (source : Source) (fault : IoError)
    (before after : FileTree) (cause : Error) : Prop where
  /-- If the compressed file was not begun, nothing was done. -/
  unopened : cause ≠ .io fault → after = before
  /-- All other data is answered as before. -/
  others : ∀ (other : Half) (number : Int), (other, number) ≠ (half, test) →
    other.answer (handle root) number after = other.answer (handle root) number before
  /-- So is the half itself if a plain copy is in front of the compressed file. -/
  shadowed : before.read (place root (half.slot test)).location ≠ .error .missing →
    half.answer (handle root) test after = half.answer (handle root) test before
  /-- Without one, the bytes that were delivered are answered as if they were all. -/
  exposed : cause = .io fault →
    before.read (place root (half.slot test)).location = .error .missing →
    half.answer (handle root) test after = .ok ⟨source.delivered, none⟩

/-- A save that did nothing. -/
lemma FailedSave.of_unopened {source : Source} {fault : IoError} {cause : Error}
    (hcause : cause ≠ .io fault) : FailedSave root half test source fault tree tree cause where
  unopened _ := rfl
  others _ _ _ := rfl
  shadowed _ := rfl
  exposed hopened _ := absurd hopened hcause

/-- A save that wrote what was delivered. -/
lemma FailedSave.of_write {source : Source} {fault : IoError}
    (h : tree.write (root.entry true (half.slot test)) (.gzip source.delivered) = .ok changed) :
    FailedSave root half test source fault tree changed (.io fault) := by
  have hdata := not_isRecord_slot half test
  have hplain : changed.read (root.entry false (half.slot test)) =
      tree.read (root.entry false (half.slot test)) :=
    read_of_write_blob h fun heq => by simpa using (Root.entry_inj heq).2
  constructor
  case unopened => exact fun hcause => absurd rfl hcause
  case others =>
    intro other number hne
    have hslot : half.slot test ≠ other.slot number := by
      intro heq
      apply hne
      cases half <;> cases other <;> cases heq <;> rfl
    have hread : ∀ stays, changed.read (root.entry stays (other.slot number)) =
        tree.read (root.entry stays (other.slot number)) := fun stays =>
      read_of_write_blob h fun heq => hslot (Root.entry_inj heq).1
    exact answer_congr (hread false) fun _ => hread true
  case shadowed =>
    intro hshadowed
    rw [location_of_data hdata] at hshadowed
    exact answer_congr hplain fun hmissing => absurd hmissing hshadowed
  case exposed =>
    intro _ hmissing
    rw [location_of_data hdata] at hmissing
    have hget : runOn get changed = (.ok changed, changed) := rfl
    rw [answer_eq, openBlob, runOn_bind_of_ok hget, location_of_data hdata, hplain, hmissing,
      compressed_of_data hdata, read_written h]
    rfl

end Disk

/-- A save whose stream fails is an error. In memory nothing changes; on disk the bytes that were
delivered may take the place of the data, and nothing else changes. -/
theorem Half.failed_save (half : Half) (test : Int) {source : Source} {fault : IoError}
    (hfault : source.fault = some fault) :
    (∀ s : Memory, half.save Memory.handle test source s = (.error (.io fault), s)) ∧
    ∀ (root : Root) (tree : FileTree), ∃ cause after,
      half.save (Disk.handle root) test source tree = (.error cause, after) ∧
        Disk.FailedSave root half test source fault tree after cause := by
  refine ⟨fun s => ?_, fun root tree => ?_⟩
  · have hread : source.readAll = .error fault := by rw [Source.readAll, hfault]
    cases half <;> simp only [save, Memory.handle, hread]
  · rcases Disk.save_of_fault hfault root tree half test with
      ⟨cause, -, hsave⟩ | ⟨changed, hwrite, hsave⟩
    · exact ⟨_, tree, hsave, .of_unopened (by simp)⟩
    · exact ⟨_, changed, hsave, .of_write hwrite⟩

/-- A tree of a store whose first test has an input. -/
def Disk.oneInput : FileTree :=
  (Disk.handle Disk.newRoot (.saveInput 1 ⟨Utf8.encode "old".toList, none⟩) Disk.newTree).2

/-- A stream that fails behind the bytes that it delivers. -/
def Disk.broken : Source := ⟨Utf8.encode "new".toList, some .checksum⟩

theorem Half.failed_save_broken : Disk.broken.fault = some .checksum ∧
    ∃ cause after, Half.input.save (Disk.handle Disk.newRoot) 1 Disk.broken Disk.oneInput =
      (.error cause, after) ∧
        Disk.FailedSave Disk.newRoot .input 1 Disk.broken .checksum Disk.oneInput after cause :=
  ⟨rfl, (Half.failed_save .input 1 rfl).2 Disk.newRoot Disk.oneInput⟩

/-- The save fails, and afterwards the input is what was delivered until then. -/
theorem Disk.answer_failed_save :
    let failed := Half.input.save (Disk.handle Disk.newRoot) 1 Disk.broken Disk.oneInput
    failed.1 = .error (.io .checksum) ∧
      Half.input.answer (Disk.handle Disk.newRoot) 1 Disk.oneInput =
        .ok ⟨Utf8.encode "old".toList, none⟩ ∧
      Half.input.answer (Disk.handle Disk.newRoot) 1 failed.2 =
        .ok ⟨Utf8.encode "new".toList, none⟩ :=
  ⟨rfl, rfl, rfl⟩

end Judge.Store
