import Mathlib.Tactic.Lemma
import Judge.Proofs.Decimal.Integer
import Judge.Store.Disk

/-!
Where a store keeps what. Every record and every piece of test data has a file of its own, and
beside it the name of a second file that never stays: the draft of a record, and the plain form of
data. No two of these files are the same, and their names are short enough for a directory.
-/

namespace Judge.Store

open Host (Location)

/-- What a store keeps in a file of its own. -/
inductive Slot where
  /-- The id that was assigned last. -/
  | counter
  | problem (id : Int)
  | tests (problem : Int)
  | subtasks (problem : Int)
  | input (test : Int)
  | output (test : Int)
  deriving DecidableEq

namespace Slot

/-- The directory of a slot, below that of the store. -/
def folder : Slot → Location
  | counter => []
  | problem id | tests id | subtasks id => ["problems", toString id]
  | input _ | output _ => ["tests"]

/-- The names of the file of a slot, and of the one beside it that never stays. -/
def name (stays : Bool) : Slot → String
  | counter => if stays then "counter.json" else "counter.json.tmp"
  | problem _ => if stays then "problem.json" else "problem.json.tmp"
  | tests _ => if stays then "tests.json" else "tests.json.tmp"
  | subtasks _ => if stays then "subtasks.json" else "subtasks.json.tmp"
  | input test => toString test ++ if stays then ".in.gz" else ".in"
  | output test => toString test ++ if stays then ".out.gz" else ".out"

/-- The number that a slot is for. -/
def number : Slot → Int
  | counter => 0
  | problem id | tests id | subtasks id | input id | output id => id

/-- A slot that a store can have: its number fits. -/
def Fits (slot : Slot) : Prop := Decimal.int64.contains slot.number = true

/-- Whether a slot holds a record, rather than the data of a test. -/
def IsRecord : Slot → Prop
  | input _ | output _ => False
  | _ => True

end Slot

/-- The directory of a slot. -/
def Root.folder (root : Root) (slot : Slot) : Location := root.location ++ slot.folder

/-- The file of a slot, and the one beside it that never stays. -/
def Root.entry (root : Root) (stays : Bool) (slot : Slot) : Location :=
  root.folder slot ++ [slot.name stays]

variable {root : Root} {slot other : Slot}

/-! ### Names -/

lemma notMem_dot_toString (n : Int) : ∀ c ∈ (toString n).toList, c ≠ '.' := by
  intro c hc
  rw [Decimal.toList_toString] at hc
  rintro rfl
  rcases Decimal.mem_writeInt hc with hdigit | hminus
  · exact absurd hdigit (by decide)
  · exact absurd hminus (by decide)

/-- A number and an ending with a dot in front can be told apart. -/
lemma numbered_inj {a b : Int} {e d : String} (he : e.toList.head? = some '.')
    (hd : d.toList.head? = some '.') (h : toString a ++ e = toString b ++ d) : a = b ∧ e = d := by
  have hlists : (toString a).toList ++ e.toList = (toString b).toList ++ d.toList := by
    rw [← String.toList_append, ← String.toList_append, h]
  have htake : ∀ (n : Int) (ending : String), ending.toList.head? = some '.' →
      ((toString n).toList ++ ending.toList).takeWhile (· != '.') = (toString n).toList := by
    intro n ending hending
    obtain ⟨tail, htail⟩ := List.head?_eq_some_iff.mp hending
    rw [List.takeWhile_append_of_pos fun c hc => by simpa using notMem_dot_toString n c hc, htail]
    simp
  have hnumbers := congrArg (List.takeWhile (· != '.')) hlists
  rw [htake a e he, htake b d hd] at hnumbers
  rw [hnumbers] at hlists
  exact ⟨Decimal.toString_inj (String.toList_inj.mp hnumbers),
    String.toList_inj.mp (List.append_cancel_left hlists)⟩

/-- In a directory no two names are the same. -/
lemma Slot.name_inj {stays stays' : Bool} (hfolder : slot.folder = other.folder)
    (h : slot.name stays = other.name stays') : slot = other ∧ stays = stays' := by
  cases slot with
  | counter =>
    cases other with
    | counter => cases stays <;> cases stays' <;> simp_all [name]
    | problem | tests | subtasks | input | output => simp [folder] at hfolder
  | problem id | tests id | subtasks id =>
    cases other with
    | counter | input | output => simp [folder] at hfolder
    | problem id' | tests id' | subtasks id' =>
      have hid : toString id = toString id' := (List.cons.inj (List.cons.inj hfolder).2).1
      obtain rfl := Decimal.toString_inj hid
      cases stays <;> cases stays' <;> simp_all [name]
  | input id | output id =>
    cases other with
    | counter | problem | tests | subtasks => simp [folder] at hfolder
    | input id' | output id' =>
      obtain ⟨rfl, hending⟩ := numbered_inj (by cases stays <;> rfl) (by cases stays' <;> rfl) h
      cases stays <;> cases stays' <;> simp_all

/-- No two files of a store are the same. -/
theorem Root.entry_inj {stays stays' : Bool} (h : root.entry stays slot = root.entry stays' other) :
    slot = other ∧ stays = stays' := by
  obtain ⟨hfolder, hname⟩ := List.append_inj' h rfl
  exact Slot.name_inj (List.append_cancel_left hfolder) (List.singleton_inj.mp hname)

/-- The files of a store are none of its directories. -/
lemma Root.folder_ne_entry (stays : Bool) : root.folder slot ≠ root.entry stays other := by
  intro h
  rw [Root.entry, Root.folder, Root.folder, List.append_assoc] at h
  have hnames := List.append_cancel_left h
  cases slot <;> cases other <;> cases stays <;> simp [Slot.folder, Slot.name] at hnames

lemma Root.entry_ne_nil (stays : Bool) : root.entry stays slot ≠ [] := by
  simp [Root.entry]

lemma utf8ByteSize_le (text : String) : text.utf8ByteSize ≤ 4 * text.toList.length := by
  have hchars : ∀ chars : List Char, (chars.flatMap String.utf8EncodeChar).length ≤
      4 * chars.length := by
    intro chars
    induction chars with
    | nil => simp
    | cons c chars ih =>
      have hc : (String.utf8EncodeChar c).length ≤ 4 := by
        rw [String.length_utf8EncodeChar]
        exact Char.utf8Size_le_four c
      rw [List.flatMap_cons, List.length_append, List.length_cons]
      omega
  have hsize : text.utf8ByteSize = (text.toList.flatMap String.utf8EncodeChar).length := by
    rw [← String.size_toByteArray, ← String.utf8Encode_toList, List.utf8Encode,
      List.size_toByteArray]
  rw [hsize]
  exact hchars _

lemma utf8ByteSize_toString {n : Int} (h : Decimal.int64.contains n = true) :
    (toString n).utf8ByteSize ≤ 80 := by
  have hlength := Decimal.length_writeInt_le h
  have hsize := utf8ByteSize_le (toString n)
  rw [Decimal.toList_toString] at hsize
  omega

/-- The names of slots whose numbers fit are not too long. -/
lemma Slot.Fits.name_le (h : slot.Fits) (stays : Bool) : (slot.name stays).utf8ByteSize ≤ 255 := by
  have hnumber := utf8ByteSize_toString h
  have hconstant : ∀ name ∈ ["counter.json", "counter.json.tmp", "problem.json", "problem.json.tmp",
      "tests.json", "tests.json.tmp", "subtasks.json", "subtasks.json.tmp"],
      name.utf8ByteSize ≤ 255 := by decide
  have hending : ∀ ending ∈ [".in.gz", ".in", ".out.gz", ".out"], ending.utf8ByteSize ≤ 7 := by
    decide
  cases slot with
  | counter | problem | tests | subtasks =>
    cases stays <;> exact hconstant _ (by simp [name])
  | input test | output test =>
    have hle := hending (if stays then ".in.gz" else ".in") (by cases stays <;> simp)
    have hle' := hending (if stays then ".out.gz" else ".out") (by cases stays <;> simp)
    simp only [number] at hnumber
    simp only [name, String.utf8ByteSize_append]
    omega

end Judge.Store
