import Mathlib.Data.List.TakeWhile
import Judge.Proofs.Export.Names

/-!
Names that say the same of an entry. A directory may be put in front of a name, a data file may be
named by either convention, and outputs have three endings: what the entry holds stays the same.
Only a name that is a dot would take the file name of the directory in front of it.
-/

namespace Judge.Archive

namespace EntryName

def dataEndings : List String := [".in", ".out", ".ok", ".sol"]

def outputEndings : List String := [".out", ".ok", ".sol"]

def StartsNumbered (name : List Char) : Prop :=
  ∃ digits rest, digits ≠ [] ∧ (∀ c ∈ digits, c.isDigit = true) ∧ name = digits ++ '-' :: rest

/-- One name instead of another. A directory may be put in front of the names that are `movable`. -/
inductive Rename (movable : List Char → Prop) : List Char → List Char → Prop where
  | folder {name : List Char} (folder : List Char) (h : movable name) :
    Rename movable name (folder ++ '/' :: name)
  /-- The number of a test goes from the front of the name to its end. -/
  | number {digits base : List Char} {number : Int} {ending : String}
    (hdigits : ∀ c ∈ digits, c.isDigit = true)
    (hnumber : Decimal.readInteger? Decimal.int32 digits = some number)
    (hslash : '/' ∉ base) (hbase : ¬ StartsNumbered base) (hending : ending ∈ dataEndings) :
    Rename movable (digits ++ '-' :: base ++ ending.toList)
      (base ++ '.' :: digits ++ ending.toList)
  | output {front : List Char} {ending other : String} (hending : ending ∈ outputEndings)
    (hother : other ∈ outputEndings) :
    Rename movable (front ++ ending.toList) (front ++ other.toList)

lemma leadingNumber?_eq_none {name : List Char} (h : ¬ StartsNumbered name) :
    leadingNumber? name = none := by
  rw [leadingNumber?]
  split
  · rfl
  · next digits rest hempty hleading =>
    obtain ⟨hdigits, hrest⟩ := Prod.mk.inj hleading
    refine absurd ⟨digits, rest, ?_, fun c hc => ?_, ?_⟩ h
    · rintro rfl
      exact hempty rfl
    · rw [← hdigits] at hc
      exact List.mem_takeWhile_imp hc
    · rw [← hdigits, ← hrest, List.takeWhile_append_dropWhile]
  · rfl

/-- A dot ends the part of a name in which a number in front is looked for. -/
lemma leadingNumber?_extension (front extension : List Char) :
    leadingNumber? (front ++ '.' :: extension) = leadingNumber? front := by
  cases hrest : front.dropWhile Char.isDigit with
  | nil =>
    -- Nothing but digits in front of the dot: no dash can follow them on either side.
    have hall : ∀ c ∈ front, c.isDigit = true := List.dropWhile_eq_nil_iff.mp hrest
    have hleading : leadingDigits (front ++ '.' :: extension) = (front, '.' :: extension) := by
      rw [leadingDigits, List.takeWhile_append_of_pos hall, List.dropWhile_append_of_pos hall]
      simp
    have hleading' : leadingDigits front = (front, []) := by
      rw [leadingDigits, hrest, List.takeWhile_eq_self_iff.mpr hall]
    rw [leadingNumber?, leadingNumber?, hleading, hleading']
    cases front <;> rfl
  | cons c rest =>
    have hdrop : (front ++ '.' :: extension).dropWhile Char.isDigit = c :: rest ++ '.' :: extension := by
      rw [List.dropWhile_append, hrest]
      rfl
    have htake : (front ++ '.' :: extension).takeWhile Char.isDigit = front.takeWhile Char.isDigit := by
      have hwhole : (front ++ '.' :: extension).takeWhile Char.isDigit ++
          (c :: rest ++ '.' :: extension) =
            front.takeWhile Char.isDigit ++ (c :: rest ++ '.' :: extension) := by
        rw [← hdrop, List.takeWhile_append_dropWhile, hdrop, ← List.append_assoc, ← hrest,
          List.takeWhile_append_dropWhile]
      exact List.append_cancel_right hwhole
    rw [leadingNumber?, leadingNumber?, leadingDigits, leadingDigits, htake, hdrop, hrest]
    cases front.takeWhile Char.isDigit with
    | nil => rfl
    | cons d digits =>
      by_cases hc : c = '-'
      · subst hc
        rfl
      · simp [hc]

lemma stem_extension {extension : List Char} (h : '.' ∉ extension) (front : List Char) :
    stem (front ++ '.' :: extension) = front := by
  rw [stem, Text.cutLast_append h]

/-- The test of a data file does not depend on the extension. -/
lemma testNumber?_extension {extension other : List Char} (h : '.' ∉ extension) (h' : '.' ∉ other)
    (front : List Char) :
    testNumber? (front ++ '.' :: extension) = testNumber? (front ++ '.' :: other) := by
  simp only [testNumber?, trailingNumber?, leadingNumber?_extension, stem_extension h,
    stem_extension h']

/-- The number between the last two dots is read, unless one is read in front. -/
lemma testNumber?_trailing {base digits extension : List Char} (hbase : ¬ StartsNumbered base)
    (hdigits : '.' ∉ digits) (hextension : '.' ∉ extension) :
    testNumber? (base ++ '.' :: digits ++ '.' :: extension) =
      Decimal.readInteger? Decimal.int32 digits := by
  have hleading : leadingNumber? (base ++ '.' :: digits ++ '.' :: extension) = none := by
    rw [leadingNumber?_extension, leadingNumber?_extension, leadingNumber?_eq_none hbase]
  simp only [testNumber?, hleading, trailingNumber?, stem_extension hextension,
    Text.cutLast_append hdigits]

/-- What ends each name of data: a dot and an extension without one. -/
lemma exists_extension {ending : String} (h : ending ∈ dataEndings) :
    ∃ extension c, ending.toList = '.' :: extension ∧ '.' ∉ extension ∧ '/' ∉ extension ∧
      ending.toList.getLast? = some c ∧ c ≠ '.' ∧ c ≠ '/' ∧ c ≠ '\\' := by
  simp only [dataEndings, List.mem_cons, List.not_mem_nil, or_false] at h
  rcases h with rfl | rfl | rfl | rfl <;>
    exact ⟨_, _, rfl, by decide, by decide, rfl, by decide, by decide, by decide⟩

lemma kind_of_ending {ending : String} (h : ending ∈ dataEndings) (front : List Char) :
    kind (front ++ ending.toList) =
      match testNumber? (front ++ ending.toList) with
      | none => .other
      | some test => if ending = ".in" then .input test else .output test := by
  rw [kind]
  generalize testNumber? (front ++ ending.toList) = number
  simp only [dataEndings, List.mem_cons, List.not_mem_nil, or_false] at h
  rcases h with rfl | rfl | rfl | rfl <;> cases number <;>
    simp [endsWith, List.isSuffixOf, List.isPrefixOf]

end EntryName

section Rename

open EntryName (Rename baseName kind_of_ending exists_extension)

variable {entry other : Entry} {front base : List Char} {ending : String}

lemma Entry.kind_of_fileName? (h : ending ∈ EntryName.dataEndings)
    (hname : entry.name.toList = front ++ ending.toList)
    (hfile : Path.fileName? (front ++ ending.toList) = some (base ++ ending.toList)) :
    entry.kind =
      match EntryName.testNumber? (base ++ ending.toList) with
      | none => .other
      | some test => if ending = ".in" then .input test else .output test := by
  obtain ⟨extension, c, -, -, -, hlast, -, hslash, hbackslash⟩ := exists_extension h
  have hlast' : entry.name.toList.getLast? = some c := by
    rw [hname, List.getLast?_append, hlast]
    rfl
  rw [Entry.kind_of_getLast? hlast' ⟨hslash, hbackslash⟩, baseName, hname, hfile, Option.getD_some,
    kind_of_ending h]

/-- A directory in front of a name that is no dot does not change what the entry holds. -/
lemma Entry.kind_of_folder {folder : List Char} (hmovable : Path.isHere entry.name.toList = false)
    (hname : other.name.toList = folder ++ '/' :: entry.name.toList) : other.kind = entry.kind := by
  cases hlast : entry.name.toList.getLast? with
  | none =>
    have hempty : entry.name.toList = [] := List.getLast?_eq_none_iff.mp hlast
    have hother : other.isDirectory = true := by simp [isDirectory, hname, hempty]
    have hentry : EntryName.kind (baseName entry.name) = .other := by
      rw [baseName, hempty]
      decide
    rw [kind, kind, hother, if_pos rfl, hentry, ite_self]
  | some c =>
    have hlast' : other.name.toList.getLast? = some c := by
      rw [hname, List.getLast?_append, List.getLast?_cons, hlast]
      rfl
    by_cases hc : c ≠ '/' ∧ c ≠ '\\'
    · have hcomponent : Path.laterComponents (Text.splitAt '/' entry.name.toList) ≠ [] := by
        intro hnone
        rw [Path.isHere_of_laterComponents hlast hc.1 hnone] at hmovable
        contradiction
      rw [kind_of_getLast? hlast hc, kind_of_getLast? hlast' hc, baseName, baseName, hname,
        Path.fileName?_folder hcomponent]
    · have hdirectory : (c == '/' || c == '\\') = true := by
        rw [Bool.or_eq_true, beq_iff_eq, beq_iff_eq]
        tauto
      have hboth : entry.isDirectory = true ∧ other.isDirectory = true := by
        simp only [isDirectory, hlast, hlast', hdirectory, and_self]
      rw [kind, kind, if_pos hboth.1, if_pos hboth.2]

lemma Entry.kind_of_number {digits : List Char} {number : Int}
    (hdigits : ∀ c ∈ digits, c.isDigit = true)
    (hnumber : Decimal.readInteger? Decimal.int32 digits = some number) (hslash : '/' ∉ base)
    (hbase : ¬ EntryName.StartsNumbered base) (hending : ending ∈ EntryName.dataEndings)
    (hname : entry.name.toList = digits ++ '-' :: base ++ ending.toList)
    (hname' : other.name.toList = base ++ '.' :: digits ++ ending.toList) :
    other.kind = entry.kind := by
  obtain ⟨extension, c, hextension, hdot, hslash', hlast, hc, -, -⟩ := exists_extension hending
  have hno : ∀ d : Char, d.isDigit = false → d ∉ digits := by
    intro d hd hmem
    rw [hdigits d hmem] at hd
    contradiction
  have hplain : ∀ front : List Char, '/' ∉ front →
      Path.fileName? (front ++ ending.toList) = some (front ++ ending.toList) := by
    intro front hfront
    apply Path.fileName?_of_notMem (c := c)
    · simp [hextension, hfront, hslash']
    · rw [List.getLast?_append, hlast]
      rfl
    · exact hc
  have hfront : '/' ∉ digits ++ '-' :: base := by simp [hno '/' rfl, hslash]
  have hfront' : '/' ∉ base ++ '.' :: digits := by simp [hno '/' rfl, hslash]
  have hne : digits ≠ [] := by
    rintro rfl
    have hnone : Decimal.readInteger? Decimal.int32 [] = none := rfl
    simp [hnone] at hnumber
  have hleading : EntryName.testNumber? (digits ++ '-' :: base ++ ending.toList) = some number := by
    rw [EntryName.testNumber?, List.append_assoc, List.cons_append,
      EntryName.leadingNumber?_digits hne hdigits, hnumber]
  have htrailing : EntryName.testNumber? (base ++ '.' :: digits ++ ending.toList) = some number := by
    rw [hextension, EntryName.testNumber?_trailing hbase (hno '.' rfl) hdot, hnumber]
  rw [kind_of_fileName? hending hname (hplain _ hfront),
    kind_of_fileName? hending hname' (hplain _ hfront'), hleading, htrailing]

lemma Entry.kind_of_output {ending' : String} (hending : ending ∈ EntryName.outputEndings)
    (hending' : ending' ∈ EntryName.outputEndings)
    (hname : entry.name.toList = front ++ ending.toList)
    (hname' : other.name.toList = front ++ ending'.toList) : other.kind = entry.kind := by
  have hdata : ∀ e ∈ EntryName.outputEndings, e ∈ EntryName.dataEndings ∧ e ≠ ".in" := by decide
  obtain ⟨hmem, hne⟩ := hdata ending hending
  obtain ⟨hmem', hne'⟩ := hdata ending' hending'
  obtain ⟨extension, c, hextension, hdot, hslash, hlast, hc, -, -⟩ := exists_extension hmem
  obtain ⟨extension', c', hextension', hdot', hslash', hlast', hc', -, -⟩ := exists_extension hmem'
  obtain ⟨base, hbase⟩ := Path.exists_fileName? front
  have hfile := hbase ending.toList c (by simp [hextension, hslash]) hlast hc
  have hfile' := hbase ending'.toList c' (by simp [hextension', hslash']) hlast' hc'
  have hnumber : EntryName.testNumber? (base ++ ending'.toList) =
      EntryName.testNumber? (base ++ ending.toList) := by
    rw [hextension, hextension', EntryName.testNumber?_extension hdot' hdot]
  rw [kind_of_fileName? hmem hname hfile, kind_of_fileName? hmem' hname' hfile', hnumber]
  simp only [hne, hne', if_false]

/-- An entry under another name holds the same, if directories are put in front of no dots. -/
theorem Entry.kind_of_rename
    (h : Rename (fun name => Path.isHere name = false) entry.name.toList other.name.toList) :
    other.kind = entry.kind := by
  generalize hname : entry.name.toList = name at h
  generalize hname' : other.name.toList = name' at h
  cases h with
  | folder folder hmovable =>
    subst hname
    exact kind_of_folder hmovable hname'
  | number hdigits hnumber hslash hbase hending =>
    exact kind_of_number hdigits hnumber hslash hbase hending hname hname'
  | output hending hending' => exact kind_of_output hending hending' hname hname'

end Rename

end Judge.Archive
