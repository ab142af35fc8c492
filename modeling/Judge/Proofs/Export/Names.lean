import Judge.Archive.Export
import Judge.Proofs.Archive.Content
import Judge.Proofs.Archive.Written
import Judge.Proofs.Path
import Judge.Proofs.Slug

/-!
What the names of exported entries say: a data entry belongs to the test whose number it starts
with, whatever digits, dots and dashes the test name has.
-/

namespace Judge

namespace Archive

namespace EntryName

theorem endsWith_append (name : List Char) (ending : String) :
    endsWith (name ++ ending.toList) ending = true :=
  List.isSuffixOf_iff_suffix.mpr (List.suffix_append _ _)

/-- A name does not have an ending that ends in another character. -/
theorem not_endsWith_append {ending other : String} {c d : Char} (name : List Char)
    (hending : ending.toList.getLast? = some c) (hother : other.toList.getLast? = some d)
    (hne : c ≠ d) : endsWith (name ++ ending.toList) other = false := by
  rw [Bool.eq_false_iff]
  intro h
  obtain ⟨front, hfront⟩ := List.isSuffixOf_iff_suffix.mp h
  have hlast := congrArg List.getLast? hfront
  rw [List.getLast?_append, List.getLast?_append, hending, hother] at hlast
  exact hne (Option.some.inj hlast).symm

/-- The number in front of a dash is read, whatever comes behind it. -/
theorem leadingNumber?_digits {digits : List Char} (hne : digits ≠ [])
    (hdigits : ∀ c ∈ digits, c.isDigit = true) (rest : List Char) :
    leadingNumber? (digits ++ '-' :: rest) = Decimal.readInteger? Decimal.int32 digits := by
  have hleading : leadingDigits (digits ++ '-' :: rest) = (digits, '-' :: rest) := by
    rw [leadingDigits, List.takeWhile_append_of_pos hdigits, List.dropWhile_append_of_pos hdigits]
    simp
  rw [leadingNumber?, hleading]
  split
  · next heq => exact absurd (Prod.mk.inj heq).1 hne
  · next heq =>
    obtain ⟨rfl, -⟩ := Prod.mk.inj heq
    rfl
  · next hno => exact absurd rfl (hno _ _)

lemma leadingNumber?_writeInt {number : Int} (hn : 0 ≤ number)
    (hbounds : Decimal.int32.contains number = true) (rest : List Char) :
    leadingNumber? (Decimal.writeInt number ++ '-' :: rest) = some number := by
  rw [leadingNumber?_digits (Decimal.writeInt_ne_nil number)
    fun _ => Decimal.isDigit_of_mem_writeInt hn, Decimal.readInteger?_writeInt hbounds]

end EntryName

/-- An entry that is no directory is what its name says. -/
lemma Entry.kind_of_getLast? {entry : Entry} {c : Char} (h : entry.name.toList.getLast? = some c)
    (hc : c ≠ '/' ∧ c ≠ '\\') :
    entry.kind = EntryName.kind (EntryName.baseName entry.name) := by
  have hdirectory : entry.isDirectory = false := by
    rw [isDirectory, h]
    simp [hc.1, hc.2]
  rw [kind, hdirectory, if_neg (by simp)]

namespace Export

open EntryName (baseName kind endsWith_append not_endsWith_append leadingNumber?_writeInt)

variable {number : Int} {name ending : String}

lemma toList_entryName (number : Int) (name ending : String) :
    (entryName number name ending).toList =
      Decimal.writeInt number ++ '-' :: (name.toList ++ ending.toList) := by
  rw [entryName, String.toList_ofList]
  simp

lemma getLast?_entryName {c : Char} (h : ending.toList.getLast? = some c) :
    (entryName number name ending).toList.getLast? = some c := by
  rw [toList_entryName, ← List.cons_append, ← List.append_assoc, List.getLast?_append, h]
  rfl

lemma baseName_entryName (hn : 0 ≤ number) (hname : '/' ∉ name.toList)
    (hslash : '/' ∉ ending.toList) {c : Char} (hending : ending.toList.getLast? = some c)
    (hc : c ≠ '.') :
    baseName (entryName number name ending) = (entryName number name ending).toList := by
  have hfull : '/' ∉ (entryName number name ending).toList := by
    rw [toList_entryName]
    simp only [List.mem_append, List.mem_cons, not_or]
    exact ⟨fun h => absurd (Decimal.isDigit_of_mem_writeInt hn h) (by decide), by decide, hname,
      hslash⟩
  rw [baseName, Path.fileName?_of_notMem hfull (getLast?_entryName hending) hc]
  rfl

/-- A data entry belongs to the test whose number is in front. -/
lemma kind_of_name {entry : Entry} (hentry : entry.name = entryName number name ending)
    (hn : 0 ≤ number) (hbounds : Decimal.int32.contains number = true) (hname : '/' ∉ name.toList)
    (hslash : '/' ∉ ending.toList) {c : Char} (hending : ending.toList.getLast? = some c)
    (hc : c ∉ ['/', '\\', '.', 't', 's']) :
    entry.kind =
      if EntryName.endsWith entry.name.toList ".in" then .input number
      else if EntryName.endsWith entry.name.toList ".out" ||
        EntryName.endsWith entry.name.toList ".ok" ||
        EntryName.endsWith entry.name.toList ".sol" then .output number
      else .other := by
  simp only [List.mem_cons, List.not_mem_nil, or_false, not_or] at hc
  have hfull : entry.name.toList =
      (Decimal.writeInt number ++ '-' :: name.toList) ++ ending.toList := by
    rw [hentry, toList_entryName, List.append_assoc, List.cons_append]
  have hlast : entry.name.toList.getLast? = some c := by
    rw [hentry]
    exact getLast?_entryName hending
  have htxt : EntryName.endsWith entry.name.toList ".txt" = false := by
    rw [hfull]
    exact not_endsWith_append _ hending (d := 't') rfl hc.2.2.2.1
  have hproperties : EntryName.endsWith entry.name.toList ".properties" = false := by
    rw [hfull]
    exact not_endsWith_append _ hending (d := 's') rfl hc.2.2.2.2
  have hnumber : EntryName.testNumber? entry.name.toList = some number := by
    rw [EntryName.testNumber?, hentry, toList_entryName, leadingNumber?_writeInt hn hbounds]
  have hbase : baseName entry.name = entry.name.toList := by
    rw [hentry]
    exact baseName_entryName hn hname hslash hending hc.2.2.1
  rw [Entry.kind_of_getLast? hlast ⟨hc.1, hc.2.1⟩, hbase, kind, htxt, hproperties, hnumber]
  simp only [Bool.false_eq_true, if_false]

/-- An exported input is read as the input of its test. -/
theorem kind_input (hn : 0 ≤ number) (hbounds : Decimal.int32.contains number = true)
    (hname : '/' ∉ name.toList) (data : Bytes) :
    ({ name := entryName number name ".in", data } : Entry).kind = .input number := by
  rw [kind_of_name rfl hn hbounds hname (by decide) (c := 'n') rfl (by decide)]
  have hinput : EntryName.endsWith (entryName number name ".in").toList ".in" = true := by
    rw [entryName, String.toList_ofList]
    exact endsWith_append _ _
  simp only [hinput, if_true]

theorem kind_output (hn : 0 ≤ number) (hbounds : Decimal.int32.contains number = true)
    (hname : '/' ∉ name.toList) (data : Bytes) :
    ({ name := entryName number name ".ok", data } : Entry).kind = .output number := by
  rw [kind_of_name rfl hn hbounds hname (by decide) (c := 'k') rfl (by decide)]
  have hinput : EntryName.endsWith (entryName number name ".ok").toList ".in" = false := by
    rw [entryName, String.toList_ofList]
    exact not_endsWith_append _ (c := 'k') (d := 'n') rfl rfl (by decide)
  have houtput : EntryName.endsWith (entryName number name ".ok").toList ".ok" = true := by
    rw [entryName, String.toList_ofList]
    exact endsWith_append _ _
  simp only [hinput, houtput, Bool.or_true, Bool.true_or, if_true, Bool.false_eq_true, if_false]

theorem kind_scores (data : Bytes) : ({ name := "tests.txt", data } : Entry).kind = .scores := by
  have hlast : "tests.txt".toList.getLast? = some 't' := by decide
  have hkind : kind (baseName "tests.txt") = .scores := by decide +kernel
  exact (Entry.kind_of_getLast? hlast (by decide)).trans hkind

theorem kind_properties (data : Bytes) :
    ({ name := "grader.properties", data } : Entry).kind = .properties := by
  have hlast : "grader.properties".toList.getLast? = some 's' := by decide
  have hkind : kind (baseName "grader.properties") = .properties := by decide +kernel
  exact (Entry.kind_of_getLast? hlast (by decide)).trans hkind

lemma testName_cases (problem : Store.Problem) :
    (testName problem).toList = Text.trim problem.testName.toList ∨
      testName problem = Slug.ofText problem.name := by
  rw [testName]
  split
  · exact .inr rfl
  · exact .inl (String.toList_ofList ..)

theorem trim_testName (problem : Store.Problem) :
    Text.trim (testName problem).toList = (testName problem).toList := by
  rcases testName_cases problem with h | h
  · rw [h, Text.trim_trim]
  · rw [h]
    exact Text.trim_of_noBlank fun _ => Slug.not_isBlank_of_mem_ofText

end Export
end Archive
end Judge
