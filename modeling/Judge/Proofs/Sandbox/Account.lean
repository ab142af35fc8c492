import Mathlib.Data.List.Nodup
import Judge.Proofs.Basic
import Judge.Proofs.Decimal.Integer
import Judge.Proofs.Text.Lines
import Judge.Sandbox.Isolate

/-!
What accounts of runs tell. Without a fault of the tool an account is read as the last value that it
gives for each key, so that its lines can stand in any order as long as no key comes twice.
-/

namespace Judge.Sandbox.RunAccount

/-! ### Keys and values -/

/-- The line of a key and a value. -/
def lineOf (key : String) (value : List Char) : List Char := key.toList ++ ':' :: value

/-- The key and the value of a line, if it has a colon. -/
def field? (line : List Char) : Option (String × List Char) :=
  (Text.cut ':' line).map fun (key, value) => (String.ofList key, value)

/-- The keys and values of lines in their order. -/
def fields (lines : List (List Char)) : List (String × List Char) := lines.filterMap field?

/-- The last value of a key. -/
def value? (given : List (String × List Char)) (key : String) : Option (List Char) :=
  given.reverse.lookup key

section Fields

variable {line value : List Char} {lines : List (List Char)} {key : String}
  {given others : List (String × List Char)}

lemma field?_eq_some_iff (hkey : ':' ∉ key.toList) :
    field? line = some (key, value) ↔ line = lineOf key value := by
  constructor
  · intro h
    obtain ⟨⟨before, after⟩, hcut, hfield⟩ := Option.map_eq_some_iff.mp h
    obtain ⟨rfl, rfl⟩ := Prod.mk.inj hfield
    rw [lineOf, String.toList_ofList]
    exact Text.eq_of_cut hcut
  · rintro rfl
    simp [field?, lineOf, Text.cut_append hkey]

lemma mem_fields_iff (hkey : ':' ∉ key.toList) :
    (key, value) ∈ fields lines ↔ lineOf key value ∈ lines := by
  simp only [fields, List.mem_filterMap, field?_eq_some_iff hkey, exists_eq_right]

lemma fields_concat (lines : List (List Char)) (line : List Char) :
    fields (lines ++ [line]) = fields lines ++ (field? line).toList := by
  rw [fields, List.filterMap_append]
  cases h : field? line <;> simp [fields, h]

@[simp] lemma value?_concat (given : List (String × List Char)) (field : String × List Char)
    (key : String) :
    value? (given ++ [field]) key = if field.1 = key then some field.2 else value? given key := by
  rw [value?, List.reverse_concat, List.lookup_cons]
  by_cases h : field.1 = key
  · simp [h]
  · have hne : (key == field.1) = false := by simpa using Ne.symm h
    rw [hne, if_neg h, value?]

section Distinct

variable (h : (given.map (·.1)).Nodup)
include h

lemma nodup_reverse : (given.reverse.map (·.1)).Nodup := by
  rw [List.map_reverse]
  exact List.nodup_reverse.mpr h

lemma value?_eq_some_iff : value? given key = some value ↔ (key, value) ∈ given := by
  rw [value?, lookup_eq_some_iff_mem (nodup_reverse h), List.mem_reverse]

lemma value?_of_perm (hperm : given.Perm others) : value? given key = value? others key :=
  lookup_of_perm (nodup_reverse h) <|
    (List.reverse_perm given).trans (hperm.trans (List.reverse_perm others).symm)

end Distinct

end Fields

/-! ### What is read -/

/-- The account that values for keys make. -/
def told (given : List (String × List Char)) : RunAccount where
  stats :=
    { exitCode := (value? given "exitcode").elim 0 fun value =>
        (Decimal.readInteger? Decimal.int32 value).getD (-1)
      signal := (value? given "exitsig").bind (Decimal.readInteger? Decimal.int32)
      killed := given.any (·.1 = "killed") || decide (("status", ['T', 'O']) ∈ given)
      memoryExceeded := given.any (·.1 = "cg-oom-killed")
      time := (value? given "time").elim .zero readSeconds
      wallTime := (value? given "time-wall").elim .zero readSeconds
      message := (value? given "message").elim "" String.ofList }
  groupMemory := (value? given "cg-mem").bind readMemory
  processMemory := (value? given "max-rss").bind readMemory

/-- The line `status:XX`, by which the tool tells of a fault of its own. -/
def faultLine : List Char := lineOf "status" ['X', 'X']

lemma readLines_append (account : RunAccount) (front rest : List (List Char)) :
    account.readLines (front ++ rest) = account.readLines front >>= (·.readLines rest) := by
  induction front generalizing account with
  | nil => rfl
  | cons line front ih =>
    rw [List.cons_append, readLines, readLines, bind_assoc]
    congr 1
    funext next
    exact ih next

/-- A status is taken in as the end of a run at a time limit, or not at all. -/
lemma readLine_status (account : RunAccount) {value : List Char} (h : value ≠ ['X', 'X']) :
    account.readLine (lineOf "status" value) =
      .ok { account with stats.killed := account.stats.killed || value = ['T', 'O'] } := by
  rw [readLine, lineOf, Text.cut_append (by decide)]
  simp only [String.ofList_toList]
  split
  · next hto =>
    obtain rfl : value = ['T', 'O'] := String.ofList_injective hto
    simp
  · next hxx => exact absurd (String.ofList_injective hxx) h
  · next hto _ =>
    have hother : value ≠ ['T', 'O'] := fun heq => hto (congrArg String.ofList heq)
    simp [hother]

lemma readLine_told (given : List (String × List Char)) {line : List Char} (h : line ≠ faultLine) :
    (told given).readLine line = .ok (told (given ++ (field? line).toList)) := by
  cases hfield : field? line with
  | none =>
    have hcut : Text.cut ':' line = none := Option.map_eq_none_iff.mp hfield
    simp [readLine, hcut]
  | some field =>
    obtain ⟨key, value⟩ := field
    obtain ⟨⟨before, after⟩, hcut, hkey⟩ := Option.map_eq_some_iff.mp hfield
    obtain ⟨rfl, rfl⟩ := Prod.mk.inj hkey
    by_cases hstatus : String.ofList before = "status"
    · rw [hstatus, field?_eq_some_iff (by decide)] at hfield
      subst hfield
      have hvalue : after ≠ ['X', 'X'] := fun heq => h (congrArg (lineOf "status") heq)
      rw [readLine_status _ hvalue, hstatus]
      simp [told, Bool.or_assoc, eq_comm]
    simp only [readLine, hcut, Option.toList_some]
    generalize String.ofList before = key at hstatus
    have hother : "status" ≠ key := Ne.symm hstatus
    -- One case for each key that counts, and one for all others.
    split <;> simp_all [told]

/-- Lines without a fault are read as the values that they give. -/
theorem readLines_eq_told {lines : List (List Char)} (h : faultLine ∉ lines) :
    readLines {} lines = .ok (told (fields lines)) := by
  induction lines using List.reverseRecOn with
  | nil => rfl
  | append_singleton lines line ih =>
    obtain ⟨hlines, hline⟩ : faultLine ∉ lines ∧ line ≠ faultLine := by
      simpa [eq_comm] using h
    have hlast : ∀ account : RunAccount, account.readLines [line] = account.readLine line := by
      intro account
      rw [readLines]
      cases account.readLine line <;> rfl
    rw [readLines_append, ih hlines, fields_concat]
    exact (hlast _).trans (readLine_told _ hline)

/-- The first fault ends the reading with the message in front of it. -/
theorem readLines_of_fault {front rest : List (List Char)} (h : faultLine ∉ front) :
    readLines {} (front ++ faultLine :: rest) =
      .error (.toolFault ((value? (fields front) "message").elim "" String.ofList)) := by
  rw [readLines_append, readLines_eq_told h]
  rfl

lemma told_of_perm {given others : List (String × List Char)} (h : (given.map (·.1)).Nodup)
    (hperm : given.Perm others) : told given = told others := by
  simp only [told, value?_of_perm h hperm, hperm.any_eq, hperm.mem_iff]

/-! ### What it means -/

/-- A text that writes a number of kilobytes: digits, maybe after a plus sign, of a number of 64
bits. -/
structure WritesMemory (value : List Char) (n : Nat) : Prop where
  writes : Decimal.Writes value n
  unsigned : value.head? ≠ some '-'
  fits : n ≤ 18446744073709551615

lemma readMemory_eq_some_iff {value : List Char} {n : Nat} :
    readMemory value = some n ↔ WritesMemory value n := by
  have hread : ∀ m : Int, Decimal.readInteger? Decimal.nat64 value = some m ↔ _ := fun m =>
    Decimal.readInteger?_eq_some_iff_ok.trans
      (Decimal.readInteger_eq_ok_iff_of_le (by decide) (by decide))
  rw [readMemory, Option.map_eq_some_iff]
  constructor
  · rintro ⟨m, hm, rfl⟩
    obtain ⟨hwrites, hcontains, hsign⟩ := (hread m).mp hm
    obtain ⟨hlow, hhigh⟩ := Decimal.Bounds.contains_iff.mp hcontains
    simp only [Decimal.nat64] at hlow hhigh
    have hvalue : (m.toNat : Int) = m := Int.toNat_of_nonneg hlow
    exact ⟨hvalue.symm ▸ hwrites, fun hhead => absurd (hsign hhead) (by decide), by omega⟩
  · rintro ⟨hwrites, hsign, hfits⟩
    have hcontains : Decimal.nat64.contains n = true :=
      Decimal.Bounds.contains_iff.mpr ⟨Int.natCast_nonneg n, Int.ofNat_le.mpr hfits⟩
    exact ⟨n, (hread n).mpr ⟨hwrites, hcontains, fun hhead => absurd hhead hsign⟩, rfl⟩

/-- Lines give a number of kilobytes under a key. -/
def GivesMemory (lines : List (List Char)) (key : String) (n : Nat) : Prop :=
  ∃ value, lineOf key value ∈ lines ∧ WritesMemory value n

/-- The memory that lines give: that of the control group, else that of a process, else none. Values
that are no numbers of kilobytes do not count. -/
inductive TellsMemory (lines : List (List Char)) : Nat → Prop
  | group {n : Nat} (h : GivesMemory lines "cg-mem" n) : TellsMemory lines n
  | process {n : Nat} (hgroup : ∀ m, ¬ GivesMemory lines "cg-mem" m)
      (h : GivesMemory lines "max-rss" n) : TellsMemory lines n
  | missing (hgroup : ∀ m, ¬ GivesMemory lines "cg-mem" m)
      (hprocess : ∀ m, ¬ GivesMemory lines "max-rss" m) : TellsMemory lines 0

/-- Statistics say what lines tell of the limits and of the memory. -/
structure Tells (lines : List (List Char)) (stats : RunStats) : Prop where
  killed : stats.killed = true ↔
    (∃ value, lineOf "killed" value ∈ lines) ∨ lineOf "status" ['T', 'O'] ∈ lines
  memoryExceeded : stats.memoryExceeded = true ↔ ∃ value, lineOf "cg-oom-killed" value ∈ lines
  memory : TellsMemory lines stats.memory

section Tells

variable {lines : List (List Char)} {key : String}

lemma any_fields_iff (hkey : ':' ∉ key.toList) :
    (fields lines).any (·.1 = key) = true ↔ ∃ value, lineOf key value ∈ lines := by
  simp [← mem_fields_iff hkey]

variable (h : ((fields lines).map (·.1)).Nodup)
include h

lemma bind_readMemory_eq_some_iff (hkey : ':' ∉ key.toList) {n : Nat} :
    (value? (fields lines) key).bind readMemory = some n ↔ GivesMemory lines key n := by
  simp only [Option.bind_eq_some_iff, value?_eq_some_iff h, mem_fields_iff hkey,
    readMemory_eq_some_iff, GivesMemory]

lemma tellsMemory_told : TellsMemory lines (told (fields lines)).total.memory := by
  have hgives : ∀ {key : String} {memory : Option Nat}, ':' ∉ key.toList →
      (value? (fields lines) key).bind readMemory = memory →
        ∀ n, GivesMemory lines key n ↔ memory = some n := by
    rintro key memory hkey rfl n
    exact (bind_readMemory_eq_some_iff h hkey).symm
  simp only [total, told]
  cases hgroup : (value? (fields lines) "cg-mem").bind readMemory with
  | some n => exact .group ((hgives (by decide) hgroup n).mpr rfl)
  | none =>
    have hnone : ∀ m, ¬ GivesMemory lines "cg-mem" m := by simp [hgives (by decide) hgroup]
    cases hprocess : (value? (fields lines) "max-rss").bind readMemory with
    | some n => exact .process hnone ((hgives (by decide) hprocess n).mpr rfl)
    | none => exact .missing hnone (by simp [hgives (by decide) hprocess])

lemma tells_told : Tells lines (told (fields lines)).total where
  killed := by
    simp only [total, told, Bool.or_eq_true, decide_eq_true_eq]
    rw [any_fields_iff (by decide), mem_fields_iff (by decide)]
  memoryExceeded := any_fields_iff (by decide)
  memory := tellsMemory_told h

end Tells

/-- An account is read unless it has the line of a fault. -/
lemma read_of_fault {text : List Char} (h : faultLine ∈ Text.lines text) :
    ∃ complaint, read text = .error (.toolFault complaint) := by
  obtain ⟨front, rest, hlines, hfront⟩ := List.eq_append_cons_of_mem h
  rw [read, hlines, readLines_of_fault hfront]
  exact ⟨_, rfl⟩

lemma read_of_faultless {text : List Char} (h : faultLine ∉ Text.lines text) :
    read text = .ok (told (fields (Text.lines text))).total := by
  rw [read, readLines_eq_told h]
  rfl

/-- An account with one value for each key means the same in any order of its lines. -/
theorem read_perm {text other : List Char}
    (hkeys : ((fields (Text.lines text)).map (·.1)).Nodup)
    (hperm : (Text.lines text).Perm (Text.lines other)) :
    (faultLine ∈ Text.lines text →
      (∃ complaint, read text = .error (.toolFault complaint)) ∧
        ∃ complaint, read other = .error (.toolFault complaint)) ∧
    (faultLine ∉ Text.lines text →
      ∃ stats, read text = .ok stats ∧ read other = .ok stats ∧ Tells (Text.lines text) stats) := by
  constructor
  · intro h
    exact ⟨read_of_fault h, read_of_fault (hperm.mem_iff.mp h)⟩
  · intro h
    have hother : faultLine ∉ Text.lines other := mt hperm.mem_iff.mpr h
    have htold := told_of_perm hkeys (hperm.filterMap field?)
    refine ⟨_, read_of_faultless h, ?_, tells_told hkeys⟩
    rw [read_of_faultless hother, htold]
    rfl

/-- A run that was stopped at the time limit, with a number for the group that cannot be read. -/
theorem read_perm_timeLimit :
    let text := "time:0.5\ncg-mem:-3\nmax-rss:+2048\nno colon\nstatus:TO\nmessage:late: 1 s".toList
    let other := "message:late: 1 s\r\nstatus:TO\nmax-rss:+2048\nno colon\ncg-mem:-3\ntime:0.5\n".toList
    ((fields (Text.lines text)).map (·.1)).Nodup ∧ (Text.lines text).Perm (Text.lines other) ∧
      faultLine ∉ Text.lines text ∧
      ∃ stats, read text = .ok stats ∧ read other = .ok stats ∧ stats.killed = true ∧
        stats.memoryExceeded = false ∧ stats.memory = 2048 := by
  intro text other
  have hkeys : ((fields (Text.lines text)).map (·.1)).Nodup := by decide +kernel
  have hperm : (Text.lines text).Perm (Text.lines other) := by decide +kernel
  have hfault : faultLine ∉ Text.lines text := by decide +kernel
  obtain ⟨stats, htext, hother, htells⟩ := (read_perm hkeys hperm).2 hfault
  have hread : (read text).toOption.map (fun stats => (stats.memoryExceeded, stats.memory)) =
      some (false, 2048) := by decide +kernel
  rw [htext] at hread
  obtain ⟨hexceeded, hmemory⟩ := Prod.mk.inj (Option.some.inj hread)
  have hkilled : stats.killed = true := htells.killed.mpr (.inr (by decide +kernel))
  exact ⟨hkeys, hperm, hfault, stats, htext, hother, hkilled, hexceeded, hmemory⟩

-- What a fault is blamed on is the message in front of it, so the complaint does depend on the order.
example : read "message:cannot exec\nstatus:XX\n".toList = .error (.toolFault "cannot exec") := rfl

example : read "status:XX\nmessage:cannot exec\n".toList = .error (.toolFault "") := rfl

end Judge.Sandbox.RunAccount
