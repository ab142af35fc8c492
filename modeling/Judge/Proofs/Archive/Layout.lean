import Judge.Proofs.Archive.Naming
import Judge.Proofs.Archive.Prepare
import Judge.Proofs.Basic

/-!
The layout of an archive: the order of its entries, its directories and the names that say the same.
Archives that differ in nothing else hold the same, so the same can be imported from them.
-/

namespace Judge.Archive

/-- One archive has the entries of another one in a layout of its own. Directories may be put in
front of the names that are `movable`. -/
inductive Rearranged (movable : List Char → Prop) : List Entry → List Entry → Prop where
  | perm {a b : List Entry} (h : a.Perm b) : Rearranged movable a b
  | directory {directory : Entry} (rest : List Entry) (hname : directory.isDirectory = true)
    (hopened : ∃ source, directory.opened = .ok source) : Rearranged movable rest (directory :: rest)
  | rename {entry : Entry} {name : String} (rest : List Entry)
    (h : EntryName.Rename movable entry.name.toList name.toList) :
    Rearranged movable (entry :: rest) ({ entry with name } :: rest)
  | symm {a b : List Entry} (h : Rearranged movable a b) : Rearranged movable b a
  | trans {a b c : List Entry} (h : Rearranged movable a b) (k : Rearranged movable b c) :
    Rearranged movable a c

def Entry.content (entry : Entry) : Bytes × Option Damage := (entry.data, entry.damage)

lemma Entry.opened_of_content {entry other : Entry} (h : entry.content = other.content) :
    entry.opened = other.opened := by
  obtain ⟨hdata, hdamage⟩ := Prod.mk.inj h
  rw [opened, opened, hdata, hdamage]

def Opens (entries : List Entry) : Prop := ∀ entry ∈ entries, ∃ source, entry.opened = .ok source

/-- Two archives hold the same: entries of the same kinds with the same content, and all of these
open or not. -/
structure SameContent (a b : List Entry) : Prop where
  opens : Opens a ↔ Opens b
  holders : ∀ kind ≠ .other,
    ((Content.holders a kind).map Entry.content).Perm ((Content.holders b kind).map Entry.content)

/-- The tests of an archive are those of its data and of its score lines. -/
lemma Content.mem_testNumbers_iff {entries : List Entry} {number : Int} :
    number ∈ testNumbers entries ↔ holders entries (.input number) ≠ [] ∨
      holders entries (.output number) ≠ [] ∨ number ∈ (scoreLines entries).map (·.1) := by
  have hne : ∀ kind, holders entries kind ≠ [] ↔ ∃ entry ∈ entries, entry.kind = kind := by
    intro kind
    simp [holders, List.filter_eq_nil_iff]
  have hlines : number ∈ (scoreLines entries).map (·.1) ↔
      ∃ entry ∈ entries, entry.kind = .scores ∧ number ∈ entry.scoreLines.map (·.1) := by
    simp only [scoreLines, List.map_flatMap, List.mem_flatMap]
    refine exists_congr fun entry => and_congr_right fun _ => ⟨fun h => ⟨?_, h⟩, And.right⟩
    by_contra hk
    simp [Entry.scoreLines_of_ne hk] at h
  rw [mem_testNumbers, hne, hne, hlines, ← exists_or, ← exists_or]
  refine exists_congr fun entry => ?_
  rw [← and_or_left, ← and_or_left]
  refine and_congr_right fun _ => ?_
  rw [Entry.numbers]
  cases entry.kind <;> simp [eq_comm]

namespace SameContent

variable {a b c : List Entry}

lemma symm (h : SameContent a b) : SameContent b a :=
  ⟨h.opens.symm, fun kind hkind => (h.holders kind hkind).symm⟩

lemma trans (h : SameContent a b) (k : SameContent b c) : SameContent a c :=
  ⟨h.opens.trans k.opens, fun kind hkind => (h.holders kind hkind).trans (k.holders kind hkind)⟩

lemma of_perm (h : a.Perm b) : SameContent a b :=
  ⟨by simp only [Opens, h.mem_iff], fun _ _ => (h.filter _).map _⟩

lemma of_directory {directory : Entry} (hname : directory.isDirectory = true)
    (hopened : ∃ source, directory.opened = .ok source) (rest : List Entry) :
    SameContent rest (directory :: rest) where
  opens := by simp [Opens, hopened]
  holders kind hkind := by
    have hother : directory.kind ≠ kind := by simp [Entry.kind, hname, Ne.symm hkind]
    simp [Content.holders, hother]

lemma of_head {entry other : Entry} (hkind : other.kind = entry.kind)
    (hcontent : other.content = entry.content) (rest : List Entry) :
    SameContent (entry :: rest) (other :: rest) where
  opens := by simp [Opens, Entry.opened_of_content hcontent]
  holders kind _ := by
    by_cases h : entry.kind = kind
    · simp [Content.holders, hkind, h, hcontent]
    · simp [Content.holders, hkind, h]

/-- Archives that are laid out in two ways hold the same, if directories are put in front of no
dots. -/
theorem of_rearranged (h : Rearranged (fun name => Path.isHere name = false) a b) :
    SameContent a b := by
  induction h with
  | perm h => exact of_perm h
  | directory rest hname hopened => exact of_directory hname hopened rest
  | @rename entry name rest h =>
    have hkind : ({ entry with name } : Entry).kind = entry.kind := Entry.kind_of_rename h
    exact of_head hkind rfl rest
  | symm _ ih => exact ih.symm
  | trans _ _ ih ih' => exact ih.trans ih'

section Holders

variable {kind : EntryKind}

lemma length_holders (h : SameContent a b) (hkind : kind ≠ .other) :
    (Content.holders a kind).length = (Content.holders b kind).length := by
  simpa using (h.holders kind hkind).length_eq

lemma holders_eq_nil_iff (h : SameContent a b) (hkind : kind ≠ .other) :
    Content.holders a kind = [] ↔ Content.holders b kind = [] := by
  rw [← List.length_eq_zero_iff, h.length_holders hkind, List.length_eq_zero_iff]

/-- What is in one archive the only entry of its kind is so in the other one. -/
lemma exists_holder (h : SameContent a b) (hkind : kind ≠ .other) {entry : Entry}
    (honly : Content.holders a kind = [entry]) :
    ∃ other, Content.holders b kind = [other] ∧ other.content = entry.content := by
  have hperm := h.holders kind hkind
  rw [honly, List.map_singleton, List.singleton_perm] at hperm
  obtain ⟨other, hother, hcontent⟩ := List.map_eq_singleton_iff.mp hperm.symm
  exact ⟨other, hother, hcontent⟩

/-- What holds of the content of all entries of a kind does so in both archives. -/
lemma forall_content (h : SameContent a b) (hkind : kind ≠ .other)
    {P : Bytes → Option Damage → Prop} (ha : ∀ entry ∈ a, entry.kind = kind → P entry.data entry.damage) :
    ∀ entry ∈ b, entry.kind = kind → P entry.data entry.damage := by
  intro entry hentry hk
  have hmem : entry.content ∈ (Content.holders b kind).map Entry.content :=
    List.mem_map_of_mem (Content.mem_holders.mpr ⟨hentry, hk⟩)
  obtain ⟨other, hother, hcontent⟩ := List.mem_map.mp ((h.holders kind hkind).mem_iff.mpr hmem)
  obtain ⟨hmem', hk'⟩ := Content.mem_holders.mp hother
  obtain ⟨hdata, hdamage⟩ := Prod.mk.inj hcontent
  rw [← hdata, ← hdamage]
  exact ha other hmem' hk'

end Holders

lemma scoreLines (h : SameContent a b) :
    (Content.scoreLines a).Perm (Content.scoreLines b) := by
  have hlines : ∀ entries, Content.scoreLines entries =
      ((Content.holders entries .scores).map Entry.content).flatMap fun content =>
        Scan.scoreLinesOf (Text.byteLines content.1) := by
    intro entries
    rw [List.flatMap_map, Content.scoreLines]
    induction entries with
    | nil => rfl
    | cons entry entries ih =>
      rw [List.flatMap_cons, ih, Content.holders, Content.holders]
      by_cases hk : entry.kind = .scores
      · rw [List.filter_cons_of_pos (by simpa using hk), List.flatMap_cons, Entry.scoreLines, if_pos hk]
        rfl
      · rw [List.filter_cons_of_neg (by simpa using hk), Entry.scoreLines_of_ne hk, List.nil_append]
  rw [hlines, hlines]
  exact (h.holders .scores (by simp)).flatMap_right _

lemma testNumbers (h : SameContent a b) : Content.testNumbers a = Content.testNumbers b := by
  apply Table.eq_of_mem_iff_of_ascending id (Content.ascending_testNumbers a)
    (Content.ascending_testNumbers b)
  intro number
  rw [Content.mem_testNumbers_iff, Content.mem_testNumbers_iff, Ne, Ne, h.holders_eq_nil_iff (by simp),
    h.holders_eq_nil_iff (by simp), (h.scoreLines.map _).mem_iff]

lemma score (h : SameContent a b) (hscores : ((Content.scoreLines a).map (·.1)).Nodup) :
    Content.score a = Content.score b := by
  have hexplicit : Content.explicitScore? a = Content.explicitScore? b := by
    funext number
    exact lookup_of_perm hscores h.scoreLines
  have hremaining : Content.remaining a = Content.remaining b := by
    rw [Content.remaining, Content.remaining]
    congr 1
    exact h.scoreLines.foldl_eq' (by intros; omega) 0
  have hunscored : Content.unscored a = Content.unscored b := by
    rw [Content.unscored, Content.unscored, h.testNumbers, hexplicit]
  funext number
  rw [Content.score, Content.score, hexplicit, hremaining, hunscored]

/-- The settings are the same, if there is one entry that holds them. -/
lemma settings (h : SameContent a b) (hone : (Content.holders a .properties).length ≤ 1) :
    Content.settings a = Content.settings b := by
  cases ha : Content.holders a .properties with
  | nil =>
    have hb := (h.holders_eq_nil_iff (by simp)).mp ha
    rw [Content.settings, Content.settings, ha, hb]
  | cons entry rest =>
    obtain rfl : rest = [] := by simpa [ha] using hone
    obtain ⟨other, hb, hcontent⟩ := h.exists_holder (by simp) ha
    have hsettings : other.settings? = entry.settings? := by
      rw [Entry.settings?, Entry.settings?, (Prod.mk.inj hcontent).1]
    rw [Content.settings, Content.settings, ha, hb, List.getLast?_singleton, List.getLast?_singleton,
      Option.bind_some, Option.bind_some, hsettings]

theorem readable (h : SameContent a b) (ha : Readable a) : Readable b := by
  have hlength : ∀ kind ≠ .other, (Content.holders a kind).length ≤ 1 →
      (Content.holders b kind).length ≤ 1 := fun kind hkind => (h.length_holders hkind).ge.trans
  constructor
  case opened => exact h.opens.mp ha.opened
  case inputs => exact fun number => hlength _ (by simp) (ha.inputs number)
  case outputs => exact fun number => hlength _ (by simp) (ha.outputs number)
  case scores => exact (h.scoreLines.map _).nodup_iff.mp ha.scores
  case scoreFiles =>
    exact h.forall_content (show EntryKind.scores ≠ .other by simp) (P := fun data damage =>
      damage = none ∧ ∀ line ∈ Text.byteLines data, (Utf8.decode? line).isSome) ha.scoreFiles
  case settings =>
    exact h.forall_content (show EntryKind.properties ≠ .other by simp)
      (P := fun data damage => damage = none ∧
        ((Utf8.decode? data).bind fun text => (Properties.ofText text).toOption).isSome) ha.settings

/-- What is laid out in another way can be imported if it could before. -/
theorem importable (h : SameContent a b) (hone : (Content.holders a .properties).length ≤ 1)
    (ha : Importable a) : Importable b := by
  refine { h.readable ha.toReadable with complete := ?_, groups := ?_ }
  · intro number hnumber
    rw [← h.testNumbers] at hnumber
    rw [Ne, Ne, ← h.holders_eq_nil_iff (by simp), ← h.holders_eq_nil_iff (by simp)]
    exact ha.complete number hnumber
  · rw [← h.settings hone, ← h.testNumbers]
    exact ha.groups

end SameContent

end Judge.Archive
