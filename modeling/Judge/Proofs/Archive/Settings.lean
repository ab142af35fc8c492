import Judge.Proofs.Archive.Content
import Judge.Proofs.Basic

/-!
What reading settings gives. Each line sets one place, whatever the other lines say, so only the order
of lines with the same key counts. The groups come from the group and weight lines only, and they are
numbered from one.
-/

namespace Judge.Archive

/-! ### Single settings -/

/-- What one line sets. -/
inductive Setting where
  | groups (lists : List (List Int))
  | weights (scores : List Int)
  | time (limit : Decimal.Binary64)
  | memory (limit : Int)
  | defaultScore (points : Int)
  | author (text : String)
  | source (text : String)
  | consoleInput (flag : Bool)
  | testName (text : String)
  | tags (tags : List String)
  | sourceSize (size : Int)
  | scoringStrategy (text : String)

namespace Setting

def key : Setting → Key
  | groups _ => .groups
  | weights _ => .weights
  | time _ => .time
  | memory _ => .memory
  | defaultScore _ => .defaultScore
  | author _ => .author
  | source _ => .source
  | consoleInput _ => .consoleInput
  | testName _ => .testName
  | tags _ => .tags
  | sourceSize _ => .sourceSize
  | scoringStrategy _ => .scoringStrategy

/-- Reads the value of a setting. -/
def read (key : Key) (value : List Char) : Except PropertiesError Setting :=
  match key with
  | .groups => (readGroups value).map groups
  | .weights => (readWeights value).map weights
  | .time => (readLimit key value).map time
  | .memory => (readLimit key value).map fun megabytes => memory (kilobytes megabytes)
  | .defaultScore => (readNonNegative Decimal.int32 key value).map defaultScore
  | .author => .ok (author (String.ofList value))
  | .source => .ok (source (String.ofList value))
  | .consoleInput => (readFlag key value).map consoleInput
  | .testName => .ok (testName (String.ofList value))
  | .tags => (readTags false [] value).map tags
  | .sourceSize => (readNonNegative Decimal.int64 key value).map sourceSize
  | .scoringStrategy => .ok (scoringStrategy (String.ofList value))

lemma key_of_read {key : Key} {value : List Char} {setting : Setting}
    (h : read key value = .ok setting) : setting.key = key := by
  cases key with
  | author | source | testName | scoringStrategy => rw [← Except.ok.inj h, Setting.key]
  | _ =>
    obtain ⟨a, -, rfl⟩ := exists_of_map_eq_ok h
    rfl

end Setting

namespace Draft

/-- Puts a setting into its place. -/
def put (draft : Draft) : Setting → Draft
  | .groups lists => { draft with groups := some lists }
  | .weights scores => { draft with weights := some scores }
  | .time limit => { draft with properties.timeLimit := some limit }
  | .memory limit => { draft with properties.memoryLimit := some limit }
  | .defaultScore points => { draft with properties.defaultPoints := some points }
  | .author text => { draft with properties.author := some text }
  | .source text => { draft with properties.source := some text }
  | .consoleInput flag => { draft with properties.consoleInput := some flag }
  | .testName text => { draft with properties.testName := some text }
  | .tags tags => { draft with properties.tags := some tags }
  | .sourceSize size => { draft with properties.sourceSize := some size }
  | .scoringStrategy text => { draft with properties.scoringStrategy := some text }

/-- A line is read without a look at the others, and what it says is put into its place. -/
lemma set_eq (draft : Draft) (key : Key) (value : List Char) :
    draft.set key value = (Setting.read key value).map draft.put := by
  have hread : ∀ {α : Type} (result : Except PropertiesError α) (make : α → Setting),
      (result >>= fun a => pure (draft.put (make a))) = (result.map make).map draft.put := by
    intro α result make
    cases result <;> rfl
  cases key with
  | groups => exact hread (readGroups value) .groups
  | weights => exact hread (readWeights value) .weights
  | time => exact hread (readLimit .time value) .time
  | memory => exact hread (readLimit .memory value) fun megabytes => .memory (kilobytes megabytes)
  | defaultScore => exact hread (readNonNegative Decimal.int32 .defaultScore value) .defaultScore
  | consoleInput => exact hread (readFlag .consoleInput value) .consoleInput
  | tags => exact hread (readTags false [] value) .tags
  | sourceSize => exact hread (readNonNegative Decimal.int64 .sourceSize value) .sourceSize
  | author | source | testName | scoringStrategy => rfl

/-- Settings of two keys have two places. -/
lemma put_comm (draft : Draft) {first second : Setting} (h : first.key ≠ second.key) :
    (draft.put first).put second = (draft.put second).put first := by
  cases first <;> cases second <;> first
    | rfl
    | exact absurd rfl h

lemma exists_of_set {draft next : Draft} {key : Key} {value : List Char}
    (h : draft.set key value = .ok next) :
    ∃ setting, Setting.read key value = .ok setting ∧ draft.put setting = next :=
  exists_of_map_eq_ok (draft.set_eq key value ▸ h)

/-- No setting but the groups and weights together makes groups. -/
lemma subtasks_put (draft : Draft) (setting : Setting) :
    (draft.put setting).properties.subtasks = draft.properties.subtasks := by
  cases setting <;> rfl

end Draft

/-! ### Groups -/

/-- Taking settings into account one after the other. -/
def Draft.setAll (draft : Draft) : List (Key × List Char) → Except PropertiesError Draft
  | [] => .ok draft
  | (key, value) :: settings => do
    let draft ← draft.set key value
    draft.setAll settings

lemma Draft.foldlM_set (draft : Draft) (settings : List (Key × List Char)) :
    settings.foldlM (fun draft (key, value) => draft.set key value) draft =
      draft.setAll settings := by
  induction settings generalizing draft with
  | nil => rfl
  | cons setting settings ih =>
    rw [List.foldlM_cons, setAll]
    congr 1
    funext next
    exact ih next

lemma Properties.ofText_eq (text : List Char) :
    ofText text = (({} : Draft).setAll ((Text.lines text).filterMap settingOf) >>= Draft.finish) := by
  rw [← Draft.foldlM_set]
  rfl

lemma Draft.subtasks_of_setAll {draft last : Draft} {settings : List (Key × List Char)}
    (h : draft.setAll settings = .ok last) :
    last.properties.subtasks = draft.properties.subtasks := by
  induction settings generalizing draft with
  | nil => rw [Except.ok.inj h]
  | cons setting settings ih =>
    obtain ⟨next, hset, hlast⟩ := exists_of_bind_eq_ok h
    obtain ⟨put, -, rfl⟩ := exists_of_set hset
    rw [ih hlast, subtasks_put]

/-- Groups that were read are numbered from one. -/
theorem Properties.keys_of_ofText {text : List Char} {properties : Properties} {groups : Table Group}
    (h : ofText text = .ok properties) (hgroups : properties.subtasks = some groups) :
    groups.keys = (List.range groups.size).map fun i : Nat => (i : Int) + 1 := by
  rw [ofText_eq] at h
  cases hlast : ({} : Draft).setAll ((Text.lines text).filterMap settingOf) with
  | error cause => simp [hlast, bind, Except.bind] at h
  | ok last =>
    have hnone : last.properties.subtasks = none := Draft.subtasks_of_setAll hlast
    rw [hlast] at h
    change last.finish = .ok properties at h
    rw [Draft.finish] at h
    split at h
    · obtain rfl := Except.ok.inj h
      simp [hnone] at hgroups
    · contradiction
    · contradiction
    · split at h
      · next lists weights _ _ _ =>
        obtain rfl := Except.ok.inj h
        obtain rfl := Option.some.inj hgroups
        have hentries := Table.entries_ofList_mapIdx (lists.zip weights)
          fun _ p => ({ score := p.2, tests := p.1 } : Group)
        simp only [Table.keys, Table.size]
        rw [hentries]
        apply List.ext_getElem
        · simp
        · intro i _ _
          simp
      · contradiction

/-- The groups of an archive are numbered from one. -/
theorem Content.keys_of_groups {entries : List Entry} {groups : Table Group}
    (h : Content.groups entries = some groups) :
    groups.keys = (List.range groups.size).map fun i : Nat => (i : Int) + 1 := by
  obtain ⟨properties, hsettings, hgroups⟩ := Option.bind_eq_some_iff.mp h
  obtain ⟨entry, -, hentry⟩ := Option.bind_eq_some_iff.mp hsettings
  obtain ⟨text, -, htext⟩ := Option.bind_eq_some_iff.mp hentry
  cases hread : Properties.ofText text with
  | error cause => simp [hread, Except.toOption] at htext
  | ok other =>
    obtain rfl : other = properties := by simpa [hread, Except.toOption] using htext
    exact Properties.keys_of_ofText hread hgroups

/-! ### Tags -/

/-- Tags are what is read of one line. -/
lemma Draft.exists_readTags_of_setAll {draft last : Draft} {settings : List (Key × List Char)}
    (h : draft.setAll settings = .ok last) {tags : List String}
    (htags : last.properties.tags = some tags) :
    draft.properties.tags = some tags ∨ ∃ value, readTags false [] value = .ok tags := by
  induction settings generalizing draft with
  | nil => exact .inl (Except.ok.inj h ▸ htags)
  | cons setting settings ih =>
    obtain ⟨next, hset, hlast⟩ := exists_of_bind_eq_ok h
    obtain ⟨put, hread, rfl⟩ := exists_of_set hset
    rcases ih hlast with hnext | hvalue
    · cases put with
      | tags read =>
        obtain rfl : read = tags := Option.some.inj hnext
        rw [← Setting.key_of_read hread, Setting.key, Setting.read] at hread
        obtain ⟨list, hlist, hsame⟩ := exists_of_map_eq_ok hread
        exact .inr ⟨setting.2, Setting.tags.inj hsame ▸ hlist⟩
      | _ => exact .inl hnext
    · exact .inr hvalue

lemma Draft.tags_of_finish {draft : Draft} {properties : Properties}
    (h : draft.finish = .ok properties) : properties.tags = draft.properties.tags := by
  rw [Draft.finish] at h
  split at h
  · rw [← Except.ok.inj h]
  · contradiction
  · contradiction
  · split at h
    · rw [← Except.ok.inj h]
    · contradiction

theorem Properties.exists_readTags_of_ofText {text : List Char} {properties : Properties}
    (h : ofText text = .ok properties) {tags : List String} (htags : properties.tags = some tags) :
    ∃ value, readTags false [] value = .ok tags := by
  rw [ofText_eq] at h
  obtain ⟨draft, hdraft, hfinish⟩ := exists_of_bind_eq_ok h
  rw [Draft.tags_of_finish hfinish] at htags
  exact (Draft.exists_readTags_of_setAll hdraft htags).resolve_left (by simp)

/-! ### The order of settings -/

namespace Draft

variable {draft : Draft} {setting other : Key × List Char} {settings rest : List (Key × List Char)}

/-- What taking settings into account gives, whatever is wrong with those that cannot be read. -/
def outcome (draft : Draft) (settings : List (Key × List Char)) : Option Draft :=
  (draft.setAll settings).toOption

lemma outcome_cons : draft.outcome (setting :: rest) =
    (Setting.read setting.1 setting.2).toOption.bind fun s => (draft.put s).outcome rest := by
  rw [outcome, setAll, set_eq]
  cases Setting.read setting.1 setting.2 <;> rfl

/-- Neighbours of two keys can change places. -/
lemma outcome_swap (h : setting.1 ≠ other.1) :
    draft.outcome (setting :: other :: rest) = draft.outcome (other :: setting :: rest) := by
  simp only [outcome_cons]
  cases hfirst : Setting.read setting.1 setting.2 with
  | error cause => cases Setting.read other.1 other.2 <;> rfl
  | ok first =>
    cases hsecond : Setting.read other.1 other.2 with
    | error cause => rfl
    | ok second =>
      have hkeys : first.key ≠ second.key := by
        rwa [Setting.key_of_read hfirst, Setting.key_of_read hsecond]
      exact congrArg (outcome · rest) (draft.put_comm hkeys)

/-- A setting can be read before all those of other keys in front of it. -/
lemma outcome_front {front : List (Key × List Char)} (h : ∀ s ∈ front, s.1 ≠ setting.1) :
    draft.outcome (front ++ setting :: rest) = draft.outcome (setting :: (front ++ rest)) := by
  induction front generalizing draft with
  | nil => rfl
  | cons first front ih =>
    obtain ⟨hfirst, hfront⟩ := List.forall_mem_cons.mp h
    rw [List.cons_append, List.cons_append, ← outcome_swap hfirst, outcome_cons, outcome_cons]
    congr 1
    funext s
    exact ih hfront

/-- Only the order under each key counts. -/
theorem outcome_congr {a b : List (Key × List Char)}
    (h : ∀ key, a.filter (·.1 = key) = b.filter (·.1 = key)) : draft.outcome a = draft.outcome b := by
  induction a generalizing draft b with
  | nil =>
    cases b with
    | nil => rfl
    | cons setting b => simpa using h setting.1
  | cons setting a ih =>
    -- The first setting stands in the other list behind settings of other keys alone.
    have hfirst : b.filter (·.1 = setting.1) = setting :: a.filter (·.1 = setting.1) := by
      rw [← h, List.filter_cons_of_pos (by simp)]
    obtain ⟨front, rest, rfl, hfront, -, -⟩ := List.filter_eq_cons_iff.mp hfirst
    have hothers : ∀ s ∈ front, s.1 ≠ setting.1 := by simpa using hfront
    have hrest : ∀ key, a.filter (·.1 = key) = (front ++ rest).filter (·.1 = key) := by
      intro key
      have hkey := h key
      by_cases hsame : setting.1 = key
      · have hnone : front.filter (·.1 = key) = [] := by
          simpa [List.filter_eq_nil_iff, ← hsame] using hothers
        simpa [hsame, hnone] using hkey
      · simpa [hsame] using hkey
    rw [outcome_front hothers, outcome_cons, outcome_cons]
    congr 1
    funext s
    exact ih hrest

end Draft

/-! ### The layout of a text -/

section Layout

variable {line : List Char}

/-- The setting that a line is about. Blank lines, lines that start with a hash sign, lines without an
equals sign and lines with an unknown key are about none. -/
def keyOf? (line : List Char) : Option Key :=
  let line := Text.trim line
  if line.head? = some '#' ∨ '=' ∉ line then none
  else Key.ofText? (Text.trim (line.takeWhile (· ≠ '=')))

/-- The lines about one setting. -/
def linesOf (key : Key) (lines : List (List Char)) : List (List Char) :=
  lines.filter fun line => keyOf? line = some key

/-- Lines in another layout: those about one setting are the same ones in the same order, but they
may be mixed with those about other settings in any way, and with any lines about none. -/
def Relaid (a b : List (List Char)) : Prop := ∀ key, linesOf key a = linesOf key b

lemma cut_eq {separator : Char} (text : List Char) : Text.cut separator text =
    if separator ∈ text then
      some (text.takeWhile (· ≠ separator), (text.dropWhile (· ≠ separator)).tail)
    else none := by
  induction text with
  | nil => rfl
  | cons c text ih =>
    rw [Text.cut]
    by_cases hc : c = separator
    · simp [hc]
    · rw [ih]
      by_cases hmem : separator ∈ text <;> simp [hc, Ne.symm hc, hmem]

lemma map_settingOf (line : List Char) : (settingOf line).map (·.1) = keyOf? line := by
  rw [settingOf, keyOf?]
  simp only [cut_eq]
  split
  · next h => simp [h]
  · next rest h => simp [h]
  · next hhash =>
    have hhead : (Text.trim line).head? ≠ some '#' := by
      intro hhead
      obtain ⟨rest, hrest⟩ := List.head?_eq_some_iff.mp hhead
      exact hhash rest hrest
    by_cases hmem : '=' ∈ Text.trim line
    · rw [if_pos hmem, if_neg (by simp [hhead, hmem])]
      simp only [Option.bind_eq_bind, Option.bind_some]
      cases Key.ofText? _ <;> rfl
    · simp [hmem]

/-- The settings of one key are those on the lines about it. -/
lemma filter_settings (key : Key) (lines : List (List Char)) :
    (lines.filterMap settingOf).filter (·.1 = key) = (linesOf key lines).filterMap settingOf := by
  rw [linesOf, List.filter_filterMap, List.filterMap_filter]
  refine List.filterMap_congr fun line _ => ?_
  rw [← map_settingOf]
  cases settingOf line with
  | none => rfl
  | some setting => by_cases hkey : setting.1 = key <;> simp [Option.filter, hkey]

end Layout

namespace Properties

/-- Settings do not depend on the layout of their text. -/
theorem ofText_relaid {a b : List Char} (h : Relaid (Text.lines a) (Text.lines b)) :
    (ofText a).toOption = (ofText b).toOption := by
  have hread : ∀ text, (ofText text).toOption =
      (({} : Draft).outcome ((Text.lines text).filterMap settingOf)).bind (·.finish.toOption) := by
    intro text
    rw [ofText_eq, Draft.outcome]
    cases Draft.setAll {} ((Text.lines text).filterMap settingOf) <;> rfl
  have hsettings : ∀ key, ((Text.lines a).filterMap settingOf).filter (·.1 = key) =
      ((Text.lines b).filterMap settingOf).filter (·.1 = key) := by
    intro key
    rw [filter_settings, filter_settings, h key]
  rw [hread, hread, Draft.outcome_congr hsettings]

theorem ofText_relaid_mixed :
    let ordered := "groups=1;2,3\nweights=70,30\ntime=2\ntime=1\nauthor=J. Doe".toList
    let mixed :=
      "# limits\ntime=2\nweights=70,30\n\nno value\ntime=1\nauthor=J. Doe\ncolor=x\ngroups=1;2,3"
        |>.toList
    Relaid (Text.lines ordered) (Text.lines mixed) ∧
      (ofText ordered).toOption = (ofText mixed).toOption ∧
      (ofText mixed).toOption.map (·.timeLimit) = some (some (.ofInt 1)) := by
  intro ordered mixed
  have hall : ∀ key ∈ Key.all, linesOf key (Text.lines ordered) = linesOf key (Text.lines mixed) := by
    decide +kernel
  have hrelaid : Relaid (Text.lines ordered) (Text.lines mixed) := by
    intro key
    exact hall key (by cases key <;> decide)
  exact ⟨hrelaid, ofText_relaid hrelaid, by decide +kernel⟩

end Properties

end Judge.Archive
