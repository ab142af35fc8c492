import Mathlib.Data.List.Find
import Mathlib.Data.List.Nodup
import Mathlib.Tactic.Lemma
import Judge.Language.Registry

/-!
A registry as a plain list of languages. The two indexes hold the places of the languages in order,
so what is found through them is what a scan of the list finds; and a list makes a registry exactly
if names and last extensions are each used once and no language is without extensions.
-/

namespace Judge.Language

/-- The last extension of a language is one of its extensions, if it has any. -/
lemma terminal_mem {language : Language} (h : language.extensions ≠ []) :
    language.terminal ∈ language.extensions := by
  obtain ⟨last, hlast⟩ := Option.ne_none_iff_exists'.mp (mt List.getLast?_eq_none_iff.mp h)
  rw [terminal, hlast]
  exact List.mem_of_getLast? hlast

/-- Languages that can make a registry, the disabled ones included. -/
structure Consistent (languages : List Language) : Prop where
  names : (languages.map (·.internalName)).Nodup
  extensions : ∀ language ∈ languages, language.extensions ≠ []
  terminals : (languages.map (·.terminal)).Nodup

/-- The enabled language that an extension belongs to. -/
def owner? (languages : List Language) (extension : String) : Option Language :=
  languages.find? fun language => !language.disabled && language.terminal == extension

/-- The first enabled language that lists an extension. -/
def lister? (languages : List Language) (extension : String) : Option Language :=
  languages.find? fun language => !language.disabled && language.extensions.contains extension

/-- The language of an extension as a scan of the list finds it. -/
def scan (languages : List Language) (extension : String) : Option Language :=
  (owner? languages extension).or (lister? languages extension)

/-- An extension belongs to one language at most. -/
lemma Consistent.owner?_eq {languages : List Language} (h : Consistent languages)
    {language : Language} (hmem : language ∈ languages) (henabled : language.disabled = false) :
    owner? languages language.terminal = some language := by
  have hsome : (owner? languages language.terminal).isSome :=
    List.find?_isSome.mpr ⟨language, hmem, by simp [henabled]⟩
  obtain ⟨found, hfound⟩ := Option.isSome_iff_exists.mp hsome
  have hterminal := List.find?_some hfound
  simp only [Bool.and_eq_true, beq_iff_eq] at hterminal
  rw [hfound, List.inj_on_of_nodup_map h.terminals (List.mem_of_find?_eq_some hfound) hmem
    hterminal.2]

lemma enabled_of_scan {languages : List Language} {extension : String} {language : Language}
    (h : scan languages extension = some language) :
    language ∈ languages ∧ language.disabled = false := by
  have hfind : ∀ p : Language → Bool,
      (languages.find? fun language => !language.disabled && p language) = some language →
        language ∈ languages ∧ language.disabled = false := by
    intro p hfound
    have hp := List.find?_some hfound
    simp only [Bool.and_eq_true, Bool.not_eq_true'] at hp
    exact ⟨List.mem_of_find?_eq_some hfound, hp.1⟩
  rcases Option.or_eq_some_iff.mp h with h | ⟨-, h⟩
  · exact hfind _ h
  · exact hfind _ h

namespace Registry

/-! ### The check -/

lemma check_cons_eq_ok_iff {names : List String} {terminals : List (String × String)}
    {language : Language} {rest : List Language} :
    check names terminals (language :: rest) = .ok () ↔
      language.internalName ∉ names ∧ language.extensions ≠ [] ∧
        language.terminal ∉ terminals.map (·.1) ∧
        check (language.internalName :: names)
          ((language.terminal, language.internalName) :: terminals) rest = .ok () := by
  have hlookup : terminals.lookup language.terminal = none ↔
      language.terminal ∉ terminals.map (·.1) := by
    rw [List.lookup_eq_none_iff]
    refine ⟨fun h hmem => ?_, fun h entry hentry => bne_iff_ne.mpr fun heq => ?_⟩
    · obtain ⟨entry, hentry, heq⟩ := List.mem_map.mp hmem
      exact bne_iff_ne.mp (h entry hentry) heq.symm
    · exact h (heq ▸ List.mem_map_of_mem hentry)
  rw [check, ← hlookup]
  by_cases hname : language.internalName ∈ names
  · simp [hname]
  by_cases hextensions : language.extensions = []
  · simp [hname, hextensions]
  cases terminals.lookup language.terminal <;> simp [hname, hextensions]

/-- Languages pass exactly if they are consistent among themselves and with those before them. -/
lemma check_eq_ok_iff {names : List String} {terminals : List (String × String)}
    {languages : List Language} :
    check names terminals languages = .ok () ↔ Consistent languages ∧
      ∀ language ∈ languages, language.internalName ∉ names ∧
        language.terminal ∉ terminals.map (·.1) := by
  induction languages generalizing names terminals with
  | nil => simpa [check] using ⟨List.nodup_nil, by simp, List.nodup_nil⟩
  | cons language rest ih =>
    rw [check_cons_eq_ok_iff, ih]
    constructor
    · rintro ⟨hname, hextensions, hterminal, hrest, hbefore⟩
      refine ⟨⟨?_, ?_, ?_⟩, ?_⟩
      · refine List.nodup_cons.mpr ⟨fun hmem => ?_, hrest.names⟩
        obtain ⟨other, hother, heq⟩ := List.mem_map.mp hmem
        exact (hbefore other hother).1 (by simp [heq])
      · exact List.forall_mem_cons.mpr ⟨hextensions, hrest.extensions⟩
      · refine List.nodup_cons.mpr ⟨fun hmem => ?_, hrest.terminals⟩
        obtain ⟨other, hother, heq⟩ := List.mem_map.mp hmem
        exact (hbefore other hother).2 (by simp [heq])
      · refine List.forall_mem_cons.mpr ⟨⟨hname, hterminal⟩, fun other hother => ?_⟩
        obtain ⟨hother1, hother2⟩ := hbefore other hother
        exact ⟨fun hmem => hother1 (List.mem_cons_of_mem _ hmem),
          fun hmem => hother2 (List.mem_cons_of_mem _ hmem)⟩
    · rintro ⟨⟨hnames, hextensions, hterminals⟩, hbefore⟩
      obtain ⟨⟨hname, hterminal⟩, hrest⟩ := List.forall_mem_cons.mp hbefore
      obtain ⟨hfresh, hnames⟩ := List.nodup_cons.mp hnames
      obtain ⟨hfresh', hterminals⟩ := List.nodup_cons.mp hterminals
      obtain ⟨hextension, hextensions⟩ := List.forall_mem_cons.mp hextensions
      refine ⟨hname, hextension, hterminal, ⟨hnames, hextensions, hterminals⟩,
        fun other hother => ?_⟩
      obtain ⟨hother1, hother2⟩ := hrest other hother
      refine ⟨List.not_mem_cons_of_ne_of_not_mem (fun heq => ?_) hother1,
        List.not_mem_cons_of_ne_of_not_mem (fun heq => ?_) hother2⟩
      · exact hfresh (List.mem_map.mpr ⟨other, hother, heq⟩)
      · exact hfresh' (List.mem_map.mpr ⟨other, hother, heq⟩)

/-- A list makes a registry exactly if it is consistent, and the registry is its index. -/
theorem ofList_eq_ok_iff {languages : List Language} {registry : Registry} :
    ofList languages = .ok registry ↔ Consistent languages ∧ registry = index languages := by
  have hcheck := @check_eq_ok_iff [] [] languages
  simp only [List.not_mem_nil, not_false_eq_true, List.map_nil, and_self, implies_true,
    and_true] at hcheck
  rw [← hcheck, ofList]
  cases check [] [] languages with
  | error cause => simp [bind, Except.bind]
  | ok _ => simp [bind, Except.bind, pure, Except.pure, eq_comm]

/-! ### The indexes -/

/-- The places of the languages that list a word, once for each time that they do. -/
def placesFrom (words : Language → List String) (word : String) (position : Nat) :
    List Language → List Nat
  | [] => []
  | language :: rest =>
    List.replicate ((words language).count word) position ++ placesFrom words word (position + 1) rest

lemma positions_foldl_add (words : List String) (word : String) (position : Nat) (index : Index) :
    (words.foldl (fun index w => index.add w position) index).positions word =
      index.positions word ++ List.replicate (words.count word) position := by
  induction words generalizing index with
  | nil => simp
  | cons w words ih =>
    rw [List.foldl_cons, ih, Index.positions_add]
    by_cases h : w = word
    · subst h
      rw [if_pos rfl, List.count_cons_self, List.append_assoc, List.replicate_succ]
      rfl
    · rw [if_neg h, List.count_cons_of_ne h]

lemma indexFrom_languages (registry : Registry) (position : Nat) (languages : List Language) :
    (indexFrom registry position languages).languages = registry.languages := by
  induction languages generalizing registry position with
  | nil => rfl
  | cons language rest ih =>
    rw [indexFrom, ih]
    rfl

lemma positions_extensions (registry : Registry) (position : Nat) (languages : List Language)
    (word : String) :
    (indexFrom registry position languages).extensions.positions word =
      registry.extensions.positions word ++ placesFrom (·.extensions) word position languages := by
  induction languages generalizing registry position with
  | nil => simp [indexFrom, placesFrom]
  | cons language rest ih =>
    rw [indexFrom, ih, indexLanguage, positions_foldl_add, placesFrom, List.append_assoc]

lemma positions_names (registry : Registry) (position : Nat) (languages : List Language)
    (word : String) :
    (indexFrom registry position languages).names.positions word =
      registry.names.positions word ++
        placesFrom (fun language => [language.internalName]) word position languages := by
  induction languages generalizing registry position with
  | nil => simp [indexFrom, placesFrom]
  | cons language rest ih =>
    have hadd := positions_foldl_add [language.internalName] word position registry.names
    rw [indexFrom, ih, indexLanguage, placesFrom, ← List.append_assoc, ← hadd]
    rfl

/-- What stands at the places of a word are the languages that list it. -/
lemma filterMap_placesFrom (words : Language → List String) (word : String)
    (front languages : List Language) :
    (placesFrom words word front.length languages).filterMap ((front ++ languages)[·]?) =
      languages.flatMap fun language => List.replicate ((words language).count word) language := by
  induction languages generalizing front with
  | nil => rfl
  | cons language rest ih =>
    have hhere : (front ++ language :: rest)[front.length]? = some language := by simp
    have hrest := ih (front ++ [language])
    rw [List.length_append, List.length_singleton, List.append_assoc, List.singleton_append] at hrest
    rw [placesFrom, List.filterMap_append, hrest, List.flatMap_cons,
      List.filterMap_replicate_of_some hhere]

/-- A search among languages that are repeated is a search among those that occur. -/
lemma find?_flatMap_replicate (times : Language → Nat) (p : Language → Bool)
    (languages : List Language) :
    (languages.flatMap fun language => List.replicate (times language) language).find? p =
      languages.find? fun language => 0 < times language && p language := by
  induction languages with
  | nil => rfl
  | cons language rest ih =>
    rw [List.flatMap_cons, List.find?_append, ih, List.find?_cons]
    cases times language with
    | zero => simp
    | succ n => cases hp : p language <;> simp [hp]

lemma find?_enabled (p : Language → Bool) (languages : List Language) :
    (languages.filter (!·.disabled)).find? p =
      languages.find? fun language => !language.disabled && p language := by
  rw [List.find?_filter]
  refine List.find?_congr fun language _ => ?_
  rw [Bool.eq_iff_iff]
  simp

lemma enabledAt_extensions (languages : List Language) (extension : String) :
    (index languages).enabledAt ((index languages).extensions.positions extension) =
      (languages.flatMap fun language =>
        List.replicate (language.extensions.count extension) language).filter (!·.disabled) := by
  have hplaces : (index languages).extensions.positions extension =
      placesFrom (·.extensions) extension 0 languages := positions_extensions _ 0 languages extension
  have hlist : (index languages).languages = languages := indexFrom_languages _ 0 languages
  rw [enabledAt, hplaces, hlist]
  exact congrArg _ (filterMap_placesFrom (·.extensions) extension [] languages)

lemma mem_placesFrom {words : Language → List String} {word : String}
    {front languages : List Language}
    {place : Nat} (h : place ∈ placesFrom words word front.length languages) :
    ∃ language ∈ languages, (front ++ languages)[place]? = some language ∧ word ∈ words language := by
  induction languages generalizing front with
  | nil => simp [placesFrom] at h
  | cons language rest ih =>
    rcases List.mem_append.mp h with h | h
    · obtain ⟨hcount, rfl⟩ := List.mem_replicate.mp h
      exact ⟨language, by simp, by simp, List.count_pos_iff.mp (Nat.pos_of_ne_zero hcount)⟩
    · have hfront : place ∈ placesFrom words word (front ++ [language]).length rest := by
        simpa using h
      obtain ⟨other, hother, hplace, hword⟩ := ih hfront
      exact ⟨other, List.mem_cons_of_mem _ hother, by simpa using hplace, hword⟩

lemma placesFrom_ne_nil {words : Language → List String} {word : String} {languages : List Language}
    {language : Language} (hmem : language ∈ languages) (hword : word ∈ words language)
    (position : Nat) : placesFrom words word position languages ≠ [] := by
  induction languages generalizing position with
  | nil => simp at hmem
  | cons other rest ih =>
    rw [placesFrom, Ne, List.append_eq_nil_iff, List.replicate_eq_nil_iff]
    rintro ⟨hcount, hrest⟩
    rcases List.mem_cons.mp hmem with rfl | hmem
    · exact List.count_eq_zero.mp hcount hword
    · exact ih hmem _ hrest

/-! ### Look-ups -/

section Found

variable {languages : List Language}

/-- By its name a language is found exactly if it is listed and enabled. -/
theorem get?_index (h : Consistent languages) {name : String} {language : Language} :
    (index languages).get? name = some language ↔
      language ∈ languages ∧ language.disabled = false ∧ language.internalName = name := by
  have hplaces : (index languages).names.positions name =
      placesFrom (fun language => [language.internalName]) name 0 languages :=
    positions_names _ 0 languages name
  have hlist : (index languages).languages = languages := indexFrom_languages _ 0 languages
  have hplace : ∀ place ∈ placesFrom (fun language => [language.internalName]) name 0 languages,
      ∃ found ∈ languages, languages[place]? = some found ∧ found.internalName = name := by
    intro place hmem
    obtain ⟨found, hfound, hplace, hname⟩ := @mem_placesFrom _ _ [] _ _ hmem
    exact ⟨found, hfound, hplace, (List.mem_singleton.mp hname).symm⟩
  rw [get?, hplaces, hlist]
  constructor
  · intro hget
    obtain ⟨place, hlast, hget⟩ := Option.bind_eq_some_iff.mp hget
    obtain ⟨found, hfound, hget⟩ := Option.bind_eq_some_iff.mp hget
    obtain ⟨other, hother, hat, hname⟩ := hplace place (List.mem_of_getLast? hlast)
    obtain rfl : other = found := Option.some.inj (hat.symm.trans hfound)
    split at hget
    · contradiction
    · next henabled =>
      obtain rfl := Option.some.inj hget
      exact ⟨hother, Bool.eq_false_iff.mpr henabled, hname⟩
  · rintro ⟨hmem, henabled, rfl⟩
    have hne := @placesFrom_ne_nil (fun language => [language.internalName]) language.internalName
      languages language hmem (List.mem_singleton_self _) 0
    obtain ⟨place, hlast⟩ := Option.ne_none_iff_exists'.mp (mt List.getLast?_eq_none_iff.mp hne)
    obtain ⟨found, hfound, hat, hname⟩ := hplace place (List.mem_of_getLast? hlast)
    obtain rfl := List.inj_on_of_nodup_map h.names hfound hmem hname
    simp [hlast, hat, henabled]

/-- An enabled language of a name among languages. -/
def Offers (languages : List Language) (name : String) (language : Language) : Prop :=
  language ∈ languages ∧ language.disabled = false ∧ language.internalName = name

lemma get?_eq_some_iff {registry : Registry} (h : ofList languages = .ok registry) {name : String}
    {language : Language} :
    registry.get? name = some language ↔ Offers languages name language := by
  obtain ⟨hconsistent, rfl⟩ := ofList_eq_ok_iff.mp h
  exact get?_index hconsistent

/-- Only one language of a name is offered. -/
lemma Offers.eq {registry : Registry} (h : ofList languages = .ok registry) {name : String}
    {language other : Language} (hlanguage : Offers languages name language)
    (hother : Offers languages name other) : other = language :=
  Option.some.inj (((get?_eq_some_iff h).mpr hother).symm.trans ((get?_eq_some_iff h).mpr hlanguage))

/-- Among the languages at the places of an extension the search finds what a scan finds. -/
lemma find_candidates (h : Consistent languages) (extension : String) :
    (((index languages).enabledAt ((index languages).extensions.positions extension)).find?
        (·.terminal == extension)).or
      ((index languages).enabledAt ((index languages).extensions.positions extension)).head? =
        scan languages extension := by
  -- A language without the extension is at none of the places, but then it is not found either.
  have howner : ∀ language ∈ languages, language.terminal = extension →
      0 < language.extensions.count extension := by
    rintro language hmem rfl
    exact List.count_pos_iff.mpr (terminal_mem (h.extensions language hmem))
  rw [enabledAt_extensions, find?_enabled, List.head?_filter, find?_flatMap_replicate,
    find?_flatMap_replicate, scan, owner?, lister?]
  congr 1
  · refine List.find?_congr fun language hmem => ?_
    have hlists := howner language hmem
    rw [Bool.eq_iff_iff]
    simp only [Bool.and_eq_true, decide_eq_true_eq, beq_iff_eq]
    exact ⟨fun hfound => hfound.2, fun howns => ⟨hlists howns.2, howns⟩⟩
  · refine List.find?_congr fun language _ => ?_
    rw [Bool.eq_iff_iff]
    simp only [Bool.and_eq_true, decide_eq_true_eq, List.count_pos_iff, List.contains_iff_mem]
    exact and_comm

/-- The language of a file is the one that a scan finds. -/
theorem resolve_index (h : Consistent languages) (file : String) :
    (index languages).resolve file =
      (extensionOf file).bind fun extension =>
        (scan languages extension).map (·.internalName) := by
  rw [resolve]
  cases extensionOf file with
  | none => rfl
  | some extension =>
    simp only [Option.bind_eq_bind, Option.bind_some, find_candidates h]
    cases scan languages extension <;> rfl

theorem resolveExact_index (languages : List Language) (file : String) :
    (index languages).resolveExact file =
      (extensionOf file).bind fun extension =>
        (owner? languages extension).map (·.internalName) := by
  have hlist : (index languages).languages = languages := indexFrom_languages _ 0 languages
  rw [resolveExact]
  cases extensionOf file with
  | none => rfl
  | some extension =>
    simp only [Option.bind_eq_bind, Option.bind_some, enabled, hlist, find?_enabled]
    rw [← owner?]
    cases owner? languages extension <;> rfl

/-- The language of a file is found again by its name. -/
theorem resolveLanguage_index (h : Consistent languages) (file : String) :
    (index languages).resolveLanguage file = (extensionOf file).bind (scan languages) := by
  rw [resolveLanguage, resolve_index h]
  cases extensionOf file with
  | none => rfl
  | some extension =>
    cases hscan : scan languages extension with
    | none => simp [hscan]
    | some language =>
      obtain ⟨hmem, henabled⟩ := enabled_of_scan hscan
      simpa [hscan] using (get?_index h).mpr ⟨hmem, henabled, rfl⟩

end Found

/-- What a registry answers, said of the list that it was made from. -/
structure Agrees (registry : Registry) (languages : List Language) : Prop where
  get : ∀ name language, registry.get? name = some language ↔
    language ∈ languages ∧ language.disabled = false ∧ language.internalName = name
  /-- The enabled language that the extension of a file belongs to. -/
  owner : ∀ file, ∀ language ∈ languages, language.disabled = false →
    extensionOf file = some language.terminal →
      registry.resolve file = some language.internalName ∧
        registry.resolveExact file = some language.internalName
  /-- Without one, the first enabled language that lists the extension, if there is any. -/
  lister : ∀ file extension, extensionOf file = some extension →
    (∀ language ∈ languages, language.disabled = false → language.terminal ≠ extension) →
      registry.resolve file = (lister? languages extension).map (·.internalName) ∧
        registry.resolveExact file = none
  bare : ∀ file, extensionOf file = none →
    registry.resolve file = none ∧ registry.resolveExact file = none
  exact : ∀ file name, registry.resolveExact file = some name → registry.resolve file = some name
  /-- A resolved name leads to its language. -/
  language : ∀ file name, registry.resolve file = some name →
    ∃ language ∈ languages, language.disabled = false ∧ language.internalName = name ∧
      registry.resolveLanguage file = some language
  unresolved : ∀ file, registry.resolve file = none → registry.resolveLanguage file = none

lemma agrees_index {languages : List Language} (h : Consistent languages) :
    Agrees (index languages) languages where
  get _ _ := get?_index h
  owner file language hmem henabled hfile := by
    have howner := h.owner?_eq hmem henabled
    rw [resolve_index h, resolveExact_index, hfile]
    simp [scan, howner]
  lister file extension hfile hnone := by
    have howner : owner? languages extension = none := by
      rw [owner?, List.find?_eq_none]
      intro language hmem
      simpa using hnone language hmem
    rw [resolve_index h, resolveExact_index, hfile]
    simp [scan, howner]
  bare file hfile := by
    rw [resolve_index h, resolveExact_index, hfile]
    exact ⟨rfl, rfl⟩
  exact file name hexact := by
    rw [resolveExact_index] at hexact
    obtain ⟨extension, hfile, hname⟩ := Option.bind_eq_some_iff.mp hexact
    obtain ⟨language, howner, rfl⟩ := Option.map_eq_some_iff.mp hname
    simp [resolve_index h, hfile, scan, howner]
  language file name hresolve := by
    rw [resolve_index h] at hresolve
    obtain ⟨extension, hfile, hname⟩ := Option.bind_eq_some_iff.mp hresolve
    obtain ⟨language, hscan, rfl⟩ := Option.map_eq_some_iff.mp hname
    obtain ⟨hmem, henabled⟩ := enabled_of_scan hscan
    refine ⟨language, hmem, henabled, rfl, ?_⟩
    rw [resolveLanguage_index h, hfile]
    exact hscan
  unresolved file hresolve := by
    rw [resolveLanguage, hresolve]
    rfl

/-- A list of languages makes a registry exactly if names and last extensions differ and every
language has an extension, and what the registry answers is what a scan of the list gives. -/
theorem ofList_agrees (languages : List Language) :
    ((∃ registry, ofList languages = .ok registry) ↔ Consistent languages) ∧
      ∀ registry, ofList languages = .ok registry → Agrees registry languages := by
  constructor
  · constructor
    · rintro ⟨registry, hmade⟩
      exact (ofList_eq_ok_iff.mp hmade).1
    · exact fun h => ⟨index languages, ofList_eq_ok_iff.mpr ⟨h, rfl⟩⟩
  · intro registry hmade
    obtain ⟨h, rfl⟩ := ofList_eq_ok_iff.mp hmade
    exact agrees_index h

/-- Three languages that share extensions. The second one is disabled, and the third one lists its
last extension. -/
def sharing : List Language :=
  let plain : Language := {
    extensions := [], compiled := true, printableName := "", internalName := "", runCommand := []
    sourceName := "/box/main", compiledName := "/box/output" }
  [{ plain with internalName := "cpp", extensions := [".cc", ".cpp", ".cc", ".cpp11"] },
    { plain with internalName := "cpp17", extensions := [".cpp", ".cpp17"], disabled := true },
    { plain with internalName := "modern", extensions := [".cpp17", ".cpp", ".cpp20"] }]

theorem ofList_agrees_sharing :
    ofList sharing = .ok (index sharing) ∧
      (index sharing).resolve "main.cpp" = some "cpp" ∧
      (index sharing).resolve "main.cpp17" = some "modern" ∧
      (index sharing).resolve "main.cpp20" = some "modern" := by
  have hmade : ofList sharing = .ok (index sharing) := by decide +kernel
  have hagrees := (ofList_agrees sharing).2 (index sharing) hmade
  have hcpp := (hagrees.lister "main.cpp" ".cpp" (by decide +kernel) (by decide +kernel)).1
  have hcpp17 := (hagrees.lister "main.cpp17" ".cpp17" (by decide +kernel) (by decide +kernel)).1
  have hcpp20 := (hagrees.owner "main.cpp20" sharing[2] (by decide +kernel) (by decide +kernel)
    (by decide +kernel)).1
  exact ⟨hmade, hcpp, hcpp17, hcpp20⟩

/-! ### The catalog -/

/-- The catalog makes a registry. -/
lemma ofList_catalog : ofList catalog = .ok defaultRegistry := by decide +kernel

/-- A language without the mark that disables it. -/
def plain (language : Language) : Language := { language with disabled := false }

lemma map_plain_disable (name : String) (languages : List Language) :
    (disable name languages).map plain = languages.map plain := by
  induction languages with
  | nil => rfl
  | cons language rest ih =>
    rw [disable]
    split
    · rfl
    · rw [List.map_cons, List.map_cons, ih]

/-- Whether languages are consistent does not depend on which of them are disabled. -/
lemma consistent_congr {languages others : List Language} (h : Consistent languages)
    (heq : others.map plain = languages.map plain) : Consistent others := by
  have hmap : ∀ {β : Type} (f : Language → β), (∀ language, f (plain language) = f language) →
      others.map f = languages.map f := by
    intro β f hf
    have hboth : ∀ list : List Language, (list.map plain).map f = list.map f := by simp [hf]
    rw [← hboth others, ← hboth languages, heq]
  refine ⟨?_, ?_, ?_⟩
  · rw [hmap (·.internalName) fun _ => rfl]
    exact h.names
  · have hextensions := hmap (·.extensions) fun _ => rfl
    intro language hmem
    have hmapped := List.mem_map_of_mem (f := (·.extensions)) hmem
    rw [hextensions] at hmapped
    obtain ⟨other, hother, hsame⟩ := List.mem_map.mp hmapped
    exact hsame ▸ h.extensions other hother
  · rw [hmap (·.terminal) fun _ => rfl]
    exact h.terminals

/-- The catalog makes a registry whatever languages are disabled. -/
theorem exists_load (disabled : List String) : ∃ languages registry,
    load disabled = .ok registry ∧ ofList languages = .ok registry ∧
      languages.map plain = catalog.map plain := by
  have hcatalog : Consistent catalog := (ofList_eq_ok_iff.mp ofList_catalog).1
  have hplain : ∀ (names : List String) (languages : List Language),
      (names.foldl (fun languages name => disable name languages) languages).map plain =
        languages.map plain := by
    intro names
    induction names with
    | nil => exact fun _ => rfl
    | cons name names ih => exact fun languages => (ih _).trans (map_plain_disable name languages)
  have hload := ofList_eq_ok_iff.mpr ⟨consistent_congr hcatalog (hplain disabled catalog), rfl⟩
  exact ⟨_, _, hload, hload, hplain disabled catalog⟩

/-- What all languages of the catalog have, disabled or not, a language of a file has. -/
lemma of_resolveLanguage {languages : List Language} {registry : Registry}
    (h : ofList languages = .ok registry) (heq : languages.map plain = catalog.map plain)
    {P : Language → Prop} (hP : ∀ language ∈ catalog, P (plain language)) {file : String}
    {language : Language} (hlanguage : registry.resolveLanguage file = some language) :
    P (plain language) := by
  obtain ⟨hconsistent, rfl⟩ := ofList_eq_ok_iff.mp h
  rw [resolveLanguage_index hconsistent] at hlanguage
  obtain ⟨extension, -, hscan⟩ := Option.bind_eq_some_iff.mp hlanguage
  have hmem := List.mem_map_of_mem (f := plain) (enabled_of_scan hscan).1
  rw [heq] at hmem
  obtain ⟨original, horiginal, hsame⟩ := List.mem_map.mp hmem
  exact hsame ▸ hP original horiginal

end Registry
end Judge.Language
