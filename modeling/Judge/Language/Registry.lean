import Judge.Language.Catalog
import Judge.Path

/-!
A registry of languages: an ordered list with an index from names and one from extensions. Names and
last extensions are unique, disabled languages included; only enabled languages are found.
-/

namespace Judge.Language

/-- Why languages make no registry. -/
inductive RegistryError where
  | duplicateName (name : String)
  | noExtensions (name : String)
  | sharedTerminal (first second extension : String)
  deriving DecidableEq, Repr

/-- The wording of each cause. -/
def RegistryError.message : RegistryError → String
  | .duplicateName name => s!"Duplicate language {name}"
  | .noExtensions name => s!"Language {name} has no extensions"
  | .sharedTerminal first second extension =>
    s!"Languages {first} and {second} share terminal extension {extension}"

/-- Positions under words, the words in the order of their first use. -/
structure Index where
  entries : List (String × List Nat) := []
  deriving DecidableEq, Repr

namespace Index

/-- The positions under a word. -/
def positions (index : Index) (word : String) : List Nat := (index.entries.lookup word).getD []

/-- Adds a position under a word. -/
def addTo (word : String) (position : Nat) : List (String × List Nat) → List (String × List Nat)
  | [] => [(word, [position])]
  | (w, positions) :: rest =>
    if w == word then (w, positions ++ [position]) :: rest
    else (w, positions) :: addTo word position rest

/-- Adds a position under a word. -/
def add (index : Index) (word : String) (position : Nat) : Index :=
  ⟨addTo word position index.entries⟩

/-- A word gains the position behind those it has, and no other word gains any. -/
theorem positions_add (index : Index) (word other : String) (position : Nat) :
    (index.add word position).positions other =
      if word = other then index.positions word ++ [position] else index.positions other := by
  obtain ⟨entries⟩ := index
  simp only [positions, add]
  induction entries with
  | nil =>
    by_cases h : word = other
    · subst h; simp [addTo]
    · have : (other == word) = false := by simpa using Ne.symm h
      simp [addTo, List.lookup_cons, h, this]
  | cons e rest ih =>
    obtain ⟨w, ps⟩ := e
    simp only [addTo]
    by_cases hw : w = word
    · subst hw
      by_cases ho : w = other
      · subst ho; simp
      · have : (other == w) = false := by simpa using Ne.symm ho
        simp [List.lookup_cons, ho, this]
    · have hw' : (w == word) = false := by simpa using hw
      have hw'' : (word == w) = false := by simpa using Ne.symm hw
      by_cases ho : other = w
      · subst ho
        simp [hw', Ne.symm hw]
      · have : (other == w) = false := by simpa using ho
        simpa [List.lookup_cons, hw', hw'', this] using ih

end Index

/-- Languages with their indexes. -/
structure Registry where
  languages : List Language
  names : Index
  extensions : Index
  deriving DecidableEq, Repr

namespace Registry

/-- Indexes a language under its name and its extensions. -/
def indexLanguage (registry : Registry) (position : Nat) (language : Language) : Registry :=
  { registry with
    names := registry.names.add language.internalName position
    extensions := language.extensions.foldl (fun index extension => index.add extension position)
      registry.extensions }

/-- Indexes languages that stand at a position and after it. -/
def indexFrom (registry : Registry) (position : Nat) : List Language → Registry
  | [] => registry
  | language :: rest => indexFrom (registry.indexLanguage position language) (position + 1) rest

/-- A registry of languages that are taken to be consistent. -/
def index (languages : List Language) : Registry := indexFrom ⟨languages, {}, {}⟩ 0 languages

/-- Checks languages against those before them: the names, and the names by last extension. -/
def check (names : List String) (terminals : List (String × String)) :
    List Language → Except RegistryError Unit
  | [] => .ok ()
  | language :: rest =>
    if names.contains language.internalName then .error (.duplicateName language.internalName)
    else if language.extensions.isEmpty then .error (.noExtensions language.internalName)
    else match terminals.lookup language.terminal with
      | some other => .error (.sharedTerminal other language.internalName language.terminal)
      | none =>
        check (language.internalName :: names)
          ((language.terminal, language.internalName) :: terminals) rest

/-- A registry of languages, if they are consistent. -/
def ofList (languages : List Language) : Except RegistryError Registry := do
  check [] [] languages
  return index languages

/-- Disables the first language of a name. -/
def disable (name : String) : List Language → List Language
  | [] => []
  | language :: rest =>
    if language.internalName == name then { language with disabled := true } :: rest
    else language :: disable name rest

/-- The catalog with some languages disabled. -/
def load (disabled : List String) : Except RegistryError Registry :=
  ofList (disabled.foldl (fun languages name => disable name languages) catalog)

/-- The enabled languages in order. -/
def enabled (registry : Registry) : List Language := registry.languages.filter (!·.disabled)

/-- The enabled languages at positions. -/
def enabledAt (registry : Registry) (positions : List Nat) : List Language :=
  (positions.filterMap (registry.languages[·]?)).filter (!·.disabled)

/-- The enabled language of a name. -/
def get? (registry : Registry) (name : String) : Option Language := do
  let position ← (registry.names.positions name).getLast?
  let language ← registry.languages[position]?
  if language.disabled then none else some language

/-- The extension of a file name with its dot. -/
def extensionOf (file : String) : Option String :=
  (Path.extension? file.toList).map fun extension => String.ofList ('.' :: extension)

/-- The language of a file: the one whose last extension the file has, else the first one that lists
the extension. -/
def resolve (registry : Registry) (file : String) : Option String := do
  let extension ← extensionOf file
  let candidates := registry.enabledAt (registry.extensions.positions extension)
  let language ← (candidates.find? (·.terminal == extension)).or candidates.head?
  return language.internalName

/-- The language of a file by its last extension alone. -/
def resolveExact (registry : Registry) (file : String) : Option String := do
  let extension ← extensionOf file
  let language ← registry.enabled.find? (·.terminal == extension)
  return language.internalName

/-- The language of a file with all that is known of it. -/
def resolveLanguage (registry : Registry) (file : String) : Option Language := do
  registry.get? (← registry.resolve file)

end Registry

/-- The registry that is used when none is configured. -/
def defaultRegistry : Registry := Registry.index catalog

end Judge.Language
