/-!
Lines and separators of a text, for characters and for bytes alike, and the replacement of a pattern.
A line ends at a line feed, one carriage return in front of it belongs to the ending, and the last line
needs no ending.
-/

namespace Judge.Text

variable {α : Type} [BEq α]

/-- A finished line, given in reverse, without the return in front of its ending. -/
def closeLine (cr : α) : List α → List α
  | [] => []
  | c :: rest => if c == cr then rest.reverse else (c :: rest).reverse

/-- The lines of a text, with the line being read (in reverse) as an accumulator. -/
def linesFrom (lf cr : α) (line : List α) : List α → List (List α)
  | [] => if line.isEmpty then [] else [line.reverse]
  | c :: rest =>
    if c == lf then closeLine cr line :: linesFrom lf cr [] rest
    else linesFrom lf cr (c :: line) rest

/-- The lines of a text. -/
def lines (text : List Char) : List (List Char) := linesFrom '\n' '\r' [] text

/-- The lines of a sequence of bytes. -/
def byteLines (bytes : List UInt8) : List (List UInt8) := linesFrom 10 13 [] bytes

/-- The pieces between separators, at least one. -/
def splitAt (separator : α) : List α → List (List α)
  | [] => [[]]
  | c :: rest =>
    if c == separator then [] :: splitAt separator rest
    else match splitAt separator rest with
      | [] => [[c]]
      | piece :: pieces => (c :: piece) :: pieces

/-- The text before the first separator and the text after it. -/
def cut (separator : α) : List α → Option (List α × List α)
  | [] => none
  | c :: rest =>
    if c == separator then some ([], rest)
    else (cut separator rest).map fun (before, after) => (c :: before, after)

/-- The text before the last separator and the text after it. -/
def cutLast (separator : α) (text : List α) : Option (List α × List α) :=
  (cut separator text.reverse).map fun (after, before) => (before.reverse, after.reverse)

/-- Joins pieces with a separator between neighbours. -/
def join (separator : List α) : List (List α) → List α
  | [] => []
  | [piece] => piece
  | piece :: pieces => piece ++ separator ++ join separator pieces

@[simp] theorem lines_nil : lines [] = [] := rfl

@[simp] theorem byteLines_nil : byteLines [] = [] := rfl

theorem splitAt_ne_nil (separator : α) (text : List α) : splitAt separator text ≠ [] := by
  cases text with
  | nil => simp [splitAt]
  | cons c rest =>
    simp only [splitAt]
    split
    · simp
    · split <;> simp

/-- Putting the separator back between the pieces gives the text again. -/
theorem join_splitAt [LawfulBEq α] (separator : α) (text : List α) :
    join [separator] (splitAt separator text) = text := by
  induction text with
  | nil => rfl
  | cons c rest ih =>
    simp only [splitAt]
    split
    · next h =>
      cases hs : splitAt separator rest with
      | nil => exact absurd hs (splitAt_ne_nil _ _)
      | cons piece pieces =>
        rw [hs] at ih
        simp [join, ih, eq_of_beq h]
    · cases hs : splitAt separator rest with
      | nil => exact absurd hs (splitAt_ne_nil _ _)
      | cons piece pieces =>
        rw [hs] at ih
        cases pieces with
        | nil => simpa [join] using ih
        | cons p ps => simpa [join] using ih

/-- A cut text is its two halves with the separator between them. -/
theorem eq_of_cut [LawfulBEq α] {separator : α} {text before after : List α}
    (h : cut separator text = some (before, after)) : text = before ++ separator :: after := by
  induction text generalizing before with
  | nil => simp [cut] at h
  | cons c rest ih =>
    simp only [cut] at h
    split at h
    · next hc => simp only [Option.some.injEq, Prod.mk.injEq] at h; simp [← h.1, h.2, eq_of_beq hc]
    · cases hr : cut separator rest with
      | none => simp [hr] at h
      | some p =>
        obtain ⟨b, a⟩ := p
        simp only [hr, Option.map_some, Option.some.injEq, Prod.mk.injEq] at h
        obtain ⟨rfl, rfl⟩ := h
        simp [ih hr]

example : lines "a\r\n\nb\r".toList = ["a".toList, [], "b\r".toList] := by decide

/-! ### Replacement -/

/-- Replaces occurrences of a pattern in what follows the next `skip` characters, which are
dropped. -/
def replaceFrom (pattern replacement : List Char) (skip : Nat) : List Char → List Char
  | [] => []
  | c :: rest =>
    match skip with
    | skip + 1 => replaceFrom pattern replacement skip rest
    | 0 =>
      if pattern.isPrefixOf (c :: rest) then
        replacement ++ replaceFrom pattern replacement (pattern.length - 1) rest
      else c :: replaceFrom pattern replacement 0 rest

/-- Replaces every occurrence of a pattern that is not empty. -/
def replace (pattern replacement text : List Char) : List Char :=
  if pattern.isEmpty then text else replaceFrom pattern replacement 0 text

/-- Replaces every occurrence of a pattern that is not empty. -/
def replaceString (pattern replacement text : String) : String :=
  String.ofList (replace pattern.toList replacement.toList text.toList)

example : replaceString "ab" "x" "aababb" = "axxb" := by decide

end Judge.Text
