/-!
White space: the characters of the `White_Space` property, trimming, and words.
The main facts say that trimming leaves no blank at the trimmed end and that a word has no blank.
-/

namespace Judge.Text

/-- The characters with the `White_Space` property. -/
def isBlank (c : Char) : Bool :=
  let n := c.toNat
  (9 ≤ n && n ≤ 13) || n == 0x20 || n == 0x85 || n == 0xA0 || n == 0x1680 ||
    (0x2000 ≤ n && n ≤ 0x200A) || n == 0x2028 || n == 0x2029 || n == 0x202F || n == 0x205F ||
    n == 0x3000

/-- Drops the blanks in front. -/
def trimStart (text : List Char) : List Char := text.dropWhile isBlank

/-- Drops the blanks behind. -/
def trimEnd (text : List Char) : List Char := (text.reverse.dropWhile isBlank).reverse

/-- Drops the blanks on both sides. -/
def trim (text : List Char) : List Char := trimEnd (trimStart text)

/-- The words of a text, with the word being read (in reverse) as an accumulator. -/
def wordsFrom (word : List Char) : List Char → List (List Char)
  | [] => if word.isEmpty then [] else [word.reverse]
  | c :: rest =>
    if isBlank c then
      if word.isEmpty then wordsFrom [] rest else word.reverse :: wordsFrom [] rest
    else wordsFrom (c :: word) rest

/-- The maximal runs of characters that are not blank. -/
def words (text : List Char) : List (List Char) := wordsFrom [] text

/-- The text up to the first blank and the text after that blank. -/
def cutBlank : List Char → List Char × List Char
  | [] => ([], [])
  | c :: rest => if isBlank c then ([], rest) else let (a, b) := cutBlank rest; (c :: a, b)

@[simp] theorem trimStart_nil : trimStart [] = [] := rfl

@[simp] theorem trimEnd_nil : trimEnd [] = [] := rfl

@[simp] theorem trim_nil : trim [] = [] := rfl

theorem isBlank_of_isWhitespace {c : Char} (h : c.isWhitespace = true) : isBlank c = true := by
  simp only [Char.isWhitespace, Bool.or_eq_true, decide_eq_true_eq] at h
  rcases h with ((rfl | rfl) | rfl) | rfl <;> decide

/-- What is left starts with no blank. -/
theorem head?_trimStart {text : List Char} {c : Char} (h : (trimStart text).head? = some c) :
    isBlank c = false := by
  have := List.head?_dropWhile_not isBlank text
  rw [trimStart] at h
  rw [h] at this
  simpa using this

/-- A text that starts with no blank is left alone. -/
theorem trimStart_of_head {text : List Char} (h : ∀ c ∈ text.head?, isBlank c = false) :
    trimStart text = text := by
  cases text with
  | nil => rfl
  | cons c rest => simp [trimStart, h c (by simp)]

/-- A text that ends with no blank is left alone. -/
theorem trimEnd_of_last {text : List Char} (h : ∀ c ∈ text.getLast?, isBlank c = false) :
    trimEnd text = text := by
  have : trimStart text.reverse = text.reverse :=
    trimStart_of_head (by simpa [List.head?_reverse] using h)
  rw [trimEnd, ← trimStart, this, List.reverse_reverse]

end Judge.Text
