import Judge.Text.Visible

/-!
Quoted text, as messages and tag lists show it: between double quotes, with a backslash before
quotes and backslashes, short names for the common controls, and the code point in hexadecimal for
every other character that is not visible.
-/

namespace Judge.Text

/-- How one character is written between quotes. -/
def quoteChar (c : Char) : List Char :=
  if c = '\x22' then ['\\', '\x22']
  else if c = '\\' then ['\\', '\\']
  else if c = '\n' then ['\\', 'n']
  else if c = '\r' then ['\\', 'r']
  else if c = '\t' then ['\\', 't']
  else if c = '\x00' then ['\\', '0']
  else if isVisible c then [c]
  else ['\\', 'u', '\x7b'] ++ Nat.toDigits 16 c.toNat ++ ['\x7d']

/-- A text between quotes. -/
def quote (text : List Char) : List Char := '\x22' :: text.flatMap quoteChar ++ ['\x22']

/-- A string between quotes. -/
def quoted (text : String) : String := String.ofList (quote text.toList)

/-- A text whose characters are all visible and need no backslash stands between the quotes as it
is. -/
theorem quote_eq {text : List Char}
    (h : ∀ c ∈ text, isVisible c = true ∧ c ≠ '\x22' ∧ c ≠ '\\') :
    quote text = '\x22' :: text ++ ['\x22'] := by
  have plain : ∀ c ∈ text, quoteChar c = [c] := by
    intro c hc
    obtain ⟨hv, hq, hb⟩ := h c hc
    have hidden : ∀ d : Char, isVisible d = false → c ≠ d := by
      rintro d hd rfl
      simp [hv] at hd
    simp [quoteChar, hq, hb, hv, hidden '\n' (by decide +kernel), hidden '\r' (by decide +kernel),
      hidden '\t' (by decide +kernel), hidden '\x00' (by decide +kernel)]
  have : text.flatMap quoteChar = text := by
    clear h
    induction text with
    | nil => rfl
    | cons c rest ih =>
      rw [List.flatMap_cons, plain c (by simp), ih fun d hd => plain d (by simp [hd])]
      rfl
  rw [quote, this]

end Judge.Text
