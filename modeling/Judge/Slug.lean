import Judge.Text.Alphanumeric
import Judge.Text.Lowercase

/-!
Slugs: the runs of letters and digits of a text in lower case, joined by single dashes.
-/

namespace Judge.Slug

/-- The slug of what is left of a text. `started` says that something was written already and
`pending` that other characters came since. -/
def slugFrom (started pending : Bool) : List Char → List Char
  | [] => []
  | c :: rest =>
    if Text.isAlphanumeric c then
      (if pending && started then ['-'] else []) ++ Text.lowercase c ++ slugFrom true false rest
    else slugFrom started true rest

/-- The slug of a text. -/
def ofText (text : String) : String := String.ofList (slugFrom false false text.toList)

end Judge.Slug
