import Blueprint.Text.Blank
import Blueprint.Text.Case.Lower
import Blueprint.Text.Case.Upper
import Blueprint.Text.Digit
import Blueprint.Value.Render

/-!
# Names

Factories, traits, attributes and overrides are found by canonical names: lower case, words joined
by underscores. `underscore` splits a capitalised spelling into words in two passes over the text,
turns every run of hyphens, dots and white space into one underscore, and lowers the case.
-/
namespace Blueprint.Name

open Text

/-- A capital letter of ASCII. -/
def isCapital (c : Char) : Bool := 65 ≤ c.toNat && c.toNat ≤ 90

/-- A small letter of ASCII. -/
def isSmall (c : Char) : Bool := 97 ≤ c.toNat && c.toNat ≤ 122

/-- A character after which a capital starts a word. -/
def endsWord (c : Char) : Bool := isSmall c || isDecimal c

/-- A character that separates words. -/
def isSeparator (c : Char) : Bool := c == '-' || c == '.' || isBlank c

/-- The text after a run of capitals, the last of them first in `run`. When a small letter follows
several capitals, an underscore goes before the last of them. -/
def splitRun (run : List Char) : List Char → List Char
  | [] => run.reverse
  | c :: rest =>
    if isCapital c then splitRun (c :: run) rest
    else if isSmall c then
      match run with
      | last :: before :: earlier =>
        (before :: earlier).reverse ++ '_' :: last :: c :: splitRun [] rest
      | _ => run.reverse ++ c :: splitRun [] rest
    else run.reverse ++ c :: splitRun [] rest

/-- `underscore` — its first substitution: splits each acronym from the word after it. -/
def splitAcronyms (cs : List Char) : List Char := splitRun [] cs

/-- `underscore` — its second substitution: splits before a capital that follows a small letter or a
digit. -/
def splitWords : List Char → List Char
  | [] => []
  | [c] => [c]
  | c :: d :: rest =>
    if endsWord c && isCapital d then c :: '_' :: splitWords (d :: rest)
    else c :: splitWords (d :: rest)

/-- `underscore` — its third substitution: every run of separators becomes one underscore. -/
def joinSeparators : List Char → List Char
  | [] => []
  | [c] => if isSeparator c then ['_'] else [c]
  | c :: d :: rest =>
    if isSeparator c then
      if isSeparator d then joinSeparators (d :: rest) else '_' :: joinSeparators (d :: rest)
    else c :: joinSeparators (d :: rest)

/-- The lower-case spelling of a name with underscores between its words. -/
def underscoreChars (cs : List Char) : List Char :=
  lower (joinSeparators (splitWords (splitAcronyms cs)))

/-- `underscore` — the lower-case spelling of a name with underscores between its words. -/
def underscore (word : String) : String := String.ofList (underscoreChars word.toList)

/-- The name under which a text is known. -/
def ofText (text : String) : String := underscore (trimmed text)

/-- `canonical_name` — the name under which a value is known. Only a text loses the white space
around it. -/
def ofValue : Value → String
  | .text s => ofText s
  | .strategy strategy => ofText strategy.tag
  | value => underscore value.plain

/-- The name under which a key is known. -/
def ofKey (key : Key) : String := ofValue (.ofKey key)

/-- A text without a final `_id`. -/
def withoutIdSuffix (cs : List Char) : List Char :=
  match cs.reverse with
  | 'd' :: 'i' :: '_' :: rest => rest.reverse
  | _ => cs

/-- `humanize` — a name as a phrase: no final `_id`, spaces for underscores, and a capital first
letter. -/
def humanize (word : String) : String :=
  let phrase := trim ((withoutIdSuffix word.toList).map fun c => if c == '_' then ' ' else c)
  match phrase with
  | [] => ""
  | c :: rest => String.ofList (upperChar c ++ rest)

/-- A name as a phrase in lower case. -/
def human (word : String) : String := String.ofList (lower (humanize word).toList)

end Blueprint.Name
