import Blueprint.Text.Printable

/-!
# Quoted text

A quoted text stands between apostrophes, or between quotation marks when it holds an apostrophe and
no quotation mark. Inside, a backslash and the chosen mark are written after a backslash, the line
feed, the carriage return and the tab by a letter, and any other character that is not printable by
its code point in hexadecimal, with two, four or eight digits.
-/
namespace Blueprint.Text

/-- The apostrophe. -/
def apostrophe : Char := Char.ofNat 39

/-- The quotation mark. -/
def quotationMark : Char := Char.ofNat 34

/-- The backslash. -/
def backslash : Char := Char.ofNat 92

/-- The hexadecimal digits of a number, at least `width` of them. -/
def hexDigits (width n : Nat) : List Char :=
  let digits := Nat.toDigits 16 n
  List.replicate (width - digits.length) '0' ++ digits

/-- The mark around a quoted text. -/
def quoteMark (cs : List Char) : Char :=
  if cs.contains apostrophe && !cs.contains quotationMark then quotationMark else apostrophe

/-- One character as it is written between two marks. -/
def escape (mark c : Char) : List Char :=
  if c = mark || c = backslash then [backslash, c]
  else if c = '\n' then [backslash, 'n']
  else if c = '\r' then [backslash, 'r']
  else if c = '\t' then [backslash, 't']
  else if isPrintable c then [c]
  else if c.toNat < 256 then backslash :: 'x' :: hexDigits 2 c.toNat
  else if c.toNat < 65536 then backslash :: 'u' :: hexDigits 4 c.toNat
  else backslash :: 'U' :: hexDigits 8 c.toNat

/-- A text between marks. -/
def quoteChars (cs : List Char) : List Char :=
  let mark := quoteMark cs
  mark :: cs.flatMap (escape mark) ++ [mark]

/-- A string between marks. -/
def quote (s : String) : String := String.ofList (quoteChars s.toList)

end Blueprint.Text
