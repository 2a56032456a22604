import Blueprint.Number.Numeral
import Blueprint.Value.Basic

/-!
# JSON texts

A JSON text is read into a value. Beside the standard, `NaN` and the infinities are numbers. A
number with a point or an exponent is a double-precision number, any other one an integer. Of
members with one name the last counts, in the place of the first. Control characters do not stand in
strings. A half of a surrogate pair that stands alone is read as the replacement character. Each
list or map takes one of the nested calls for which the interpreter has room, and there may be no
room left for it.
-/
namespace Blueprint.Json

/-- Why a text is not read. -/
inductive Refusal where
  /-- The text is not JSON. -/
  | malformed
  /-- An integer has too many digits. -/
  | tooLong
  /-- Lists and maps are nested too deeply. -/
  | tooDeep
deriving DecidableEq, Repr

/-- White space between tokens. -/
def isSpace (c : Char) : Bool := c == ' ' || c == '\t' || c == '\n' || c == '\r'

/-- The text after its leading white space. -/
def skip (cs : List Char) : List Char := cs.dropWhile isSpace

/-- The code unit of four hexadecimal digits. -/
def unit? (cs : List Char) : Option (Nat × List Char) :=
  let (digits, rest) := Radix.takeDigits 16 4 cs
  if digits.length = 4 then some (Radix.numberOf 16 digits, rest) else none

/-- The first half of a surrogate pair. -/
def isHigh (n : Nat) : Bool := 0xD800 ≤ n && n ≤ 0xDBFF

/-- The second half of a surrogate pair. -/
def isLow (n : Nat) : Bool := 0xDC00 ≤ n && n ≤ 0xDFFF

/-- The character of a code unit. -/
def unitChar (n : Nat) : Char := if isHigh n || isLow n then Char.ofNat 0xFFFD else Char.ofNat n

/-- The character of a code unit and perhaps of the next one. -/
def escaped (n : Nat) (rest : List Char) : Char × List Char :=
  if isHigh n then
    match rest with
    | '\\' :: 'u' :: after =>
      match unit? after with
      | some (low, after) =>
        if isLow low then
          (Char.ofNat (0x10000 + (n - 0xD800) * 0x400 + (low - 0xDC00)), after)
        else (unitChar n, rest)
      | none => (unitChar n, rest)
    | _ => (unitChar n, rest)
  else (unitChar n, rest)

/-- The character that a letter after a backslash stands for. -/
def shortEscape? (c : Char) : Option Char :=
  match c with
  | '"' => some '"'
  | '\\' => some '\\'
  | '/' => some '/'
  | 'b' => some (Char.ofNat 8)
  | 'f' => some (Char.ofNat 12)
  | 'n' => some '\n'
  | 'r' => some '\r'
  | 't' => some '\t'
  | _ => none

/-- The rest of a string after its opening mark, read in at most `fuel` steps. -/
def readString : Nat → List Char → List Char → Except Refusal (String × List Char)
  | 0, _, _ => .error .malformed
  | _ + 1, _, [] => .error .malformed
  | fuel + 1, done, c :: rest =>
    if c == '"' then .ok (String.ofList done.reverse, rest)
    else if c.toNat < 32 then .error .malformed
    else if c == '\\' then
      match rest with
      | 'u' :: after =>
        match unit? after with
        | some (n, after) =>
          let (d, after) := escaped n after
          readString fuel (d :: done) after
        | none => .error .malformed
      | d :: after =>
        match shortEscape? d with
        | some e => readString fuel (e :: done) after
        | none => .error .malformed
      | [] => .error .malformed
    else readString fuel (c :: done) rest

/-- The exponent at the front of a text, if there is a whole one, with its value. -/
def readExponent (cs : List Char) : Option (Int × List Char) :=
  match cs with
  | e :: rest =>
    if e == 'e' || e == 'E' then
      let (negative, rest) := Numeral.splitSign rest
      let (digits, rest) := Numeral.spanDigits rest
      if digits.isEmpty then none
      else
        let n : Int := Numeral.value digits
        some (if negative then -n else n, rest)
    else none
  | [] => none

/-- The fraction at the front of a text, if there is a whole one. -/
def readFraction (cs : List Char) : Option (List Char × List Char) :=
  match cs with
  | '.' :: rest =>
    let (digits, rest) := Numeral.spanDigits rest
    if digits.isEmpty then none else some (digits, rest)
  | _ => none

/-- The digits before the point: a single zero, or digits that start with no zero. -/
def readWhole (cs : List Char) : Option (List Char × List Char) :=
  match cs with
  | '0' :: rest => some (['0'], rest)
  | cs =>
    let (digits, rest) := Numeral.spanDigits cs
    if digits.isEmpty then none else some (digits, rest)

/-- The number at the front of a text. -/
def readNumber (cs : List Char) : Except Refusal (Value × List Char) :=
  let (negative, rest) := match cs with
    | '-' :: rest => (true, rest)
    | rest => (false, rest)
  match readWhole rest with
  | none => .error .malformed
  | some (whole, rest) =>
    let fraction := readFraction rest
    let rest := (fraction.map Prod.snd).getD rest
    let exponent := readExponent rest
    let rest := (exponent.map Prod.snd).getD rest
    if fraction.isNone && exponent.isNone then
      match Numeral.bounded? negative whole with
      | some n => .ok (.int n, rest)
      | none => .error .tooLong
    else
      let digits := (fraction.map Prod.fst).getD []
      let power := (exponent.map Prod.fst).getD 0
      .ok (.float (.ofDecimal negative (Numeral.value (whole ++ digits)) (power - digits.length)),
        rest)

/-- The words of JSON and their values. -/
def words : List (List Char × Value) :=
  [("null".toList, .null), ("true".toList, .bool true), ("false".toList, .bool false),
    ("NaN".toList, .float .nan), ("Infinity".toList, .float (.infinite false)),
    ("-Infinity".toList, .float (.infinite true))]

/-- The word at the front of a text. -/
def readWord? (cs : List Char) : Option (Value × List Char) :=
  words.findSome? fun (word, value) =>
    if word.isPrefixOf cs then some (value, cs.drop word.length) else none

mutual

/-- `scan_once` — the value at the front of a text, where lists and maps may be nested in as many
levels as there is `room` for. -/
def readValue (fuel room : Nat) (cs : List Char) : Except Refusal (Value × List Char) :=
  match fuel with
  | 0 => .error .malformed
  | fuel + 1 =>
    match cs with
    | '"' :: rest => do
      let (s, rest) ← readString (rest.length + 1) [] rest
      .ok (.text s, rest)
    | '[' :: rest =>
      match room with
      | 0 => .error .tooDeep
      | room + 1 =>
        match skip rest with
        | ']' :: rest => .ok (.list [], rest)
        | rest => readItems fuel room [] rest
    | '\x7b' :: rest =>
      match room with
      | 0 => .error .tooDeep
      | room + 1 =>
        match skip rest with
        | '\x7d' :: rest => .ok (.dict [], rest)
        | rest => readMembers fuel room [] rest
    | cs =>
      match readWord? cs with
      | some found => .ok found
      | none => readNumber cs

/-- The items of a list from the next one on. -/
def readItems (fuel room : Nat) (done : List Value) (cs : List Char) :
    Except Refusal (Value × List Char) :=
  match fuel with
  | 0 => .error .malformed
  | fuel + 1 => do
    let (value, rest) ← readValue fuel room cs
    match skip rest with
    | ']' :: rest => .ok (.list (value :: done).reverse, rest)
    | ',' :: rest => readItems fuel room (value :: done) (skip rest)
    | _ => .error .malformed

/-- The members of a map from the next one on. -/
def readMembers (fuel room : Nat) (done : Dict) (cs : List Char) :
    Except Refusal (Value × List Char) :=
  match fuel with
  | 0 => .error .malformed
  | fuel + 1 =>
    match cs with
    | '"' :: rest => do
      let (name, rest) ← readString (rest.length + 1) [] rest
      match skip rest with
      | ':' :: rest =>
        let (value, rest) ← readValue fuel room (skip rest)
        let done := done.put (.text name) value
        match skip rest with
        | '\x7d' :: rest => .ok (.dict done, rest)
        | ',' :: rest => readMembers fuel room done (skip rest)
        | _ => .error .malformed
      | _ => .error .malformed
    | _ => .error .malformed

end

/-- `json.loads` — the value of a whole text, nested in no more levels than there is room for. -/
def read (room : Nat) (cs : List Char) : Except Refusal Value := do
  let (value, rest) ← readValue (2 * cs.length + 2) room (skip cs)
  if (skip rest).isEmpty then .ok value else .error .malformed

end Blueprint.Json
