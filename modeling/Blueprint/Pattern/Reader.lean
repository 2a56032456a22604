import Blueprint.Error.Fault
import Blueprint.Number.Radix
import Blueprint.Pattern.Basic

/-!
# Reading patterns

The notation of patterns: a backslash gives a character or a kind of characters, brackets a class,
a point any character, and parentheses a group, which is numbered unless it starts with `?:` and
named if it starts with `?P` and a name. A vertical bar separates alternatives. A part is repeated
by `*`, `+`, `?` or numbers in braces; a further `?` makes the repetition reluctant, a further `+`
possessive. Letters in parentheses at the very start set the options.
-/
namespace Blueprint.Pattern

open Radix

/-- What is known of the groups while a pattern is read. -/
structure Scope where
  /-- The number of groups opened so far. -/
  opened : Nat := 0
  /-- The groups that are closed. -/
  closed : List Nat := []
  /-- The groups that have names. -/
  names : List (String × Nat) := []
  /-- The options set at the start. -/
  options : Options := {}

/-- A reader of the front of a text. -/
abbrev Reader (α : Type) := List Char → Except Fault (α × List Char)

/-- A digit between zero and seven. -/
def isOctal (c : Char) : Bool := 48 ≤ c.toNat && c.toNat ≤ 55

/-- A letter of ASCII. -/
def isPlainLetter (c : Char) : Bool :=
  (65 ≤ c.toNat && c.toNat ≤ 90) || (97 ≤ c.toNat && c.toNat ≤ 122)

/-- A character given by exactly `count` hexadecimal digits. -/
def readCode (count : Nat) : Reader Nat := fun cs =>
  let (digits, rest) := takeDigits 16 count cs
  let code := numberOf 16 digits
  if digits.length = count && code < 0x110000 then .ok (code, rest) else .error .badPattern

/-- The character that a letter after a backslash stands for everywhere. -/
def controlOf? : Char → Option Char
  | 'a' => some (Char.ofNat 7)
  | 'f' => some (Char.ofNat 12)
  | 'n' => some '\n'
  | 'r' => some '\r'
  | 't' => some '\t'
  | 'v' => some (Char.ofNat 11)
  | '\\' => some '\\'
  | _ => none

/-- The kind of characters that a letter after a backslash stands for. -/
def kindOf? : Char → Option Member
  | 'd' => some (.kind .digit false)
  | 'D' => some (.kind .digit true)
  | 's' => some (.kind .space false)
  | 'S' => some (.kind .space true)
  | 'w' => some (.kind .word false)
  | 'W' => some (.kind .word true)
  | _ => none

/-- The place that a letter after a backslash stands for. -/
def placeOf? : Char → Option Place
  | 'A' => some .start
  | 'Z' => some .textEnd
  | 'b' => some .boundary
  | 'B' => some .inside
  | _ => none

/-- The code point given by `x`, `u` or `U` after a backslash, or by any character that is neither a
letter nor a digit. -/
def readEscapedCode (c : Char) : Reader Nat := fun rest =>
  match c with
  | 'x' => readCode 2 rest
  | 'u' => readCode 4 rest
  | 'U' => readCode 8 rest
  | c =>
    if isPlainLetter c || isPlainDigit c then .error .badPattern else .ok (c.toNat, rest)

/-- What a backslash in a class gives, the code point of a single character or a kind. -/
def readMemberEscape : Reader (Nat ⊕ Member) := fun cs =>
  match cs with
  | [] => .error .badPattern
  | c :: rest =>
    match controlOf? c, kindOf? c with
    | some control, _ => .ok (.inl control.toNat, rest)
    | none, some kind => .ok (.inr kind, rest)
    | none, none =>
      if c == 'b' then .ok (.inl 8, rest)
      else if isOctal c then
        let (digits, rest) := takeDigits 8 3 (c :: rest)
        let code := numberOf 8 digits
        if code < 256 then .ok (.inl code, rest) else .error .badPattern
      else do
        let (code, rest) ← readEscapedCode c rest
        .ok (.inl code, rest)

/-- One end of a range, or a member of its own. -/
def readMember : Reader (Nat ⊕ Member) := fun cs =>
  match cs with
  | '\\' :: rest => readMemberEscape rest
  | c :: rest => .ok (.inl c.toNat, rest)
  | [] => .error .badPattern

/-- A member that stands alone. -/
def memberOf : Nat ⊕ Member → Member
  | .inl code => .range code code
  | .inr kind => kind

/-- The members of a class up to its closing bracket, which is a member itself when it comes
first. -/
def readMembers : Nat → List Member → Reader (List Member)
  | 0, _, _ => .error .badPattern
  | fuel + 1, done, cs =>
    if cs.head? == some ']' && !done.isEmpty then .ok (done.reverse, cs.drop 1)
    else do
      let (first, rest) ← readMember cs
      match rest with
      | '-' :: ']' :: rest => .ok ((Member.char '-' :: memberOf first :: done).reverse, rest)
      | '-' :: rest =>
        let (second, rest) ← readMember rest
        match first, second with
        | .inl low, .inl high =>
          if high < low then .error .badPattern else readMembers fuel (.range low high :: done) rest
        | _, _ => .error .badPattern
      | rest => readMembers fuel (memberOf first :: done) rest

/-- A class after its opening bracket. -/
def readClass : Reader Node := fun cs => do
  let (negated, cs) := match cs with
    | '^' :: rest => (true, rest)
    | rest => (false, rest)
  let (members, rest) ← readMembers (cs.length + 1) [] cs
  .ok (.set negated members, rest)

/-- The character of a code point as a part of a pattern. -/
def charNode (code : Nat) : Node :=
  if h : code.isValidChar then .char (Char.ofNatAux code h) else .set false []

/-- A reference to a group that is closed. -/
def referTo (scope : Scope) (index : Nat) (rest : List Char) : Except Fault (Node × List Char) :=
  if scope.closed.contains index then .ok (.reference index, rest) else .error .badPattern

/-- What a backslash outside of a class gives. -/
def readEscape (scope : Scope) : Reader Node := fun cs =>
  match cs with
  | [] => .error .badPattern
  | c :: rest =>
    match controlOf? c, kindOf? c, placeOf? c with
    | some control, _, _ => .ok (.char control, rest)
    | none, some kind, _ => .ok (.set false [kind], rest)
    | none, none, some place => .ok (.place place, rest)
    | none, none, none =>
      if c == '0' then
        let (digits, rest) := takeDigits 8 2 rest
        .ok (charNode (numberOf 8 digits), rest)
      else if isPlainDigit c then
        let (octal, after) := takeDigits 8 3 (c :: rest)
        if octal.length = 3 then
          if numberOf 8 octal < 256 then .ok (charNode (numberOf 8 octal), after)
          else .error .badPattern
        else
          let (digits, rest) := takeDigits 10 2 (c :: rest)
          referTo scope (numberOf 10 digits) rest
      else do
        let (code, rest) ← readEscapedCode c rest
        .ok (charNode code, rest)

/-- The greatest number of rounds that can be written. -/
def roundLimit : Nat := 4294967295

/-- Numbers in braces after the opening brace: the least and the most rounds. Anything else is no
repetition. -/
def readCounts : List Char → Except Fault (Option ((Nat × Option Nat) × List Char))
  | '\x7d' :: _ => .ok none
  | cs =>
    let low := cs.takeWhile isPlainDigit
    let rest := cs.drop low.length
    let (comma, rest) := match rest with
      | ',' :: rest => (true, rest)
      | rest => (false, rest)
    let high := if comma then rest.takeWhile isPlainDigit else low
    let rest := if comma then rest.drop high.length else rest
    match rest with
    | '\x7d' :: rest =>
      let least := numberOf 10 (takeDigits 10 low.length low).1
      let most := numberOf 10 (takeDigits 10 high.length high).1
      if (!low.isEmpty && roundLimit ≤ least) || (!high.isEmpty && roundLimit ≤ most) then
        .error .tooLarge
      else if high.isEmpty then .ok (some ((least, none), rest))
      else if most < least then .error .badPattern
      else .ok (some ((least, some most), rest))
    | _ => .ok none

/-- A repetition at the front of a text. -/
def readRepetition : List Char → Except Fault (Option ((Nat × Option Nat) × List Char))
  | '*' :: rest => .ok (some ((0, none), rest))
  | '+' :: rest => .ok (some ((1, none), rest))
  | '?' :: rest => .ok (some ((0, some 1), rest))
  | '\x7b' :: rest => readCounts rest
  | _ => .ok none

/-- The manner that follows a repetition. -/
def readManner : List Char → Manner × List Char
  | '?' :: rest => (.reluctant, rest)
  | '+' :: rest => (.possessive, rest)
  | rest => (.greedy, rest)

/-- The latest part repeated. Nothing, a place or another repetition cannot be repeated. -/
def repeatLast (least : Nat) (most : Option Nat) (manner : Manner) :
    List Node → Except Fault (List Node)
  | [] | .place _ :: _ | .iterate .. :: _ => .error .badPattern
  | part :: earlier => .ok (.iterate least most manner part :: earlier)

/-- A letter or an underscore. -/
def startsName (c : Char) : Bool := Text.isWord c && !Text.isDigit c

/-- A text that can name a group. -/
def isName (cs : List Char) : Bool :=
  (cs.head?.map startsName).getD false && cs.all Text.isWord

/-- A name up to a closing mark. -/
def readName : Reader String := fun cs =>
  let name := cs.takeWhile (· != '>')
  match cs.drop name.length with
  | _ :: rest => if isName name then .ok (String.ofList name, rest) else .error .badPattern
  | [] => .error .badPattern

/-- How a group is kept. -/
inductive Keeping where
  /-- Not at all. -/
  | dropped
  /-- Under its number. -/
  | numbered
  /-- Under its number and a name. -/
  | named (name : String)

/-- What stands after the opening parenthesis of a group. -/
def readKeeping : Reader Keeping := fun cs =>
  match cs with
  | '?' :: ':' :: rest => .ok (.dropped, rest)
  | '?' :: 'P' :: '<' :: rest => do
    let (name, rest) ← readName rest
    .ok (.named name, rest)
  | '?' :: _ => .error .badPattern
  | rest => .ok (.numbered, rest)

namespace Scope

/-- A new group is opened. -/
def openGroup (scope : Scope) (keeping : Keeping) : Except Fault (Option Nat × Scope) :=
  let index := scope.opened + 1
  match keeping with
  | .dropped => .ok (none, scope)
  | .numbered => .ok (some index, { scope with opened := index })
  | .named name =>
    if (scope.names.lookup name).isSome then .error .badPattern
    else .ok (some index, { scope with opened := index, names := scope.names ++ [(name, index)] })

/-- A group is closed. -/
def closeGroup (scope : Scope) (index : Option Nat) : Scope :=
  match index with
  | some index => { scope with closed := index :: scope.closed }
  | none => scope

end Scope

/-- The part that a group is. -/
def groupNode (index : Option Nat) (body : Node) : Node :=
  match index with
  | some index => .group index body
  | none => .block body

/-- Alternatives as one part. -/
def eitherNode : List Node → Node
  | [choice] => choice
  | choices => .either choices

mutual

/-- The alternatives at the front of a text, up to a closing parenthesis or the end. -/
def readChoices (fuel : Nat) (scope : Scope) (done : List Node) (cs : List Char) :
    Except Fault (Node × Scope × List Char) :=
  match fuel with
  | 0 => .error .badPattern
  | fuel + 1 => do
    let (choice, scope, rest) ← readParts fuel scope [] cs
    match rest with
    | '|' :: rest => readChoices fuel scope (choice :: done) rest
    | rest => .ok (eitherNode (choice :: done).reverse, scope, rest)

/-- The parts of one alternative, the latest read first in `done`. -/
def readParts (fuel : Nat) (scope : Scope) (done : List Node) (cs : List Char) :
    Except Fault (Node × Scope × List Char) :=
  match fuel with
  | 0 => .error .badPattern
  | fuel + 1 => do
    match ← readRepetition cs with
    | some ((least, most), rest) =>
      let (manner, rest) := readManner rest
      readParts fuel scope (← repeatLast least most manner done) rest
    | none =>
      match cs with
      | [] | '|' :: _ | ')' :: _ => .ok (.sequence done.reverse, scope, cs)
      | '\\' :: rest =>
        let (part, rest) ← readEscape scope rest
        readParts fuel scope (part :: done) rest
      | '[' :: rest =>
        let (part, rest) ← readClass rest
        readParts fuel scope (part :: done) rest
      | '(' :: rest =>
        let (keeping, rest) ← readKeeping rest
        let (index, scope) ← scope.openGroup keeping
        let (body, scope, rest) ← readChoices fuel scope [] rest
        match rest with
        | ')' :: rest => readParts fuel (scope.closeGroup index) (groupNode index body :: done) rest
        | _ => .error .badPattern
      | '.' :: rest => readParts fuel scope (.any :: done) rest
      | '^' :: rest => readParts fuel scope (.place .start :: done) rest
      | '$' :: rest => readParts fuel scope (.place .finish :: done) rest
      | c :: rest => readParts fuel scope (.char c :: done) rest

end

/-- The options that a letter sets. -/
def setOption (options : Options) : Char → Option Options
  | 'i' => some { options with caseless := true }
  | 's' => some { options with dotAll := true }
  | 'm' => some { options with multiline := true }
  | 'u' => some options
  | _ => none

/-- Letters that set options, up to a closing parenthesis. -/
def readOptionLetters (options : Options) : List Char → Option (Options × List Char)
  | ')' :: rest => some (options, rest)
  | c :: rest =>
    match setOption options c with
    | some options => readOptionLetters options rest
    | none => none
  | [] => none

/-- The options at the start of a pattern, at most `fuel` groups of letters. -/
def readOptions : Nat → Options → List Char → Options × List Char
  | fuel + 1, options, '(' :: '?' :: c :: rest =>
    match setOption options c with
    | some _ =>
      match readOptionLetters options (c :: rest) with
      | some (options, rest) => readOptions fuel options rest
      | none => (options, '(' :: '?' :: c :: rest)
    | none => (options, '(' :: '?' :: c :: rest)
  | _, options, rest => (options, rest)

/-- `re.compile` — the pattern that a text denotes. -/
def read (cs : List Char) : Except Fault Pattern := do
  let (options, rest) := readOptions cs.length {} cs
  let (node, scope, rest) ← readChoices (2 * cs.length + 2) { options := options } [] rest
  if rest.isEmpty then
    .ok { node := node, options := options, groupCount := scope.opened, names := scope.names }
  else .error .badPattern

end Blueprint.Pattern
