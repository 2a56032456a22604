import Blueprint.Pattern.Basic

/-!
# Matching

A part of a pattern is matched from a cursor on, and what follows it is asked whether it accepts
where the part ends: the first way that is accepted is taken. Alternatives are tried in order. A
repetition that has reached its least number goes on only from another position than that at which
its last round began, so a round that takes nothing is the last one.
-/
namespace Blueprint.Pattern

/-- A position in the text. -/
structure Cursor where
  /-- The character before, none at the start. -/
  before : Option Char := none
  /-- The text after. -/
  rest : List Char
  /-- The texts of groups, the latest first. -/
  groups : List (Nat × List Char) := []
deriving Repr

namespace Cursor

/-- The text between a cursor and a later one. -/
def upTo (cursor later : Cursor) : List Char :=
  cursor.rest.take (cursor.rest.length - later.rest.length)

/-- The cursor after one more character. -/
def advance (cursor : Cursor) (c : Char) (rest : List Char) : Cursor :=
  { cursor with before := some c, rest := rest }

end Cursor

/-- A character without its case. -/
def fold (c : Char) : List Char :=
  match Text.lowerChar c with
  | small :: _ => Text.upperChar small
  | [] => [c]

/-- Two characters are the same in a pattern. -/
def same (options : Options) (a b : Char) : Bool :=
  if options.caseless then fold a == fold b else a == b

/-- The character, or with caseless matching one that differs only in case, is between two code
points. -/
def between (options : Options) (low high : Nat) (c : Char) : Bool :=
  (low ≤ c.toNat && c.toNat ≤ high) ||
    (options.caseless &&
      (List.range (high + 1 - low)).any fun n => fold (Char.ofNat (low + n)) == fold c)

/-- A character belongs to a member of a class. -/
def Member.holds (options : Options) (c : Char) : Member → Bool
  | char d => same options d c
  | range low high => between options low high c
  | kind category negated => category.holds c != negated

/-- The character is a word character, if there is one. -/
def isWordAt (c : Option Char) : Bool := (c.map Text.isWord).getD false

/-- A cursor is at a boundary of a word. -/
def atBoundary (cursor : Cursor) : Bool := isWordAt cursor.before != isWordAt cursor.rest.head?

/-- A cursor is at a place. -/
def Place.holds (options : Options) (cursor : Cursor) : Place → Bool
  | start => cursor.before.isNone || (options.multiline && cursor.before == some '\n')
  | finish =>
    cursor.rest.isEmpty || cursor.rest == ['\n'] ||
      (options.multiline && cursor.rest.head? == some '\n')
  | textEnd => cursor.rest.isEmpty
  | boundary => atBoundary cursor
  | inside => !atBoundary cursor

/-- What follows a part: it accepts a cursor, perhaps further on, or refuses it. -/
abbrev Next := Cursor → Option Cursor

/-- A way to match a part. -/
abbrev Matcher := Cursor → Next → Option Cursor

/-- Matches one character that a test admits. -/
def matchOne (test : Char → Bool) : Matcher := fun cursor next =>
  match cursor.rest with
  | c :: rest => if test c then next (cursor.advance c rest) else none
  | [] => none

/-- Matches a given text. -/
def matchText (options : Options) : List Char → Matcher
  | [], cursor, next => next cursor
  | c :: text, cursor, next =>
    match cursor.rest with
    | d :: rest =>
      if same options c d then matchText options text (cursor.advance d rest) next else none
    | [] => none

/-- The rounds of a repetition from the `count`-th on. `last` is where the latest round began that
was not needed for the least number. -/
def rounds (body : Matcher) (least : Nat) (most : Option Nat) (eager : Bool) (next : Next) :
    Nat → Nat → Option Nat → Cursor → Option Cursor
  | 0, _, _, cursor => next cursor
  | fuel + 1, count, last, cursor =>
    if count < least then
      body cursor (rounds body least most eager next fuel (count + 1) last)
    else
      let position := cursor.rest.length
      let mayGoOn := most.all (count < ·) && last != some position
      let another : Unit → Option Cursor := fun _ =>
        if mayGoOn then
          body cursor (rounds body least most eager next fuel (count + 1) (some position))
        else none
      if eager then
        match another () with
        | some found => some found
        | none => next cursor
      else
        match next cursor with
        | some found => some found
        | none => another ()

/-- Matches a part several times. -/
def matchIterate (body : Matcher) (least : Nat) (most : Option Nat) (manner : Manner) : Matcher :=
  fun cursor next =>
    let fuel := least + cursor.rest.length + 2
    match manner with
    | .greedy => rounds body least most true next fuel 0 none cursor
    | .reluctant => rounds body least most false next fuel 0 none cursor
    | .possessive => (rounds body least most true some fuel 0 none cursor).bind next

mutual

/-- Matches a part of a pattern. -/
def Node.run (options : Options) : Node → Matcher
  | .char c => matchOne (same options c)
  | .any => matchOne fun c => options.dotAll || c != '\n'
  | .set negated members => matchOne fun c => members.any (Member.holds options c) != negated
  | .place place => fun cursor next => if place.holds options cursor then next cursor else none
  | .group index body => fun cursor next =>
    Node.run options body cursor fun later =>
      next { later with groups := (index, cursor.upTo later) :: later.groups }
  | .block body => Node.run options body
  | .reference index => fun cursor next =>
    match cursor.groups.lookup index with
    | some text => matchText options text cursor next
    | none => none
  | .sequence parts => runSequence options parts
  | .either choices => runEither options choices
  | .iterate least most manner body => matchIterate (Node.run options body) least most manner
termination_by structural node => node

/-- Matches parts in order. -/
def runSequence (options : Options) : List Node → Matcher
  | [] => fun cursor next => next cursor
  | part :: parts => fun cursor next =>
    Node.run options part cursor fun later => runSequence options parts later next
termination_by structural parts => parts

/-- Matches the first alternative that fits. -/
def runEither (options : Options) : List Node → Matcher
  | [] => fun _ _ => none
  | choice :: choices => fun cursor next =>
    match Node.run options choice cursor next with
    | some found => some found
    | none => runEither options choices cursor next
termination_by structural choices => choices

end

/-- Accepts the end of the text. -/
def atEnd : Next := fun cursor => if cursor.rest.isEmpty then some cursor else none

/-- `Pattern.fullmatch` — the texts of the groups, the latest first, where the pattern fits a whole
text. The whole text is group zero. -/
def groups? (pattern : Pattern) (cs : List Char) : Option (List (Nat × List Char)) :=
  (pattern.node.run pattern.options { rest := cs } atEnd).map fun cursor =>
    cursor.groups ++ [(0, cs)]

end Blueprint.Pattern
