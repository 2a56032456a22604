import Blueprint.Yaml.Node.Basic
import Blueprint.Yaml.Token.Basic

/-!
# From tokens to a document

The grammar of a YAML text with one document. Nodes that have a name are kept, so that an alias can
stand for them; a name may be given only once, and an alias may not stand inside of the node that it
names.
-/
namespace Blueprint.Yaml

/-- What is left to read, and what is known. -/
structure Reading where
  /-- The tokens that are left. -/
  tokens : List Token
  /-- Why there are no more tokens after them. -/
  fault : Fault := .malformed
  /-- The nodes by name; one that is not complete yet is missing. -/
  anchors : List (String × Option Node) := []
  /-- What the handles of tags stand for. -/
  handles : List (String × String) := []
  /-- How many lists and maps have been begun. -/
  begun : Nat := 0

/-- A part of the grammar. -/
abbrev Grammar (α : Type) := StateT Reading (Except Fault) α

namespace Grammar

/-- The text does not follow the grammar. -/
def refuse {α : Type} : Grammar α := fun _ => .error .malformed

/-- The next token, or the fault in the place of one that cannot be read. -/
def peek : Grammar Token := fun reading =>
  match reading.tokens with
  | token :: _ => .ok (token, reading)
  | [] => .error reading.fault

/-- Passes over the next token. -/
def skip : Grammar Unit := fun reading => .ok ((), { reading with tokens := reading.tokens.drop 1 })

/-- The next token is one of several. -/
def isAt (tokens : List Token) : Grammar Bool := do
  pure (tokens.contains (← peek))

/-- Passes over the next token if it is a certain one, and tells whether it is. -/
def accept (token : Token) : Grammar Bool := do
  if ← isAt [token] then
    skip
    pure true
  else pure false

/-- Passes over a token that has to be the next one. -/
def expect (token : Token) : Grammar Unit := do
  if ← accept token then pure () else refuse

/-- The name of the next node, if it has one. -/
def takeAnchor : Grammar (Option String) := do
  match ← peek with
  | .anchor name =>
    skip
    pure (some name)
  | _ => pure none

/-- The full name of a tag. -/
def fullTag (name : TagName) : Grammar String := fun reading =>
  match name.handle with
  | none => .ok (name.suffix, reading)
  | some handle =>
    match reading.handles.lookup handle with
    | some start => .ok (start ++ name.suffix, reading)
    | none => .error .malformed

/-- The tag of the next node, if one is written. -/
def takeTag : Grammar (Option TagName) := do
  match ← peek with
  | .tag name =>
    skip
    pure (some name)
  | _ => pure none

/-- The name and the tag of the next node, in any order. -/
def properties : Grammar (Option String × Option String) := do
  let before ← takeAnchor
  let tag ← takeTag
  let anchor ← match before with
    | some name => pure (some name)
    | none => if tag.isSome then takeAnchor else pure none
  match tag with
  | some name => pure (anchor, some (← fullTag name))
  | none => pure (anchor, none)

/-- The number of a list or map that is about to be read. -/
def nextNumber : Grammar Nat := fun reading =>
  .ok (reading.begun, { reading with begun := reading.begun + 1 })

/-- Gives a node that is about to be read its name. -/
def announce (anchor : Option String) : Grammar Unit := fun reading =>
  match anchor with
  | none => .ok ((), reading)
  | some name =>
    if (reading.anchors.lookup name).isSome then .error .malformed
    else .ok ((), { reading with anchors := (name, none) :: reading.anchors })

/-- Keeps a node under its name. -/
def keep (anchor : Option String) (node : Node) : Grammar Node := fun reading =>
  match anchor with
  | none => .ok (node, reading)
  | some name => .ok (node, { reading with anchors := (name, some node) :: reading.anchors })

/-- The node that an alias stands for. -/
def named (name : String) : Grammar Node := fun reading =>
  match reading.anchors.lookup name with
  | some (some node) => .ok (node, reading)
  | _ => .error .malformed

/-- The tag that says nothing. -/
def nonSpecific : String := "!"

/-- The type of a scalar. -/
def scalarTag (tag : Option String) (text : String) (plain : Bool) : Tag :=
  match tag with
  | none => if plain then Tag.ofPlain text else .text
  | some name => if name == nonSpecific then Tag.ofPlain text else Tag.ofName name

/-- The type of a list or a map. -/
def collectionTag (tag : Option String) (usual : Tag) : Tag :=
  match tag with
  | none => usual
  | some name => if name == nonSpecific then usual else Tag.ofName name

/-- The tokens that end the key or the value of an indented map. -/
def blockStops : List Token := [.key, .value, .blockEnd]

mutual

/-- The next node. Indented lists and maps are only allowed where `block` says so, and a list that
is not indented deeper than its key where `level` says so. -/
def node (fuel : Nat) (block level : Bool) : Grammar Node :=
  match fuel with
  | 0 => refuse
  | fuel + 1 => do
    match ← peek with
    | .alias name =>
      skip
      named name
    | _ =>
      let (anchor, tag) ← properties
      let next ← peek
      announce anchor
      match next with
      | .scalar text plain =>
        skip
        keep anchor (.scalar (scalarTag tag text plain) text)
      | .listStart =>
        skip
        keep anchor (.list (← nextNumber) (collectionTag tag .list) (← flowList fuel true []))
      | .mapStart =>
        skip
        keep anchor (.map (← nextNumber) (collectionTag tag .map) (← flowMap fuel true []))
      | _ =>
        if level && next == .blockEntry then
          keep anchor (.list (← nextNumber) (collectionTag tag .list) (← levelList fuel []))
        else if block && next == .blockListStart then
          skip
          keep anchor (.list (← nextNumber) (collectionTag tag .list) (← blockList fuel []))
        else if block && next == .blockMapStart then
          skip
          keep anchor (.map (← nextNumber) (collectionTag tag .map) (← blockMap fuel []))
        else if anchor.isSome || tag.isSome then keep anchor (.scalar (scalarTag tag "" true) "")
        else refuse

/-- The next node, or a missing one before certain tokens. -/
def entry (fuel : Nat) (stops : List Token) (block level : Bool) : Grammar Node :=
  match fuel with
  | 0 => refuse
  | fuel + 1 => do
    if ← isAt stops then pure Node.missing else node fuel block level

/-- The entries of an indented list. -/
def blockList (fuel : Nat) (done : List Node) : Grammar (List Node) :=
  match fuel with
  | 0 => refuse
  | fuel + 1 => do
    if ← accept .blockEntry then
      let item ← entry fuel [.blockEntry, .blockEnd] true false
      blockList fuel (item :: done)
    else
      expect .blockEnd
      pure done.reverse

/-- The entries of a list that is not indented deeper than its key. -/
def levelList (fuel : Nat) (done : List Node) : Grammar (List Node) :=
  match fuel with
  | 0 => refuse
  | fuel + 1 => do
    if ← accept .blockEntry then
      let item ← entry fuel (.blockEntry :: blockStops) true false
      levelList fuel (item :: done)
    else pure done.reverse

/-- The value after a key. -/
def mapValue (fuel : Nat) (stops : List Token) (block : Bool) : Grammar Node :=
  match fuel with
  | 0 => refuse
  | fuel + 1 => do
    if ← accept .value then entry fuel stops block block else pure Node.missing

/-- The pairs of an indented map. -/
def blockMap (fuel : Nat) (done : List (Node × Node)) : Grammar (List (Node × Node)) :=
  match fuel with
  | 0 => refuse
  | fuel + 1 => do
    if ← accept .key then
      let key ← entry fuel blockStops true true
      let value ← mapValue fuel blockStops true
      blockMap fuel ((key, value) :: done)
    else
      expect .blockEnd
      pure done.reverse

/-- The items of a list in brackets; a pair among them is a map of its own. -/
def flowList (fuel : Nat) (first : Bool) (done : List Node) : Grammar (List Node) :=
  match fuel with
  | 0 => refuse
  | fuel + 1 => do
    if ← accept .listEnd then pure done.reverse
    else
      if !first then expect .comma
      if ← accept .key then
        let key ← entry fuel [.value, .comma, .listEnd] false false
        let value ← mapValue fuel [.comma, .listEnd] false
        flowList fuel false (.map (← nextNumber) .map [(key, value)] :: done)
      else if ← accept .listEnd then pure done.reverse
      else
        let item ← node fuel false false
        flowList fuel false (item :: done)

/-- The pairs of a map in braces; a key may have no value. -/
def flowMap (fuel : Nat) (first : Bool) (done : List (Node × Node)) :
    Grammar (List (Node × Node)) :=
  match fuel with
  | 0 => refuse
  | fuel + 1 => do
    if ← accept .mapEnd then pure done.reverse
    else
      if !first then expect .comma
      if ← accept .key then
        let key ← entry fuel [.value, .comma, .mapEnd] false false
        let value ← mapValue fuel [.comma, .mapEnd] false
        flowMap fuel false ((key, value) :: done)
      else if ← accept .mapEnd then pure done.reverse
      else
        let key ← node fuel false false
        flowMap fuel false ((key, .missing) :: done)

end

/-- The handles that always stand for something. -/
def usualHandles : List (String × String) := [("!", "!"), ("!!", Tag.common)]

/-- The directives before a document; the version may be given once and has to be the first, and a
handle may be given a meaning once. -/
def directives : Nat → Bool → List (String × String) → Grammar (List (String × String))
  | 0, _, _ => refuse
  | fuel + 1, versioned, handles => do
    match ← peek with
    | .directive (.version major) =>
      if versioned || major != 1 then refuse
      else
        skip
        directives fuel true handles
    | .directive (.tagHandle handle start) =>
      if (handles.lookup handle).isSome then refuse
      else
        skip
        directives fuel versioned (handles ++ [(handle, start)])
    | .directive .other =>
      skip
      directives fuel versioned handles
    | _ => pure handles

/-- Passes over marks of the end of a document. -/
def skipEnds : Nat → Grammar Unit
  | 0 => pure ()
  | fuel + 1 => do
    if ← accept .documentEnd then skipEnds fuel

/-- The next token is a directive or one of several. -/
def isAtDirectiveOr (tokens : List Token) : Grammar Bool := do
  match ← peek with
  | .directive _ => pure true
  | _ => isAt tokens

/-- The only document of the text, if there is one. -/
def document (fuel : Nat) : Grammar (Option Node) := do
  if ← accept .streamEnd then pure none
  else
    let found ←
      if ← isAtDirectiveOr [.documentStart] then
        let handles ← directives fuel false []
        expect .documentStart
        modify fun reading => { reading with handles := handles ++ usualHandles }
        if ← isAtDirectiveOr [.documentStart, .documentEnd, .streamEnd] then pure Node.missing
        else node fuel true false
      else
        modify fun reading => { reading with handles := usualHandles }
        node fuel true false
    skipEnds fuel
    if ← accept .streamEnd then pure (some found)
    else
      -- a further document is refused only after its directives are read
      let _ ← directives fuel false []
      refuse

end Grammar

/-- The only document that tokens make, if there is one. -/
def Node.ofTokens (tokens : Tokens) : Except Fault (Option Node) :=
  let reading : Reading := { tokens := tokens.row, fault := tokens.fault.getD .malformed }
  (Grammar.document (4 * tokens.row.length + 8) reading).map Prod.fst

end Blueprint.Yaml
