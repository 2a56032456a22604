import Blueprint.Error.Fault

/-!
# Choosing a strategy

A strategy is chosen by a value: the strategy itself, or the text of its tag. Where a proxy is
wanted, a proxy may also be given directly.
-/
namespace Blueprint.Strategy

/-- `coerce_strategy` — the strategy that a value names. -/
def ofValue (tag : Value) : Except Fault Strategy :=
  match tag with
  | .strategy strategy => .ok strategy
  | tag =>
    match ofText? tag.plain with
    | some strategy => .ok strategy
    | none => .error (.unknownStrategy tag)

/-- `is_known_strategy` — the value names a strategy. -/
def isKnown (tag : Value) : Bool := (ofValue tag).isOk

/-- `proxy_for` — the strategy of the proxy that a value names. -/
def ofProxy (choice : Value) : Except Fault Strategy :=
  match choice with
  | .proxy strategy => .ok strategy
  | choice => ofValue choice

/-- The tag of a strategy is a text that names it. -/
theorem ofText?_tag (strategy : Strategy) : ofText? strategy.tag = some strategy := by
  cases strategy <;> decide +kernel

/-- The tag of a strategy names it. -/
theorem ofValue_tag (strategy : Strategy) : ofValue (.text strategy.tag) = .ok strategy := by
  simp [ofValue, Value.plain, ofText?_tag]

end Blueprint.Strategy
