import DutFixtures.LogFilter.Rule

namespace DutFixtures

def LogRule.rank (rule : LogRule) : Nat :=
  rule.level.elim 0 Level.rank

def LogRule.comparesValue (rule : LogRule) : Bool :=
  rule.field.any fun field => field.value.isSome

def LogRule.coversPath (rule : LogRule) (path : String) : Bool :=
  rule.target.all fun target => target.toList.isPrefixOf path.toList

/-- Whether a rule applies to the events of a component wherever they are written. All
events have one field, their message, and its value is not looked at. -/
def LogRule.selects (rule : LogRule) (component : Component) : Bool :=
  rule.span.isNone && !rule.comparesValue && rule.coversPath component.path &&
    rule.field.all fun field => field.name == "message"

/-- How closely a rule names what it applies to: by the length of the target first, and
then by a field. -/
def LogRule.weight (rule : LogRule) : Nat :=
  2 * rule.target.elim 0 (fun target => target.length + 1) + rule.field.elim 0 fun _ => 1

/-- The closer one of two rules, and of equal ones the later. -/
def LogRule.orCloser (best : Option LogRule) (rule : LogRule) : Option LogRule :=
  if best.any fun other => rule.weight < other.weight then best else some rule

/-- A stretch of a run, as log filters see it: the path of the component that opens it,
and its name. -/
structure Span where
  component : String
  name : String
  deriving DecidableEq, Repr

/-- The span in which the server answers requests. It has no fields, and the level of
what opens it is INFO. -/
def servingSpan : Span where
  component := "rmcp::service"
  name := "serve_inner"

/-- The host is asked on a thread of its own, which the serving span does not reach. -/
def Component.runsInSpan : Component → Bool
  | .network => false
  | _ => true

def LogRule.selectsSpan (rule : LogRule) (span : Span) : Bool :=
  rule.span == some span.name && rule.field.isNone && rule.coversPath span.component

/-- How much the rules for a span let through inside of it. A later rule with the same
target replaces an earlier one, and the most verbose of the others counts. -/
def spanRank (span : Span) : List LogRule → Nat
  | [] => 0
  | rule :: rest =>
    if rule.selectsSpan span &&
        !rest.any fun later => later.selectsSpan span && later.target == rule.target then
      max rule.rank (spanRank span rest)
    else spanRank span rest

structure LogFilter where
  rules : List LogRule
  deriving DecidableEq, Repr

/-- The rules among the parts of a list. Malformed ones are left out. -/
def rulesOf? : List (List Char) → Option (List LogRule)
  | [] => some []
  | part :: rest =>
    match LogRule.ofChars part with
    | .ok rule => (rulesOf? rest).map (rule :: ·)
    | .error .malformed => rulesOf? rest
    | .error .splitsCharacter => none

/-- The filter with the rules of a list with commas, unless one of them would be cut
inside of a character. Without any rule, errors are logged. -/
def LogFilter.ofString? (s : String) : Option LogFilter :=
  (rulesOf? ((s.toList.splitOn ',').filter (· ≠ []))).map fun rules =>
    if rules = [] then ⟨[{ level := some .error }]⟩ else ⟨rules⟩

/-- The rule that decides on the events of a component, if one applies to them. -/
def LogFilter.decidingRule (filter : LogFilter) (component : Component) : Option LogRule :=
  (filter.rules.filter fun rule => rule.selects component).foldl LogRule.orCloser none

/-- Whether the serving span is opened at all: some rule has to let through its level,
or to compare values, which nothing shows before a span is opened. -/
def LogFilter.opensSpan (filter : LogFilter) : Bool :=
  filter.rules.any fun rule => Level.info.rank ≤ rule.rank || rule.comparesValue

/-- Whether the filter lets an event through because of the span it is written in. -/
def LogFilter.passesInSpan (filter : LogFilter) (e : Event) : Bool :=
  e.component.runsInSpan && filter.opensSpan && e.level.rank ≤ spanRank servingSpan filter.rules

/-- Whether the filter lets an event through that is written while the server starts. -/
def LogFilter.passes (filter : LogFilter) (e : Event) : Bool :=
  (filter.decidingRule e.component).any fun rule => e.level.rank ≤ rule.rank

/-- Whether the filter lets an event through that a request leads to. -/
def LogFilter.passesServing (filter : LogFilter) (e : Event) : Bool :=
  filter.passes e || filter.passesInSpan e

end DutFixtures
