import PageScript.Command.Record
import PageScript.Grammar.Pattern

/-!
# The grammar

One rule for each verb: the pattern of its lines, and which argument fills which field of its record. The fields
of a template stand in ascending order of their names.
-/

namespace PageScript.Grammar

/-- How a field is filled: by an argument as a text, or by an argument read as an integer. Arguments are counted
from one. -/
inductive Source where
  | text (argument : Nat)
  | number (argument : Nat)
deriving DecidableEq, Repr

/-- The sign of a source and the number of its argument. -/
def Source.symbol : Source → String
  | .text argument => s!"${argument}"
  | .number argument => s!"#{argument}"

/-- A rule of the grammar. -/
structure Rule where
  /-- The pattern of a line. -/
  pattern : Pattern
  /-- The fields of the record after its kind. -/
  template : List (String × Source)
deriving DecidableEq, Repr

namespace Rule

/-- The verb of a rule, which is also the kind of its commands. -/
def verb (r : Rule) : String :=
  r.pattern.verb

/-- The record of a rule with its sources in place of values. -/
def skeleton (r : Rule) : Json :=
  .obj (("kind", .str r.verb) :: r.template.map fun field => (field.1, .str field.2.symbol))

/-- A rule with one form of arguments. -/
def ofForm (verb : String) (needed : List Slot) (last : Option Slot) (template : List (String × Source)) : Rule :=
  ⟨⟨verb, [⟨needed, last⟩]⟩, template⟩

end Rule

open Slot Rule

/-- The rules in order. -/
def rules : List Rule := [
  ofForm "navto" [word] none [("url", .text 1)],
  ofForm "click" [selector] (some quoted) [("selector", .text 1), ("text", .text 2)],
  ofForm "type" [selector, quoted] none [("selector", .text 1), ("value", .text 2)],
  ofForm "setvalue" [selector, quoted] none [("selector", .text 1), ("value", .text 2)],
  ofForm "focus" [selector] none [("selector", .text 1)],
  ofForm "enable" [selector] none [("selector", .text 1)],
  ofForm "hover" [selector] none [("selector", .text 1)],
  ⟨⟨"scroll", [⟨[integer, integer], none⟩, ⟨[selector], none⟩]⟩,
    [("selector", .text 3), ("x", .number 1), ("y", .number 2)]⟩,
  ofForm "getattr" [selector, qualifiedName] none [("attribute", .text 2), ("selector", .text 1)],
  ofForm "getstyle" [selector, name] none [("property", .text 2), ("selector", .text 1)],
  ofForm "wait" [number] none [("ms", .number 1)],
  ofForm "waitforelement" [selector] (some number) [("selector", .text 1), ("timeout_ms", .number 2)],
  ofForm "waitfor" [oneOf ["quiet", "network"]] (some number)
    [("condition", .text 1), ("timeout_ms", .number 2)],
  ofForm "exec" [text] none [("script", .text 1)],
  ofForm "screenshot" [] none [],
  ofForm "dialog" [oneOf ["accept", "dismiss"]] (some quoted) [("action", .text 1), ("prompt_text", .text 2)],
  ofForm "resize" [number, number] none [("height", .number 2), ("width", .number 1)],
  ofForm "changes" [oneOf ["on", "off", "clear", "request"]] none [("action", .text 1)],
  ofForm "record" [oneOf ["start", "stop"]] none [("action", .text 1)],
  ofForm "recipe" [oneOf ["save", "load"], selector] none [("action", .text 1), ("name", .text 2)],
  ofForm "message" [text] none [("text", .text 1)],
  ofForm "showtoast" [text] none [("message", .text 1)],
  ofForm "assert" [selector] (some quoted) [("selector", .text 1), ("text", .text 2)],
  ofForm "asserttextcontains" [selector, quoted] none [("selector", .text 1), ("text", .text 2)],
  ofForm "break" [] none []]

/-- The rule of a verb. -/
def ruleFor? (verb : String) : Option Rule :=
  rules.find? fun rule => rule.verb = verb

/-- Drops one pair of equal quotes, double or single, around a text. -/
def stripQuotes (cs : List Char) : List Char :=
  match cs with
  | q :: rest =>
    if (q = '"' ∨ q = '\'') ∧ rest.getLast? = some q then rest.dropLast else cs
  | [] => []

/-- The integer of sixty-four bits that an argument writes. -/
def int64? (cs : List Char) : Option Int :=
  (Text.intOfDigits? cs).filter fun n => -9223372036854775808 ≤ n ∧ n ≤ 9223372036854775807

/-- The value of an argument, counted from one. -/
def argument? (values : Assignment) (index : Nat) : Option (List Char) :=
  (values[index - 1]?).join

/-- The value of a field. An argument that is left out gives `null`; one that writes no integer of sixty-four bits
where an integer is needed is the failure. -/
def Source.value (values : Assignment) : Source → Except (List Char) Json
  | .text index =>
    match argument? values index with
    | none => .ok .null
    | some cs => .ok (.str (String.ofList (stripQuotes cs)))
  | .number index =>
    match argument? values index with
    | none => .ok .null
    | some cs =>
      match int64? cs with
      | some n => .ok (.int n)
      | none => .error cs

/-- Fields filled by the values of arguments, or the first argument that is no integer where one is needed. -/
def fillFields (values : Assignment) : List (String × Source) → Except (List Char) (List (String × Json))
  | [] => .ok []
  | (key, source) :: rest => do
    let value ← source.value values
    return (key, value) :: (← fillFields values rest)

/-- The record of a rule filled by the values of its arguments. -/
def Rule.fill (r : Rule) (values : Assignment) : Except (List Char) Json := do
  return Command.ofKind r.verb (← fillFields values r.template)

end PageScript.Grammar
