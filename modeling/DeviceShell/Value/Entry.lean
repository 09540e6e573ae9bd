import DeviceShell.Text.Blank
import DeviceShell.Value.Basic

/-!
# Values from typed text

What an operator types after an equals sign becomes a value in one of two ways.
A new attribute takes the first kind that the text can be: truth value,
integer, double, and text when nothing else fits. An existing attribute keeps
its kind, and the text has to fit that kind; a truth value then also takes the
switch words and digits, and a list takes anything, item by item.

The text is trimmed first in both readings. Quotes are taken off only as a
pair, which is how text with blanks at its ends is entered.
-/

namespace DeviceShell.Value

/-- The text without one pair of double quotes around it, if it has one. -/
def unquote (cs : List Char) : List Char :=
  (Text.inside? '"' '"' cs).getD cs

/-- The truth value written out in full. -/
def boolWord? (cs : List Char) : Option Bool :=
  if cs = "true".toList then some true
  else if cs = "false".toList then some false
  else none

/-- The truth value written as a word, as a switch position or as a digit. -/
def switchWord? (cs : List Char) : Option Bool :=
  if cs = "on".toList ∨ cs = "1".toList then some true
  else if cs = "off".toList ∨ cs = "0".toList then some false
  else boolWord? cs

/-- The value a trimmed text stands for when nothing says what kind it is. -/
def ofChars (cs : List Char) : Value :=
  match boolWord? cs with
  | some b => .bool b
  | none =>
    match Number.signedWord? cs with
    | some n => .integer n
    | none =>
      match Number.real? cs with
      | some x => .real x
      | none => .text (String.ofList (unquote cs))

/-- The value of a text of unknown kind. -/
def infer (raw : String) : Value :=
  ofChars (Text.trim raw.toList)

/-- The items of a list: one pair of brackets around them may be left out, and
empty items are dropped. -/
def itemsOf (cs : List Char) : List Value :=
  (Text.listItems ((Text.inside? '[' ']' cs).getD cs)).map ofChars

/-- The value of the given kind that a trimmed text stands for. -/
def ofCharsAs? (kind : Kind) (cs : List Char) : Option Value :=
  match kind with
  | .bool => (switchWord? cs).map .bool
  | .integer => (Number.signedWord? cs).map .integer
  | .real => (Number.real? cs).map .real
  | .text => some (.text (String.ofList (unquote cs)))
  | .list => some (.list (itemsOf cs))

/-- The text as a value of the same kind as the current one, if it fits. -/
def coerce? (current : Value) (raw : String) : Option Value :=
  ofCharsAs? current.kind (Text.trim raw.toList)

/-- Fitting a text to a kind gives a value of that kind. -/
theorem kind_of_ofCharsAs? {k : Kind} {cs : List Char} {v : Value}
    (h : ofCharsAs? k cs = some v) : v.kind = k := by
  cases k <;>
    simp only [ofCharsAs?, Option.map_eq_some_iff, Option.some.injEq] at h
  case text | list => subst h; rfl
  all_goals obtain ⟨_, _, rfl⟩ := h; rfl

/-- Coercion keeps the kind. -/
theorem kind_of_coerce? {v w : Value} {raw : String}
    (h : v.coerce? raw = some w) :
    w.kind = v.kind :=
  kind_of_ofCharsAs? h

end DeviceShell.Value
