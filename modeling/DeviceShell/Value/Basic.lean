import DeviceShell.Number.Real

/-!
# Values

What an attribute holds and what a member access gives back. Kinds never mix:
the integer 1 and the double 1 are different values, and an attribute keeps the
kind it was declared with for as long as it exists. Comparison of doubles is
the arithmetic one, under which a value that is not a number differs from
itself, so `Value.same` is not reflexive.
-/

namespace DeviceShell

/-- The five kinds of value. -/
inductive Kind where
  | bool
  | integer
  | real
  | text
  | list
  deriving DecidableEq, Repr

/-- The word for a kind in messages. -/
def Kind.word : Kind → String
  | .bool => "bool"
  | .integer => "integer"
  | .real => "float"
  | .text => "text"
  | .list => "list"

/-- A value read from a device or stored on one. -/
inductive Value where
  | bool (b : Bool)
  | integer (n : Int64)
  | real (x : Float)
  | text (s : String)
  | list (items : List Value)
  deriving Repr, Inhabited

namespace Value

/-- The kind of a value. -/
def kind : Value → Kind
  | .bool _ => .bool
  | .integer _ => .integer
  | .real _ => .real
  | .text _ => .text
  | .list _ => .list

/-- The printed form of a truth value. -/
def boolText (b : Bool) : String :=
  if b then "true" else "false"

mutual

/-- The printed form of a value. Text is printed bare, so a list of texts does
not show where one text ends if it holds a comma. -/
def render : Value → String
  | .bool b => boolText b
  | .integer n => String.ofList (Number.wordText n)
  | .real x => Number.realText x
  | .text s => s
  | .list items => "[" ++ renderItems items ++ "]"

/-- The items of a list, a comma and a space between them. -/
def renderItems : List Value → String
  | [] => ""
  | [item] => render item
  | item :: next :: rest => render item ++ ", " ++ renderItems (next :: rest)

end

mutual

/-- Equality of values: same kind, equal contents, lists item by item. -/
def same : Value → Value → Bool
  | .bool a, .bool b => a == b
  | .integer a, .integer b => a == b
  | .real a, .real b => a == b
  | .text a, .text b => a == b
  | .list as, .list bs => sameItems as bs
  | _, _ => false

/-- Equality of the items of two lists. -/
def sameItems : List Value → List Value → Bool
  | [], [] => true
  | a :: as, b :: bs => same a b && sameItems as bs
  | _, _ => false

end

end Value

end DeviceShell
