import DeviceShell.Toml.Moment

/-!
# TOML data

What a document says once its layout is forgotten: a table of named data. Names
are unique in a table, and their order means nothing.
-/

namespace DeviceShell.Toml

/-- A datum of a document. -/
inductive Datum where
  | text (s : String)
  | integer (n : Int64)
  | real (x : Float)
  | bool (b : Bool)
  | moment (m : Moment)
  | array (items : List Datum)
  | table (entries : List (String × Datum))
  deriving Repr, Inhabited

end DeviceShell.Toml
