import DeviceShell.Toml.Outline
import DeviceShell.Toml.Scalar

/-!
# Reading a document

A document is a sequence of lines, each an assignment, a header or nothing.
Assignments before the first header belong to the document itself, the others
to the header above them.

Arrays and inline tables may be nested, but not without end: the depth that is
left is an argument of the reader, which is also what it recurs on. The items
of one array and the lines of a document are as many as they are, and the
length of the text bounds them.
-/

namespace DeviceShell.Toml.Document

/-- Brackets may be nested, and keys may have steps, to one less than this. -/
def depthLimit : Nat := 80

/-- The characters of a key without quotes. -/
def isBareKeyChar (c : Char) : Bool :=
  c.isAlphanum || c == '-' || c == '_'

/-- One step of a key. -/
def step : Reader String := fun cs =>
  match cs with
  | '"' :: _ | '\'' :: _ => Quoted.line cs
  | _ =>
    let (name, rest) := cs.span isBareKeyChar
    if name.isEmpty then none else some (String.ofList name, rest)

/-- The steps of a key, with blanks around each. `fuel` bounds their number. -/
def keySteps : Nat → Reader (List String)
  | 0, _ => none
  | fuel + 1, cs => do
    let (name, rest) ← step (skipGap cs)
    match skipGap rest with
    | '.' :: rest =>
      let (names, rest) ← keySteps fuel rest
      some (name :: names, rest)
    | rest => some ([name], rest)

/-- A key: the steps before the last one, and the last one. -/
def key : Reader (List String × String) := fun cs => do
  let (names, rest) ← keySteps cs.length cs
  let last ← names.getLast?
  if names.length < depthLimit then
    some ((names.dropLast, last), rest) else none

/-- A key, an equals sign and a datum. -/
def assignment (datum : Reader Datum) : Reader Assignment := fun cs => do
  let ((path, name), rest) ← key cs
  match rest with
  | '=' :: rest =>
    let (d, rest) ← datum (skipGap rest)
    some (⟨path, name, d⟩, rest)
  | _ => none

/-- The items of an array, after its opening bracket. -/
def items (datum : Reader Datum) : Nat → Reader (List Datum)
  | 0, _ => none
  | fuel + 1, cs => do
    match ← skipLayout false cs with
    | ']' :: rest => some ([], rest)
    | cs =>
      let (d, rest) ← datum cs
      match ← skipLayout false rest with
      | ',' :: rest =>
        let (ds, rest) ← items datum fuel rest
        some (d :: ds, rest)
      | ']' :: rest => some ([d], rest)
      | _ => none

/-- The assignments of an inline table, up to its closing brace; there is at
least one. -/
def pairs (datum : Reader Datum) : Nat → Reader (List Assignment)
  | 0, _ => none
  | fuel + 1, cs => do
    let (a, rest) ← assignment datum cs
    match skipGap rest with
    | ',' :: rest =>
      let (as, rest) ← pairs datum fuel rest
      some (a :: as, rest)
    | '\x7d' :: rest => some ([a], rest)
    | _ => none

/-- An inline table, after its opening brace. -/
def inlineTable (datum : Reader Datum) : Reader Datum := fun cs =>
  match skipGap cs with
  | '\x7d' :: rest => some (.table [], rest)
  | cs => do
    let (as, rest) ← pairs datum cs.length cs
    let d ← Datum.ofInline? as
    some (d, rest)

/-- A datum, with as many brackets inside each other as the first argument
allows. -/
def datum : Nat → Reader Datum
  | 0, _ => none
  | depth + 1, cs =>
    match cs with
    | '"' :: _ | '\'' :: _ =>
      (Quoted.text cs).map fun (s, rest) => (.text s, rest)
    | '[' :: rest =>
      if depth = 0 then none
      else (items (datum depth) (rest.length + 1) rest).map fun (ds, rest) =>
        (.array ds, rest)
    | '\x7b' :: rest =>
      if depth = 0 then none else inlineTable (datum depth) rest
    | _ => Scalar.read cs

/-- What a line of a document says. -/
inductive Line where
  | assigns (a : Assignment)
  | opens (array : Bool) (path : List String) (name : String)

/-- A header, after its opening bracket. -/
def header : Reader Line := fun cs =>
  match cs with
  | '[' :: rest => do
    let ((path, name), rest) ← key rest
    match rest with
    | ']' :: ']' :: rest => some (.opens true path name, rest)
    | _ => none
  | _ => do
    let ((path, name), rest) ← key cs
    match rest with
    | ']' :: rest => some (.opens false path name, rest)
    | _ => none

/-- The lines of a document that say something. -/
def lines : Nat → List Char → Option (List Line)
  | 0, _ => none
  | fuel + 1, cs => do
    match ← skipLayout false cs with
    | [] => some []
    | '[' :: rest =>
      let (line, rest) ← header rest
      let rest ← lineEnd rest
      (lines fuel rest).map (line :: ·)
    | cs =>
      let (a, rest) ← assignment (datum depthLimit) cs
      let rest ← lineEnd rest
      (lines fuel rest).map (.assigns a :: ·)

/-- The assignments before the first header, and the sections. -/
def outline : List Line → List Assignment × List Section
  | [] => ([], [])
  | .assigns a :: rest =>
    let (top, sections) := outline rest
    (a :: top, sections)
  | .opens array path name :: rest =>
    let (own, sections) := outline rest
    ([], ⟨array, path, name, own⟩ :: sections)

/-- Reads a document; a byte order mark in front of it is skipped. -/
def read? (text : String) : Option Datum :=
  let cs :=
    match text.toList with
    | '\ufeff' :: rest => rest
    | cs => cs
  (lines (cs.length + 1) cs).bind fun ls =>
    let (top, sections) := outline ls
    Datum.ofDocument? top sections

end DeviceShell.Toml.Document
