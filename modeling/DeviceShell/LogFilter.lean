import DeviceShell.Event
import DeviceShell.Pattern.Reader
import DeviceShell.Pattern.Search
import DeviceShell.Text.Blank

/-!
# Which records are written

A filter is given as a list of directives, each a level, an origin, or an
origin with a level. The longest origin that a record's origin starts with
decides, and a directive without an origin decides where no other does. After a
slash may follow a pattern for the text of the records. A directive that makes
no sense is left out, with a complaint, and so is such a pattern; a filter
without directives lets errors through and nothing else.
-/

namespace DeviceShell

/-- How much of an origin's records is written: those up to a rank. -/
structure Directive where
  origin : Option String
  rank : Nat
  deriving DecidableEq, Repr

/-- Which records are written. -/
structure LogFilter where
  directives : List Directive
  pattern : Option Pattern := none
  deriving DecidableEq, Repr

namespace LogFilter

/-- The rank that a level word in any case stands for. -/
def rank? (word : List Char) : Option Nat :=
  let word := String.ofList (word.map Char.toLower)
  if word = "off" then some 0
  else if word = "error" then some 1
  else if word = "warn" then some 2
  else if word = "info" then some 3
  else if word = "debug" then some 4
  else if word = "trace" then some 5
  else none

/-- Reads one directive; what is wrong with it otherwise. -/
def directive (cs : List Char) : Except String Directive :=
  let complaint (part : List Char) : String :=
    "invalid logging spec '" ++ String.ofList part ++ "'"
  match Text.pieces (· == '=') cs with
  | [part] =>
    match rank? part with
    | some rank => .ok ⟨none, rank⟩
    | none => .ok ⟨some (String.ofList part), 5⟩
  | [part, level] =>
    let level := Text.trim level
    if level.isEmpty then .ok ⟨some (String.ofList part), 5⟩
    else
      match rank? level with
      | some rank => .ok ⟨some (String.ofList part), rank⟩
      | none => .error (complaint level)
  | _ => .error (complaint cs)

/-- Adds a directive, in place of one for the same origin. -/
def add (directives : List Directive) (d : Directive) : List Directive :=
  if directives.any (·.origin = d.origin) then
    directives.map fun old => if old.origin = d.origin then d else old
  else directives ++ [d]

/-- The length of an origin in bytes; that of no origin is zero. -/
def reach (d : Directive) : Nat :=
  (d.origin.map String.utf8ByteSize).getD 0

/-- Directives in the order in which they are looked at, from the last to the
first: shortest origins first, and one for errors if there are none. -/
def arrange (ds : List Directive) : List Directive :=
  if ds.isEmpty then [⟨none, 1⟩]
  else (ds.foldl add []).mergeSort fun a b => decide (reach a ≤ reach b)

/-- What is wrong with a pattern, in words. -/
def faultText (text : String) : Pattern.Fault → String
  | .malformed =>
    "regex parse error:\n    " ++ text ++ "\nerror: the pattern is malformed"
  | .tooHeavy =>
    "Compiled regex exceeds size limit of " ++
      Number.countText Layout.weightLimit ++ " bytes."
  | .unknownWords => "error building NFA"

/-- Reads a pattern; what is wrong with it otherwise. -/
def readPattern (text : String) : Except String Pattern :=
  (Pattern.read text).mapError fun fault => "invalid regex filter - " ++
    faultText text fault

/-- The complaint in a reading that failed. -/
def complaint? {α : Type} : Except String α → Option String
  | .error text => some text
  | .ok _ => none

/-- Reads a filter; and the first complaint, if there is one. -/
def ofText (text : String) : LogFilter × Option String :=
  match Text.pieces (· == '/') text.toList with
  | _ :: _ :: _ :: _ =>
    (⟨arrange [], none⟩,
      some ("invalid logging spec '" ++ text ++ "' (too many '/'s)"))
  | parts =>
    let specs :=
      ((Text.pieces (· == ',') (parts.headD [])).map Text.trim).filter
        (!·.isEmpty)
    let read := specs.map directive
    let pattern := parts[1]?.map fun cs => readPattern (String.ofList cs)
    (⟨arrange (read.filterMap Except.toOption), pattern.bind Except.toOption⟩,
      (read.findSome? complaint?).or (pattern.bind complaint?))

/-- Whether a record is written. -/
def passes (f : LogFilter) (r : Record) : Bool :=
  let decisive := f.directives.reverse.find? fun d =>
    match d.origin with
    | some origin => origin.toList.isPrefixOf r.origin.toList
    | none => true
  match decisive with
  | some d => r.level.rank ≤ d.rank && f.pattern.all (·.found r.text)
  | none => false

end LogFilter

/-- A record as it is written. What the program itself has to say is written
bare, unless it is a warning or an error. -/
def Record.line (r : Record) : String :=
  if r.origin = Record.outputOrigin ∧ r.level = .info then r.text
  else "[" ++ r.level.word ++ " " ++ r.origin ++ "] " ++ r.text

end DeviceShell
