import DeviceShell.Command.Basic
import DeviceShell.Text.Blank

/-!
# Reading a line

A device line is an id, and after the first dot the operation. Which of the
operations it is depends on one question, asked before all others: is there an
equals sign that stands outside all parentheses? If so, the first such sign
makes the line an assignment, whatever else it contains. Parentheses are
counted without regard to quotes, and one that closes nothing is ignored. With
no such sign, a member name without dots and parentheses is read, and anything
else is called.

The four built-in words are recognised only as they stand, so a line is trimmed
before it is classified if blanks around a word should not matter. Every other
form does its own trimming.
-/

namespace DeviceShell.Command

/-- Splits a text at its first equals sign that is outside the parentheses,
`depth` of which are open already. -/
def splitAssignment : Nat → List Char → Option (List Char × List Char)
  | _, [] => none
  | depth, c :: rest =>
    if c = '=' ∧ depth = 0 then some ([], rest)
    else
      let depth := if c = '(' then depth + 1 else if c = ')' then
        depth - 1 else depth
      (splitAssignment depth rest).map fun (left, right) => (c :: left, right)

/-- The text between the parentheses of a call, given what follows its name:
up to the last closing parenthesis, or to the end if there is none. -/
def argumentText : List Char → List Char
  | [] => []
  | _ :: rest =>
    if ')' ∈ rest then ((rest.reverse.dropWhile (· ≠ ')')).drop 1).reverse
    else rest

/-- The arguments in a text, separated by commas; empty ones are skipped, and
the first one that is no literal is the failure. -/
def readArguments (text : List Char) : Except Failure (List Literal) :=
  (Text.listItems text).mapM fun token => Literal.read (String.ofList token)

/-- The operation after the first dot of a line; none if it names no member. -/
def readOperation (body : List Char) : Except Failure (Option Operation) :=
  match splitAssignment 0 body with
  | some (left, right) =>
    let name := Text.trim left
    .ok (if name.isEmpty then none
      else some (.set (String.ofList name) (String.ofList (Text.trim right))))
  | none =>
    if '.' ∉ body ∧ '(' ∉ body then
      let name := Text.trim body
      .ok (if name.isEmpty then none else some (.get (String.ofList name)))
    else
      let method := Text.trim (body.takeWhile (· ≠ '('))
      if method.isEmpty then .ok none
      else
        (readArguments (argumentText (body.dropWhile (· ≠ '(')))).map
          fun args => some (.call (String.ofList method) args)

/-- The id a line begins with: what stands before the first dot, or the whole
line if there is none, trimmed. -/
def identifier (line : String) : String :=
  String.ofList (Text.trim (line.toList.takeWhile (· ≠ '.')))

/-- Reads a line as an operation on a device. -/
def readDeviceLine (line : String) : Except Failure Command :=
  let id := identifier line
  if id.isEmpty then .ok .unrecognized
  else
    match line.toList.dropWhile (· ≠ '.') with
    | [] => .ok (.device id .describe)
    | _ :: body =>
      (readOperation body).map fun
        | some operation => .device id operation
        | none => .unrecognized

/-- The built-in command that a word is. -/
def builtin? (line : String) : Option Command :=
  if line = "exit" then some .exit
  else if line = "devices" then some .devices
  else if line = "tasks" then some .tasks
  else if line = "help" then some .help
  else none

/-- Reads a line made of words: a load with any number of them, a lifecycle
order with exactly two. -/
def ofWords? : List String → Option Command
  | [] => none
  | keyword :: rest =>
    if keyword = "load" then some (.load (rest.headD "") rest.tail)
    else
      match Lifecycle.ofWord? keyword, rest with
      | some order, [id] => some (.lifecycle order id)
      | _, _ => none

/-- Reads a line. -/
def classify (line : String) : Except Failure Command :=
  match builtin? line with
  | some command => .ok command
  | none =>
    match ofWords? ((Text.words line.toList).map String.ofList) with
    | some command => .ok command
    | none => readDeviceLine line

end DeviceShell.Command
