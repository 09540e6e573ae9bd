/-!
# Command line options

Options are taken one after the other, and the first thing that settles the
matter does: a request for the version or for help, or a mistake. Single-letter
options may share a dash; one that takes a value takes the rest of its word, if
there is any, and otherwise the next word. No value starts with a dash unless it
is attached or is just that dash. There are no arguments besides options.
-/

namespace DeviceShell

/-- What the program is asked to do when it runs. -/
structure Options where
  config : String := "devsh.toml"
  scriptDir : Option String := none
  commands : List String := []
  demo : Bool := false
  verbosity : Nat := 0
  deriving DecidableEq, Repr

/-- What a command line asks for. -/
inductive Request where
  | run (options : Options)
  | version
  | help
  | mistake
  deriving DecidableEq, Repr

namespace Options

/-- The options that take a value. -/
inductive Valued where
  | config
  | scriptDir
  | command
  deriving DecidableEq, Repr

/-- The options that are just there. -/
inductive Flag where
  | demo
  | verbose
  | version
  | help
  deriving DecidableEq, Repr

/-- Options so far, with the single ones among them that have been given. -/
structure Progress where
  options : Options := {}
  configGiven : Bool := false

/-- Goes on with a word, waits for a value, or is done. -/
inductive Step where
  | next (p : Progress)
  | wants (p : Progress) (o : Valued)
  | done (r : Request)

/-- The option with a long name. -/
def long? (name : String) : Option (Valued ⊕ Flag) :=
  if name = "config" then some (.inl .config)
  else if name = "script-dir" then some (.inl .scriptDir)
  else if name = "command" then some (.inl .command)
  else if name = "demo" then some (.inr .demo)
  else if name = "verbose" then some (.inr .verbose)
  else if name = "version" then some (.inr .version)
  else if name = "help" then some (.inr .help)
  else none

/-- The option with a short name. -/
def short? (name : Char) : Option (Valued ⊕ Flag) :=
  if name = 'c' then some (.inl .command)
  else if name = 'v' then some (.inr .verbose)
  else if name = 'V' then some (.inr .version)
  else if name = 'h' then some (.inr .help)
  else none

/-- Gives an option its value. Paths are given once and are not empty. -/
def give (p : Progress) (o : Valued) (value : String) : Step :=
  match o with
  | .config =>
    if p.configGiven ∨ value.isEmpty then .done .mistake
    else .next { p with
      options := { p.options with config := value }, configGiven := true }
  | .scriptDir =>
    if p.options.scriptDir.isSome ∨ value.isEmpty then .done .mistake
    else .next { p with options := { p.options with scriptDir := some value } }
  | .command =>
    .next { p with
      options := { p.options with commands := p.options.commands ++ [value] } }

/-- Raises a flag. -/
def raise (p : Progress) : Flag → Step
  | .demo =>
    if p.options.demo then .done .mistake
    else .next { p with options := { p.options with demo := true } }
  | .verbose =>
    .next { p with
      options := { p.options with verbosity := p.options.verbosity + 1 } }
  | .version => .done .version
  | .help => .done .help

/-- A word after two dashes: the name and the value attached to it, if any. -/
def takeLong (p : Progress) (cs : List Char) : Step :=
  let name := String.ofList (cs.takeWhile (· ≠ '='))
  match long? name, cs.dropWhile (· ≠ '=') with
  | some (.inl o), [] => .wants p o
  | some (.inl o), _ :: value => give p o (String.ofList value)
  | some (.inr flag), [] => raise p flag
  | _, _ => .done .mistake

/-- The letters after one dash. -/
def takeShort (p : Progress) : List Char → Step
  | [] => .next p
  | c :: rest =>
    match short? c with
    | some (.inl o) =>
      match rest with
      | [] => .wants p o
      | '=' :: value => give p o (String.ofList value)
      | value => give p o (String.ofList value)
    | some (.inr flag) =>
      match raise p flag with
      | .next p => takeShort p rest
      | step => step
    | none => .done .mistake

/-- Whether a word can be the value of the option before it. -/
def isValue (word : String) : Bool :=
  word.toList.head? ≠ some '-' || word = "-"

/-- Takes a word that is not the value of an option. -/
def take (p : Progress) (word : String) : Step :=
  match word.toList with
  | '-' :: '-' :: name => takeLong p name
  | '-' :: c :: letters => takeShort p (c :: letters)
  | _ => .done .mistake

/-- Takes all words; `waiting` is the option that has no value yet. -/
def readFrom (p : Progress) (waiting : Option Valued) : List String → Request
  | [] => if waiting.isSome then .mistake else .run p.options
  | word :: rest =>
    let step :=
      match waiting with
      | some o => if isValue word then give p o word else .done .mistake
      | none =>
        if word = "--" then
          .done (if rest.isEmpty then .run p.options else .mistake)
        else take p word
    match step with
    | .next p => readFrom p none rest
    | .wants p o => readFrom p (some o) rest
    | .done request => request

/-- Reads a command line. -/
def read (words : List String) : Request :=
  readFrom {} none words

end Options

end DeviceShell
