import RuleTree.Evaluator
import RuleTree.Number.Layout

/-!
Contract: the options of a run, read from the arguments of a command line.

Arguments are read from left to right, one at a time. An option that takes a value
has it attached or waits for it, and then the next argument must not look like an
option. `--` ends the options. Asking for the version or for help answers at once,
so nothing after it is looked at.

Owns: the options, their spelling, and which command lines are refused.
Does not own: what a run does (`CommandLine.Run`).
-/

namespace RuleTree.CommandLine

structure Options where
  /-- The expression itself. -/
  expression : Option String := none
  /-- The file that holds the expression. -/
  file : Option String := none
  /-- The bindings as given, in order. -/
  bindings : List String := []
  maxDepth : Option Nat := none
  listOperators : Bool := false
  verbose : Bool := false
deriving DecidableEq, Repr

def Options.limit (options : Options) : Nat :=
  options.maxDepth.getD defaultLimit

/-- What a command line asks for. -/
inductive Request where
  | run (options : Options)
  | version
  | help
deriving DecidableEq, Repr

/-! ## Names -/

inductive ValueOption where
  | file
  | set
  | maxDepth
deriving DecidableEq, Repr

inductive FlagOption where
  | listOperators
  | verbose
  | version
  | help
deriving DecidableEq, Repr

inductive OptionName where
  | value (option : ValueOption)
  | flag (option : FlagOption)
deriving DecidableEq, Repr

def OptionName.ofLong? : String → Option OptionName
  | "file" => some (.value .file)
  | "set" => some (.value .set)
  | "max-depth" => some (.value .maxDepth)
  | "list-operators" => some (.flag .listOperators)
  | "verbose" => some (.flag .verbose)
  | "version" => some (.flag .version)
  | "help" => some (.flag .help)
  | _ => none

def OptionName.ofShort? : Char → Option OptionName
  | 'f' => some (.value .file)
  | 's' => some (.value .set)
  | 'v' => some (.flag .verbose)
  | 'V' => some (.flag .version)
  | 'h' => some (.flag .help)
  | _ => none

/-! ## Single options -/

/-- A count below `2 ^ 64` in decimal digits, a plus sign allowed. -/
def depth? (text : String) : Option Nat :=
  let digits :=
    match text.toList with
    | '+' :: rest => rest
    | chars => chars
  let value := digitsValue digits
  if digits.isEmpty || !digits.all Char.isDigit || Nat.pow 2 64 ≤ value then none
  else some value

/-- Give an option its value. Only bindings may be given more than once, and the
name of a file is not empty. -/
def Options.assign? (options : Options) (value : String) : ValueOption → Option Options
  | .file =>
    if options.file.isSome || value.isEmpty then none
    else some { options with file := some value }
  | .set => some { options with bindings := options.bindings ++ [value] }
  | .maxDepth =>
    if options.maxDepth.isSome then none
    else (depth? value).map fun depth => { options with maxDepth := some depth }

/-- Take the expression, of which there is one at most. -/
def Options.positional? (options : Options) (value : String) : Option Options :=
  if options.expression.isSome then none else some { options with expression := some value }

/-- Where reading stands after an argument: it has the answer, or it goes on, perhaps
waiting for the value of an option. -/
inductive Progress where
  | answer (request : Request)
  | next (options : Options) (waiting : Option ValueOption)
deriving DecidableEq, Repr

/-- Set a flag, which is given once at most. -/
def Options.flag? (options : Options) : FlagOption → Option Progress
  | .listOperators =>
    if options.listOperators then none
    else some (.next { options with listOperators := true } none)
  | .verbose =>
    if options.verbose then none else some (.next { options with verbose := true } none)
  | .version => some (.answer .version)
  | .help => some (.answer .help)

/-! ## Arguments -/

/-- The part before the first equals sign and the part after it. -/
def splitAtEquals : List Char → List Char × Option (List Char)
  | [] => ([], none)
  | c :: rest =>
    if c = '=' then ([], some rest)
    else
      let (name, value) := splitAtEquals rest
      (c :: name, value)

/-- An argument after its two hyphens. -/
def longOption? (options : Options) (argument : List Char) : Option Progress :=
  let (name, value) := splitAtEquals argument
  match OptionName.ofLong? (String.ofList name), value with
  | some (.value option), some value =>
    (options.assign? (String.ofList value) option).map fun options => .next options none
  | some (.value option), none => some (.next options (some option))
  | some (.flag option), none => options.flag? option
  | _, _ => none

/-- An argument after its one hyphen: flags, and perhaps an option with the rest of
the argument as its value, an equals sign before it being left out. -/
def shortOptions? (options : Options) : List Char → Option Progress
  | [] => some (.next options none)
  | c :: rest =>
    match OptionName.ofShort? c with
    | none => none
    | some (.value option) =>
      if rest.isEmpty then some (.next options (some option))
      else
        let value :=
          match rest with
          | '=' :: value => value
          | value => value
        (options.assign? (String.ofList value) option).map fun options => .next options none
    | some (.flag option) =>
      match options.flag? option with
      | some (.next options none) => shortOptions? options rest
      | progress => progress

/-- One argument. -/
def argument?
    (options : Options)
    (waiting : Option ValueOption)
    (argument : String) : Option Progress :=
  match argument.toList, waiting with
  | '-' :: '-' :: long, none => longOption? options long
  | '-' :: '-' :: _, some _ => none
  | '-' :: c :: short, none => shortOptions? options (c :: short)
  | '-' :: _ :: _, some _ => none
  | _, some option => (options.assign? argument option).map fun options => .next options none
  | _, none => (options.positional? argument).map fun options => .next options none

/-! ## Command lines -/

/-- An expression is given or read from a file, not both. -/
def Options.request? (options : Options) : Option Request :=
  if options.expression.isSome && options.file.isSome then none else some (.run options)

/-- Take arguments that are no options. -/
def positionals? (options : Options) : List String → Option Options
  | [] => some options
  | argument :: rest => (options.positional? argument).bind (positionals? · rest)

def requestFrom? (options : Options) (waiting : Option ValueOption) :
    List String → Option Request
  | [] => if waiting.isSome then none else options.request?
  | argument :: rest =>
    if argument = "--" then
      if waiting.isSome then none
      else (positionals? options rest).bind Options.request?
    else
      match argument? options waiting argument with
      | none => none
      | some (.answer request) => some request
      | some (.next options waiting) => requestFrom? options waiting rest

/-- What a command line asks for; none for one that is refused. -/
def request? (arguments : List String) : Option Request :=
  requestFrom? {} none arguments

end RuleTree.CommandLine
