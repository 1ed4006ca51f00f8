import RuleTree.CommandLine.Bindings
import RuleTree.Json.Printer

/-!
Contract: a run of the program as a function from its options and surroundings to
what it reports.

Bindings are read first, then a list of the operators is given if that was asked
for, and only then is the expression fetched, read and evaluated. The first thing
that goes wrong ends the run with code 1 and nothing on the standard output.

Owns: the code, the standard output and the failure of a run.
Does not own: the standard error as a whole. Log lines stand there before a failure,
and behind its words the causes that the system or a package gives for it.
-/

namespace RuleTree.CommandLine

/-- What a run can read. A file or an input that is no UTF-8 text, or cannot be
read, is none. -/
structure Environment where
  file? : String → Option String
  input? : Option String

/-- Why a run fails. -/
inductive Failure where
  | binding (error : BindingError)
  | unreadableFile (path : String)
  | unreadableInput
  | notJson
  | evaluation (error : EvalError)
deriving DecidableEq, Repr

/-- The words of the failure itself, without the causes behind them. -/
def Failure.message : Failure → String
  | .binding error => error.message
  | .unreadableFile path => "Error reading file '" ++ path ++ "'"
  | .unreadableInput => "Error reading stdin"
  | .notJson => "expression is not valid JSON"
  | .evaluation error => error.message

/-- Fetch the text of the expression: given, from a file, or from the input. -/
def source? (environment : Environment) (options : Options) : Except Failure String :=
  match options.expression, options.file with
  | some text, _ => .ok text
  | none, some path =>
    match environment.file? path with
    | some text => .ok text
    | none => .error (.unreadableFile path)
  | none, none =>
    match environment.input? with
    | some text => .ok text
    | none => .error .unreadableInput

/-- Whether a run gets as far as fetching its expression. -/
def Options.fetches (options : Options) : Bool :=
  !options.listOperators && (bindings? options.bindings).isOk

/-- The tree that a text stands for. -/
def tree? (source : String) : Except Failure Value :=
  match Json.read? jsonDepth source with
  | none => .error .notJson
  | some document =>
    match Value.decode document with
    | .ok tree => .ok tree
    | .error error => .error (.evaluation error)

/-- The evaluator of a run. -/
def evaluator (bindings : Bindings) (options : Options) : Evaluator Bindings where
  context := bindings
  operators := operators
  limit := options.limit

/-- A value as a line of output. -/
def outputLine (value : Value) : String :=
  Json.print value.encode ++ "\n"

/-- The output of a run with its bindings read. -/
def evaluateSource
    (bindings : Bindings)
    (options : Options)
    (source : String) : Except Failure String :=
  match tree? source with
  | .error failure => .error failure
  | .ok tree =>
    match ((evaluator bindings options).evaluate tree).1 with
    | .ok value => .ok (outputLine value)
    | .error error => .error (.evaluation error)

/-- The output of a run. -/
def output? (environment : Environment) (options : Options) : Except Failure String :=
  match bindings? options.bindings with
  | .error error => .error (.binding error)
  | .ok bindings =>
    if options.listOperators then
      .ok (String.join ((evaluator bindings options).allowedOperators.map (· ++ "\n")))
    else
      match source? environment options with
      | .error failure => .error failure
      | .ok source => evaluateSource bindings options source

/-! ## Reports -/

/-- How a command line ends. -/
structure Report where
  code : Nat
  standardOutput : String
  /-- Why a run failed; none for every other end. -/
  failure : Option Failure
deriving DecidableEq, Repr

/-- The failure of a run in its own words, as the standard error begins to tell it. The causes
behind them are left out. -/
def Report.standardError (report : Report) : String :=
  match report.failure with
  | some failure => "Evaluation failed: " ++ failure.message ++ "\n"
  | none => ""

def versionLine : String := "sexpr 0.1.0\n"

def usage : String :=
  "Usage: sexpr [OPTIONS] [EXPR]\n"

/-- What the program is for, its argument and its options. -/
def help : String :=
  "Evaluate a JSON-encoded S-expression rule\n\n" ++ usage ++
  "\nArguments:\n" ++
  "  [EXPR]  Expression as JSON, e.g. '[\"identity\", \"result\"]'\n" ++
  "\nOptions:\n" ++
  "  -f, --file <FILE>            " ++
    "Read the expression from a file (stdin when neither is given)\n" ++
  "  -s, --set <NAME=VALUE>       " ++
    "Bind a context value, readable with [\"var\", \"NAME\"]\n" ++
  "      --max-depth <MAX_DEPTH>  " ++
    "Maximum nesting of evaluations and macro expansions [default: " ++
    toString defaultLimit ++ "]\n" ++
  "      --list-operators         Print the allowed operators and exit\n" ++
  "  -v, --verbose                Enable verbose output\n" ++
  "  -h, --help                   Print help\n" ++
  "  -V, --version                Print version\n"

def report (environment : Environment) (options : Options) : Report :=
  match output? environment options with
  | .ok output => ⟨0, output, none⟩
  | .error failure => ⟨1, "", some failure⟩

/-- The end of a command line: a run, an answer, or code 2 for one that is refused. -/
def respond (environment : Environment) (arguments : List String) : Report :=
  match request? arguments with
  | none => ⟨2, "", none⟩
  | some .version => ⟨0, versionLine, none⟩
  | some .help => ⟨0, help, none⟩
  | some (.run options) => report environment options

end RuleTree.CommandLine
