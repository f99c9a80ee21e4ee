/-!
# Arguments of the command line

A line names one command. The configuration file and the level of the log can be given anywhere, the
options of a command after it. An option takes its value from the next argument or after `=`, a short
one also right after its letter; it may be given once on either side of the command, and of both the
later one counts. Inputs may be given many times. Two dashes end the options; as a command takes no
words, nothing may follow them. Asking for the version, in place of a command, ends the line.
-/

namespace TypeGraph.Command

/-- What is to be done. -/
inductive Action where
  /-- Write the modules. -/
  | generate (inputs : List String) (output : Option String)
  /-- Check the configuration. -/
  | check
  /-- Report the roles of the candidates. -/
  | classify (inputs : List String) (asJson : Bool)

/-- An action with the file that configures it. -/
structure Invocation where
  configuration : String
  action : Action

/-- What a line asks for: the version, or an action. -/
inductive Request where
  | version
  | invocation (i : Invocation)

/-- The configuration file when none is given. -/
def defaultConfiguration : String := "tsbridge.toml"

/-- The exit status when the arguments ask for nothing that is known. -/
def unknownStatus : Nat := 2

/-! ## Options -/

/-- What an option sets. -/
inductive Key where
  | configuration
  | logLevel
  | input
  | output
  | json
  | version
  deriving DecidableEq

/-- An argument with its value: a word, or an option. -/
inductive Item where
  | word (text : String)
  | option (key : Key) (value : String)

/-- The options by their long names. -/
def Key.long : List (String × Key) :=
  [("config", .configuration), ("log-level", .logLevel), ("input", .input), ("output", .output),
   ("json", .json), ("version", .version)]

/-- The options by their letters. -/
def Key.short : List (Char × Key) :=
  [('c', .configuration), ('i', .input), ('o', .output), ('V', .version)]

/-- Whether an option stands for a path, which must not be empty. -/
def Key.isPath : Key → Bool
  | .configuration | .input | .output => true
  | .logLevel | .json | .version => false

/-- Whether an option takes a value. -/
def Key.takesValue : Key → Bool
  | .json | .version => false
  | _ => true

/-- An argument as an option, and its value if it is part of the argument. -/
def option? (arg : String) : Option (Key × Option String) :=
  match arg.toList with
  | '-' :: '-' :: name =>
    let text := String.ofList (name.takeWhile (· ≠ '='))
    let value := match name.dropWhile (· ≠ '=') with
      | [] => none
      | _ :: value => some (String.ofList value)
    (Key.long.lookup text).map fun key => (key, value)
  | '-' :: letter :: rest =>
    let value := match rest with
      | [] => none
      | '=' :: value => some (String.ofList value)
      | value => some (String.ofList value)
    (Key.short.lookup letter).map fun key => (key, value)
  | _ => none

/-- Whether an argument can only be an option. -/
def looksLikeOption (arg : String) : Bool := arg.toList.head? == some '-' && arg != "-"

/-- An option with its value. -/
def valued? (key : Key) (value : String) : Option Item :=
  if !key.takesValue || key.isPath && value = "" then none else some (.option key value)

/-- The items of some arguments. Whatever follows the question for the version is not read. -/
def items? : List String → Option (List Item)
  | [] => some []
  | ["--"] => some []
  | arg :: rest =>
    match option? arg with
    | some (.version, none) => some [.option .version ""]
    | some (.json, none) => (items? rest).map (.option .json "" :: ·)
    | some (key, some value) => do
      let item ← valued? key value
      return item :: (← items? rest)
    | some (key, none) =>
      match rest with
      | [] => none
      | value :: rest =>
        if looksLikeOption value then none
        else do
          let item ← valued? key value
          return item :: (← items? rest)
    | none => if looksLikeOption arg then none else (items? rest).map (.word arg :: ·)

/-! ## Lines -/

/-- The values of an option. -/
def valuesOf (key : Key) (items : List Item) : List String :=
  items.filterMap fun
    | .option k value => if k = key then some value else none
    | .word _ => none

/-- Whether some items are options with these keys, and each but inputs is given once at most. -/
def areOptions (keys : List Key) (items : List Item) : Bool :=
  (items.all fun
    | .option key _ => keys.contains key
    | .word _ => false) &&
  keys.all fun key => key = .input || (valuesOf key items).length ≤ 1

/-- The keys that can be given anywhere. -/
def everywhere : List Key := [.configuration, .logLevel]

/-- The action that a command with options stands for. -/
def action? (command : String) (options : List Item) : Option Action :=
  if command = "generate" then
    if areOptions (.input :: .output :: everywhere) options then
      some (.generate (valuesOf .input options) (valuesOf .output options).head?)
    else none
  else if command = "check" then
    if areOptions everywhere options then some .check else none
  else if command = "classify" then
    if areOptions (.input :: .json :: everywhere) options then
      some (.classify (valuesOf .input options) !(valuesOf .json options).isEmpty)
    else none
  else none

/-- Whether an item is a word. -/
def Item.isWord : Item → Bool
  | .word _ => true
  | .option _ _ => false

/-- What the arguments ask for. -/
def Request.ofArguments? (args : List String) : Option Request := do
  let items ← items? args
  let general := items.takeWhile (!·.isWord)
  match items.dropWhile (!·.isWord) with
  | .word command :: options =>
    let action ← action? command options
    if areOptions everywhere general then
      return .invocation {
        configuration :=
          (valuesOf .configuration (general ++ options)).getLast?.getD defaultConfiguration
        action }
    else none
  | _ =>
    if !(valuesOf .version general).isEmpty && areOptions (.version :: everywhere) general then
      return .version
    else none

end TypeGraph.Command
