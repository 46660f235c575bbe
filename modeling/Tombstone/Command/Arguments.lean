import Tombstone.Chance
import Tombstone.Collection

/-!
# Command lines

A command line names one of four commands. Options have a value, which stands in the next argument
or behind an equals sign; each may be given once for the command, and the log level also before it.
Arguments are read from left to right: the first one that asks for help or for the version decides,
and so does the first mistake.
-/

namespace Tombstone.Command

/-- How likely viewers come and go: a number that is given as none at all is no chance. -/
abbrev Churn := Option Chance

/-- The options of a simulation. -/
structure SimulateOptions where
  sessions : Nat := 8
  deletions : Nat := 5000
  ticks : Nat := 600
  maxPacketBytes : Nat := 1400
  churn : Churn := some (Chance.ofDecimal 1 2)
  policy : EmptyRegistryPolicy := .forgetAll
  seed : Nat := 42
  deriving DecidableEq, Repr

/-- The options of a live run. -/
structure LiveOptions where
  sessions : Nat := 4
  durationMillis : Nat := 500
  deletionsPerMilli : Nat := 2
  configPath : Option String := none
  deriving DecidableEq, Repr

/-- What can be asked for. -/
inductive Request where
  | simulate (options : SimulateOptions)
  | live (options : LiveOptions)
  | scenarios
  | config
  | help
  | version
  | misuse
  deriving DecidableEq, Repr

/-! ## Values of options -/

/-- A whole number of 64 bits, maybe with a plus sign. -/
def word? (text : String) : Option Nat :=
  let digits := match text.toList with
    | '+' :: rest => rest
    | chars => chars
  if digits.isEmpty || !digits.all Char.isDigit then none
  else
    let number := Nat.ofDigitChars 10 digits 0
    if number < UInt64.size then some number else none

/-- The whole number that digits after an optional sign denote, and whether the sign is a minus. -/
def exponent? (text : List Char) : Option (Bool × Nat) :=
  let (isNegative, digits) := match text with
    | '-' :: rest => (true, rest)
    | '+' :: rest => (false, rest)
    | _ => (false, text)
  if digits.isEmpty || !digits.all Char.isDigit then none
  else some (isNegative, Nat.ofDigitChars 10 digits 0)

/-- The chance for a number written without a sign, at most certain. -/
def magnitude? (text : List Char) : Option Chance := do
  let isExponentMark (char : Char) : Bool := char = 'e' || char = 'E'
  let mantissa := text.takeWhile fun char => !isExponentMark char
  let (isNegative, exponent) ←
    match text.dropWhile fun char => !isExponentMark char with
    | [] => some (false, 0)
    | _ :: rest => exponent? rest
  let whole := mantissa.takeWhile (· ≠ '.')
  let fraction := (mantissa.dropWhile (· ≠ '.')).drop 1
  let digits := whole ++ fraction
  if digits.isEmpty || !digits.all Char.isDigit then none
  else
    let number := Nat.ofDigitChars 10 digits 0
    if isNegative then some (Chance.ofDecimal number (fraction.length + exponent))
    else if number = 0 then some Chance.never
    else if fraction.length ≤ exponent then some Chance.always
    else some (Chance.ofDecimal number (fraction.length - exponent))

/-- A number of any size, taken for a chance: what is below zero is never, what is above one is
always. -/
def churn? (text : String) : Option Churn :=
  let (isNegative, chars) := match text.toList with
    | '-' :: rest => (true, rest)
    | '+' :: rest => (false, rest)
    | chars => (false, chars)
  let word := chars.map Char.toLower
  if word = ['n', 'a', 'n'] then some none
  else
    let size := if word = "inf".toList || word = "infinity".toList then some Chance.always
      else magnitude? chars
    size.map fun chance => some (if isNegative then Chance.never else chance)

def policy? : String → Option EmptyRegistryPolicy
  | "forget-all" => some .forgetAll
  | "retain-all" => some .retainAll
  | _ => none

/-- The path of a file, which is not empty. -/
def path? (text : String) : Option String := if text.isEmpty then none else some text

/-! ## Options -/

/-- An option with a value: its name, and what a value changes; none for a value it cannot have. -/
structure Switch (α : Type) where
  /-- The name, without the hyphens in front. -/
  name : String
  accept : String → α → Option α

/-- An option whose value is read by `read`. -/
def switch {α β : Type} (name : String) (read : String → Option β) (put : β → α → α) : Switch α :=
  { name, accept := fun text options => (read text).map fun value => put value options }

/-- The log level, which any text may give and which changes nothing that is printed here. -/
def logLevel {α : Type} : Switch α :=
  { name := "log-level", accept := fun _ options => some options }

def simulateSwitches : List (Switch SimulateOptions) :=
  [switch "sessions" word? fun sessions options => { options with sessions },
    switch "deletions" word? fun deletions options => { options with deletions },
    switch "ticks" word? fun ticks options => { options with ticks },
    switch "max-packet-bytes" word? fun maxPacketBytes options => { options with maxPacketBytes },
    switch "churn" churn? fun churn options => { options with churn },
    switch "policy" policy? fun policy options => { options with policy },
    switch "seed" word? fun seed options => { options with seed },
    logLevel]

def liveSwitches : List (Switch LiveOptions) :=
  [switch "sessions" word? fun sessions options => { options with sessions },
    switch "duration-ms" word? fun durationMillis options => { options with durationMillis },
    switch "deletions-per-ms" word? fun deletionsPerMilli options =>
      { options with deletionsPerMilli },
    switch "config" path? fun path options => { options with configPath := some path },
    logLevel]

/-! ## Arguments -/

/-- What an argument looks like. -/
inductive Shape where
  /-- An option by name, maybe with a value behind an equals sign. -/
  | long (name : String) (value : Option String)
  /-- An option by letter, which may be followed by others. -/
  | short (letter : Char)
  /-- The mark after which no options come. -/
  | mark
  /-- Anything else. -/
  | plain (text : String)
  deriving DecidableEq, Repr

def shape (argument : String) : Shape :=
  match argument.toList with
  | ['-', '-'] => .mark
  | '-' :: '-' :: rest =>
      match rest.dropWhile (· ≠ '=') with
      | [] => .long (String.ofList rest) none
      | _ :: value => .long (String.ofList (rest.takeWhile (· ≠ '='))) (some (String.ofList value))
  | '-' :: letter :: _ => .short letter
  | _ => .plain argument

/-- Whether an argument can be the value of the option before it. -/
def isValue (argument : String) : Bool :=
  match shape argument with
  | .plain _ => true
  | _ => false

/-- What the options in front of some argument lead to. -/
inductive Outcome (α : Type) where
  | finished (options : α)
  /-- A plain argument follows. -/
  | stopped (options : α) (argument : String) (rest : List String)
  | decided (request : Request)

/-- Takes a value for an option that was not seen before. -/
def takeValue {α : Type} (switches : List (Switch α)) (seen : List String) (options : α)
    (name value : String) : Option (List String × α) :=
  match switches.find? fun switch => switch.name = name with
  | none => none
  | some switch =>
      if seen.contains name then none
      else (switch.accept value options).map fun options => (name :: seen, options)

/-- Reads the options at the front of the arguments. -/
def readOptions {α : Type} (switches : List (Switch α)) (hasVersion : Bool) (seen : List String)
    (options : α) : List String → Outcome α
  | [] => .finished options
  | argument :: rest =>
      match shape argument with
      | .mark => if rest.isEmpty then .finished options else .decided .misuse
      | .plain text => .stopped options text rest
      | .short letter =>
          if letter = 'h' then .decided .help
          else if letter = 'V' && hasVersion then .decided .version
          else .decided .misuse
      | .long "help" none => .decided .help
      | .long "version" none => .decided (if hasVersion then .version else .misuse)
      | .long name (some value) =>
          match takeValue switches seen options name value with
          | none => .decided .misuse
          | some (seen, options) => readOptions switches hasVersion seen options rest
      | .long name none =>
          match rest with
          | [] => .decided .misuse
          | value :: rest =>
              if isValue value then
                match takeValue switches seen options name value with
                | none => .decided .misuse
                | some (seen, options) => readOptions switches hasVersion seen options rest
              else .decided .misuse

/-- Reads the options of a command, which takes no other arguments. -/
def readCommand {α : Type} (switches : List (Switch α)) (start : α) (make : α → Request)
    (arguments : List String) : Request :=
  match readOptions switches false [] start arguments with
  | .finished options => make options
  | .stopped .. => .misuse
  | .decided request => request

def commandNames : List String := ["simulate", "live", "scenarios", "config", "help"]

/-- Reads what help is asked for: the program, or one command. -/
def readTopic : List String → Request
  | [] => .help
  | [name] => if commandNames.contains name then .help else .misuse
  | _ => .misuse

def read (arguments : List String) : Request :=
  match readOptions [logLevel] true [] () arguments with
  | .finished () => .misuse
  | .decided request => request
  | .stopped () command rest =>
      match command with
      | "simulate" => readCommand simulateSwitches {} .simulate rest
      | "live" => readCommand liveSwitches {} .live rest
      | "scenarios" => readCommand [logLevel] () (fun _ => .scenarios) rest
      | "config" => readCommand [logLevel] () (fun _ => .config) rest
      | "help" => readTopic rest
      | _ => .misuse

end Tombstone.Command
