import Tombstone.Command.Arguments
import Tombstone.Command.Scenarios

/-!
# Executing commands

What a request shows and the exit status it leads to: zero when all is well, one when a run is not
as it should be or its configuration is refused, two for a mistake in the command line, and 101 for
a chance that is none and for a run that is too large. The text of a configuration is handed in by
whoever can read files.
-/

namespace Tombstone.Command

/-- What a request leads to. -/
structure Result where
  exit : Nat
  lines : List Line
  deriving DecidableEq, Repr

def exitOf (isGood : Bool) : Nat := if isGood then 0 else 1

/-- The exit status of what cannot be carried out at all. -/
def impossible : Nat := 101

/-- The exit status of a run that is not made. -/
def exitOfError : RunError → Nat
  | .config _ => 1
  | .tooLarge => impossible

/-- The parameters of a simulation with some chance. -/
def SimulateOptions.plan (options : SimulateOptions) (churn : Chance) : Simulation.Plan :=
  { sessions := options.sessions
    deletions := options.deletions
    ticks := options.ticks
    maxPacketBytes := UInt64.ofNat options.maxPacketBytes
    churn
    policy := options.policy }

/-- Executes a simulation. With viewers, a chance that is none cannot be drawn. -/
def simulate (options : SimulateOptions) : Result :=
  let title := heading "Deterministic deletion simulation"
  let plan := options.plan (options.churn.getD Chance.never)
  match plan.check with
  | .error error => { exit := exitOfError error, lines := title }
  | .ok settings =>
      if options.churn.isNone && options.sessions ≠ 0 then { exit := impossible, lines := title }
      else
        let report := Simulation.runWith Generator.source plan settings
          (Generator.ofSeed (UInt64.ofNat options.seed))
        { exit := exitOf report.isComplete
          lines := title ++ simulationTable report ++
            verdict report.isComplete
              "every connected session saw every deletion since it attached"
              "some deletions never reached a session" }

/-- The configuration of a live run: the default one, or the checked one of a text. -/
def liveConfig (configText : Option (Option String)) : Except ConfigError Config :=
  match configText with
  | none => .ok {}
  | some none => .error (.unreadable .cutOff)
  | some (some text) => (Config.readSettings text).map Settings.config

def live (options : LiveOptions) (configText : Option (Option String)) : Result :=
  let title := heading "Live service run"
  let plan : LiveRun.Plan :=
    { sessions := options.sessions
      duration := options.durationMillis
      deletionsPerMilli := options.deletionsPerMilli }
  let report := do
    let config ← (liveConfig configText).mapError RunError.config
    LiveRun.run plan config
  match report with
  | .error error => { exit := exitOfError error, lines := title }
  | .ok report =>
      { exit := exitOf report.isComplete
        lines := title ++ liveTable report ++
          verdict report.isComplete "all sessions received every deletion"
            "deliveries went missing" }

def linesOf (text : String) : List Line := (text.splitOn "\n").map .text

/-- The path of the configuration that a request needs. -/
def neededPath : Request → Option String
  | .live options => options.configPath
  | _ => none

def helpLines : List Line :=
  [.text "Deletion propagation and tombstone collection for entity servers", .text "",
    .text "Usage: sexton [OPTIONS] <COMMAND>", .text "",
    .text "Commands:",
    .text "  simulate   Deterministic run: sessions with different paces, churn, periodic pruning",
    .text "  live       Run the spawned dispatch and prune loops against the system clock",
    .text "  scenarios  Walk through the reference scenarios step by step",
    .text "  config     Print the default configuration as JSON",
    .text "  help       Print this message or the help of the given subcommand(s)"]

/-- Executes a request. The text of the configuration that it needs is given, or none if the file
cannot be read. -/
def execute (request : Request) (configText : Option String) : Result :=
  match request with
  | .simulate options => simulate options
  | .live options => live options (options.configPath.map fun _ => configText)
  | .scenarios =>
      match scenarios with
      | .ok scene => { exit := exitOf scene.isGood, lines := scene.lines }
      | .error _ => { exit := 1, lines := heading "Deletion propagation scenarios" }
  | .config => { exit := 0, lines := linesOf ({} : Config).pretty }
  | .help => { exit := 0, lines := helpLines }
  | .version => { exit := 0, lines := [.text "sexton 0.1.0"] }
  | .misuse => { exit := 2, lines := [] }

end Tombstone.Command
