import Tombstone.Simulation.Live
import Tombstone.Simulation.Run

/-!
# What is shown on the screen

Headings, tables and verdicts. The running time is not known to what makes the lines, so its line
stands for itself.
-/

namespace Tombstone.Command

/-- A line on the screen. -/
inductive Line where
  | text (content : String)
  /-- The line of a table with the running time. -/
  | runningTime
  deriving DecidableEq, Repr

/-- A character written a number of times. -/
def repeated (char : Char) (count : Nat) : String := String.ofList (List.replicate count char)

/-- A text with blanks in front, so that it is at least `width` characters wide. -/
def alignRight (width : Nat) (text : String) : String := repeated ' ' (width - text.length) ++ text

/-- A text with blanks behind, so that it is at least `width` characters wide. -/
def alignLeft (width : Nat) (text : String) : String := text ++ repeated ' ' (width - text.length)

/-- A heading between bars. -/
def heading (text : String) : List Line :=
  [.text "", .text (repeated '═' 60), .text ("  " ++ text), .text (repeated '═' 60)]

def sectionTitle (text : String) : List Line := [.text "", .text ("▸ " ++ text)]

def step (text : String) : Line := .text ("  • " ++ text)

def verdict (isGood : Bool) (good bad : String) : List Line :=
  [.text "", .text (if isGood then "  ✓ " ++ good else "  ✗ " ++ bad)]

def row (label : String) (value : String) : String :=
  "║  " ++ alignLeft 27 label ++ alignRight 30 value ++ " ║"

/-- A table of numbers with the running time below them. -/
def table (title : String) (rows : List (String × Nat)) : List Line :=
  [.text "", .text ("╔" ++ repeated '═' 60 ++ "╗"), .text ("║" ++ alignLeft 60 title ++ "║"),
    .text ("╠" ++ repeated '═' 60 ++ "╣")] ++
  rows.map (fun entry => .text (row entry.1 (toString entry.2))) ++
  [.runningTime, .text ("╚" ++ repeated '═' 60 ++ "╝")]

/-- A number with at least three digits. -/
def threeDigits (number : Nat) : String :=
  repeated '0' (3 - (toString number).length) ++ toString number

/-- The text of a line, given the running time in milliseconds. -/
def Line.render (millis : Nat) : Line → String
  | .text content => content
  | .runningTime =>
      row "Total Time:" (toString (millis / 1000) ++ "." ++ threeDigits (millis % 1000) ++ "s")

def simulationTable (report : Simulation.Report) : List Line :=
  table "              Deletion Simulation Statistics"
    [("Sessions:", report.sessions), ("Ticks:", report.ticks),
      ("Deletions Recorded:", report.deletionsRecorded), ("Flushes:", report.tally.flushes),
      ("Flush Failures:", report.tally.failures), ("Packets Sent:", report.tally.packetsSent),
      ("Bytes Sent:", report.tally.bytesSent), ("Ids Delivered:", report.tally.delivered),
      ("Duplicate Ids (skew):", report.tally.duplicates),
      ("Reconnects:", report.tally.reconnects), ("Prune Ticks:", report.pruneTicks),
      ("Records Pruned:", report.recordsPruned), ("Ledger Remaining:", report.ledgerRemaining),
      ("Missing Deletions:", report.missing)]

def liveTable (report : LiveRun.Report) : List Line :=
  table "              Live Service Statistics"
    [("Sessions:", report.sessions), ("Deletions Recorded:", report.deletionsRecorded),
      ("Fewest Ids Received:", report.minReceived), ("Records Pruned:", report.recordsPruned),
      ("Ledger Remaining:", report.ledgerRemaining), ("Missing Deletions:", report.missing)]

end Tombstone.Command
