import Tombstone.Command.Screen
import Tombstone.ConfigText

/-!
# The reference scenarios

Three small scenes show what the parts do together: how the slowest session bounds collection, how
ids are split into packets, and what becomes of deletions while nobody is connected. Each is worked
out step by step and judged by what is expected of it.
-/

namespace Tombstone.Command

/-- What a scene shows, and whether it is as expected. -/
structure Scene where
  lines : List Line
  /-- Whether it is as expected. -/
  isGood : Bool
  deriving DecidableEq, Repr

/-- Numbers between commas. -/
def listing (ids : List EntityId) : String :=
  String.intercalate ", " (ids.map fun id => toString id.toNat)

/-- A service on a clock that stands still. -/
def stage (changes : List Config.Change) (now : Nat) : Except ConfigError Service :=
  (Config.build changes).map fun settings =>
    Service.start settings (Clock.manual .direct (Timestamp.ofNat now))

/-- The first scene: the slowest session bounds collection. -/
def slowestSession : Except ConfigError Scene := do
  let service ← stage [.skewTolerance 1] 30
  let x : SessionId := ⟨"X"⟩
  let y : SessionId := ⟨"Y"⟩
  let attached := (service.state.attach x (.ofNat 10) (.ofNat 10)).attach y (.ofNat 20) (.ofNat 20)
  let connected := { attached with transport := attached.transport.register x 16 x.name }
  let recorded := [5, 15, 25].foldl
    (fun (service : Service) time => service.record (.ofNat time) (.ofNat time))
    { service with state := connected }
  let (outcome, service) := recorded.collect
  let watermark := (outcome.watermark.map fun watermark => watermark.value.toNat).getD 0
  let (result, service) := service.flush x
  let sent := Viewer.idsIn (service.state.transport.waiting x.name)
  let cursor := ((service.state.registry.cursor? x).map Timestamp.toNat).getD 0
  let isGood := outcome.removed = 1 && sent = [EntityId.ofNat 15, EntityId.ofNat 25] &&
    result.toOption.map FlushSummary.snapshot = some (Timestamp.ofNat 30)
  return {
    lines := sectionTitle "Scenario A: the slowest session bounds collection" ++
      [step "cursors: X = 10, Y = 20", step "deletions recorded at 5, 15, 25",
        step ("prune at watermark " ++ toString watermark ++ " removed " ++
          toString outcome.removed),
        step ("flush(X) sent [" ++ listing sent ++ "], cursor now " ++ toString cursor)] ++
      verdict isGood "record 5 collected, X told about 15 and 25" "unexpected outcome"
    isGood }

/-- The second scene: five ids, two to a packet. -/
def packetSplit : Except ConfigError Scene := do
  let settings ← Config.build [.maxPacketBytes 45]
  let packets := settings.capacity.pack 0 (.ofNat 1000) (numbersFrom 0)
    ([1, 2, 3, 4, 5].map EntityId.ofNat)
  let isGood := packets.map (fun packet => packet.header.count.toNat) = [2, 2, 1]
  return {
    lines := sectionTitle "Scenario B: five ids, two per packet" ++
      packets.map (fun packet =>
        step ("packet seq " ++ toString packet.header.sequence.toNat ++ " carries " ++
          toString packet.header.count.toNat ++ " id(s), " ++ toString packet.size ++ " bytes")) ++
      verdict isGood "counts are [2, 2, 1]" "unexpected packet split"
    isGood }

/-- How an outcome is summed up in a scene. -/
def summary : CollectionOutcome → String
  | .skipped reason => "skipped (" ++ reason.name ++ ")"
  | .pruned watermark removed _ =>
      "pruned " ++ toString removed ++ " at " ++ watermark.value.display

/-- How a policy is shown in a scene, and the number of records it leaves. -/
def shownPolicy : EmptyRegistryPolicy → String × Nat
  | .forgetAll => ("ForgetAll", 0)
  | .retainAll => ("RetainAll", 2)

/-- What becomes of two deletions under a policy while nobody is connected. -/
def deserted (policy : EmptyRegistryPolicy) : Except ConfigError Scene := do
  let service ← stage [.emptyRegistryPolicy policy] 100
  let recorded := (service.record (.ofNat 1) (.ofNat 40)).record (.ofNat 2) (.ofNat 100)
  let (outcome, service) := recorded.collect
  let remaining := service.state.ledger.size
  let (name, expected) := shownPolicy policy
  return {
    lines := [step (name ++ ": \"" ++ summary outcome ++ "\" -> " ++ toString remaining ++
      " record(s) left")]
    isGood := remaining = expected }

/-- The third scene: nobody is connected. -/
def noSessions : Except ConfigError Scene := do
  let forgetting ← deserted .forgetAll
  let retaining ← deserted .retainAll
  let isGood := forgetting.isGood && retaining.isGood
  return {
    lines := sectionTitle "Scenario C: nobody connected" ++ forgetting.lines ++ retaining.lines ++
      verdict isGood "forget_all drops everything, retain_all keeps it" "unexpected policy outcome"
    isGood }

/-- All scenes under their heading. -/
def scenarios : Except ConfigError Scene := do
  let first ← slowestSession
  let second ← packetSplit
  let third ← noSessions
  return {
    lines := heading "Deletion propagation scenarios" ++ first.lines ++ second.lines ++ third.lines
    isGood := first.isGood && second.isGood && third.isGood }

end Tombstone.Command
