import Tombstone.Service
import Tombstone.Json.Reader
import Tombstone.Json.Value
import Tombstone.ConfigText
import Tombstone.Simulation.Live
import Tombstone.Simulation.Run
import Tombstone.Main
import Tombstone.Proofs.Backlog
import Tombstone.Proofs.CollectionLeaves
import Tombstone.Proofs.Conservation
import Tombstone.Proofs.CursorHistory
import Tombstone.Proofs.FlushRefusal
import Tombstone.Proofs.LedgerHistory
import Tombstone.Proofs.NothingLost
import Tombstone.Proofs.PacketFilling
import Tombstone.Proofs.PacketFormat
import Tombstone.Proofs.RoundOrder
import Tombstone.Proofs.WindowCollection
import Tombstone.Proofs.CleanRound
import Tombstone.Proofs.FlushTrail
import Tombstone.Proofs.SendAccounting
import Tombstone.Proofs.Mirrors
import Tombstone.Proofs.NonInterference
import Tombstone.Proofs.Queues
import Tombstone.Proofs.SequenceNumbers
import Tombstone.Proofs.CollectionExactness
import Tombstone.Proofs.WatermarkRises
import Tombstone.Proofs.Schedule
import Tombstone.Proofs.BackgroundLoops
import Tombstone.Proofs.Viewers
import Tombstone.Proofs.Books
import Tombstone.Proofs.SimulationConsistency
import Tombstone.Proofs.SlowestSession
import Tombstone.Proofs.LagReport
import Tombstone.Proofs.StallWarnings
import Tombstone.Proofs.PendingCheck
import Tombstone.Proofs.StampedAtCursor
import Tombstone.Proofs.ConfigTexts
import Tombstone.Proofs.JsonGrammar
import Tombstone.Proofs.JsonObjects
import Tombstone.Proofs.JsonWriting
