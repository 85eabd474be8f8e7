import CoreArray.Main
import CoreArray.Proofs.Core.Turn
import CoreArray.Proofs.Core.Progress
import CoreArray.Proofs.Machine.Layout
import CoreArray.Proofs.Machine.Progress
import CoreArray.Proofs.Machine.Reachable
import CoreArray.Proofs.Machine.TickOrder
import CoreArray.Proofs.Machine.Standstill
import CoreArray.Proofs.Machine.Termination
import CoreArray.Proofs.Core.Blocked
import CoreArray.Proofs.Machine.Deadlock
import CoreArray.Proofs.Datapath.Packets
import CoreArray.Proofs.Core.Traffic
import CoreArray.Proofs.Machine.Conservation
import CoreArray.Proofs.Core.Past
import CoreArray.Proofs.Core.InOrder
import CoreArray.Proofs.Core.Interleaving
import CoreArray.Proofs.Results
import CoreArray.Proofs.Task.Lowered
import CoreArray.Proofs.Datapath.Refusals
import CoreArray.Proofs.Task.Faults
import CoreArray.Proofs.Network.Order
import CoreArray.Proofs.Core.Ports
import CoreArray.Proofs.Machine.Occupancy
import CoreArray.Proofs.Network.Routable
import CoreArray.Proofs.Routing.Reach
import CoreArray.Proofs.Network.Arrivals
import CoreArray.Proofs.Routing.Routes
import CoreArray.Proofs.Machine.Routed
import CoreArray.Proofs.Core.Makespan
import CoreArray.Proofs.Core.Choice
import CoreArray.Proofs.Machine.Seeds
import CoreArray.Proofs.Datapath.Footprint
import CoreArray.Proofs.Core.Leaving
import CoreArray.Proofs.Task.OperatorLines
import CoreArray.Proofs.Datapath.Excerpt
import CoreArray.Proofs.Core.Excerpt
import CoreArray.Proofs.Machine.Excerpt
import CoreArray.Proofs.Log.Recording
import CoreArray.Proofs.Machine.Logging
import CoreArray.Proofs.Datapath.Elements
import CoreArray.Proofs.Datapath.Doorbell
import CoreArray.Proofs.Datapath.Origins
import CoreArray.Proofs.Text.Lines
import CoreArray.Proofs.Task.Numbers
import CoreArray.Proofs.Task.SectionOrder
import CoreArray.Proofs.Routing.Ways
import CoreArray.Proofs.Core.Snapshots
import CoreArray.Proofs.Datapath.Receipts
import CoreArray.Proofs.Datapath.Deliveries
import CoreArray.Proofs.Routing.Validation
import CoreArray.Proofs.Routing.Hops
import CoreArray.Proofs.Text.Words
import CoreArray.Proofs.Text.Numerals
import CoreArray.Proofs.Routing.Blocks
import CoreArray.Proofs.Routing.BlankLines
import CoreArray.Proofs.Routing.WrittenBoards
import CoreArray.Proofs.Lists
import CoreArray.Proofs.Task.DataFlow
import CoreArray.Proofs.Task.Destinations
import CoreArray.Proofs.Contraction.Sizes
import CoreArray.Proofs.Contraction.Counts
import CoreArray.Proofs.Contraction.Symmetry
import CoreArray.Proofs.Instruction.Written
import CoreArray.Proofs.Routing.RefusedUpdates
import CoreArray.Proofs.Datapath.Retries
import CoreArray.Proofs.Latency.LastEntries
import CoreArray.Proofs.Log.Creations
