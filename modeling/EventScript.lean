import EventScript.Library
import EventScript.Main
import EventScript.Proofs.Expression.Acceptance
import EventScript.Proofs.Expression.Columns
import EventScript.Proofs.Expression.Balance
import EventScript.Proofs.Token.Onward
import EventScript.Proofs.Machine.Evaluation
import EventScript.Proofs.Program.Checked
import EventScript.Proofs.Program.Run
import EventScript.Proofs.Machine.Sinks
import EventScript.Proofs.World.Passes
import EventScript.Proofs.World.History
import EventScript.Proofs.World.Queue
import EventScript.Proofs.World.Cascades
import EventScript.Proofs.Machine.Moved
import EventScript.Proofs.Program.Joining
import EventScript.Proofs.World.Roster
import EventScript.Proofs.Machine.Hidden
import EventScript.Proofs.Session.Joined
import EventScript.Proofs.Machine.Progress
import EventScript.Proofs.Program.Recognition
import EventScript.Proofs.Token.Pieces
import EventScript.Proofs.Machine.Alone
import EventScript.Proofs.World.Apart
import EventScript.Proofs.Machine.Purity
import EventScript.Proofs.Program.Rejection
import EventScript.Proofs.Machine.Failures
import EventScript.Proofs.World.Confinement
import EventScript.Proofs.World.Departures
import EventScript.Proofs.Play.Sections
import EventScript.Proofs.Play.Performance
import EventScript.Proofs.Memory.Assigned
import EventScript.Proofs.Memory.Changes
import EventScript.Proofs.Machine.Changes
import EventScript.Proofs.Memory.Observation
import EventScript.Proofs.Machine.Assignments
import EventScript.Proofs.Machine.Footprint
import EventScript.Proofs.Machine.LastWrite
import EventScript.Proofs.Machine.Overflow
import EventScript.Proofs.Machine.Stacks
import EventScript.Proofs.Machine.Replay
import EventScript.Proofs.Machine.Restriction
import EventScript.Proofs.Program.Literals
import EventScript.Proofs.Program.Refusals
import EventScript.Proofs.Program.Positions
import EventScript.Proofs.Expression.Calls
import EventScript.Proofs.Program.Misuses
import EventScript.Proofs.Program.Unplaced
import EventScript.Proofs.Program.Separators
import EventScript.Proofs.Event.Names
import EventScript.Proofs.Session.Exchanges
