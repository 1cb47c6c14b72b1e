import LimitMonitor.Engine.Operation
import LimitMonitor.Interchange.Records
import LimitMonitor.Proofs.Actionpoint.Arming
import LimitMonitor.Proofs.Actionpoint.Caps
import LimitMonitor.Proofs.Actionpoint.Diagram
import LimitMonitor.Proofs.Actionpoint.Statistics
import LimitMonitor.Proofs.Actionpoint.Threshold
import LimitMonitor.Proofs.Dispatch.Termination
import LimitMonitor.Proofs.Engine.Acceptance
import LimitMonitor.Proofs.Engine.Accounting
import LimitMonitor.Proofs.Engine.Agreement
import LimitMonitor.Proofs.Engine.EverySlot
import LimitMonitor.Proofs.Engine.Ranges
import LimitMonitor.Proofs.Engine.Refusal
import LimitMonitor.Proofs.Engine.Registration
import LimitMonitor.Proofs.Engine.Rehearsal
import LimitMonitor.Proofs.Engine.Reload
import LimitMonitor.Proofs.Engine.Snapshot
import LimitMonitor.Proofs.Engine.Unwatched
import LimitMonitor.Proofs.Engine.Validity
import LimitMonitor.Proofs.Equation.Buffer
import LimitMonitor.Proofs.Equation.Lockstep
import LimitMonitor.Proofs.Event.Truncation
import LimitMonitor.Proofs.Reception.Order
import LimitMonitor.Proofs.Reception.Scan
import LimitMonitor.Proofs.Watchpoint.Complement
import LimitMonitor.Proofs.Watchpoint.Staleness
import LimitMonitor.Proofs.Watchpoint.Statistics
