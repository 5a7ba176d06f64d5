import GestureMode.Host.Table
import GestureMode.Main
import GestureMode.Proofs.Delivery
import GestureMode.Proofs.Polling
import GestureMode.Proofs.InMemory
import GestureMode.Proofs.Pipeline
import GestureMode.Proofs.Agreement
import GestureMode.Proofs.Veto
import GestureMode.Proofs.Quiescence
import GestureMode.Proofs.Footprint
import GestureMode.Proofs.Overflow
import GestureMode.Proofs.Exchange
import GestureMode.Proofs.Calls
import GestureMode.Proofs.Reports
import GestureMode.Proofs.DebugSwitch
import GestureMode.Proofs.Freshness
import GestureMode.Proofs.Attempts
import GestureMode.Proofs.Watching
import GestureMode.Proofs.Resumption
import GestureMode.Proofs.Deadlines
import GestureMode.Proofs.Numerals
import GestureMode.Proofs.CommandValues
import GestureMode.Proofs.Configuration
import GestureMode.Proofs.NodeContent
import GestureMode.Proofs.Updates
import GestureMode.Proofs.PropertyReadings
