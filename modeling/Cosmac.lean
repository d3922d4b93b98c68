import Cosmac.Instruction.Encode
import Cosmac.Machine.Order
import Cosmac.Main
import Cosmac.Proofs.Machine.Action
import Cosmac.Proofs.Machine.Guarded
import Cosmac.Proofs.Machine.Safety
import Cosmac.Proofs.Instruction.Form
import Cosmac.Proofs.Machine.Faults
import Cosmac.Proofs.Machine.Reset
import Cosmac.Proofs.Scheduler.Pacing
import Cosmac.Proofs.Frame.Stamps
import Cosmac.Proofs.Machine.Subroutine
import Cosmac.Proofs.Host.KeyHold
import Cosmac.Proofs.Scheduler.Completion
import Cosmac.Proofs.Session.Buzzer
import Cosmac.Proofs.Session.Silence
import Cosmac.Proofs.Machine.Isolation
import Cosmac.Proofs.Machine.Parking
import Cosmac.Proofs.Machine.Addressing
import Cosmac.Proofs.Machine.Recovery
import Cosmac.Proofs.Machine.Index
import Cosmac.Proofs.Machine.Loading
import Cosmac.Proofs.Text.Numeral
import Cosmac.Proofs.Instruction.Assembly
import Cosmac.Proofs.Instruction.Listing
import Cosmac.Proofs.Machine.Tracing
import Cosmac.Proofs.Machine.Writes
import Cosmac.Proofs.Machine.Noninterference
import Cosmac.Proofs.Scheduler.Tallies
import Cosmac.Proofs.Session.Accounting
import Cosmac.Proofs.Machine.Draws
import Cosmac.Proofs.Machine.Forgetting
import Cosmac.Proofs.Machine.Arrivals
import Cosmac.Proofs.Session.Devices
import Cosmac.Proofs.Program.Handover
import Cosmac.Proofs.Frame.Pixels
import Cosmac.Proofs.Machine.Arithmetic
import Cosmac.Proofs.Machine.Transfers
import Cosmac.Proofs.Memory.Placement
import Cosmac.Proofs.Host.Canvas
import Cosmac.Proofs.Text.Address
import Cosmac.Proofs.Memory.Accesses
import Cosmac.Proofs.Machine.CallStack
import Cosmac.Proofs.Host.Intake
