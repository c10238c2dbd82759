import NandMachine.Main
import NandMachine.Program.Folder
import NandMachine.Debugger.View
import NandMachine.Devices.Keyboard
import NandMachine.Embedded
import NandMachine.Json.Parser
import NandMachine.Proofs.Storage.Calls
import NandMachine.Proofs.Storage.RegisterArray
import NandMachine.Proofs.Storage.TimedBank
import NandMachine.Proofs.Storage.MapBacked
import NandMachine.Proofs.Devices.Screen
import NandMachine.Proofs.Machine.MemoryMap
import NandMachine.Proofs.Logic.Alu
import NandMachine.Proofs.Processor.InstructionSet
import NandMachine.Proofs.Machine.InstructionStore
import NandMachine.Proofs.Machine.Architecture
import NandMachine.Proofs.Machine.Refinement
import NandMachine.Proofs.Machine.EdgeDiscipline
import NandMachine.Proofs.Storage.Staleness
import NandMachine.Proofs.Machine.Staleness
import NandMachine.Proofs.Command.HaltLoop
import NandMachine.Proofs.Assembly.Statement
import NandMachine.Proofs.Machine.Coherence
import NandMachine.Proofs.Assembly.Disassembly
import NandMachine.Proofs.Logic.Digits
import NandMachine.Proofs.Program.Reading
import NandMachine.Proofs.Program.RoundTrip
import NandMachine.Proofs.Command.Run
import NandMachine.Proofs.Debugger.Breakpoints
import NandMachine.Proofs.Machine.Keys
import NandMachine.Proofs.Machine.ShownInstruction
import NandMachine.Proofs.Devices.BankTiming
import NandMachine.Proofs.Machine.Picture
import NandMachine.Proofs.Codec.RoundTrip
import NandMachine.Proofs.Processor.Recurrence
import NandMachine.Proofs.Command.Trap
import NandMachine.Proofs.Storage.FullImage
import NandMachine.Proofs.Debugger.HeldKeys
import NandMachine.Proofs.Machine.SpareWires
import NandMachine.Proofs.Devices.Braille
import NandMachine.Proofs.Program.Image
import NandMachine.Proofs.Logic.BitString
import NandMachine.Proofs.Assembly.Listing
import NandMachine.Proofs.Debugger.CodeWindow
