import Chip8.CommandLine.Session
import Chip8.Main
import Chip8.Proofs.CallStack.BoundedList
import Chip8.Proofs.CommandLine.Turns
import Chip8.Proofs.Host.Bookkeeping
import Chip8.Proofs.Host.Recording
import Chip8.Proofs.Host.Tone
import Chip8.Proofs.Interpreter.Addresses
import Chip8.Proofs.Interpreter.Arithmetic
import Chip8.Proofs.Interpreter.Calls
import Chip8.Proofs.Interpreter.ControlFlow
import Chip8.Proofs.Interpreter.Delivery
import Chip8.Proofs.Interpreter.Dialects
import Chip8.Proofs.Interpreter.Drawing
import Chip8.Proofs.Interpreter.Failure
import Chip8.Proofs.Interpreter.Faults
import Chip8.Proofs.Interpreter.Footprint
import Chip8.Proofs.Interpreter.HostActions
import Chip8.Proofs.Interpreter.KeyWait
import Chip8.Proofs.Interpreter.RandomWords
import Chip8.Proofs.Interpreter.Start
import Chip8.Proofs.Interpreter.StoredRegisters
import Chip8.Proofs.Interpreter.Timers
import Chip8.Proofs.Interpreter.Trace
import Chip8.Proofs.Machine.Assembly
import Chip8.Proofs.Raster.LitPixels
import Chip8.Proofs.Raster.Views
import Chip8.Proofs.Terminal.Presses
