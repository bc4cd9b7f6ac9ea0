import Chip8.Main
import Chip8.Proofs.Command.Assembling
import Chip8.Proofs.Disassembly.Listing
import Chip8.Proofs.Display.Superposition
import Chip8.Proofs.Emulator.Calculations
import Chip8.Proofs.Emulator.Failures
import Chip8.Proofs.Emulator.KeyWait
import Chip8.Proofs.Emulator.Reference
import Chip8.Proofs.Emulator.Reset
import Chip8.Proofs.Emulator.Resumption
import Chip8.Proofs.Emulator.Sprites
import Chip8.Proofs.Emulator.Subroutines
import Chip8.Proofs.Emulator.Tracing
import Chip8.Proofs.Emulator.Transfers
import Chip8.Proofs.Frame.Pauses
import Chip8.Proofs.Frame.Pumping
import Chip8.Proofs.Instruction.Codec
import Chip8.Proofs.Memory.Dumps
import Chip8.Proofs.Program.Appending
import Chip8.Proofs.Program.Loading
import Chip8.Proofs.Program.Reprinting
import Chip8.Proofs.Program.Respelling
import Chip8.Proofs.Program.Reuse
import Chip8.Proofs.Program.Rows
