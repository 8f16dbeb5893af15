import Bytecode.Bytes
import Bytecode.ByteOrder
import Bytecode.Memory.Basic
import Bytecode.Memory.Bits
import Bytecode.BitCursor.Field
import Bytecode.BitCursor.Basic
import Bytecode.BitCursor.Extraction
import Bytecode.Text.Ranges
import Bytecode.Text.CombiningMark
import Bytecode.Text.Ignorable
import Bytecode.Text.Unprintable
import Bytecode.Text.Utf8
import Bytecode.Text.Quoted
import Bytecode.Json.Literal
import Bytecode.Json.Token
import Bytecode.Json.Value
import Bytecode.Stream.Fault
import Bytecode.Stream.Source
import Bytecode.Stream.Medium
import Bytecode.Stream.Script
import Bytecode.Stream.Sink
import Bytecode.FileTree
import Bytecode.LoadError
import Bytecode.Header.Basic
import Bytecode.Header.Json
import Bytecode.Section.Basic
import Bytecode.Section.Json
import Bytecode.Executable.Basic
import Bytecode.Executable.Builder
import Bytecode.Executable.Placement
import Bytecode.Proofs.BitCursor.Invariant
import Bytecode.Proofs.BitCursor.Extraction
import Bytecode.Proofs.BitCursor.Run
import Bytecode.Proofs.BitCursor.Reachable
import Bytecode.Proofs.BitCursor.Calls
import Bytecode.Proofs.BitCursor.Fetching
import Bytecode.Proofs.BitCursor.Equivalence
import Bytecode.Proofs.BitCursor.Exhaustion
import Bytecode.Proofs.BitCursor.Rounds
import Bytecode.Proofs.BitCursor.Laziness
import Bytecode.Proofs.BitCursor.Registers
import Bytecode.Proofs.BitCursor.MachineWords
import Bytecode.Proofs.Memory.History
import Bytecode.Proofs.Memory.Reading
import Bytecode.Proofs.Stream.Source
import Bytecode.Proofs.Stream.Reading
import Bytecode.Proofs.Stream.Writing
import Bytecode.Proofs.Json.Grammar
import Bytecode.Proofs.Json.Written
import Bytecode.Proofs.Header.Codec
import Bytecode.Proofs.Header.Json
import Bytecode.Proofs.Executable.Making
import Bytecode.Proofs.Executable.Loading
import Bytecode.Proofs.Executable.Lifecycle
import Bytecode.Proofs.Executable.Retry
import Bytecode.Proofs.Executable.Reloading
import Bytecode.Proofs.Executable.RoundTrip
import Bytecode.Proofs.Executable.SizeCheck
import Bytecode.Proofs.Executable.Writing
import Bytecode.Proofs.Executable.Placement
