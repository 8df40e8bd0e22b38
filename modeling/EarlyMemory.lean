import EarlyMemory.Text.Format
import EarlyMemory.Session
import EarlyMemory.Main
import EarlyMemory.Proofs.Arena.Opening
import EarlyMemory.Proofs.Arena.Ledger
import EarlyMemory.Proofs.Arena.Counters
import EarlyMemory.Proofs.Arena.Tiling
import EarlyMemory.Proofs.Arena.ByteAlignment
import EarlyMemory.Proofs.Arena.AddressSpace
import EarlyMemory.Proofs.Arena.PageAlignment
import EarlyMemory.Proofs.Arena.PageRounding
import EarlyMemory.Proofs.Arena.CommonAlignment
import EarlyMemory.Proofs.Arena.Refusal
import EarlyMemory.Proofs.Arena.Atomicity
import EarlyMemory.Proofs.Arena.Interleaving
import EarlyMemory.Proofs.Arena.Monotonicity
import EarlyMemory.Proofs.Arena.Relocation
import EarlyMemory.Proofs.Arena.Transcript
import EarlyMemory.Proofs.Session.Isolation
import EarlyMemory.Proofs.Session.Refusal
import EarlyMemory.Proofs.Session.Delivery
import EarlyMemory.Proofs.Session.Panic
import EarlyMemory.Proofs.Session.Transcript
import EarlyMemory.Proofs.Arena.Validation
import EarlyMemory.Proofs.Text.Denotation
import EarlyMemory.Proofs.Boot.Outcome
import EarlyMemory.Proofs.Boot.Diagnostics
import EarlyMemory.Proofs.Boot.Blocks
import EarlyMemory.Proofs.Boot.RegionSize
import EarlyMemory.Proofs.Boot.CommandLine
import EarlyMemory.Proofs.Boot.Verbosity
