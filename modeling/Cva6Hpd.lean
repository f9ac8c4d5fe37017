import Cva6Hpd.Ariane.Pkg
import Cva6Hpd.CacheSubsystem.AmoHandshake
import Cva6Hpd.CacheSubsystem.AxiArbiter.Account
import Cva6Hpd.CacheSubsystem.AxiArbiter.Core
import Cva6Hpd.CacheSubsystem.AxiArbiter.Pairing
import Cva6Hpd.CacheSubsystem.AxiArbiter.Progress
import Cva6Hpd.CacheSubsystem.AxiShim
import Cva6Hpd.CacheSubsystem.IcacheAxiWrapper
import Cva6Hpd.CacheSubsystem.IfAdapter
import Cva6Hpd.CacheSubsystem.WtAxiAdapter.Atomics
import Cva6Hpd.CacheSubsystem.WtAxiAdapter.Core
import Cva6Hpd.CacheSubsystem.WtAxiAdapter.Ordinary
import Cva6Hpd.CacheSubsystem.WtAxiAdapter.Pairing
import Cva6Hpd.CacheSubsystem.WtAxiAdapter.Runs
import Cva6Hpd.CacheSubsystem.WtAxiAdapter.Wiring
import Cva6Hpd.Commit.Dual
import Cva6Hpd.Commit.Stage
import Cva6Hpd.Common.Arbiter
import Cva6Hpd.Common.BoundedQueue
import Cva6Hpd.Common.DataDownsize
import Cva6Hpd.Common.DataResize
import Cva6Hpd.Common.DataUpsize
import Cva6Hpd.Common.FifoReg
import Cva6Hpd.Common.FifoV3
import Cva6Hpd.Common.FifoVariants
import Cva6Hpd.Common.HpdcacheFifo
import Cva6Hpd.Common.Lzc
import Cva6Hpd.Common.Ring
import Cva6Hpd.Common.RoundRobin
import Cva6Hpd.Common.Sram
import Cva6Hpd.Common.SyncBuffer
import Cva6Hpd.Common.WidthConversion
import Cva6Hpd.Csr.Access
import Cva6Hpd.Csr.Atomicity
import Cva6Hpd.Csr.DebugEntry
import Cva6Hpd.Csr.EffectivePrivilege
import Cva6Hpd.Csr.Frames
import Cva6Hpd.Csr.InterruptPipeline
import Cva6Hpd.Csr.InterruptSelection
import Cva6Hpd.Csr.Interrupts
import Cva6Hpd.Csr.PmpLocks
import Cva6Hpd.Csr.Read
import Cva6Hpd.Csr.Regfile
import Cva6Hpd.Csr.Registers
import Cva6Hpd.Csr.RoundTrip
import Cva6Hpd.Csr.Transparency
import Cva6Hpd.Csr.Trap
import Cva6Hpd.Csr.Types
import Cva6Hpd.Csr.Write
import Cva6Hpd.Decode.Expansion
import Cva6Hpd.Decode.Hart
import Cva6Hpd.Decode.IssueRegister
import Cva6Hpd.Decode.Macro
import Cva6Hpd.Decode.MacroWidth
import Cva6Hpd.Decode.StackRoundTrip
import Cva6Hpd.Decode.Zcmt
import Cva6Hpd.Execute.Branch
import Cva6Hpd.Execute.BranchUnit
import Cva6Hpd.Execute.Division
import Cva6Hpd.Execute.Fence
import Cva6Hpd.Execute.FixedLatency
import Cva6Hpd.Execute.Multiplier
import Cva6Hpd.Execute.Serdiv
import Cva6Hpd.Execute.SerdivWidth
import Cva6Hpd.Execute.WriteBack
import Cva6Hpd.Frontend.Fetch
import Cva6Hpd.Frontend.FetchPorts
import Cva6Hpd.Frontend.InstrQueue
import Cva6Hpd.Frontend.InstrScan
import Cva6Hpd.Frontend.QueueBlock
import Cva6Hpd.Frontend.QueueOrder
import Cva6Hpd.Frontend.Realign
import Cva6Hpd.Hpdcache.Cmo
import Cva6Hpd.Hpdcache.CoreArbiter
import Cva6Hpd.Hpdcache.Ctrl
import Cva6Hpd.Hpdcache.CtrlPe
import Cva6Hpd.Hpdcache.Flush
import Cva6Hpd.Hpdcache.FlushPath.Beats
import Cva6Hpd.Hpdcache.FlushPath.Core
import Cva6Hpd.Hpdcache.FlushPath.Lines
import Cva6Hpd.Hpdcache.FlushPath.Runs
import Cva6Hpd.Hpdcache.FlushPath.Writebacks
import Cva6Hpd.Hpdcache.MemReqWrite.Arbiter
import Cva6Hpd.Hpdcache.MemReqWrite.Bursts
import Cva6Hpd.Hpdcache.Memctrl
import Cva6Hpd.Hpdcache.Memctrl.Agents
import Cva6Hpd.Hpdcache.Memctrl.Data
import Cva6Hpd.Hpdcache.Memctrl.Directory
import Cva6Hpd.Hpdcache.Memctrl.Exclusive
import Cva6Hpd.Hpdcache.Memctrl.Lines
import Cva6Hpd.Hpdcache.MissHandler
import Cva6Hpd.Hpdcache.Mshr
import Cva6Hpd.Hpdcache.Pipeline
import Cva6Hpd.Hpdcache.Pkg
import Cva6Hpd.Hpdcache.Refill.Account
import Cva6Hpd.Hpdcache.Refill.Assembly
import Cva6Hpd.Hpdcache.Refill.Bursts
import Cva6Hpd.Hpdcache.Refill.Core
import Cva6Hpd.Hpdcache.Refill.Data
import Cva6Hpd.Hpdcache.Refill.Progress
import Cva6Hpd.Hpdcache.Refill.Slots
import Cva6Hpd.Hpdcache.Rtab.Core
import Cva6Hpd.Hpdcache.Rtab.Lists
import Cva6Hpd.Hpdcache.Rtab.Wakeup
import Cva6Hpd.Hpdcache.Scrubber
import Cva6Hpd.Hpdcache.Stage1
import Cva6Hpd.Hpdcache.System.Cycle
import Cva6Hpd.Hpdcache.System.Replay
import Cva6Hpd.Hpdcache.Top
import Cva6Hpd.Hpdcache.Uncached.Agreement
import Cva6Hpd.Hpdcache.Uncached.Amo
import Cva6Hpd.Hpdcache.Uncached.Core
import Cva6Hpd.Hpdcache.Uncached.Errors
import Cva6Hpd.Hpdcache.Uncached.Reservation
import Cva6Hpd.Hpdcache.Uncached.Transaction
import Cva6Hpd.Hpdcache.VictimSel
import Cva6Hpd.Hpdcache.Wbuf.Buffers
import Cva6Hpd.Hpdcache.Wbuf.Conservation
import Cva6Hpd.Hpdcache.Wbuf.Core
import Cva6Hpd.Hpdcache.Wbuf.Drain
import Cva6Hpd.Hpdcache.Wbuf.Invariant
import Cva6Hpd.Hpdcache.Wbuf.Merge
import Cva6Hpd.Hpdcache.WriteIds.Core
import Cva6Hpd.Hpdcache.WriteIds.Unique
import Cva6Hpd.Hw.Bits
import Cva6Hpd.Hw.Bytes
import Cva6Hpd.Hw.Diagonal
import Cva6Hpd.Hw.InFlight
import Cva6Hpd.Hw.Ledger
import Cva6Hpd.Hw.Machine
import Cva6Hpd.Hw.Restoring
import Cva6Hpd.Hw.Slice
import Cva6Hpd.Hw.Threaded
import Cva6Hpd.Hw.ToggleTree
import Cva6Hpd.Hw.Writes
import Cva6Hpd.HwpfStride.Engine
import Cva6Hpd.HwpfStride.Inflight
import Cva6Hpd.HwpfStride.Sequence
import Cva6Hpd.HwpfStride.Snoop
import Cva6Hpd.HwpfStride.Wrapper
import Cva6Hpd.Icache.Coherence
import Cva6Hpd.Icache.Control
import Cva6Hpd.Icache.Core
import Cva6Hpd.Icache.Fetch
import Cva6Hpd.Icache.Lookup
import Cva6Hpd.Icache.Plru
import Cva6Hpd.Icache.Replacement
import Cva6Hpd.Icache.Response
import Cva6Hpd.Icache.Uniqueness
import Cva6Hpd.Issue.Hazards
import Cva6Hpd.Lsu.AmoBuffer
import Cva6Hpd.Lsu.AmoCommit
import Cva6Hpd.Lsu.Control
import Cva6Hpd.Lsu.DataPath
import Cva6Hpd.Lsu.LoadBuffer
import Cva6Hpd.Lsu.LoadConservation
import Cva6Hpd.Lsu.LoadOrder
import Cva6Hpd.Lsu.LoadStoreUnit
import Cva6Hpd.Lsu.LoadUnit
import Cva6Hpd.Lsu.StoreBuffer
import Cva6Hpd.Lsu.StoreOrder
import Cva6Hpd.Lsu.StoreQueues
import Cva6Hpd.Lsu.StoreUnit
import Cva6Hpd.Lsu.Types
import Cva6Hpd.Mmu.Checks
import Cva6Hpd.Mmu.Descent
import Cva6Hpd.Mmu.EarlyPage
import Cva6Hpd.Mmu.Fencing
import Cva6Hpd.Mmu.Isolation
import Cva6Hpd.Mmu.Match
import Cva6Hpd.Mmu.Pairing
import Cva6Hpd.Mmu.Permission
import Cva6Hpd.Mmu.Priority
import Cva6Hpd.Mmu.Ptw
import Cva6Hpd.Mmu.Replacement
import Cva6Hpd.Mmu.Report
import Cva6Hpd.Mmu.SharedTlb
import Cva6Hpd.Mmu.SingleHit
import Cva6Hpd.Mmu.Tables
import Cva6Hpd.Mmu.Tlb
import Cva6Hpd.Mmu.Types
import Cva6Hpd.Mmu.Unit
import Cva6Hpd.Mmu.Walk
import Cva6Hpd.Pipeline.Core
import Cva6Hpd.Pipeline.WrongPath
import Cva6Hpd.Pmp.Decision
import Cva6Hpd.Pmp.Entry
import Cva6Hpd.Pmp.ReadBack
import Cva6Hpd.Prefetcher.Domino
import Cva6Hpd.Prefetcher.Grounding
import Cva6Hpd.Prefetcher.Predictions
import Cva6Hpd.Scoreboard.Core
import Cva6Hpd.Scoreboard.Entries
import Cva6Hpd.Scoreboard.Pair
import Cva6Hpd.Scoreboard.Window
import Cva6Hpd.SerialDivider.Core
import Cva6Hpd.SerialDivider.Division
import Cva6Hpd.SerialDivider.Instructions
import Cva6Hpd.SerialDivider.Runs
