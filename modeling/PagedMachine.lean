import PagedMachine.Text.Align
import PagedMachine.Text.Blank
import PagedMachine.Text.Numeral
import PagedMachine.Text.CodeRanges
import PagedMachine.Text.Printable
import PagedMachine.Text.GraphemeExtend
import PagedMachine.Text.Quoted
import PagedMachine.Text.Lines
import PagedMachine.Unsigned
import PagedMachine.Word
import PagedMachine.Config
import PagedMachine.LogLevel
import PagedMachine.Cpu.Basic
import PagedMachine.Cpu.Step
import PagedMachine.Cpu.Flat
import PagedMachine.Memory.Physical
import PagedMachine.Memory.Frames
import PagedMachine.Memory.PageTable
import PagedMachine.Swap
import PagedMachine.PidMap
import PagedMachine.Console
import PagedMachine.Program
import PagedMachine.Task.Status
import PagedMachine.Task.Log
import PagedMachine.Task.ControlBlock
import PagedMachine.Task.Scheduler
import PagedMachine.Audit
import PagedMachine.MemoryManager
import PagedMachine.Kernel.Basic
import PagedMachine.Kernel.Inspect
import PagedMachine.Machine
import PagedMachine.Shell.Command
import PagedMachine.Shell.Session
import PagedMachine.Options
import PagedMachine.Main
import PagedMachine.Proofs.Exec
import PagedMachine.Proofs.Table
import PagedMachine.Proofs.Calls
import PagedMachine.Proofs.Queues
import PagedMachine.Proofs.Separation
import PagedMachine.Proofs.KernelQueues
import PagedMachine.Proofs.FrameTable
import PagedMachine.Proofs.Frames
import PagedMachine.Proofs.FrameAudit
import PagedMachine.Proofs.KernelFrames
import PagedMachine.Proofs.FaultLog
import PagedMachine.Proofs.Loads
import PagedMachine.Proofs.FaultProtocol
import PagedMachine.Proofs.KernelFaults
import PagedMachine.Proofs.ReadyOrder
import PagedMachine.Proofs.KernelDispatch
import PagedMachine.Proofs.Slots
import PagedMachine.Proofs.KernelSlots
import PagedMachine.Proofs.Checked
import PagedMachine.Proofs.Watched
import PagedMachine.Proofs.Bounds
import PagedMachine.Proofs.KernelBounds
import PagedMachine.Proofs.KernelChecked
import PagedMachine.Proofs.Lockstep
import PagedMachine.Proofs.Reference
import PagedMachine.Proofs.PageContents
import PagedMachine.Proofs.SaveOrder
import PagedMachine.Proofs.Abort
import PagedMachine.Proofs.FaultHandling
import PagedMachine.Proofs.Termination
import PagedMachine.Proofs.History
import PagedMachine.Proofs.Contexts
import PagedMachine.Proofs.Shadow
import PagedMachine.Proofs.InstructionTable
import PagedMachine.Proofs.Preemption
import PagedMachine.Proofs.ConsoleRead
import PagedMachine.Proofs.DeferredInput
import PagedMachine.Proofs.ProcessCreation
import PagedMachine.Proofs.Unseen
import PagedMachine.Proofs.OrderKept
import PagedMachine.Proofs.FrameSelection
import PagedMachine.Proofs.SwapStore
import PagedMachine.Proofs.LogWindow
import PagedMachine.Proofs.Tokens
import PagedMachine.Proofs.CommandGrammar
import PagedMachine.Proofs.StepMirror
import PagedMachine.Proofs.ConsoleAnswer
import PagedMachine.Proofs.Transparency
