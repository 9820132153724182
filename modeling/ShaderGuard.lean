import ShaderGuard.Bytecode.ActiveSets
import ShaderGuard.Bytecode.Constant
import ShaderGuard.Bytecode.Constant.Operation
import ShaderGuard.Bytecode.Enumerant
import ShaderGuard.Bytecode.ExecutionModel
import ShaderGuard.Bytecode.Fingerprint
import ShaderGuard.Bytecode.Instruction
import ShaderGuard.Bytecode.Interface
import ShaderGuard.Bytecode.Interface.Constants
import ShaderGuard.Bytecode.Interface.Functions
import ShaderGuard.Bytecode.Interface.Resources
import ShaderGuard.Bytecode.Interface.Types
import ShaderGuard.Bytecode.Literal
import ShaderGuard.Bytecode.Opcode
import ShaderGuard.Bytecode.Section
import ShaderGuard.Bytecode.SourceLocation
import ShaderGuard.Bytecode.TypeShape
import ShaderGuard.Capabilities
import ShaderGuard.Decimal.Binary32
import ShaderGuard.Decimal.Binary32.Exact
import ShaderGuard.Deferred.Queue
import ShaderGuard.Deferred.Script
import ShaderGuard.Device
import ShaderGuard.Fault
import ShaderGuard.Flags
import ShaderGuard.Handle
import ShaderGuard.Instrumentor.Commands
import ShaderGuard.Instrumentor.Pipelines
import ShaderGuard.Instrumentor.Recording
import ShaderGuard.Instrumentor.Setup
import ShaderGuard.Instrumentor.ShaderObjects
import ShaderGuard.Instrumentor.Shaders
import ShaderGuard.Instrumentor.State
import ShaderGuard.Log
import ShaderGuard.Log.Calendar
import ShaderGuard.Log.Console
import ShaderGuard.Passes.Run
import ShaderGuard.Passes.Toolchain
import ShaderGuard.Pipeline.CreateInfo
import ShaderGuard.Platform
import ShaderGuard.Proofs.Attempts
import ShaderGuard.Proofs.Attribution
import ShaderGuard.Proofs.Audit
import ShaderGuard.Proofs.Batches
import ShaderGuard.Proofs.CachedCode
import ShaderGuard.Proofs.CountedAttempts
import ShaderGuard.Proofs.CounterIdentifiers
import ShaderGuard.Proofs.DebugEncodings
import ShaderGuard.Proofs.DeferredCreation
import ShaderGuard.Proofs.Determinism
import ShaderGuard.Proofs.DeviceSetup
import ShaderGuard.Proofs.DraftFlow
import ShaderGuard.Proofs.Forwarding
import ShaderGuard.Proofs.Frame
import ShaderGuard.Proofs.HeldLibraries
import ShaderGuard.Proofs.HeldModules
import ShaderGuard.Proofs.IdentifierFlow
import ShaderGuard.Proofs.InstructionStream
import ShaderGuard.Proofs.LastingCode
import ShaderGuard.Proofs.LibraryLedger
import ShaderGuard.Proofs.LinkedTree
import ShaderGuard.Proofs.LiteralStrings
import ShaderGuard.Proofs.ModuleLedger
import ShaderGuard.Proofs.Notes
import ShaderGuard.Proofs.NullHandles
import ShaderGuard.Proofs.OfferedCode
import ShaderGuard.Proofs.PassOrder
import ShaderGuard.Proofs.PatchedObjects
import ShaderGuard.Proofs.QueueIndifference
import ShaderGuard.Proofs.RecordedBatch
import ShaderGuard.Proofs.RecreatedLibraries
import ShaderGuard.Proofs.ReentrantQueue
import ShaderGuard.Proofs.RegistryHistory
import ShaderGuard.Proofs.RegistryStore
import ShaderGuard.Proofs.Reports
import ShaderGuard.Proofs.ReservedSlot
import ShaderGuard.Proofs.SelectedShaders
import ShaderGuard.Proofs.Session
import ShaderGuard.Proofs.SharedIdentifiers
import ShaderGuard.Proofs.SlotCollisions
import ShaderGuard.Proofs.SourceLookup
import ShaderGuard.Proofs.SourceReports
import ShaderGuard.Proofs.StageTurns
import ShaderGuard.Proofs.Stages
import ShaderGuard.Proofs.StaysOff
import ShaderGuard.Proofs.SwitchedOff
import ShaderGuard.Proofs.Tables
import ShaderGuard.Proofs.TextLines
import ShaderGuard.Proofs.ToolCalls
import ShaderGuard.Proofs.TruthfulRecords
import ShaderGuard.Proofs.Untouched
import ShaderGuard.Proofs.ValidatedCode
import ShaderGuard.Proofs.VersionVariants
import ShaderGuard.Proofs.Work
import ShaderGuard.Proofs.Words
import ShaderGuard.Registry
import ShaderGuard.Reservation
import ShaderGuard.Sequence
import ShaderGuard.Settings
import ShaderGuard.Simulation.Markers
import ShaderGuard.Simulation.Platform
import ShaderGuard.Simulation.World
import ShaderGuard.Subsystem
import ShaderGuard.Table
import ShaderGuard.Text.Hex
import ShaderGuard.Text.Lines
import ShaderGuard.Text.Utf8
import ShaderGuard.Violation
import ShaderGuard.Vulkan.ActiveSlots
import ShaderGuard.Vulkan.Conversion
import ShaderGuard.Vulkan.Driver
import ShaderGuard.Vulkan.ObjectNames
import ShaderGuard.Vulkan.PhysicalDevice
import ShaderGuard.Vulkan.Result
import ShaderGuard.Vulkan.Session
