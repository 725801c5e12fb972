import VVNZRunner.Library.Runs
import VVNZRunner.Library.ByteMemory
import VVNZRunner.Library.Granule
import VVNZRunner.Library.Mep
import VVNZRunner.Library.Scan
import VVNZRunner.Library.Cells
import VVNZRunner.Library.Matching
import VVNZRunner.Platform
import VVNZRunner.World
import VVNZRunner.Memory
import VVNZRunner.CodecEngineBridge
import VVNZRunner.Elf
import VVNZRunner.Main
import VVNZRunner.Machine
import VVNZRunner.Outcomes
import VVNZRunner.SectionScan
import VVNZRunner.Spram
import VVNZRunner.Frame
import VVNZRunner.Mappings
import VVNZRunner.Session
import VVNZRunner.CommHeap
import VVNZRunner.LoaderWindow
import VVNZRunner.Blocking
import VVNZRunner.References
import VVNZRunner.UnmapRange
import VVNZRunner.Clock
import VVNZRunner.FreshStart
import VVNZRunner.Crt0
import VVNZRunner.CallBlock
import VVNZRunner.CallRegion
import VVNZRunner.KernelStack
import VVNZRunner.UnmapMemory
import VVNZRunner.Library.SharedBuffer
import VVNZRunner.Interleaving
import VVNZRunner.BootStub
import VVNZRunner.ImageBounds
import VVNZRunner.ImageFrame
import VVNZRunner.Ownership
import VVNZRunner.Library.WordArray
import VVNZRunner.DrawFont
import VVNZRunner.HelloDraw
import VVNZRunner.RenderLoop
import VVNZRunner.Library.Cache
import VVNZRunner.StepLog
import VVNZRunner.SuspendLock
import VVNZRunner.Coherence
import VVNZRunner.UnmapCache
import VVNZRunner.Library.Monitor
import VVNZRunner.ResetProtocol
import VVNZRunner.InjectRace
import VVNZRunner.ImageEntry
import VVNZRunner.Library.Erasure
import VVNZRunner.Bystander
import VVNZRunner.PartialStart
import VVNZRunner.Util
import VVNZRunner.ArmMain
import VVNZRunner.CodeBlock
import VVNZRunner.WholeSample
