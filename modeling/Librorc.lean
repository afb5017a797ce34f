import Librorc.Lib.ActionSystem
import Librorc.Lib.Segments
import Librorc.Dma.Device
import Librorc.Dma.Buffer
import Librorc.Dma.Channel
import Librorc.Dma.Compose
import Librorc.Dma.Configure
import Librorc.Dma.EntryCount
import Librorc.Dma.Pointers
import Librorc.Event.Delivery
import Librorc.Dma.RunState
import Librorc.Event.Publish
import Librorc.Lib.RingStore
import Librorc.Event.Payload
import Librorc.Event.Reference
import Librorc.Diu.Freshness
import Librorc.Event.FillCount
import Librorc.Event.SglistRead
import Librorc.Event.Ownership
import Librorc.Flash.Chip
import Librorc.Flash.Status
import Librorc.Flash.RoundTrip
import Librorc.Flash.Write
import Librorc.Flash.WriteSound
import Librorc.Lib.Pieces
import Librorc.Sysmon.Replay
import Librorc.Sysmon.ReplayDecode
import Librorc.Sim.Wire
import Librorc.Sim.Socket
import Librorc.Sim.AccessReplies
import Librorc.Clock.Refclk
import Librorc.Clock.GtxPll
import Librorc.Dma.Coalesce
import Librorc.Dma.Split
import Librorc.Dma.Translate
import Librorc.Dma.DataPath
import Librorc.Lib.SplitRead
import Librorc.Dma.WritePointer
import Librorc.Dma.Overrun
import Librorc.Flash.EraseBlocks
import Librorc.Flash.SyncWord
import Librorc.Link.DdlCtrl
import Librorc.Link.DdlFile
import Librorc.Lib.Confined
import Librorc.Link.Independence
import Librorc.Diu.Prepare
import Librorc.Lib.Listing
import Librorc.Sysfs.Handler
import Librorc.Sysfs.Scan
import Librorc.Sysfs.ScanModes
import Librorc.Clock.NewOpts
import Librorc.Clock.RefclkFault
import Librorc.Sim.Completion
import Librorc.Sim.TrnMonitor
import Librorc.Sim.GetOffset
import Librorc.Sim.LockDiscipline
import Librorc.Event.Setup
import Librorc.Flash.ReadMode
import Librorc.Event.PendingReleases
import Librorc.Link.PatternMode
import Librorc.Flash.UniqueNumber
import Librorc.Dma.RateLimit
import Librorc.Lib.InclusiveLoop
import Librorc.Sysmon.StringReadout
import Librorc.Link.Gtx
import Librorc.Link.Readiness
import Librorc.Link.GtxControl
import Librorc.Link.GtxDfe
import Librorc.Link.FastClusterFinder
import Librorc.Uc.Spi
import Librorc.Uc.Program
import Librorc.Sysmon.Ddr3
import Librorc.Sysfs.BufferNames
import Librorc.Lib.ByteMem
import Librorc.Sim.HardwareBar
import Librorc.Sim.BarRefines
import Librorc.Sim.DmaRefines
import Librorc.Sim.TrnToMemory
import Librorc.Sysfs.BufferStore
import Librorc.Clock.RefclkBus
import Librorc.Sysmon.Qsfp
import Librorc.Lib.PageMap
import Librorc.Sysfs.Mappings
import Librorc.Sysmon.Board
