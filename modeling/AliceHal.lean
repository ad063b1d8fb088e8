import AliceHal.Lib.Bytes
import AliceHal.Lib.BigEndian
import AliceHal.Lib.Crc
import AliceHal.Lib.Machine
import AliceHal.Lib.LinkedList
import AliceHal.Lib.StableSort
import AliceHal.Lib.Extents
import AliceHal.Lib.KeyedVector
import AliceHal.Lib.CString
import AliceHal.Lib.Since
import AliceHal.Lib.Memory
import AliceHal.Lib.Ring
import AliceHal.Lib.SortedStore
import AliceHal.Lib.Splitting
import AliceHal.Lib.TwoRuns
import AliceHal.Pn54x.Status
import AliceHal.Pn54x.PhDnldNfc.Crc16
import AliceHal.Pn54x.PhDnldNfc.Ccitt
import AliceHal.Pn54x.PhDnldNfc.Context
import AliceHal.Pn54x.PhDnldNfc.Frame
import AliceHal.Pn54x.PhDnldNfc.Handler
import AliceHal.Pn54x.PhDnldNfc.Api
import AliceHal.Pn54x.PhDnldNfc.System
import AliceHal.Pn54x.PhDnldNfc.Stable
import AliceHal.Pn54x.PhDnldNfc.Encoding
import AliceHal.Pn54x.PhDnldNfc.Framing
import AliceHal.Pn54x.PhDnldNfc.Outcome
import AliceHal.Pn54x.PhDnldNfc.Resend
import AliceHal.Pn54x.PhDnldNfc.Recovery
import AliceHal.Pn54x.PhDnldNfc.Rejection
import AliceHal.Pn54x.PhDnldNfc.Segmentation
import AliceHal.Pn54x.PhDnldNfc.WriteRun
import AliceHal.Pn54x.PhDnldNfc.Bounds
import AliceHal.Pn54x.PhDnldNfc.ReadFrames
import AliceHal.Pn54x.PhDnldNfc.ReadRun
import AliceHal.Pn54x.FwDnld.Context
import AliceHal.Pn54x.FwDnld.Sequence
import AliceHal.Pn54x.FwDnld.Prelude
import AliceHal.Pn54x.FwDnld.DwnldOutcome
import AliceHal.Pn54x.FwDnld.DwnldEnd
import AliceHal.Pn54x.FwDnld.Completion
import AliceHal.Pn54x.FwDnld.Termination
import AliceHal.Pn54x.FwDnld.Report
import AliceHal.Pn54x.FwDnld.Verified
import AliceHal.Pn54x.FwDnld.Accounting
import AliceHal.Pn54x.Config.Parser
import AliceHal.Pn54x.Config.Store
import AliceHal.Pn54x.Config.Definitions
import AliceHal.Pn54x.Config.Printing
import AliceHal.Pn54x.Config.RoundTrip
import AliceHal.Pn54x.Config.HexGroups
import AliceHal.Pn54x.Config.FinalNewline
import AliceHal.Pn54x.Config.Extent
import AliceHal.Pn54x.Config.Crc32
import AliceHal.Pn54x.Config.Modified
import AliceHal.Pn54x.Config.Crc32Remainder
import AliceHal.Pn54x.SelfTest.TestData
import AliceHal.Pn54x.SelfTest.PerformTest
import AliceHal.Pn54x.SelfTest.TestRuns
import AliceHal.Pn54x.SelfTest.TestResults
import AliceHal.Pn54x.Tml.MessageQueue
import AliceHal.Pn54x.Tml.QueueLinks
import AliceHal.Pn54x.Tml.Timer
import AliceHal.Pn54x.Tml.TimerSilence
import AliceHal.Pn54x.Tml.Reader
import AliceHal.Pn54x.Tml.ReadAbort
import AliceHal.Pn54x.Tml.I2cRead
import AliceHal.Pn54x.Tml.I2cWrite
import AliceHal.Pn54x.Tml.ReadLength
import AliceHal.Pn54x.Tml.Writer
import AliceHal.Pn54x.Tml.Retransmission
import AliceHal.Pn54x.Hal.Control
import AliceHal.Pn54x.Hal.SemList
import AliceHal.Pn54x.Hal.Ext
import AliceHal.Pn54x.Hal.SetConfig
import AliceHal.Pn54x.Hal.T3tFlags
import AliceHal.Pn54x.Hal.WriteStores
import AliceHal.Pn54x.Hal.WriteBounds
import AliceHal.Pn54x.Hal.WellFormed
import AliceHal.Pn54x.Hal.DataPackets
import AliceHal.Pn54x.Hal.Answering
import AliceHal.Pn54x.Hal.Receive
import AliceHal.Pn54x.Hal.RxWellFormed
import AliceHal.Pn54x.Hal.Capture
import AliceHal.Pn54x.Hal.Icode
import AliceHal.Pn54x.Hal.Discovery
import AliceHal.Pn54x.Hal.CommandBytes
import AliceHal.Pn54x.Hal.ExtCommand
import AliceHal.Pn54x.Hal.CoreInit
import AliceHal.Pn54x.Hal.RetryBudget
import AliceHal.MacNvme.NveRead
import AliceHal.MacNvme.Image
import AliceHal.MacNvme.GetMacAddress
import AliceHal.Mploader.Loaders
import AliceHal.Hwcomposer.VsyncThread
import AliceHal.Hwcomposer.VsyncRuns
import AliceHal.Lights.Arbitration
import AliceHal.Lights.Workers
import AliceHal.Sensors.SensorEventQueue
import AliceHal.Sensors.WriterTask
import AliceHal.Sensors.Handles
import AliceHal.Sensors.Poll
import AliceHal.Sensors.Registered
import AliceHal.Sensors.Commands
import AliceHal.Sensors.OpenBalance
import AliceHal.Sensors.Numbering
import AliceHal.Sensors.Batching
import AliceHal.Pn54x.Hal.Open
import AliceHal.Pn54x.Hal.OpenUndo
import AliceHal.Livedisplay.DisplayColorCalibration
import AliceHal.ReorderLibs.Strcoll
import AliceHal.ReorderLibs.Sections
import AliceHal.Camera.CameraParameters
import AliceHal.Camera.Sizes
import AliceHal.Camera.Status
import AliceHal.Camera.PreviewWindow
import AliceHal.Camera.CameraDevice
import AliceHal.Camera.DeviceRuns
import AliceHal.Camera.DeviceMemory
