import RadarStream.Library.Align
import RadarStream.Library.Replay
import RadarStream.Library.Ledger
import RadarStream.Library.Arena
import RadarStream.Library.Slices
import RadarStream.Library.FailStop
import RadarStream.Library.Paths
import RadarStream.Library.BlockStream
import RadarStream.Library.CTokens
import RadarStream.Library.CMacros
import RadarStream.Library.Checklist
import RadarStream.Library.Conversion
import RadarStream.Library.FirstFailure
import RadarStream.Sdk
import RadarStream.MemPool.History
import RadarStream.MemPool.Scoped
import RadarStream.Spi.Busy
import RadarStream.Tasks.Frames
import RadarStream.Tasks.Stream
import RadarStream.Tasks.Progress
import RadarStream.Tasks.BusyLine
import RadarStream.Firmware.BringUp
import RadarStream.Firmware.DataPath
import RadarStream.Firmware.FactoryCal
import RadarStream.Firmware.SlopeMag
import RadarStream.Firmware.RangeGeometry
import RadarStream.Script.Layouts
import RadarStream.Script.Overwrite
import RadarStream.Script.AllOrNothing
import RadarStream.Script.HeaderRun
import RadarStream.Script.JsonGrammar
import RadarStream.Script.Outcome
import RadarStream.Whole.FromConfig
