import Opaleye.Lib.TransSys
import Opaleye.Lib.LockedThreads
import Opaleye.Lib.CondVar
import Opaleye.Lib.History
import Opaleye.Lib.Text
import Opaleye.Lib.FieldCopy
import Opaleye.Lib.FsPath
import Opaleye.Lib.StdMap
import Opaleye.Lib.PrefixMap
import Opaleye.Lib.Ptree
import Opaleye.Lib.Message
import Opaleye.Lib.CInt
import Opaleye.Lib.Calendar
import Opaleye.Util.ChronoUtil
import Opaleye.Util.Wakeup
import Opaleye.Gpio.State
import Opaleye.Gpio.ModCtrl
import Opaleye.Gpio.Interlock
import Opaleye.Gpio.Idle
import Opaleye.Gpio.Module
import Opaleye.Gpio.Lifetime
import Opaleye.Gpio.Waveform
import Opaleye.Gpio.Levels
import Opaleye.Gpio.Attributes
import Opaleye.Path.DirectoryTree
import Opaleye.Path.TreeLookup
import Opaleye.Path.NodeChildren
import Opaleye.Path.PathUtil
import Opaleye.Http.FcgiSvr
import Opaleye.Http.WorkThread
import Opaleye.Http.Handlers
import Opaleye.Http.Response
import Opaleye.Http.Jsonrpc
import Opaleye.Http.Admission
import Opaleye.Http.HttpDate
import Opaleye.Http.FileHandler
import Opaleye.Storage.SplitMuxSink
import Opaleye.Camera.AlviumV4l2
import Opaleye.Camera.Trigger
import Opaleye.Camera.Device
import Opaleye.Camera.PipeInit
import Opaleye.Camera.V4l2Api
import Opaleye.Camera.Controls
import Opaleye.Camera.ControlTables
import Opaleye.Stream.MultiUdpSink
import Opaleye.Stream.Thumbnail
import Opaleye.Stream.FramePublish
import Opaleye.App.Config
import Opaleye.App.ConfigLoad
import Opaleye.App.ConfigSave
import Opaleye.App.HwTrigger
import Opaleye.App.TriggerLines
import Opaleye.App.Pipeline
import Opaleye.App.OpaleyeApp
import Opaleye.App.Captures
import Opaleye.App.PipelineTable
import Opaleye.App.Recordings
import Opaleye.App.Rpc
import Opaleye.App.Process
import Opaleye.App.Routes
import Opaleye.Sensors.MS5837
import Opaleye.Sensors.ThermalZone
import Opaleye.Sensors.SensorThread
