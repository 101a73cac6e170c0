import Opaleye.Lib.Ptree
import Opaleye.Lib.StdMap
import Opaleye.Lib.Text
import Mathlib.Data.List.Lex
import Mathlib.Data.Char

/-!
# The configuration

`opaleye/config/`: `app_config`, `camera_config` and `pipeline_config` are read
from a property tree.  `get<T>(path)` throws when the path is missing or its
text is not a `T`; the configuration manager catches that, so a tree is
accepted when `deserialize` returns a configuration.  `get<T>(path, default)`
never throws: it returns the default in both cases.
-/

namespace Opaleye.App

open Text

/-- `boost::property_tree::ptree` -/
abbrev Tree := Ptree (List Char) (List Char)

/-- The keys of a dotted path. -/
def path (s : String) : List (List Char) := s.toList.splitOn '.'

/-- `get<std::string>(path)` -/
def getString (t : Tree) (p : List (List Char)) : Option (List Char) :=
  (t.getChild p).map Ptree.data

/-- `get<int>(path)` -/
def getInt (t : Tree) (p : List (List Char)) : Option Int :=
  (t.getChild p).bind (fun c => streamInt 32 c.data)

/-- `get<int>(path, default)` -/
def getIntD (t : Tree) (p : List (List Char)) (defaultValue : Int) : Int :=
  (getInt t p).getD defaultValue

def hasChild (t : Tree) (p : List (List Char)) : Bool := (t.getChild p).isSome

/-- The texts of all children under a key. -/
def texts (t : Tree) (k : String) : List (List Char) := (t.equalRange k.toList).map Ptree.data

/-- `pipeline_config` -/
structure PipelineConfig where
  name : List Char
  type : List Char
  mTree : Tree

def PipelineConfig.deserialize (tree : Tree) : Option PipelineConfig := do
  let name ← getString tree (path "name")
  let type ← getString tree (path "type")
  some ⟨name, type, tree⟩

/-- `camera_config` -/
structure CameraConfig where
  name : List Char
  type : List Char
  pipeline : PipelineConfig
  mTree : Tree

def CameraConfig.deserialize (tree : Tree) : Option CameraConfig := do
  let name ← getString tree (path "name")
  let type ← getString tree (path "type")
  let pipelineTree ← tree.getChild (path "pipeline")
  let pipeline ← PipelineConfig.deserialize pipelineTree
  some ⟨name, type, pipeline, tree⟩

/-- `app_config` -/
structure AppConfig where
  videoPath : List Char
  imagePath : List Char
  logPath : List Char
  h264Mode : List Char
  sensorsLaunch : List Char
  zeromqLaunch : List Char
  zeromqEp : List (List Char)
  zcmLaunch : List Char
  zcmEp : List (List Char)
  masterClock : List Char
  masterClockLatency : Int
  cameraConfigs : StdMap (List Char) CameraConfig
  nvpmodelMode : Int
  mTree : Tree

namespace AppConfig

/-- The loop over `config.cameras`. -/
def deserializeCameras : List (List Char × Tree) → StdMap (List Char) CameraConfig →
    Option (StdMap (List Char) CameraConfig)
  | [], m => some m
  | c :: cs, m => do
    let cfg ← CameraConfig.deserialize c.2
    deserializeCameras cs (m.assign cfg.name cfg)

/-- The source of the master clock and its latency in milliseconds. -/
def deserializeClock (tree : Tree) : Option (List Char × Int) :=
  if hasChild tree (path "config.clock") then do
    let source ← getString tree (path "config.clock.source")
    let latency ← getInt tree (path "config.clock.latency")
    some (source, latency)
  else some ("system".toList, 500)

/-- `app_config::deserialize` on a new configuration; `none` when it returns
false or throws. -/
def deserialize (tree : Tree) : Option AppConfig := do
  let videoPath ← getString tree (path "config.video_path")
  let imagePath ← getString tree (path "config.image_path")
  let logPath ← getString tree (path "config.log_path")
  let h264Mode ← getString tree (path "config.h264_mode")
  let sensorsTree ← tree.getChild (path "config.sensors")
  let sensorsLaunch ← getString sensorsTree (path "launch")
  let zmqTree ← tree.getChild (path "config.zeromq")
  let zeromqLaunch ← getString zmqTree (path "launch")
  let zcmTree ← tree.getChild (path "config.zcm")
  let zcmLaunch ← getString zcmTree (path "launch")
  let clock ← deserializeClock tree
  let camerasTree ← tree.getChild (path "config.cameras")
  let cameraConfigs ← deserializeCameras camerasTree.children StdMap.empty
  some
    { videoPath, imagePath, logPath, h264Mode, sensorsLaunch, zeromqLaunch, zcmLaunch, cameraConfigs
      zeromqEp := texts zmqTree "endpoint"
      zcmEp := texts zcmTree "endpoint"
      masterClock := clock.1
      masterClockLatency := clock.2
      nvpmodelMode := getIntD tree (path "config.nvpmodel.mode") 3
      mTree := tree }

theorem deserialize_mTree {tree : Tree} {config : AppConfig} (h : deserialize tree = some config) :
    config.mTree = tree := by
  rw [deserialize] at h
  iterate 13 obtain ⟨_, -, h⟩ := Option.bind_eq_some_iff.mp h
  obtain rfl := Option.some.inj h
  rfl

def makeDefault : AppConfig where
  videoPath := "/opt/suburbanmarine/opaleye/record/video".toList
  imagePath := "/opt/suburbanmarine/opaleye/record/image".toList
  logPath := "/opt/suburbanmarine/opaleye/log".toList
  h264Mode := "cpu".toList
  nvpmodelMode := 3
  sensorsLaunch := "true".toList
  zeromqLaunch := "true".toList
  zeromqEp := ["tcp://0.0.0.0:51000".toList, "ipc:///opaleye/feeds/0".toList]
  zcmLaunch := "true".toList
  zcmEp := ["ipc".toList]
  masterClock := "system".toList
  masterClockLatency := 500
  cameraConfigs := StdMap.empty.assign "cam0".toList
    ⟨"cam0".toList, "brio".toList, ⟨"cam0-pipeline".toList, "brio".toList, .node [] []⟩, .node [] []⟩
  mTree := .node [] []

end AppConfig

end Opaleye.App
