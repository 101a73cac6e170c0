import Opaleye.App.ConfigLoad
import Opaleye.Lib.FsPath

/-!
# Saving a configuration

`serialize` of `app_config`, `camera_config` and `pipeline_config` writes a property tree
statement by statement.  `serialize_eq` is the tree that comes out, and
`deserialize_serialize` is what the next load makes of it:

* the three paths are printed by their `operator<<`, in quotes, and read as plain text;
* `nvpmodel_mode` is written to `config.sensors.launch`, over `sensors_launch`, and not
  to `config.nvpmodel.mode`;
* a camera is written as its name, type and pipeline, without the rest of its tree.

Everything else comes back.  No configuration has a path that reads as what it prints,
so none survives the round trip (`not_roundTrips`).
-/

namespace Opaleye.App

open Text AppConfig

def PipelineConfig.serialize (c : PipelineConfig) (tree : Tree) : Option Tree :=
  let tree := tree.put (path "name") c.name
  let tree := tree.put (path "type") c.type
  some tree

def CameraConfig.serialize (c : CameraConfig) (tree : Tree) : Option Tree := do
  let tree := tree.put (path "name") c.name
  let tree := tree.put (path "type") c.type
  let temp ← c.pipeline.serialize .empty
  some (tree.putChild (path "pipeline") temp)

namespace AppConfig

/-- The loop over `camera_configs`. -/
def serializeCameras : List (List Char × CameraConfig) → Tree → Option Tree
  | [], camerasTree => some camerasTree
  | it :: its, camerasTree => do
    let camerasI ← it.2.serialize .empty
    serializeCameras its (camerasTree.addChild (path "camera") camerasI)

/-- What is written before the endpoints. -/
def serializeTop (c : AppConfig) : Tree :=
  let tree : Tree := .empty
  let tree := tree.put (path "config.<xmlattr>.verson") "1.0".toList
  let tree := tree.put (path "config.video_path") (FsPath.quoted c.videoPath)
  let tree := tree.put (path "config.image_path") (FsPath.quoted c.imagePath)
  let tree := tree.put (path "config.log_path") (FsPath.quoted c.logPath)
  let tree := tree.put (path "config.h264_mode") c.h264Mode
  let tree := tree.put (path "config.sensors.launch") c.sensorsLaunch
  tree.put (path "config.sensors.launch") (printInt c.nvpmodelMode)

/-- `app_config::serialize` -/
def serialize (c : AppConfig) : Option Tree := do
  let tree := c.serializeTop
  let tree := tree.put (path "config.zeromq.launch") c.zeromqLaunch
  let tree := c.zeromqEp.foldl (fun tree str => tree.add (path "config.zeromq.endpoint") str) tree
  let tree := tree.put (path "config.zcm.launch") c.zcmLaunch
  let tree := c.zcmEp.foldl (fun tree str => tree.add (path "config.zcm.endpoint") str) tree
  let tree := tree.put (path "config.clock.source") c.masterClock
  let tree := tree.put (path "config.clock.latency") (printInt c.masterClockLatency)
  let camerasTree ← serializeCameras c.cameraConfigs.entries .empty
  some (tree.putChild (path "config.cameras") camerasTree)

end AppConfig

/-! ### The tree that is written -/

/-- A node with a text and no children. -/
def textNode (k : String) (d : List Char) : List Char × Tree := (k.toList, .node d [])

def writtenPipeline (c : PipelineConfig) : Tree := .node [] [textNode "name" c.name, textNode "type" c.type]

def writtenCamera (c : CameraConfig) : Tree :=
  .node [] [textNode "name" c.name, textNode "type" c.type,
    ("pipeline".toList, writtenPipeline c.pipeline)]

/-- A launch flag and endpoints. -/
def writtenFeeds (launch : List Char) (ep : List (List Char)) : Tree :=
  .node [] (textNode "launch" launch :: ep.map (textNode "endpoint"))

def writtenConfig (c : AppConfig) : List (List Char × Tree) :=
  [("<xmlattr>".toList, .node [] [textNode "verson" "1.0".toList]),
    textNode "video_path" (FsPath.quoted c.videoPath),
    textNode "image_path" (FsPath.quoted c.imagePath),
    textNode "log_path" (FsPath.quoted c.logPath),
    textNode "h264_mode" c.h264Mode,
    ("sensors".toList, .node [] [textNode "launch" (printInt c.nvpmodelMode)]),
    ("zeromq".toList, writtenFeeds c.zeromqLaunch c.zeromqEp),
    ("zcm".toList, writtenFeeds c.zcmLaunch c.zcmEp),
    ("clock".toList, .node []
      [textNode "source" c.masterClock, textNode "latency" (printInt c.masterClockLatency)]),
    ("cameras".toList, .node []
      (c.cameraConfigs.entries.map (fun it => ("camera".toList, writtenCamera it.2))))]

def written (c : AppConfig) : Tree := .node [] [("config".toList, .node [] (writtenConfig c))]

theorem serialize_camera (c : CameraConfig) : c.serialize .empty = some (writtenCamera c) := rfl

theorem serializeCameras_eq : ∀ (its : List (List Char × CameraConfig)) (cs : List (List Char × Tree)),
    serializeCameras its (.node [] cs) =
      some (.node [] (cs ++ its.map (fun it => ("camera".toList, writtenCamera it.2)))) := by
  intro its
  induction its with
  | nil =>
    intro cs
    rw [serializeCameras, List.map_nil, List.append_nil]
  | cons it its ih =>
    intro cs
    have hadd : (Ptree.node [] cs : Tree).addChild (path "camera") (writtenCamera it.2) =
        .node [] (cs ++ [("camera".toList, writtenCamera it.2)]) := rfl
    rw [serializeCameras, serialize_camera, Option.bind_eq_bind, Option.bind_some, hadd, ih,
      List.append_assoc, List.map_cons]
    rfl

/-- The tree with the first sections written. -/
def writtenUpTo (c : AppConfig) (n : Nat) : Tree :=
  .node [] [("config".toList, .node [] ((writtenConfig c).take n))]

theorem serializeTop_eq (c : AppConfig) : c.serializeTop = writtenUpTo c 6 := rfl

theorem serialize_zeromq (c : AppConfig) :
    c.zeromqEp.foldl (fun tree str => tree.add (path "config.zeromq.endpoint") str)
      ((writtenUpTo c 6).put (path "config.zeromq.launch") c.zeromqLaunch) = writtenUpTo c 7 :=
  Ptree.foldl_add (path "config.zeromq") "endpoint".toList c.zeromqEp
    (Ptree.put · (path "launch") c.zeromqLaunch) (writtenUpTo c 6)

theorem serialize_zcm (c : AppConfig) :
    c.zcmEp.foldl (fun tree str => tree.add (path "config.zcm.endpoint") str)
      ((writtenUpTo c 7).put (path "config.zcm.launch") c.zcmLaunch) = writtenUpTo c 8 :=
  Ptree.foldl_add (path "config.zcm") "endpoint".toList c.zcmEp
    (Ptree.put · (path "launch") c.zcmLaunch) (writtenUpTo c 7)

theorem serialize_clock (c : AppConfig) :
    ((writtenUpTo c 8).put (path "config.clock.source") c.masterClock).put
      (path "config.clock.latency") (printInt c.masterClockLatency) = writtenUpTo c 9 := rfl

/-- **What `serialize` writes.** -/
theorem serialize_eq (c : AppConfig) : c.serialize = some (written c) := by
  have hcams : serializeCameras c.cameraConfigs.entries .empty = some (.node []
      (c.cameraConfigs.entries.map (fun it => ("camera".toList, writtenCamera it.2)))) :=
    serializeCameras_eq c.cameraConfigs.entries []
  rw [AppConfig.serialize, serializeTop_eq, serialize_zeromq, serialize_zcm, serialize_clock, hcams]
  rfl

/-! ### What the next load reads -/

/-- A camera as it is read from what was written. -/
def rereadCamera (c : CameraConfig) : CameraConfig :=
  ⟨c.name, c.type, ⟨c.pipeline.name, c.pipeline.type, writtenPipeline c.pipeline⟩, writtenCamera c⟩

/-- The cameras that are read, in their order. -/
def rereadCameras (c : AppConfig) : List CameraConfig :=
  c.cameraConfigs.entries.map (fun it => rereadCamera it.2)

/-- A configuration as it is read from what was written. -/
def reread (c : AppConfig) : AppConfig :=
  { c with
    videoPath := FsPath.quoted c.videoPath
    imagePath := FsPath.quoted c.imagePath
    logPath := FsPath.quoted c.logPath
    nvpmodelMode := 3
    sensorsLaunch := printInt c.nvpmodelMode
    cameraConfigs := overlay (rereadCameras c) .empty
    mTree := written c }

theorem deserialize_writtenCamera (c : CameraConfig) :
    CameraConfig.deserialize (writtenCamera c) = some (rereadCamera c) := rfl

theorem texts_writtenFeeds (launch : List Char) (ep : List (List Char)) :
    texts (writtenFeeds launch ep) "endpoint" = ep := by
  rw [texts, Ptree.equalRange, writtenFeeds, Ptree.children,
    List.filter_cons_of_neg (by simp [textNode]), List.filter_map]
  simp [Function.comp_def, textNode, Ptree.data]

/-- The latency is the only field whose text may not be accepted. -/
theorem deserializeClock_written (c : AppConfig) : deserializeClock (written c) =
    (streamInt 32 (printInt c.masterClockLatency)).map (fun latency => (c.masterClock, latency)) := by
  have hclock : hasChild (written c) (path "config.clock") = true := rfl
  have hsource : getString (written c) (path "config.clock.source") = some c.masterClock := rfl
  have hlatency : getInt (written c) (path "config.clock.latency")
      = streamInt 32 (printInt c.masterClockLatency) := rfl
  rw [deserializeClock, if_pos hclock, hsource, hlatency]
  cases streamInt 32 (printInt c.masterClockLatency) <;> rfl

theorem reads_written {c : AppConfig} (hlo : -2 ^ 31 ≤ c.masterClockLatency)
    (hhi : c.masterClockLatency < 2 ^ 31) : Reads (written c) (reread c) (rereadCameras c) where
  videoPath := rfl
  imagePath := rfl
  logPath := rfl
  h264Mode := rfl
  nvpmodelMode := rfl
  sensorsLaunch := rfl
  zeromqLaunch := rfl
  zeromqEp := congrArg some (texts_writtenFeeds c.zeromqLaunch c.zeromqEp)
  zcmLaunch := rfl
  zcmEp := congrArg some (texts_writtenFeeds c.zcmLaunch c.zcmEp)
  clock := by
    have hlatency : streamInt 32 (printInt c.masterClockLatency) = some c.masterClockLatency :=
      streamInt_printInt hlo hhi
    rw [deserializeClock_written, hlatency]
    rfl
  cameras := by
    have hread : (fun it : List Char × CameraConfig => CameraConfig.deserialize (writtenCamera it.2))
        = fun it => some (rereadCamera it.2) := funext (fun it => deserialize_writtenCamera it.2)
    refine ⟨_, rfl, ?_⟩
    rw [Ptree.children, List.mapM_map]
    refine (congrArg (c.cameraConfigs.entries.mapM ·) hread).trans ?_
    exact List.mapM_pure
  mTree := rfl

/-- **A configuration whose latency is an `int` loads again, as `reread`.** -/
theorem deserialize_written {c : AppConfig} (hlo : -2 ^ 31 ≤ c.masterClockLatency)
    (hhi : c.masterClockLatency < 2 ^ 31) :
    AppConfig.deserialize (written c) = some (reread c) :=
  deserialize_of_reads (reads_written hlo hhi)

/-! ### Configurations that were loaded -/

/-- Each camera is stored under its name. -/
def OwnNames (m : StdMap (List Char) CameraConfig) : Prop := ∀ k cam, m.find k = some cam → cam.name = k

theorem ownNames_overlay (cams : List CameraConfig) {m : StdMap (List Char) CameraConfig}
    (h : OwnNames m) : OwnNames (overlay cams m) := by
  intro k cam hfind
  rw [find_overlay] at hfind
  rcases Option.or_eq_some_iff.mp hfind with hlast | ⟨-, hm⟩
  · exact (mem_of_lastNamed hlast).2
  · exact h k cam hm

theorem ownNames_of_deserialize {tree : Tree} {c : AppConfig}
    (h : AppConfig.deserialize tree = some c) : OwnNames c.cameraConfigs := by
  obtain ⟨cams, -, hcams⟩ := reads_of_deserialize h
  rw [hcams]
  exact ownNames_overlay cams (fun k cam hfind => absurd hfind (by simp))

theorem latency_of_deserialize {tree : Tree} {c : AppConfig}
    (h : AppConfig.deserialize tree = some c) :
    -2 ^ 31 ≤ c.masterClockLatency ∧ c.masterClockLatency < 2 ^ 31 := by
  obtain ⟨cams, hreads, -⟩ := reads_of_deserialize h
  have hclock := hreads.clock
  rw [deserializeClock] at hclock
  split at hclock
  · obtain ⟨source, -, hclock⟩ := Option.bind_eq_some_iff.mp hclock
    obtain ⟨latency, hlatency, hclock⟩ := Option.bind_eq_some_iff.mp hclock
    obtain ⟨t, -, hstream⟩ := Option.bind_eq_some_iff.mp hlatency
    obtain rfl := congrArg Prod.snd (Option.some.inj hclock)
    exact bounds_of_streamInt hstream
  · have hlatency : 500 = c.masterClockLatency := congrArg Prod.snd (Option.some.inj hclock)
    rw [← hlatency]
    decide

theorem lastNamed_reread {c : AppConfig} (h : OwnNames c.cameraConfigs) (k : List Char) :
    lastNamed (rereadCameras c) k = (c.cameraConfigs.find k).map rereadCamera := by
  cases hlast : lastNamed (rereadCameras c) k with
  | none =>
    have hk := (lastNamed_eq_none_iff _ k).mp hlast
    cases hfind : c.cameraConfigs.find k with
    | none => rfl
    | some cam =>
      refine absurd ?_ hk
      have hmem := (c.cameraConfigs.find_eq_some_iff k cam).mp hfind
      rw [rereadCameras, List.map_map]
      exact List.mem_map.mpr ⟨(k, cam), hmem, h k cam hfind⟩
  | some cfg =>
    obtain ⟨hmem, hname⟩ := mem_of_lastNamed hlast
    obtain ⟨⟨k', cam⟩, hentry, rfl⟩ := List.mem_map.mp hmem
    have hfind := (c.cameraConfigs.find_eq_some_iff k' cam).mpr hentry
    obtain rfl : k' = k := (h k' cam hfind).symm.trans hname
    rw [hfind]
    rfl

/-- **What `serialize` and the next `deserialize` make of a configuration that was loaded.** -/
theorem deserialize_serialize {tree : Tree} {c : AppConfig} (h : AppConfig.deserialize tree = some c) :
    c.serialize.bind AppConfig.deserialize = some (reread c) ∧
      ∀ k, (reread c).cameraConfigs.find k = (c.cameraConfigs.find k).map rereadCamera := by
  obtain ⟨hlo, hhi⟩ := latency_of_deserialize h
  refine ⟨?_, fun k => ?_⟩
  · rw [serialize_eq, Option.bind_some, deserialize_written hlo hhi]
  · rw [← lastNamed_reread (ownNames_of_deserialize h) k]
    refine (find_overlay (rereadCameras c) .empty k).trans ?_
    rw [StdMap.find_empty, Option.or_none]

/-! ### The round trip -/

/-- The same camera, with the same values behind `camera_config::get`. -/
structure SameCamera (cam cam' : CameraConfig) : Prop where
  name : cam'.name = cam.name
  type : cam'.type = cam.type
  pipelineName : cam'.pipeline.name = cam.pipeline.name
  pipelineType : cam'.pipeline.type = cam.pipeline.type
  get : ∀ p, getString cam'.mTree p = getString cam.mTree p

/-- The same configuration; paths are compared as paths. -/
structure SameConfig (c c' : AppConfig) : Prop where
  videoPath : FsPath.Path.eqv ⟨c.videoPath⟩ ⟨c'.videoPath⟩ = true
  imagePath : FsPath.Path.eqv ⟨c.imagePath⟩ ⟨c'.imagePath⟩ = true
  logPath : FsPath.Path.eqv ⟨c.logPath⟩ ⟨c'.logPath⟩ = true
  h264Mode : c'.h264Mode = c.h264Mode
  sensorsLaunch : c'.sensorsLaunch = c.sensorsLaunch
  nvpmodelMode : c'.nvpmodelMode = c.nvpmodelMode
  zeromqLaunch : c'.zeromqLaunch = c.zeromqLaunch
  zeromqEp : c'.zeromqEp = c.zeromqEp
  zcmLaunch : c'.zcmLaunch = c.zcmLaunch
  zcmEp : c'.zcmEp = c.zcmEp
  masterClock : c'.masterClock = c.masterClock
  masterClockLatency : c'.masterClockLatency = c.masterClockLatency
  cameras : ∀ k, Option.Rel SameCamera (c.cameraConfigs.find k) (c'.cameraConfigs.find k)

/-- What `serialize` writes is loaded as the same configuration. -/
def RoundTrips (c : AppConfig) : Prop :=
  ∀ t, c.serialize = some t → ∃ c', AppConfig.deserialize t = some c' ∧ SameConfig c c'

theorem videoPath_of_deserialize_written {c c' : AppConfig}
    (h : AppConfig.deserialize (written c) = some c') : c'.videoPath = FsPath.quoted c.videoPath := by
  obtain ⟨cams, hreads, -⟩ := reads_of_deserialize h
  exact (Option.some.inj hreads.videoPath).symm

/-- What was printed in quotes is loaded with the quotes. -/
theorem not_sameConfig_reread {c c' : AppConfig} (h : AppConfig.deserialize (written c) = some c') :
    ¬ SameConfig c c' := by
  intro hsame
  have hpath := hsame.videoPath
  rw [videoPath_of_deserialize_written h, FsPath.not_eqv_quoted] at hpath
  cases hpath

/-- **No configuration survives.** -/
theorem not_roundTrips (c : AppConfig) : ¬ RoundTrips c := by
  intro h
  obtain ⟨c', hc', hsame⟩ := h (written c) (serialize_eq c)
  exact not_sameConfig_reread hc' hsame

theorem roundTrip_oneCamera : ∃ c, AppConfig.deserialize (oneCameraTree "cam0") = some c ∧
    ¬ RoundTrips c := by
  obtain ⟨c, hc⟩ := Option.isSome_iff_exists.mp
    (show (AppConfig.deserialize (oneCameraTree "cam0")).isSome = true by decide)
  refine ⟨c, hc, fun h => ?_⟩
  obtain ⟨c', hc', hsame⟩ := h (written c) (serialize_eq c)
  exact not_sameConfig_reread hc' hsame

end Opaleye.App
