import Opaleye.App.Config

/-!
# Pipelines

`GST_app_base`, and the two kinds of pipeline derived from it: a
`Gstreamer_pipeline` carries a camera, a `gst_filesink_pipeline` records what
another pipeline publishes.

Of a pipeline the model keeps its elements under the names they were made with,
and whether its main-loop thread is joinable: `GST_app_base::init` launches the
thread and `GST_app_base::stop` joins it, nothing else does either.  Making an
element, linking two of them and starting a pipeline are up to GStreamer, so how
such a call ends comes from outside.
-/

namespace Opaleye.App

/-- How a call that does not succeed ends: it returns false, or it throws. -/
inductive Failure
  | refused
  | threw
  deriving DecidableEq, Repr

/-! ### Elements -/

/-- The elements the pipeline builders make. -/
inductive Element
  | camera | jpgdec | thumb | h264 | h264Interpipesink | rtppay | rtpsink
  | nvvideoconvertT0 | nvvideoconvertT1 | timecodestamper | timeoverlay
  deriving DecidableEq, Repr

/-- The name an element is made with and stored under; the camera has that of
the configuration. -/
def Element.name (camName : List Char) : Element → List Char
  | .camera => camName
  | .jpgdec => "jpgdec_0".toList
  | .thumb => "thumb_0".toList
  | .h264 => "h264_0".toList
  | .h264Interpipesink => "h264_ipsink_0".toList
  | .rtppay => "rtp_0".toList
  | .rtpsink => "udp_0".toList
  | .nvvideoconvertT0 => "m_nvvideoconvert_pipe_t0".toList
  | .nvvideoconvertT1 => "m_nvvideoconvert_pipe_t1".toList
  | .timecodestamper => "timecodestamper_0".toList
  | .timeoverlay => "timeoverlay_0".toList

/-- What a builder leaves in a `Gstreamer_pipeline`: the elements in its bin with
their names, and `m_element_storage`. -/
structure Parts where
  bin : List (Element × List Char)
  elementStorage : StdMap (List Char) Element

/-- The names under which a pipeline publishes. -/
def Parts.interpipeSinks (parts : Parts) : List (List Char) :=
  (parts.bin.filter (fun e => e.1 = .h264Interpipesink)).map Prod.snd

/-- How the calls of a builder end: the `init` of each element, and the one link
whose result is looked at. -/
structure BuildEnv where
  init : Element → Except Failure Unit
  linkThumb : Bool

/-! ### The builders -/

/-- `init` for each element in turn. -/
def initElements (env : BuildEnv) : List Element → Except Failure Unit
  | [] => .ok ()
  | e :: es =>
    match env.init e with
    | .error f => .error f
    | .ok _ => initElements env es

/-- `m_element_storage.emplace` for each element in turn. -/
def storeElements (camName : List Char) (stored : List Element) : StdMap (List Char) Element :=
  stored.foldl (fun m e => m.emplace (e.name camName) e) StdMap.empty

/-- What the builders have in common: make the elements, put them into the bin,
store those that can be asked for. -/
def buildPipeline (env : BuildEnv) (camName : List Char) (made stored : List Element) :
    Except Failure Parts :=
  match initElements env made with
  | .error f => .error f
  | .ok _ => .ok ⟨made.map (fun e => (e, e.name camName)), storeElements camName stored⟩

def makeBrioPipeline (env : BuildEnv) (cam : CameraConfig) : Except Failure Parts :=
  buildPipeline env cam.name
    [.camera, .jpgdec, .thumb, .h264, .h264Interpipesink, .rtppay, .rtpsink]
    [.camera, .jpgdec, .thumb, .h264, .h264Interpipesink, .rtppay, .rtpsink]

def makeImx219Pipeline (env : BuildEnv) (cam : CameraConfig) : Except Failure Parts :=
  buildPipeline env cam.name
    [.camera, .nvvideoconvertT0, .nvvideoconvertT1, .timecodestamper, .timeoverlay, .thumb, .h264,
     .h264Interpipesink, .rtppay, .rtpsink]
    [.camera, .timecodestamper, .timeoverlay, .thumb, .h264, .h264Interpipesink, .rtppay, .rtpsink]

/-- This builder reads properties of the camera, which may be missing, and looks
at the result of a link. -/
def makeAlviumPipeline (env : BuildEnv) (cam : CameraConfig) : Except Failure Parts :=
  match getString cam.mTree (path "properties.format") with
  | none => .error .threw
  | some format =>
    if format.length ≠ 4 then .error .refused
    else if (getString cam.mTree (path "properties.device")).isNone then .error .threw
    else if (getString cam.mTree (path "properties.trigger_mode")).isNone then .error .threw
    else
      match buildPipeline env cam.name
          [.camera, .thumb, .h264, .h264Interpipesink, .rtppay, .rtpsink]
          [.camera, .thumb, .h264, .h264Interpipesink, .rtppay, .rtpsink] with
      | .error f => .error f
      | .ok parts => if env.linkThumb = false then .error .refused else .ok parts

def makeVirtualPipeline (env : BuildEnv) (cam : CameraConfig) : Except Failure Parts :=
  buildPipeline env cam.name
    [.camera, .timecodestamper, .timeoverlay, .thumb, .h264, .h264Interpipesink, .rtppay, .rtpsink]
    [.camera, .thumb, .h264, .h264Interpipesink, .rtppay, .rtpsink, .timecodestamper, .timeoverlay]

/-- `Gstreamer_pipeline::make_pipeline` -/
def makePipeline (env : BuildEnv) (cam : CameraConfig) : Except Failure Parts :=
  if cam.pipeline.type = "brio".toList then makeBrioPipeline env cam
  else if cam.pipeline.type = "imx219".toList then makeImx219Pipeline env cam
  else if cam.pipeline.type = "alvium".toList then makeAlviumPipeline env cam
  else if cam.pipeline.type = "virtual".toList then makeVirtualPipeline env cam
  else .error .refused

theorem interpipeSinks_buildPipeline {env : BuildEnv} {camName : List Char}
    {made stored : List Element} {parts : Parts}
    (h : buildPipeline env camName made stored = .ok parts) :
    parts.interpipeSinks
      = (made.filter (fun e => e = .h264Interpipesink)).map (fun _ => "h264_ipsink_0".toList) := by
  rw [buildPipeline] at h
  cases hi : initElements env made with
  | error f => rw [hi] at h; cases h
  | ok u =>
    rw [hi] at h
    obtain rfl := Except.ok.inj h
    rw [Parts.interpipeSinks, List.filter_map, List.map_map]
    refine List.map_congr_left (fun e he => ?_)
    have hk : e = .h264Interpipesink := by simpa using (List.mem_filter.mp he).2
    rw [hk]
    rfl

/-- **Every camera pipeline publishes under the same one name**, whichever
builder made it. -/
theorem interpipeSinks_makePipeline {env : BuildEnv} {cam : CameraConfig} {parts : Parts}
    (h : makePipeline env cam = .ok parts) : parts.interpipeSinks = ["h264_ipsink_0".toList] := by
  rw [makePipeline] at h
  split at h
  · exact interpipeSinks_buildPipeline h
  · split at h
    · exact interpipeSinks_buildPipeline h
    · split at h
      · rw [makeAlviumPipeline] at h
        split at h
        · cases h
        · iterate 3
            split at h
            · cases h
          split at h
          · cases h
          · next parts' hb =>
            split at h
            · cases h
            · obtain rfl := Except.ok.inj h
              exact interpipeSinks_buildPipeline hb
      · split at h
        · exact interpipeSinks_buildPipeline h
        · cases h

/-! ### Pipelines -/

inductive PipelineKind
  | gstreamer (parts : Parts)
  | filesink (listenTo : Option (List Char))

/-- An object of class `GST_app_base`. -/
structure Pipeline where
  kind : PipelineKind
  joinable : Bool

/-- `std::make_shared<Gstreamer_pipeline>()` -/
def Pipeline.newGstreamer : Pipeline := ⟨.gstreamer ⟨[], StdMap.empty⟩, false⟩

/-- `std::make_shared<gst_filesink_pipeline>()` -/
def Pipeline.newFilesink : Pipeline := ⟨.filesink none, false⟩

/-- A file-sink pipeline: what `dynamic_pointer_cast<gst_filesink_pipeline>`
finds. -/
def Pipeline.isFilesink (p : Pipeline) : Bool :=
  match p.kind with
  | .gstreamer _ => false
  | .filesink _ => true

/-- The names under which a pipeline publishes; a file-sink pipeline has no
interpipe sink. -/
def Pipeline.interpipeSinks (p : Pipeline) : List (List Char) :=
  match p.kind with
  | .gstreamer parts => parts.interpipeSinks
  | .filesink _ => []

/-- `get_element` -/
def Pipeline.getElement (p : Pipeline) (name : List Char) : Option Element :=
  match p.kind with
  | .gstreamer parts => parts.elementStorage.find name
  | .filesink _ => none

/-- `GST_app_base::init`: it launches the thread, or the constructor of the
thread throws. -/
def Pipeline.init (launches : Bool) (p : Pipeline) : Except Failure Pipeline :=
  if launches then .ok { p with joinable := true } else .error .threw

/-- `GST_app_base::stop`: it joins the thread and returns true; joining a thread
that is not joinable throws. -/
def Pipeline.stop (p : Pipeline) : Except Failure Pipeline :=
  if p.joinable then .ok { p with joinable := false } else .error .threw

/-- `gst_filesink_pipeline::set_listen_to` -/
def Pipeline.setListenTo (name : Option (List Char)) (p : Pipeline) : Pipeline :=
  match p.kind with
  | .gstreamer _ => p
  | .filesink _ => { p with kind := .filesink name }

end Opaleye.App
