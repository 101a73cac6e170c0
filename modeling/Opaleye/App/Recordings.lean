import Opaleye.App.PipelineTable
import Opaleye.Storage.SplitMuxSink

/-!
# Recordings of all captures

The captures of all cameras, each with its `mp4_splitmuxsink`, over the calls on
`Opaleye_app` in any order.  A capture of `c` records into the directory of its
day below `video_path / c`, and a capture that is captured in turn below that of
the outer one.

What a sink counts on from is what it found when the capture was started, so
nothing but the table keeps two sinks out of one directory: a capture is started
only where there is no key `c + "/file0"`.  That does it when a directory has one
key (`isDay_key`), and it has when the names in the configuration are spelled
plainly (`PlainConfig`).  Then no recording takes the place of another one or of
a file that was there, whatever is called and whatever the clock says
(`recordings_apart`).

Two names for one directory undo it: `"cam0"` and `"cam0/"` are two keys, and
both record into `video_path/cam0` (`recordings_collide`).

A file is known by the elements of its path; there are no links.  A pipeline
that does not start records nothing.
-/

namespace Opaleye.App

open FsPath OpaleyeApp Storage

/-! ### The captures and the disk -/

/-- What `mp4_splitmuxsink::init` finds: the day, and the regular files of the
day's directory as they are listed. -/
structure Day where
  year : Nat
  month : Nat
  day : Nat
  listing : List (List Char)

/-- `fmt::format("{:04d}{:02d}{:02d}", ..)` -/
def Day.dateStr (d : Day) : List Char :=
  Text.padDigits 4 d.year ++ (Text.padDigits 2 d.month ++ Text.padDigits 2 d.day)

/-- The sink of a capture: its directory and its session there. -/
structure Mux where
  topStorageDir : FsPath.Path
  session : Session

/-- A recording: the capture that made it and its path. -/
structure Written where
  key : List Char
  path : FsPath.Path

/-- The calls so far, the files that were there at first by the elements of
their paths, what was recorded, and the sink of each capture. -/
structure Recordings where
  run : Run
  initial : List (List (List Char))
  written : List Written
  muxes : StdMap (List Char) Mux

/-- The regular files on the disk. -/
def Recordings.files (s : Recordings) : List (List (List Char)) :=
  s.initial ++ s.written.map (fun w => w.path.elements)

/-- The names of the files in a directory. -/
def Recordings.filesIn (s : Recordings) (dir : FsPath.Path) : List (List Char) :=
  s.files.filterMap (fun f => if f.dropLast = dir.elements then f.getLast? else none)

/-- `m_config->video_path / camera`, and below that the directory of the day.
`init` has put a configuration in place when there is a capture to start. -/
def dayDir (app : OpaleyeApp) (camera : List Char) (d : Day) : FsPath.Path :=
  (FsPath.Path.append ⟨(app.config.getD .makeDefault).videoPath⟩ ⟨camera⟩).append ⟨d.dateStr⟩

/-- The camera whose capture a call has started. -/
def startedCamera : Op → Ret → Option (List Char)
  | .startVideoCapture camera _, .returned true => some camera
  | _, _ => none

inductive RecAct
  /-- A call on the application, and what a sink finds that it makes. -/
  | call (op : Op) (d : Day)
  /-- The capture under this key begins its next fragment. -/
  | formatLocation (key : List Char)

/-- A call.  A sink lists the day's directory in any order. -/
def Recordings.call (s : Recordings) (op : Op) (d : Day) : Option Recordings :=
  (sys.step s.run op).bind (fun run =>
    match startedCamera op (s.run.app.call op).2 with
    | none => some { s with run := run }
    | some camera =>
      let dir := dayDir s.run.app camera d
      if d.listing.Perm (s.filesIn dir) then
        let startingId := Sink.mp4.init (d.listing.map (fun n => ⟨n, true⟩))
        some { s with
          run := run
          muxes := s.muxes.assign (file0 camera) ⟨dir, .mp4, d.listing, startingId, 0⟩ }
      else none)

/-- The next fragment of a capture that is in the table. -/
def Recordings.formatLocation (s : Recordings) (key : List Char) : Option Recordings :=
  if s.run.crashed = false ∧ IsCapture s.run.app key then
    (s.muxes.find key).map (fun m =>
      let r := m.session.sink.handleFormatLocation m.topStorageDir m.session.startingId
        (m.session.fragments % 2 ^ 32)
      { s with
        written := s.written ++ [⟨key, r.2⟩]
        muxes := s.muxes.assign key
          { m with session := { m.session with fragments := m.session.fragments + 1 } } })
  else none

/-- The application from its construction on, on a disk with any files. -/
def recordings (config : Option AppConfig) : TransSys Recordings RecAct where
  init s := s.run = fresh (new config) ∧ s.written = [] ∧ s.muxes = StdMap.empty
  step s
    | .call op d => s.call op d
    | .formatLocation key => s.formatLocation key

/-- No two recordings have one path, none has that of a file that was there at
first, and those of one directory are of one capture. -/
structure Apart (s : Recordings) : Prop where
  nodup : (s.written.map (fun w => w.path.elements)).Nodup
  initial : ∀ f ∈ s.initial, ∀ w ∈ s.written, w.path.elements ≠ f
  directory : ∀ w ∈ s.written, ∀ w' ∈ s.written,
    w.path.elements.dropLast = w'.path.elements.dropLast → w.key = w'.key

/-- The number of the next fragment is a `guint`, and it has six digits at most
or the session found no recording with a longer number. -/
def FragmentsAgree (s : Recordings) : RecAct → Prop
  | .call _ _ => True
  | .formatLocation key => ∀ m, s.muxes.find key = some m →
      m.session.startingId + m.session.fragments < 2 ^ 32 ∧
        Minds m.session (m.session.startingId + m.session.fragments)

/-! ### Plain names -/

/-- An element that a file system does not read as another. -/
def Plain (e : List Char) : Prop := Proper e ∧ e ≠ ['.'] ∧ e ≠ ['.', '.']

instance (e : List Char) : Decidable (Plain e) := inferInstanceAs (Decidable (_ ∧ _ ∧ _))

/-- A relative path of such elements. -/
def PlainKey (key : List Char) : Prop := ∃ es, es ≠ [] ∧ (∀ e ∈ es, Plain e) ∧ key = joined es

/-- The video path is an absolute path and the names of the pipelines are
relative ones, without redundant separators or elements. -/
structure PlainConfig (config : AppConfig) : Prop where
  videoPath : ∃ es, (∀ e ∈ es, Plain e) ∧ config.videoPath = (spell es).pathname
  pipeNames : ∀ name ∈ pipeNames config, PlainKey name

theorem plainKey_of_plain {e : List Char} (h : Plain e) : PlainKey e := by
  refine ⟨[e], by simp, fun x hx => ?_, by simp [joined]⟩
  exact List.mem_singleton.mp hx ▸ h

theorem plain_file0 : Plain "file0".toList := by decide

theorem file0_joined {es : List (List Char)} (h : es ≠ []) :
    file0 (joined es) = joined (es ++ ["file0".toList]) := (joined_concat h _).symm

theorem PlainKey.file0 {key : List Char} (h : PlainKey key) : PlainKey (file0 key) := by
  obtain ⟨es, hne, hes, rfl⟩ := h
  refine ⟨es ++ ["file0".toList], by simp, fun e he => ?_, file0_joined hne⟩
  rcases List.mem_append.mp he with he | he
  · exact hes e he
  · exact List.mem_singleton.mp he ▸ plain_file0

theorem plain_dateStr (d : Day) : Plain d.dateStr := by
  have hdigit : ∀ c ∈ d.dateStr, c.isDigit = true := by
    intro c hc
    rw [Day.dateStr, List.mem_append, List.mem_append] at hc
    rcases hc with hc | hc | hc
    · exact Text.isDigit_of_mem_padDigits c hc
    · exact Text.isDigit_of_mem_padDigits c hc
    · exact Text.isDigit_of_mem_padDigits c hc
  have hne : d.dateStr ≠ [] := fun hnil =>
    Text.padDigits_ne_nil 4 d.year (List.append_eq_nil_iff.mp hnil).1
  refine ⟨⟨hne, fun h => absurd (hdigit _ h) (by decide)⟩, fun h => ?_, fun h => ?_⟩
  · exact absurd (hdigit '.' (h ▸ List.mem_singleton_self _)) (by decide)
  · exact absurd (hdigit '.' (h ▸ List.mem_cons_self)) (by decide)

/-! ### What calls do to the table -/

theorem keys_initCameras (env : InitEnv) : ∀ (cams : List (List Char × CameraConfig))
    {app : OpaleyeApp} {k : List Char}, (initCameras env cams app).1.pipelines.find k ≠ none →
    app.pipelines.find k ≠ none ∨ k ∈ cams.map (fun cam => cam.2.pipeline.name) := by
  intro cams
  induction cams with
  | nil => intro app k h; exact Or.inl h
  | cons cam cams ih =>
    intro app k h
    rcases initCameras_cons env cam cams app with ⟨f, heq, -⟩ | ⟨p, f, heq, -⟩ | ⟨p, _, heq, -⟩
    · rw [heq] at h
      exact Or.inl h
    · rw [heq] at h
      exact Or.inl h
    · rw [heq] at h
      rw [List.map_cons, List.mem_cons]
      rcases ih h with h | h
      · rw [find_stash] at h
        by_cases hk : k = cam.2.pipeline.name
        · exact Or.inr (Or.inl hk)
        · rw [if_neg hk] at h
          exact Or.inl h
      · exact Or.inr (Or.inr h)

theorem config_stash (app : OpaleyeApp) (key : List Char) (p : Pipeline) :
    (app.stash key p).config = app.config := by
  rw [stash]
  split
  · rfl
  · rfl

theorem config_initCameras (env : InitEnv) : ∀ (cams : List (List Char × CameraConfig))
    (app : OpaleyeApp), (initCameras env cams app).1.config = app.config := by
  intro cams
  induction cams with
  | nil => intro app; rfl
  | cons cam cams ih =>
    intro app
    rcases initCameras_cons env cam cams app with ⟨f, heq, -⟩ | ⟨p, f, heq, -⟩ | ⟨p, _, heq, -⟩
    · rw [heq]; rfl
    · rw [heq]; rfl
    · rw [heq, ih, config_stash]

theorem config_stopEntries : ∀ (es : List (List Char × Option Pipeline)) (app : OpaleyeApp),
    (stopEntries es app).1.config = app.config := by
  intro es
  induction es with
  | nil => intro app; rfl
  | cons e es ih =>
    intro app
    rcases stopEntries_cons e es app with ⟨-, ret, heq⟩ | ⟨p, -, heq⟩
    · rw [heq]
    · rw [heq, ih]
      rfl

theorem config_call (app : OpaleyeApp) (op : Op) :
    (app.call op).1.config.getD .makeDefault = app.config.getD .makeDefault := by
  cases op with
  | init env =>
    show (app.init env).1.config.getD .makeDefault = _
    rw [init]
    split
    · rfl
    · dsimp only
      split
      · rfl
      · rw [config_initCameras]
        rfl
  | start starts => rfl
  | stop => exact congrArg (·.getD .makeDefault) (config_stopEntries _ app)
  | startVideoCapture camera env =>
    have houtcome := startVideoCapture_outcome camera env app
    show (app.startVideoCapture camera env).1.config.getD .makeDefault = _
    generalize app.startVideoCapture camera env = res at houtcome ⊢
    cases houtcome with
    | stays hopens hret => rfl
    | drops hopens hworks hp hret => rfl
    | stashes hopens hworks => rfl
  | stopVideoCapture camera =>
    have houtcome := stopVideoCapture_outcome camera app
    show (app.stopVideoCapture camera).1.config.getD .makeDefault = _
    generalize app.stopVideoCapture camera = res at houtcome ⊢
    cases houtcome with
    | stays hcloses hret => rfl
    | erases hcloses hp => rfl
  | startRtpStream pipeName ipAddr port ret => rfl
  | stopRtpStream pipeName ipAddr port ret => rfl
  | getPipelineStatus state change =>
    show (app.getPipelineStatus state change).1.config.getD .makeDefault = _
    rw [getPipelineStatus_fst]
    rfl
  | getPipelineGraph => rfl

theorem keys_stopEntries : ∀ (es : List (List Char × Option Pipeline)) {app : OpaleyeApp}
    {k : List Char}, (stopEntries es app).1.pipelines.find k ≠ none →
    app.pipelines.find k ≠ none ∨ k ∈ es.map Prod.fst := by
  intro es
  induction es with
  | nil => intro app k h; exact Or.inl h
  | cons e es ih =>
    intro app k h
    rw [List.map_cons, List.mem_cons]
    rcases stopEntries_cons e es app with ⟨-, ret, heq⟩ | ⟨p, -, heq⟩
    · rw [heq] at h
      exact Or.inl h
    · rw [heq] at h
      rcases ih h with h | h
      · by_cases hk : k = e.1
        · exact Or.inr (Or.inl hk)
        · rw [drop_pipelines, StdMap.find_assign_of_ne _ _ hk] at h
          exact Or.inl h
      · exact Or.inr (Or.inr h)

theorem keys_change {app app' : OpaleyeApp} {call : CaptureCall} {ret : Ret} {k : List Char}
    (hch : Change app call app' ret) (h : app'.pipelines.find k ≠ none) :
    app.pipelines.find k ≠ none ∨
      ∃ camera, app.pipelines.find camera ≠ none ∧ k = file0 camera := by
  cases hch with
  | none hcloses heq hret => exact Or.inl (heq ▸ h)
  | @started camera env app' hc hk heq =>
    by_cases hkey : k = file0 camera
    · exact Or.inr ⟨camera, hc, hkey⟩
    · rw [heq, StdMap.find_emplace_of_ne _ _ hkey] at h
      exact Or.inl h
  | @stopped camera app' hcloses heq =>
    rw [heq, StdMap.find_erase] at h
    by_cases hkey : k = file0 camera
    · exact absurd (if_pos hkey) h
    · rw [if_neg hkey] at h
      exact Or.inl h

/-- **Where keys come from**: the configuration, `get_pipeline_status`, and
captures of what has a key. -/
theorem keys_call {app : OpaleyeApp} {op : Op} {k : List Char}
    (h : (app.call op).1.pipelines.find k ≠ none) :
    (app.pipelines.find k ≠ none ∨ ∃ camera, app.pipelines.find camera ≠ none ∧ k = file0 camera) ∨
      k ∈ pipeNames (app.config.getD .makeDefault) ∨ k = "pipe0".toList := by
  cases op with
  | init env =>
    change (app.init env).1.pipelines.find k ≠ none at h
    rcases init_cases env app with ⟨-, config, heq⟩ | ⟨-, -, heq⟩
    · rw [heq] at h
      exact Or.inl (Or.inl h)
    · rw [heq] at h
      rcases keys_initCameras env _ h with h | h
      · exact Or.inl (Or.inl h)
      · exact Or.inr (Or.inl h)
  | start starts => exact Or.inl (Or.inl h)
  | stop =>
    change (stopEntries app.pipelines.entries app).1.pipelines.find k ≠ none at h
    rcases keys_stopEntries _ h with h | h
    · exact Or.inl (Or.inl h)
    · exact Or.inl (Or.inl ((StdMap.mem_keys_iff _ _).mp h))
  | startVideoCapture camera env =>
    exact Or.inl (keys_change (change_call app (.start camera env)) h)
  | stopVideoCapture camera => exact Or.inl (keys_change (change_call app (.stop camera)) h)
  | startRtpStream pipeName ipAddr port ret => exact Or.inl (Or.inl h)
  | stopRtpStream pipeName ipAddr port ret => exact Or.inl (Or.inl h)
  | getPipelineStatus state change =>
    change (app.getPipelineStatus state change).1.pipelines.find k ≠ none at h
    rw [getPipelineStatus_fst, entryAt] at h
    by_cases hk : k = "pipe0".toList
    · exact Or.inr (Or.inr hk)
    · rw [StdMap.find_emplace_of_ne _ _ hk] at h
      exact Or.inl (Or.inl h)
  | getPipelineGraph => exact Or.inl (Or.inl h)

theorem isCapture_change {app app' : OpaleyeApp} {call : CaptureCall} {ret : Ret} {k : List Char}
    (hch : Change app call app' ret) (h : IsCapture app' k) :
    IsCapture app k ∨ ∃ camera, startedCamera call.op ret = some camera ∧ k = file0 camera := by
  cases hch with
  | none hcloses heq hret => exact Or.inl ((isCapture_congr (by rw [heq])).mp h)
  | @started camera env app' hc hk heq =>
    by_cases hkey : k = file0 camera
    · exact Or.inr ⟨camera, rfl, hkey⟩
    · exact Or.inl ((isCapture_congr (by rw [heq, StdMap.find_emplace_of_ne _ _ hkey])).mp h)
  | @stopped camera app' hcloses heq =>
    obtain ⟨p, hp, hf⟩ := h
    rw [heq, StdMap.find_erase] at hp
    by_cases hkey : k = file0 camera
    · rw [if_pos hkey] at hp
      cases hp
    · rw [if_neg hkey] at hp
      exact Or.inl ⟨p, hp, hf⟩

/-- **A capture that was not there before was started just now.** -/
theorem isCapture_call {app : OpaleyeApp} {op : Op} {k : List Char}
    (h : IsCapture (app.call op).1 k) :
    IsCapture app k ∨
      ∃ camera, startedCamera op (app.call op).2 = some camera ∧ k = file0 camera := by
  cases op with
  | init env =>
    change IsCapture (app.init env).1 k at h
    rcases init_cases env app with ⟨-, config, heq⟩ | ⟨hnil, -, heq⟩
    · rw [heq] at h
      exact Or.inl h
    · rw [heq] at h
      exact absurd h (((camerasOnly_of_nil hnil _).initCameras env _).not_isCapture k)
  | start starts => exact Or.inl h
  | stop =>
    obtain ⟨p, hp, hf⟩ := h
    change (stopEntries app.pipelines.entries app).1.pipelines.find k = some (some p) at hp
    rcases find_stopEntries app.pipelines.entries app k with heq | hnull
    · exact Or.inl ⟨p, heq ▸ hp, hf⟩
    · exact absurd (hnull.symm.trans hp) (by simp)
  | startVideoCapture camera env => exact isCapture_change (change_call app (.start camera env)) h
  | stopVideoCapture camera => exact isCapture_change (change_call app (.stop camera)) h
  | startRtpStream pipeName ipAddr port ret => exact Or.inl h
  | stopRtpStream pipeName ipAddr port ret => exact Or.inl h
  | getPipelineStatus state change =>
    obtain ⟨p, hp, hf⟩ := h
    change (app.getPipelineStatus state change).1.pipelines.find k = some (some p) at hp
    rw [getPipelineStatus_fst, entryAt] at hp
    by_cases hk : k = "pipe0".toList
    · rw [hk, StdMap.find_emplace_self] at hp
      cases hfind : app.pipelines.find "pipe0".toList with
      | none =>
        rw [hfind] at hp
        cases hp
      | some v =>
        rw [hfind, Option.getD_some] at hp
        exact Or.inl ⟨p, by rw [hk, hfind, hp], hf⟩
    · rw [StdMap.find_emplace_of_ne _ _ hk] at hp
      exact Or.inl ⟨p, hp, hf⟩
  | getPipelineGraph => exact Or.inl h

theorem startedCamera_eq_some {op : Op} {ret : Ret} {camera : List Char}
    (h : startedCamera op ret = some camera) :
    ret = .returned true ∧ ∃ env, op = .startVideoCapture camera env := by
  rw [startedCamera.eq_def] at h
  split at h
  · obtain rfl := Option.some.inj h
    exact ⟨rfl, _, rfl⟩
  · cases h

theorem key_of_startedCamera {app : OpaleyeApp} {op : Op} {camera : List Char}
    (h : startedCamera op (app.call op).2 = some camera) : app.pipelines.find camera ≠ none := by
  obtain ⟨hret, env, rfl⟩ := startedCamera_eq_some h
  have houtcome := startVideoCapture_outcome camera env app
  change (app.startVideoCapture camera env).2 = _ at hret
  generalize app.startVideoCapture camera env = res at houtcome hret
  cases houtcome with
  | stays hopens hno => exact absurd hret hno.1
  | drops hopens hworks hp hno => exact absurd hret hno.1
  | stashes hopens hworks => exact hopens.1

/-! ### Directories -/

/-- A directory of the capture under `key`, for some day. -/
def IsDay (vs : List (List Char)) (key : List Char) (dir : FsPath.Path) : Prop :=
  ∃ es date, es ≠ [] ∧ (∀ e ∈ vs ++ es ++ [date], Proper e) ∧ key = file0 (joined es) ∧
    dir = spell (vs ++ es ++ [date])

variable {vs : List (List Char)} {key key' : List Char} {dir dir' : FsPath.Path}

theorem isDay_dayDir {app : OpaleyeApp} {camera : List Char} (hvs : ∀ e ∈ vs, Plain e)
    (hpath : (app.config.getD .makeDefault).videoPath = (spell vs).pathname)
    (hcamera : PlainKey camera) (d : Day) : IsDay vs (file0 camera) (dayDir app camera d) := by
  obtain ⟨es, hne, hes, rfl⟩ := hcamera
  have hvs' : ∀ e ∈ vs, Proper e := fun e he => (hvs e he).1
  have hes' : ∀ e ∈ es, Proper e := fun e he => (hes e he).1
  have hboth : ∀ e ∈ vs ++ es, Proper e := fun e he =>
    (List.mem_append.mp he).elim (hvs' e) (hes' e)
  refine ⟨es, d.dateStr, hne, fun e he => ?_, rfl, ?_⟩
  · rcases List.mem_append.mp he with he | he
    · exact hboth e he
    · exact List.mem_singleton.mp he ▸ (plain_dateStr d).1
  · rw [dayDir, hpath]
    exact (congrArg (FsPath.Path.append · _) (append_spell_joined hvs' hes' hne)).trans
      (append_spell hboth (plain_dateStr d).1)

theorem isDay_key (h : IsDay vs key dir) (h' : IsDay vs key' dir')
    (heq : dir.elements = dir'.elements) : key = key' := by
  obtain ⟨es, date, hne, hes, rfl, rfl⟩ := h
  obtain ⟨es', date', hne', hes', rfl, rfl⟩ := h'
  have hsame := spell_injective hes hes' heq
  rw [List.append_assoc, List.append_assoc, List.append_cancel_left_eq] at hsame
  rw [(List.append_inj' hsame rfl).1]

theorem IsDay.elements_append (h : IsDay vs key dir) (n : Nat) :
    (dir.append ⟨recording n⟩).elements = dir.elements ++ [recording n] := by
  obtain ⟨es, date, -, hes, -, rfl⟩ := h
  have hall : ∀ e ∈ vs ++ es ++ [date] ++ [recording n], Proper e := by
    intro e he
    rcases List.mem_append.mp he with he | he
    · exact hes e he
    · exact List.mem_singleton.mp he ▸ proper_recording n
  rw [append_spell hes (proper_recording n), elements_spell hall, elements_spell hes,
    List.cons_append]

theorem mem_filesIn (s : Recordings) (dir : FsPath.Path) (name : List Char) :
    name ∈ s.filesIn dir ↔ dir.elements ++ [name] ∈ s.files := by
  rw [Recordings.filesIn, List.mem_filterMap]
  constructor
  · rintro ⟨f, hf, heq⟩
    split at heq
    · next hdir =>
      rw [← hdir, List.dropLast_append_getLast? _ heq]
      exact hf
    · cases heq
  · intro hmem
    exact ⟨_, hmem, by rw [List.dropLast_concat, if_pos rfl, List.getLast?_concat]⟩

/-! ### The invariant -/

/-- **What every run keeps.**  Each capture's sink is in a directory of its own
and past every recording there that it has to mind. -/
structure RecordingsInv (config : AppConfig) (vs : List (List Char)) (s : Recordings) : Prop where
  config : s.run.app.config.getD .makeDefault = config
  keys : ∀ k, s.run.app.pipelines.find k ≠ none → PlainKey k
  muxes : ∀ k m, s.muxes.find k = some m → IsDay vs k m.topStorageDir
  written : ∀ w ∈ s.written, ∃ dir n, IsDay vs w.key dir ∧ w.path = dir.append ⟨recording n⟩
  past : ∀ k m, IsCapture s.run.app k → s.muxes.find k = some m →
    ∀ n, n < 2 ^ 32 → m.topStorageDir.elements ++ [recording n] ∈ s.files → Minds m.session n →
      n < m.session.startingId + m.session.fragments
  nodup : (s.written.map (fun w => w.path.elements)).Nodup
  initial : ∀ f ∈ s.initial, ∀ w ∈ s.written, w.path.elements ≠ f

variable {config : AppConfig} {s s' : Recordings}

/-- A sink that lists its directory is past what it has to mind there. -/
theorem past_init {listing : List (List Char)} {startingId n : Nat} (hmem : recording n ∈ listing)
    (hn : n < 2 ^ 32) (hminds : Minds ⟨.mp4, listing, startingId, 0⟩ n) :
    n < Sink.mp4.init (listing.map (fun n => ⟨n, true⟩)) := by
  -- a recording with a longer number would have been found
  have hsix : n < 10 ^ 6 := by
    rcases hminds with hsix | hbig
    · exact hsix
    · by_contra hlt
      exact hbig n (by omega) hn hmem
  rw [Sink.init_eq]
  exact lt_scanDir hsix _ listing 0 hmem

theorem plainKeys_call {app : OpaleyeApp} (hcfg : PlainConfig (app.config.getD .makeDefault))
    (h : ∀ k, app.pipelines.find k ≠ none → PlainKey k) (op : Op) :
    ∀ k, (app.call op).1.pipelines.find k ≠ none → PlainKey k := by
  intro k hk
  rcases keys_call hk with (hk | ⟨camera, hcamera, rfl⟩) | hk | rfl
  · exact h k hk
  · exact (h camera hcamera).file0
  · exact hcfg.pipeNames k hk
  · exact plainKey_of_plain (by decide)

theorem RecordingsInv.call (hcfg : PlainConfig config) (hvs : ∀ e ∈ vs, Plain e)
    (hpath : config.videoPath = (spell vs).pathname) (h : RecordingsInv config vs s) {op : Op}
    {d : Day} (hst : s.call op d = some s') : RecordingsInv config vs s' := by
  obtain ⟨run, hrun, hst⟩ := Option.bind_eq_some_iff.mp hst
  obtain ⟨-, happ, -⟩ := sys_step hrun
  have hconfig : run.app.config.getD .makeDefault = config := by
    rw [happ, config_call]
    exact h.config
  have hkeys : ∀ k, run.app.pipelines.find k ≠ none → PlainKey k := by
    rw [happ]
    exact plainKeys_call (h.config ▸ hcfg) h.keys op
  have hcapture : ∀ k, IsCapture run.app k → IsCapture s.run.app k ∨
      ∃ camera, startedCamera op (s.run.app.call op).2 = some camera ∧ k = file0 camera := by
    intro k hk
    rw [happ] at hk
    exact isCapture_call hk
  dsimp only at hst
  split at hst
  · next hno =>
    obtain rfl := Option.some.inj hst
    refine ⟨hconfig, hkeys, h.muxes, h.written, fun k m hk => ?_, h.nodup, h.initial⟩
    rcases hcapture k hk with hk | ⟨camera, hyes, -⟩
    · exact h.past k m hk
    · exact absurd (hno.symm.trans hyes) (by simp)
  · next camera hyes =>
    split at hst
    · next hperm =>
      obtain rfl := Option.some.inj hst
      have hday : IsDay vs (file0 camera) (dayDir s.run.app camera d) :=
        isDay_dayDir hvs (by rw [h.config, hpath]) (h.keys camera (key_of_startedCamera hyes)) d
      refine ⟨hconfig, hkeys, fun k m hm => ?_, h.written, fun k m hk hm => ?_, h.nodup, h.initial⟩
      · rcases StdMap.find_assign_eq_some hm with ⟨rfl, rfl⟩ | ⟨-, hm⟩
        · exact hday
        · exact h.muxes k m hm
      · rcases StdMap.find_assign_eq_some hm with ⟨-, rfl⟩ | ⟨hkey, hm⟩
        · intro n hn hmem hminds
          exact past_init (hperm.mem_iff.mpr ((mem_filesIn s _ _).mpr hmem)) hn hminds
        · rcases hcapture k hk with hk | ⟨camera', hyes', hk⟩
          · exact h.past k m hk hm
          · obtain rfl := Option.some.inj (hyes.symm.trans hyes')
            exact absurd hk hkey
    · cases hst

theorem mem_files_concat (s : Recordings) (w : Written) (muxes : StdMap (List Char) Mux)
    (f : List (List Char)) : f ∈ ({ s with written := s.written ++ [w], muxes := muxes }).files ↔
      f ∈ s.files ∨ f = w.path.elements := by
  simp only [Recordings.files, List.map_append, List.map_cons, List.map_nil, ← List.append_assoc,
    List.mem_append, List.mem_singleton]

/-- **The next fragment of a capture has a path of its own**: its sink is past
all it has to mind, this number among it. -/
theorem RecordingsInv.next_not_mem (h : RecordingsInv config vs s) {key : List Char} {m : Mux}
    (hcap : IsCapture s.run.app key) (hm : s.muxes.find key = some m) {n : Nat}
    (hn : m.session.startingId + m.session.fragments = n) (hlt : n < 2 ^ 32)
    (hminds : Minds m.session n) :
    (m.topStorageDir.append ⟨recording n⟩).elements ∉ s.files := by
  intro hmem
  rw [(h.muxes key m hm).elements_append n] at hmem
  have hpast := h.past key m hcap hm n hlt hmem hminds
  omega

theorem RecordingsInv.formatLocation (h : RecordingsInv config vs s) {key : List Char}
    (hagree : FragmentsAgree s (.formatLocation key)) (hst : s.formatLocation key = some s') :
    RecordingsInv config vs s' := by
  rw [Recordings.formatLocation] at hst
  split at hst
  · next hcap =>
    obtain ⟨m, hm, rfl⟩ := Option.map_eq_some_iff.mp hst
    obtain ⟨hlt, hminds⟩ := hagree m hm
    have hday := h.muxes key m hm
    generalize hN : m.session.startingId + m.session.fragments = N at hlt hminds
    have hnum : (m.session.fragments % 2 ^ 32 + m.session.startingId) % 2 ^ 32 = N := by omega
    have hnew := h.next_not_mem hcap.2 hm hN hlt hminds
    simp only [Sink.handleFormatLocation_eq, Storage.formatLocation, hnum]
    refine ⟨h.config, h.keys, fun k m' hm' => ?_, fun w hw => ?_,
      fun k m' hk hm' n hn hmem hminds' => ?_, ?_, fun f hf w hw => ?_⟩
    · rcases StdMap.find_assign_eq_some hm' with ⟨rfl, rfl⟩ | ⟨-, hm'⟩
      · exact hday
      · exact h.muxes k m' hm'
    · rcases List.mem_append.mp hw with hw | hw
      · exact h.written w hw
      · obtain rfl := List.mem_singleton.mp hw
        exact ⟨_, N, hday, rfl⟩
    · rw [mem_files_concat, hday.elements_append] at hmem
      rcases StdMap.find_assign_eq_some hm' with ⟨rfl, rfl⟩ | ⟨hkey, hm'⟩
      · show n < m.session.startingId + (m.session.fragments + 1)
        rcases hmem with hmem | hsame
        · have hpast := h.past k m hcap.2 hm n hn hmem hminds'
          omega
        · have hrec := recording_injective (List.singleton_inj.mp (List.append_cancel_left hsame))
          omega
      · rcases hmem with hmem | hsame
        · exact h.past k m' hk hm' n hn hmem hminds'
        · -- another capture's directory is another one
          have hdir := (List.append_inj' hsame rfl).1
          exact absurd (isDay_key (h.muxes k m' hm') hday hdir) hkey
    · rw [List.map_append]
      refine List.nodup_append.mpr ⟨h.nodup, by simp, fun a ha b hb hab => hnew ?_⟩
      have hb : b = (m.topStorageDir.append ⟨recording N⟩).elements := List.mem_singleton.mp hb
      exact List.mem_append_right _ (hb ▸ hab ▸ ha)
    · rcases List.mem_append.mp hw with hw | hw
      · exact h.initial f hf w hw
      · obtain rfl := List.mem_singleton.mp hw
        intro hf'
        exact hnew (List.mem_append_left _ (hf' ▸ hf))
  · cases hst

theorem recordingsInv_init {config : Option AppConfig} (hs : (recordings config).init s) :
    RecordingsInv (config.getD .makeDefault) vs s := by
  obtain ⟨hrun, hwritten, hmuxes⟩ := hs
  refine ⟨by rw [hrun]; rfl, fun k hk => ?_, by simp [hmuxes], by simp [hwritten],
    by simp [hmuxes], by simp [hwritten], by simp [hwritten]⟩
  rw [hrun] at hk
  exact absurd rfl hk

/-- **Recordings are kept apart**, in every state that any calls and fragments
lead to while the numbers agree. -/
theorem recordings_apart (config : Option AppConfig) (hcfg : PlainConfig (config.getD .makeDefault))
    (s : Recordings) (h : (recordings config).Reach FragmentsAgree s) : Apart s := by
  obtain ⟨vs, hvs, hpath⟩ := hcfg.videoPath
  have hinv : RecordingsInv (config.getD .makeDefault) vs s := by
    apply TransSys.Reach.invariant (fun s hs => recordingsInv_init hs) _ h
    intro s a s' hI hC hst
    cases a with
    | call op d => exact hI.call hcfg hvs hpath hst
    | formatLocation key => exact hI.formatLocation hC hst
  refine ⟨hinv.nodup, hinv.initial, fun w hw w' hw' heq => ?_⟩
  obtain ⟨dir, n, hday, hpath⟩ := hinv.written w hw
  obtain ⟨dir', n', hday', hpath'⟩ := hinv.written w' hw'
  rw [hpath, hpath', hday.elements_append, hday'.elements_append, List.dropLast_concat,
    List.dropLast_concat] at heq
  exact isDay_key hday hday' heq

/-- Each number has six digits at most. -/
def SixDigits (s : Recordings) : RecAct → Prop
  | .call _ _ => True
  | .formatLocation key => ∀ m ∈ s.muxes.find key,
      m.session.startingId + m.session.fragments < 10 ^ 6

instance (s : Recordings) (a : RecAct) : Decidable (SixDigits s a) :=
  match a with
  | .call _ _ => isTrue trivial
  | .formatLocation key => inferInstanceAs (Decidable (∀ m ∈ s.muxes.find key, _))

theorem SixDigits.agree {a : RecAct} (h : SixDigits s a) : FragmentsAgree s a := by
  cases a with
  | call op d => trivial
  | formatLocation key =>
    intro m hm
    have hlt := h m hm
    exact ⟨by omega, Or.inl hlt⟩

/-- Before `init`, on an empty disk. -/
def emptyDisk (config : Option AppConfig) : Recordings := ⟨fresh (new config), [], [], StdMap.empty⟩

/-- Days on which a sink finds these recordings. -/
def dayWith (numbers : List Nat) : Day := ⟨2024, 3, 1, numbers.map recording⟩

/-- A camera is captured, then the capture too; both record, and the camera's
capture is started once more. -/
def nestedRecordings : List RecAct :=
  [.call (.init fineInit) (dayWith []),
   .call (.startVideoCapture "cam0-pipeline".toList fineCapture) (dayWith []),
   .call (.startVideoCapture "cam0-pipeline/file0".toList fineCapture) (dayWith []),
   .formatLocation "cam0-pipeline/file0".toList,
   .formatLocation "cam0-pipeline/file0/file0".toList,
   .formatLocation "cam0-pipeline/file0".toList,
   .call (.stopVideoCapture "cam0-pipeline".toList) (dayWith []),
   .call (.startVideoCapture "cam0-pipeline".toList fineCapture) (dayWith [1, 0]),
   .formatLocation "cam0-pipeline/file0".toList,
   .formatLocation "cam0-pipeline/file0/file0".toList]

theorem plainConfig_makeDefault : PlainConfig .makeDefault := by
  refine ⟨⟨["opt".toList, "suburbanmarine".toList, "opaleye".toList, "record".toList,
    "video".toList], by decide, by decide⟩, ?_⟩
  intro name hname
  obtain rfl := List.mem_singleton.mp (show name ∈ ["cam0-pipeline".toList] from hname)
  exact plainKey_of_plain (by decide)

theorem recordings_apart_nested : ∃ s,
    (recordings none).run (emptyDisk none) nestedRecordings = some s ∧ Apart s ∧
    s.written.map (fun w => w.path.filename) =
      [recording 0, recording 0, recording 1, recording 2, recording 1] := by
  have hrun : ((recordings none).run (emptyDisk none) nestedRecordings).any (fun s =>
      decide (s.written.map (fun w => w.path.filename) =
        [recording 0, recording 0, recording 1, recording 2, recording 1])) = true := by decide
  obtain ⟨s, hs, hnames⟩ := (Option.any_eq_true _ _).mp hrun
  have hmeets : (recordings none).Meets SixDigits (emptyDisk none) nestedRecordings := by decide
  have hreach : (recordings none).Reach SixDigits s :=
    TransSys.Reach.run _ (.init ⟨rfl, rfl, rfl⟩) hmeets hs
  exact ⟨s, hs, recordings_apart none plainConfig_makeDefault s
    (hreach.mono (fun _ _ h => h.agree)), of_decide_eq_true hnames⟩

/-- Two cameras whose pipelines are named `"cam0"` and `"cam0/"`. -/
def twoNames : AppConfig :=
  let cam (name : String) : CameraConfig :=
    ⟨name.toList, "brio".toList, ⟨name.toList, "brio".toList, .node [] []⟩, .node [] []⟩
  { AppConfig.makeDefault with
    cameraConfigs := (StdMap.empty.assign "a".toList (cam "cam0")).assign "b".toList (cam "cam0/") }

/-- Both are captured, and both record their first fragment. -/
def collidingRecordings : List RecAct :=
  [.call (.init fineInit) (dayWith []),
   .call (.startVideoCapture "cam0".toList fineCapture) (dayWith []),
   .call (.startVideoCapture "cam0/".toList fineCapture) (dayWith []),
   .formatLocation "cam0/file0".toList, .formatLocation "cam0//file0".toList]

/-- **Two names for one directory let a recording take another's place.** -/
theorem recordings_collide : ¬ ∀ (config : Option AppConfig) (s : Recordings),
    (recordings config).Reach FragmentsAgree s → Apart s := by
  intro h
  have hmeets : (recordings (some twoNames)).Meets SixDigits (emptyDisk (some twoNames))
      collidingRecordings := by decide
  obtain ⟨s, hreach, hdup⟩ := TransSys.Reach.of_trace (T := recordings (some twoNames))
    (P := fun s => decide (¬ (s.written.map (fun (w : Written) => w.path.elements)).Nodup))
    collidingRecordings ⟨rfl, rfl, rfl⟩ hmeets (by decide)
  exact of_decide_eq_true hdup (h _ s (hreach.mono (fun _ _ h => h.agree))).nodup

end Opaleye.App
