import Opaleye.App.Captures

/-!
# Null pipelines and joinable threads

Two properties of the table over every run of every call, from an application
that has not been initialised.

`pipelines_nonNull_iff` is about its values.  `Opaleye_app::stop` resets the
entries without erasing them, and `get_pipeline_status` asks for `"pipe0"` with
`operator[]`, whatever the configuration calls its pipelines.  A run without
null pipelines is one that does neither of the two at the wrong time.

`threads_joined_iff` is about the pipelines that are destroyed.  A pipeline has
a joinable thread from the first step of its initialisation on, and `stop` is
the only place that joins it, so a pipeline given up in between takes its
joinable thread along: one whose builder fails, one whose name is in the table
already, a recorder whose elements fail or which does not start.

The first rests on `Joinable`: every pipeline in the table has its thread, so
that `stop` does get to reset the first entry.
-/

namespace Opaleye.App

open OpaleyeApp

/-- Every value is a pipeline. -/
def NonNull (app : OpaleyeApp) : Prop := ∀ k, app.pipelines.find k ≠ some none

/-- Every pipeline in the table has its thread. -/
def Joinable (app : OpaleyeApp) : Prop :=
  ∀ k p, app.pipelines.find k = some (some p) → p.joinable = true

/-- Every pipeline that was destroyed had its thread joined, or none. -/
def Joined (app : OpaleyeApp) : Prop := ∀ p ∈ app.dropped, p.joinable = false

theorem joined_drop_iff (app : OpaleyeApp) (p : Pipeline) :
    Joined (app.drop p) ↔ Joined app ∧ p.joinable = false := by
  rw [Joined, drop_dropped]
  refine ⟨fun h => ⟨fun q hq => h q (by simp [hq]), h p (by simp)⟩, ?_⟩
  rintro ⟨h, hp⟩ q hq
  rcases List.mem_append.mp hq with hq | hq
  · exact h q hq
  · rw [List.mem_singleton.mp hq]
    exact hp

/-! ### `init` -/

theorem OpaleyeApp.CamerasOnly.nonNull {app : OpaleyeApp} (h : app.CamerasOnly) : NonNull app := by
  intro k hk
  obtain ⟨p, hp, -⟩ := h k _ hk
  cases hp

theorem OpaleyeApp.CamerasOnly.joinable {app : OpaleyeApp} (h : app.CamerasOnly) :
    Joinable app := by
  intro k p hp
  obtain ⟨q, hq, hinst⟩ := h k _ hp
  rw [Option.some.inj hq]
  exact hinst.joinable

theorem initCameras_ne_crashed (env : InitEnv) : ∀ (cams : List (List Char × CameraConfig))
    (app : OpaleyeApp), (initCameras env cams app).2 ≠ .crashed := by
  intro cams
  induction cams with
  | nil => intro app h; cases h
  | cons cam cams ih =>
    intro app
    rcases initCameras_cons env cam cams app with ⟨f, heq, -⟩ | ⟨p, f, heq, -⟩ | ⟨p, _, heq, -⟩
    · rw [heq]; exact (Ret.isNo_ofFailure f).2
    · rw [heq]; exact (Ret.isNo_ofFailure f).2
    · rw [heq]; exact ih _

/-! ### `start` and `stop` -/

theorem startEntries_ne_crashed (starts : List Char → Bool) :
    ∀ (es : List (List Char × Option Pipeline)) (ret : Bool), (∀ e ∈ es, e.2 ≠ none) →
      startEntries starts es ret ≠ .crashed := by
  intro es
  induction es with
  | nil => intro ret _ h; cases h
  | cons e es ih =>
    intro ret hes
    have hrest : ∀ e ∈ es, e.2 ≠ none := fun x hx => hes x (List.mem_cons_of_mem _ hx)
    rw [startEntries]
    split
    · exact ih false hrest
    · obtain ⟨p, hp⟩ := Option.ne_none_iff_exists'.mp (hes e List.mem_cons_self)
      rw [hp]
      exact ih _ hrest

theorem stopEntries_cons (e : List Char × Option Pipeline)
    (es : List (List Char × Option Pipeline)) (app : OpaleyeApp) :
    ((∀ p, e.2 = some p → p.joinable = false) ∧ ∃ ret, stopEntries (e :: es) app = (app, ret)) ∨
    (∃ p, e.2 = some p ∧ stopEntries (e :: es) app
      = stopEntries es ({ app with pipelines := app.pipelines.assign e.1 none }.drop
          { p with joinable := false })) := by
  rw [stopEntries]
  cases he : e.2 with
  | none => exact Or.inl ⟨fun p hp => (by cases hp), _, rfl⟩
  | some p =>
    dsimp only
    rw [Pipeline.stop]
    cases hj : p.joinable with
    | false => exact Or.inl ⟨fun q hq => (Option.some.inj hq) ▸ hj, _, rfl⟩
    | true => exact Or.inr ⟨p, rfl, rfl⟩

theorem find_stopEntries : ∀ (es : List (List Char × Option Pipeline)) (app : OpaleyeApp)
    (k : List Char), (stopEntries es app).1.pipelines.find k = app.pipelines.find k ∨
      (stopEntries es app).1.pipelines.find k = some none := by
  intro es
  induction es with
  | nil => intro app k; exact Or.inl rfl
  | cons e es ih =>
    intro app k
    rcases stopEntries_cons e es app with ⟨-, ret, heq⟩ | ⟨p, -, heq⟩
    · rw [heq]
      exact Or.inl rfl
    · rw [heq]
      rcases ih ({ app with pipelines := app.pipelines.assign e.1 none }.drop _) k with h | h
      · rw [h]
        by_cases hk : k = e.1
        · right
          rw [hk]
          exact StdMap.find_assign_self _ _ _
        · left
          exact StdMap.find_assign_of_ne _ _ hk
      · exact Or.inr h

theorem find_stopEntries_head {k : List Char} {p : Pipeline} (hp : p.joinable = true)
    (es : List (List Char × Option Pipeline)) (app : OpaleyeApp) :
    (stopEntries ((k, some p) :: es) app).1.pipelines.find k = some none := by
  rcases stopEntries_cons (k, some p) es app with ⟨hno, -⟩ | ⟨q, -, heq⟩
  · exact absurd ((hno p rfl).symm.trans hp) (by decide)
  · rw [heq]
    rcases find_stopEntries es ({ app with pipelines := app.pipelines.assign k none }.drop _) k
      with h | h
    · rw [h]
      exact StdMap.find_assign_self _ _ _
    · exact h

theorem joined_stopEntries : ∀ (es : List (List Char × Option Pipeline)) (app : OpaleyeApp),
    Joined app → Joined (stopEntries es app).1 := by
  intro es
  induction es with
  | nil => intro app h; exact h
  | cons e es ih =>
    intro app h
    rcases stopEntries_cons e es app with ⟨-, ret, heq⟩ | ⟨p, -, heq⟩
    · rw [heq]
      exact h
    · rw [heq]
      exact ih _ ((joined_drop_iff _ _).mpr ⟨h, rfl⟩)

/-! ### Every call -/

theorem Joinable.of_find {app app' : OpaleyeApp} (h : Joinable app)
    (hf : ∀ k, app'.pipelines.find k = app.pipelines.find k ∨
      ∀ p, app'.pipelines.find k = some (some p) → p.joinable = true) : Joinable app' := by
  intro k p hp
  rcases hf k with heq | hnew
  · exact h k p (heq ▸ hp)
  · exact hnew p hp

theorem Joinable.change {app app' : OpaleyeApp} {call : CaptureCall} {ret : Ret} (h : Joinable app)
    (hch : Change app call app' ret) : Joinable app' := by
  intro k p hp
  rcases find_of_change hch k with heq | ⟨-, -, hnew⟩ | ⟨-, -, hgone⟩
  · exact h k p (heq ▸ hp)
  · rw [← Option.some.inj (Option.some.inj (hnew.symm.trans hp))]
    rfl
  · exact absurd (hgone.symm.trans hp) (by simp)

theorem getPipelineStatus_fst (state : GstState) (change : StateChange) (app : OpaleyeApp) :
    (app.getPipelineStatus state change).1 = app.entryAt "pipe0".toList := by
  rw [getPipelineStatus]
  split <;> rfl

theorem find_entryAt {app : OpaleyeApp} {key : List Char} (h : app.pipelines.find key ≠ none)
    (k : List Char) : (app.entryAt key).pipelines.find k = app.pipelines.find k := by
  rw [entryAt]
  by_cases hk : k = key
  · obtain ⟨v, hv⟩ := Option.ne_none_iff_exists'.mp h
    rw [hk, StdMap.find_emplace_self, hv, Option.getD_some]
  · exact StdMap.find_emplace_of_ne _ _ hk

theorem Joinable.call {app : OpaleyeApp} (h : Joinable app) (op : Op) :
    Joinable (app.call op).1 := by
  cases op with
  | init env =>
    show Joinable (app.init env).1
    rcases init_cases env app with ⟨hno, config, heq⟩ | ⟨hnil, -, heq⟩
    · rw [heq]; exact h
    · rw [heq]
      exact ((camerasOnly_of_nil hnil _).initCameras env _).joinable
  | start starts => exact h
  | stop =>
    refine h.of_find (fun k => ?_)
    rcases find_stopEntries app.pipelines.entries app k with heq | hnull
    · exact Or.inl heq
    · right
      intro p hp
      exact absurd (hnull.symm.trans hp) (by simp)
  | startVideoCapture camera env =>
    exact h.change (change_call app (.start camera env))
  | stopVideoCapture camera => exact h.change (change_call app (.stop camera))
  | startRtpStream pipeName ipAddr port ret => exact h
  | stopRtpStream pipeName ipAddr port ret => exact h
  | getPipelineStatus state change =>
    show Joinable (app.getPipelineStatus state change).1
    rw [getPipelineStatus_fst]
    cases hf : app.pipelines.find "pipe0".toList with
    | none =>
      refine h.of_find (fun k => ?_)
      by_cases hk : k = "pipe0".toList
      · right
        intro p hp
        rw [hk, entryAt, StdMap.find_emplace_self, hf] at hp
        cases hp
      · exact Or.inl (StdMap.find_emplace_of_ne _ _ hk)
    | some v => exact h.of_find (fun k => Or.inl (find_entryAt (by rw [hf]; simp) k))
  | getPipelineGraph => exact h

/-! ### Null pipelines -/

/-- The call is not one that leaves or meets a null pipeline: `stop` on a table
with something in it, or `get_pipeline_status` without a `"pipe0"`. -/
def KeepsPipelines (app : OpaleyeApp) : Op → Prop
  | .stop => app.pipelines.entries = []
  | .getPipelineStatus _ _ => app.pipelines.find "pipe0".toList ≠ none
  | _ => True

theorem NonNull.entries {app : OpaleyeApp} (h : NonNull app) :
    ∀ e ∈ app.pipelines.entries, e.2 ≠ none := by
  intro e he hnone
  refine h e.1 ((StdMap.find_eq_some_iff _ _ _).mpr ?_)
  rw [← hnone]
  exact he

theorem NonNull.change {app app' : OpaleyeApp} {call : CaptureCall} {ret : Ret} (h : NonNull app)
    (hch : Change app call app' ret) : NonNull app' := by
  intro k hk
  rcases find_of_change hch k with heq | ⟨-, -, hnew⟩ | ⟨-, -, hgone⟩
  · exact h k (heq ▸ hk)
  · exact absurd (hnew.symm.trans hk) (by simp)
  · exact absurd (hgone.symm.trans hk) (by simp)

theorem rtpStream_ne_crashed {app : OpaleyeApp} (h : NonNull app) (pipeName : List Char)
    (port : Int) (ret : Bool) : rtpStream pipeName port ret app ≠ .crashed := by
  rw [rtpStream]
  split
  · exact fun he => (by cases he)
  · split
    · exact fun he => (by cases he)
    · next hnull => exact absurd hnull (h pipeName)
    · split
      · exact fun he => (by cases he)
      · exact fun he => (by cases he)

/-- **One call meets no null pipeline and leaves none exactly when it is not one
of the two.** -/
theorem nonNull_call_iff {app : OpaleyeApp} (hj : Joinable app) (h : NonNull app) (op : Op) :
    ((app.call op).2 ≠ .crashed ∧ NonNull (app.call op).1) ↔ KeepsPipelines app op := by
  cases op with
  | init env =>
    refine iff_of_true ?_ trivial
    show (app.init env).2 ≠ .crashed ∧ NonNull (app.init env).1
    rcases init_cases env app with ⟨hno, config, heq⟩ | ⟨hnil, -, heq⟩
    · rw [heq]
      exact ⟨by simp, h⟩
    · rw [heq]
      exact ⟨initCameras_ne_crashed env _ _,
        ((camerasOnly_of_nil hnil _).initCameras env _).nonNull⟩
  | start starts => exact iff_of_true ⟨startEntries_ne_crashed starts _ true h.entries, h⟩ trivial
  | stop =>
    show ((stopEntries app.pipelines.entries app).2 ≠ .crashed
      ∧ NonNull (stopEntries app.pipelines.entries app).1) ↔ app.pipelines.entries = []
    cases hes : app.pipelines.entries with
    | nil => exact iff_of_true ⟨by simp [stopEntries], h⟩ rfl
    | cons e es =>
      refine iff_of_false (fun hno => ?_) (by simp)
      obtain ⟨k, v⟩ := e
      have hmem : (k, v) ∈ app.pipelines.entries := by rw [hes]; exact List.mem_cons_self
      obtain ⟨p, rfl⟩ := Option.ne_none_iff_exists'.mp (h.entries _ hmem)
      have hp := hj k p ((StdMap.find_eq_some_iff _ _ _).mpr hmem)
      exact hno.2 k (find_stopEntries_head hp es app)
  | startVideoCapture camera env =>
    have hch := change_call app (.start camera env)
    exact iff_of_true ⟨hch.ne_crashed, h.change hch⟩ trivial
  | stopVideoCapture camera =>
    have hch := change_call app (.stop camera)
    exact iff_of_true ⟨hch.ne_crashed, h.change hch⟩ trivial
  | startRtpStream pipeName ipAddr port ret =>
    exact iff_of_true ⟨rtpStream_ne_crashed h pipeName port ret, h⟩ trivial
  | stopRtpStream pipeName ipAddr port ret =>
    exact iff_of_true ⟨rtpStream_ne_crashed h pipeName port ret, h⟩ trivial
  | getPipelineStatus state change =>
    show ((app.getPipelineStatus state change).2 ≠ .crashed
      ∧ NonNull (app.getPipelineStatus state change).1) ↔ app.pipelines.find "pipe0".toList ≠ none
    rw [getPipelineStatus_fst]
    cases hf : app.pipelines.find "pipe0".toList with
    | none =>
      refine iff_of_false (fun hno => hno.2 "pipe0".toList ?_) (by simp)
      rw [entryAt, StdMap.find_emplace_self, hf]
      rfl
    | some v =>
      have hv : v ≠ none := fun hv => h _ (hv ▸ hf)
      obtain ⟨p, rfl⟩ := Option.ne_none_iff_exists'.mp hv
      have hsame := find_entryAt (by rw [hf]; simp : app.pipelines.find "pipe0".toList ≠ none)
      refine iff_of_true ⟨?_, fun k hk => h k ((hsame k).symm.trans hk)⟩ (by simp)
      rw [getPipelineStatus, hsame, hf]
      exact fun he => (by cases he)
  | getPipelineGraph =>
    refine iff_of_true ⟨?_, h⟩ trivial
    have hany : app.pipelines.entries.any (fun e => e.2.isNone) = false := by
      rw [List.any_eq_false]
      intro e he
      rw [Option.isNone_iff_eq_none]
      exact h.entries e he
    show (if app.pipelines.entries.any (fun e => e.2.isNone) then Ret.crashed else .text "")
      ≠ .crashed
    rw [hany]
    exact fun he => (by cases he)

/-- No null pipeline was met, and none is in the table. -/
def NullFree (r : Run) : Prop := r.crashed = false ∧ NonNull r.app

/-- **The table has no null pipeline and none is dereferenced throughout a run,
exactly when** no call stops a table with something in it or asks for the status
of a `"pipe0"` that is not there. -/
theorem pipelines_nonNull_iff (config : Option AppConfig) (ops : List Op) :
    sys.Always NullFree (fresh (new config)) ops ↔
      sys.Meets (fun r op => KeepsPipelines r.app op) (fresh (new config)) ops := by
  apply TransSys.always_iff_meets (I := fun r => Joinable r.app)
  · intro r op r' hI hP hst
    obtain ⟨-, happ, -⟩ := sys_step hst
    refine ⟨fun _ => ?_, ?_⟩
    · rw [happ]
      exact hI.call op
    · rw [NullFree, crashed_iff hst, happ]
      exact nonNull_call_iff hI hP.2 op
  · intro r op _ hP hst
    exact absurd (hP.1.symm.trans (sys_step_none hst)) (by decide)
  · exact (camerasOnly_new config).joinable
  · exact ⟨rfl, (camerasOnly_new config).nonNull⟩

/-- The default configuration has no `"pipe0"`. -/
theorem pipelines_null : ¬ ∀ (config : Option AppConfig) (env : InitEnv) (ops : List Op),
    ((new config).init env).2 = .returned true →
      sys.Always NullFree (fresh ((new config).init env).1) ops := by
  intro h
  have hrun : (sys.run (fresh ((new none).init fineInit).1)
      [.getPipelineStatus .playing .success]).any Run.crashed = true := by decide
  obtain ⟨r, hr, hcr⟩ := (Option.any_eq_true _ _).mp hrun
  have hnull := TransSys.always_last _ (h none fineInit _ (by decide)) hr
  exact absurd (hnull.1.symm.trans hcr) (by decide)

/-! ### Joinable threads -/

/-- For each camera whose thread is launched, until one is not: its builder
succeeds, and its pipeline has a name of its own. -/
def AllBuilt (env : InitEnv) : List (List Char) → List (List Char × CameraConfig) → Prop
  | _, [] => True
  | seen, cam :: cams => env.launches cam.1 = true →
    (∃ parts, makePipeline (env.build cam.1) cam.2 = .ok parts) ∧ cam.2.pipeline.name ∉ seen ∧
      AllBuilt env (cam.2.pipeline.name :: seen) cams

/-- The call gives up no pipeline whose thread has been launched. -/
def GivesUpNone (app : OpaleyeApp) : Op → Prop
  | .init env => app.pipelines.entries = [] →
      initBefore env (app.config.getD .makeDefault) = true →
        AllBuilt env [] (app.config.getD .makeDefault).cameraConfigs.entries
  | .startVideoCapture camera env => app.Opens camera env → env.launches = true → env.Works
  | _ => True

/-- **The loop over the cameras destroys no joinable thread exactly when every
pipeline is built under a name of its own.** -/
theorem joined_initCameras_iff (env : InitEnv) : ∀ (cams : List (List Char × CameraConfig))
    (seen : List (List Char)) (app : OpaleyeApp),
    (∀ k, app.pipelines.find k ≠ none ↔ k ∈ seen) →
    (Joined (initCameras env cams app).1 ↔ Joined app ∧ AllBuilt env seen cams) := by
  intro cams
  induction cams with
  | nil => intro seen app _; exact ⟨fun h => ⟨h, trivial⟩, fun h => h.1⟩
  | cons cam cams ih =>
    intro seen app hseen
    rw [AllBuilt]
    rcases initCameras_cons env cam cams app with
      ⟨f, heq, hl⟩ | ⟨p, f, heq, hp, hl, hm⟩ | ⟨p, parts, heq, hp, hl, hm⟩
    · rw [heq, joined_drop_iff, hl]
      exact and_congr_right (fun _ => iff_of_true rfl (fun h => absurd h (by decide)))
    · rw [heq, joined_drop_iff, hp, hl, hm]
      refine and_congr_right (fun _ => iff_of_false (by decide) (fun h => ?_))
      obtain ⟨parts, hparts⟩ := (h rfl).1
      cases hparts
    · rw [heq, hl, hm]
      by_cases hmem : cam.2.pipeline.name ∈ seen
      · -- the name is taken: the new pipeline is destroyed at once
        have hstash : app.stash cam.2.pipeline.name p = app.drop p :=
          if_pos (Option.isSome_iff_ne_none.mpr ((hseen _).mpr hmem))
        rw [hstash, ih seen (app.drop p) hseen, joined_drop_iff, hp.joinable]
        refine iff_of_false (fun h => absurd h.1.2 (by decide)) (fun h => (h.2 rfl).2.1 hmem)
      · have hfree : ¬ (app.pipelines.find cam.2.pipeline.name).isSome = true := by
          rw [Option.isSome_iff_ne_none]
          exact fun h => hmem ((hseen _).mp h)
        have hstash : (app.stash cam.2.pipeline.name p).dropped = app.dropped := by
          rw [stash, if_neg hfree]
        have hseen' : ∀ k, (app.stash cam.2.pipeline.name p).pipelines.find k ≠ none ↔
            k ∈ cam.2.pipeline.name :: seen := by
          intro k
          rw [find_stash, List.mem_cons, ← hseen k]
          by_cases hk : k = cam.2.pipeline.name
          · simp [hk]
          · simp [hk]
        rw [ih _ _ hseen', Joined, hstash]
        exact and_congr_right (fun _ => ⟨fun h _ => ⟨⟨parts, rfl⟩, hmem, h⟩, fun h => (h rfl).2.2⟩)

/-- **One call destroys no joinable thread exactly when it gives up no
pipeline.** -/
theorem joined_call_iff {app : OpaleyeApp} (h : Joined app) (op : Op) :
    Joined (app.call op).1 ↔ GivesUpNone app op := by
  cases op with
  | init env =>
    show Joined (app.init env).1 ↔ _
    rw [GivesUpNone]
    rcases init_cases env app with ⟨hno, config, heq⟩ | ⟨hnil, hb, heq⟩
    · rw [heq]
      exact iff_of_true h (fun he hb => absurd ⟨he, hb⟩ hno)
    · have hseen : ∀ k, app.pipelines.find k ≠ none ↔ k ∈ ([] : List (List Char)) := by
        intro k
        refine iff_of_false (fun hk => ?_) (by simp)
        obtain ⟨v, hv⟩ := Option.ne_none_iff_exists'.mp hk
        rw [StdMap.find_eq_some_iff, hnil] at hv
        cases hv
      rw [heq, joined_initCameras_iff env _ []
        { app with config := some (app.config.getD .makeDefault) } hseen]
      exact ⟨fun hx _ _ => hx.2, fun hx => ⟨h, hx hnil hb⟩⟩
  | start starts => exact iff_of_true h trivial
  | stop => exact iff_of_true (joined_stopEntries _ app h) trivial
  | startVideoCapture camera env =>
    show Joined (app.startVideoCapture camera env).1 ↔ _
    rw [GivesUpNone]
    have houtcome := startVideoCapture_outcome camera env app
    generalize app.startVideoCapture camera env = res at houtcome ⊢
    cases houtcome with
    | stays hopens hret => exact iff_of_true h (fun ho => absurd ho hopens)
    | drops hopens hworks hp hret =>
      rw [joined_drop_iff, hp]
      refine ⟨fun hj _ hl => absurd (hj.2.symm.trans hl) (by decide), fun hw => ⟨h, ?_⟩⟩
      cases hl : env.launches with
      | false => rfl
      | true => exact absurd (hw hopens hl) hworks
    | stashes hopens hworks => exact iff_of_true h (fun _ _ => hworks)
  | stopVideoCapture camera =>
    refine iff_of_true ?_ trivial
    show Joined (app.stopVideoCapture camera).1
    have houtcome := stopVideoCapture_outcome camera app
    generalize app.stopVideoCapture camera = res at houtcome ⊢
    cases houtcome with
    | stays hcloses hret => exact h
    | erases hcloses hp => exact (joined_drop_iff _ _).mpr ⟨h, hp⟩
  | startRtpStream pipeName ipAddr port ret => exact iff_of_true h trivial
  | stopRtpStream pipeName ipAddr port ret => exact iff_of_true h trivial
  | getPipelineStatus state change =>
    refine iff_of_true ?_ trivial
    show Joined (app.getPipelineStatus state change).1
    rw [getPipelineStatus_fst]
    exact h
  | getPipelineGraph => exact iff_of_true h trivial

/-- **No pipeline is destroyed with a joinable thread throughout a run, exactly
when** no call gives up a pipeline whose thread has been launched. -/
theorem threads_joined_iff (config : Option AppConfig) (ops : List Op) :
    sys.Always (fun r => Joined r.app) (fresh (new config)) ops ↔
      sys.Meets (fun r op => r.crashed = false → GivesUpNone r.app op) (fresh (new config)) ops := by
  apply TransSys.always_iff_meets (I := fun _ => True)
  · intro r op r' _ hP hst
    obtain ⟨hrun, happ, -⟩ := sys_step hst
    refine ⟨fun _ => trivial, ?_⟩
    rw [happ, joined_call_iff hP op]
    exact ⟨fun h _ => h, fun h => h hrun⟩
  · intro r op _ _ hst hrun
    exact absurd (hrun.symm.trans (sys_step_none hst)) (by decide)
  · trivial
  · intro p hp
    cases hp

/-- Two cameras that name one pipeline. -/
theorem threads_joinable : ¬ ∀ (config : Option AppConfig) (ops : List Op),
    sys.Always (fun r => Joined r.app) (fresh (new config)) ops := by
  intro h
  have hrun : (sys.run (fresh (new (AppConfig.deserialize (dualTree "pipe0" "pipe0"))))
      [.init fineInit]).any (fun r => r.app.dropped.any Pipeline.joinable) = true := by decide
  obtain ⟨r, hr, hany⟩ := (Option.any_eq_true _ _).mp hrun
  obtain ⟨p, hp, hj⟩ := List.any_eq_true.mp hany
  have hjoined := TransSys.always_last _ (h _ _) hr
  exact absurd ((hjoined p hp).symm.trans hj) (by decide)

end Opaleye.App
