import Opaleye.App.Rpc

/-!
# The process

`main` and the worker threads of its `http_fcgi_svr`.  `main` starts the server before the
application exists and registers handlers while the workers are already looking them up; two kinds of
handlers reach into the application, the thumbnails through a bare pointer to an element of a
pipeline and the RPC methods through a reference.  At the end `http_fcgi_svr::stop` interrupts the
workers, closes the socket and joins the threads, and only then are the pipelines stopped.  Where
`main` returns early the order is another: the destructors run, and that of the application runs
before that of the server.

A step of `main` is one call, and one turn of the loops in `start` and `stop`; a step of a worker is
one line of its loop or one RPC call.  The table of handlers is not locked: a registration and a
lookup are taken here as one step each.

`handlers_find_app`: as long as `main` does not return after it has registered the first of these
handlers, every handler that runs finds what it points to, and no worker is left when the pipelines
are stopped.  `handler_outlives_app` is a run where it does return.  `stop_returns`: once the workers
are interrupted, `stop` comes to its end whatever they are doing.
-/

namespace Opaleye.App

open Opaleye.Http OpaleyeApp FsPath HttpFcgiSvr

/-! ### Workers -/

/-- The handlers that `main` registers.  `jpeg` points to the thumbnail element of the pipeline that
is under the key. -/
inductive Handler
  | file
  | sensors
  | jpeg (key : List Char) (p : Pipeline)
  | jsonrpc

/-- Where a worker is in `http_fcgi_work_thread::work`: at the head of the loop, in `FCGX_Accept_r`,
behind it with a request, in a handler, behind the call that a handler made, or returned. -/
inductive WorkPc
  | head
  | accepting
  | accepted (documentUri : Path)
  | handling (h : Handler)
  | called
  | returned

def WorkPc.isReturned : WorkPc → Bool
  | .returned => true
  | _ => false

/-- `thread_base` -/
structure Worker where
  keepRunning : Bool
  joinable : Bool
  pc : WorkPc

/-- `thread_base::launch` on a new thread. -/
def Worker.launched : Worker := ⟨true, true, .head⟩

/-! ### `main` -/

/-- What `main` goes on with after `http_fcgi_svr::stop`. -/
inductive AfterStop
  | appStop
  | exit
  deriving DecidableEq

/-- Where `main` is.  From `shutdownPending` to `joining` it is in `http_fcgi_svr::stop`, from
`destroyApp` on it has returned and its locals are destroyed. -/
inductive MainPc
  | openSocket
  | launch
  | appInit
  | appStart
  | jpeg (cams : List (String × String))
  | register (todo : List (Path × Handler)) (next : MainPc)
  | zmq
  | mask
  | waiting
  | shutdownPending (k : AfterStop)
  | interrupting (i : Nat) (k : AfterStop)
  | closing (k : AfterStop)
  | joining (i : Nat) (k : AfterStop)
  | appStop
  | destroyApp
  | terminating
  | destroySvr
  | exited
  | terminated

def AfterStop.pc : AfterStop → MainPc
  | .appStop => .appStop
  | .exit => .exited

/-- `threads` are the threads of the pool, which has `poolSize` places; they stay in the list when
the pool is cleared.  `app` is `none` before `Opaleye_app` is constructed and after it is
destroyed. -/
structure Process where
  main : MainPc
  regs : List (Path × Option Handler)
  socket : Bool
  threads : List Worker
  poolSize : Nat
  app : Option OpaleyeApp

/-- The table of handlers. -/
def Process.svr (s : Process) : HttpFcgiSvr Handler := registerAll s.regs

/-- What `main` registers before the server is started. -/
def firstRegs : List (Path × Option Handler) :=
  [(⟨"/foo".toList⟩, some .file), (⟨"/api/v1/sensor_types".toList⟩, some .sensors),
    (⟨"/api/v1/sensor_types/".toList⟩, some .sensors)]

/-- What it registers for a camera. -/
def jpegRegs (cam : String) (h : Handler) : List (Path × Handler) :=
  [(⟨("/cameras/" ++ cam ++ ".jpg").toList⟩, h),
    (⟨("/api/v1/cameras/" ++ cam ++ "/live/full").toList⟩, h),
    (⟨("/api/v1/cameras/" ++ cam ++ "/live/thumb").toList⟩, h)]

def rpcRegs : List (Path × Handler) := [(⟨"/api/v1".toList⟩, .jsonrpc)]

/-- What a step of `main` is given: how a call ended that may fail, what `init` and `start` find
around them, or whether a signal is `SIGINT`. -/
inductive MainInput
  | go
  | result (ok : Bool)
  | init (env : InitEnv)
  | start (starts : List Char → Bool)
  | signal (sigint : Bool)

/-- A call that returned true, returned false, or threw. -/
def afterCall (ret : Ret) (onTrue : MainPc) : MainPc :=
  match ret with
  | .returned true => onTrue
  | .returned false => .destroyApp
  | _ => .terminated

theorem afterCall_cases (ret : Ret) (onTrue : MainPc) :
    afterCall ret onTrue = onTrue ∨ afterCall ret onTrue = .destroyApp ∨
      afterCall ret onTrue = .terminated := by
  unfold afterCall
  split
  · exact Or.inl rfl
  · exact Or.inr (Or.inl rfl)
  · exact Or.inr (Or.inr rfl)

/-- A pipeline is in the table whose thread has not been joined. -/
def OpaleyeApp.hasThread (app : OpaleyeApp) : Bool :=
  app.pipelines.entries.any (fun e => e.2.any Pipeline.joinable)

/-- One step of `main`, for `n` workers. -/
def mainStep (n : Nat) (config : Option AppConfig) (s : Process) : MainInput → Option Process
  | .result ok =>
    match s.main with
    | .openSocket =>
      some (if ok then { s with socket := true, poolSize := n, main := .launch }
        else { s with main := .appInit })
    | .zmq => some { s with main := if ok then .register rpcRegs .mask else .destroyApp }
    | .mask => some { s with main := if ok then .waiting else .destroyApp }
    | _ => none
  | .init env =>
    match s.main with
    | .appInit =>
      let r := (OpaleyeApp.new config).init env
      some { s with app := some r.1, main := afterCall r.2 .appStart }
    | _ => none
  | .start starts =>
    match s.main, s.app with
    | .appStart, some app =>
      some { s with main := afterCall (app.start starts).2 (.jpeg [("pipe0", "cam0"), ("pipe1", "cam1")]) }
    | _, _ => none
  | .signal sigint =>
    match s.main with
    | .waiting => some { s with main := if sigint then .shutdownPending .appStop else .waiting }
    | _ => none
  | .go =>
    match s.main with
    | .launch =>
      some (if s.threads.length < s.poolSize then { s with threads := s.threads ++ [.launched] }
        else { s with main := .appInit })
    | .jpeg [] => some { s with main := .zmq }
    | .jpeg ((key, cam) :: cams) =>
      match s.app.bind (fun app => app.pipelines.find key.toList) with
      | none => some { s with main := .jpeg cams }
      | some none => some { s with main := .terminated }
      | some (some p) =>
        match p.getElement "thumb_0".toList with
        | some .thumb =>
          some { s with main := .register (jpegRegs cam (.jpeg key.toList p)) (.jpeg cams) }
        | _ => some { s with main := .jpeg cams }
    | .register [] next => some { s with main := next }
    | .register ((uri, h) :: todo) next =>
      match (s.svr.registerCbForDocUri uri (some h)).1 with
      | .error _ => some { s with main := .terminated }
      | .ok _ => some { s with regs := s.regs ++ [(uri, some h)], main := .register todo next }
    | .shutdownPending k => some { s with main := .interrupting 0 k }
    | .interrupting i k =>
      if i < s.poolSize then
        some { s with
          threads := s.threads.modify i (fun w => { w with keepRunning := false })
          main := .interrupting (i + 1) k }
      else some { s with main := .closing k }
    | .closing k => some { s with socket := false, main := .joining 0 k }
    | .joining i k =>
      if i < s.poolSize then
        match s.threads[i]? with
        | none => some { s with main := .terminated }
        | some w =>
          -- `join` waits for a thread that is joinable
          if w.joinable ∧ w.pc.isReturned = false then none
          else
            some { s with
              threads := s.threads.modify i (fun w => { w with joinable := false })
              main := .joining (i + 1) k }
      else some { s with poolSize := 0, main := k.pc }
    | .appStop =>
      s.app.map (fun app =>
        { s with
          app := some app.stop.1
          main := match app.stop.2 with
            | .returned _ => .destroyApp
            | _ => .terminated })
    | .destroyApp =>
      some { s with app := none, main := if s.app.any OpaleyeApp.hasThread then .terminating else .destroySvr }
    | .terminating => some { s with main := .terminated }
    | .destroySvr => some { s with main := if s.poolSize = 0 then .exited else .shutdownPending .exit }
    | _ => none

/-! ### The workers' steps -/

/-- What a step of a worker is given: the request that `FCGX_Accept_r` yields, or the method that a
request calls. -/
inductive WorkInput
  | go
  | accept (documentUri : Option Path)
  | rpc (call : RpcCall) (env : RpcEnv)

def Process.setPc (s : Process) (i : Nat) (pc : WorkPc) : Process :=
  { s with threads := s.threads.modify i (fun w => { w with pc := pc }) }

/-- One step of worker `i`. -/
def workStep (s : Process) (i : Nat) (l : WorkInput) : Option Process :=
  match s.threads[i]? with
  | none => none
  | some w =>
    match l, w.pc with
    | .go, .head => some (s.setPc i (if w.keepRunning then .accepting else .returned))
    | .accept none, .accepting => some (s.setPc i .head)
    | .accept (some documentUri), .accepting => some (s.setPc i (.accepted documentUri))
    | .go, .accepted documentUri =>
      if w.keepRunning = false then some (s.setPc i .returned)
      else
        match s.svr.getCbForDocUri documentUri with
        | .error _ => some { s with main := .terminated }
        | .ok none => some (s.setPc i .head)
        | .ok (some h) => some (s.setPc i (.handling h))
    | .go, .handling _ => some (s.setPc i .head)
    | .rpc call env, .handling .jsonrpc =>
      match s.app with
      | none => none
      | some app =>
        if (call.run env app).2 = .ret .crashed then some { s with main := .terminated }
        else some { s.setPc i .called with app := some (call.run env app).1 }
    | .go, .called => some (s.setPc i .head)
    | _, _ => none

inductive ProcessAct
  | main (l : MainInput)
  | worker (i : Nat) (l : WorkInput)

/-- The process is gone. -/
def MainPc.isOver : MainPc → Bool
  | .exited | .terminated => true
  | _ => false

/-- `main` with `n` workers. -/
def process (n : Nat) (config : Option AppConfig) : TransSys Process ProcessAct where
  init s := s = ⟨.openSocket, firstRegs, false, [], 0, none⟩
  step s a :=
    if s.main.isOver then none
    else
      match a with
      | .main l => mainStep n config s l
      | .worker i l => workStep s i l

/-! ### Everything a step can do -/

/-- The steps of `main`. -/
inductive MainStep (n : Nat) (config : Option AppConfig) (s : Process) : Process → Prop
  | opened (hm : s.main = .openSocket) :
      MainStep n config s { s with socket := true, poolSize := n, main := .launch }
  | notOpened (hm : s.main = .openSocket) : MainStep n config s { s with main := .appInit }
  | launches (hm : s.main = .launch) (hlt : s.threads.length < s.poolSize) :
      MainStep n config s { s with threads := s.threads ++ [.launched] }
  | launched (hm : s.main = .launch) (hle : ¬ s.threads.length < s.poolSize) :
      MainStep n config s { s with main := .appInit }
  | inits (hm : s.main = .appInit) (env : InitEnv) :
      MainStep n config s { s with
        app := some ((OpaleyeApp.new config).init env).1
        main := afterCall ((OpaleyeApp.new config).init env).2 .appStart }
  | starts (hm : s.main = .appStart) {app : OpaleyeApp} (happ : s.app = some app) (ret : Ret) :
      MainStep n config s { s with
        main := afterCall ret (.jpeg [("pipe0", "cam0"), ("pipe1", "cam1")]) }
  | jpegs {cams : List (String × String)} (hm : s.main = .jpeg cams) (next : MainPc)
      (hnext : (cams = [] ∧ next = .zmq) ∨ next = .terminated ∨
        (∃ cam rest, cams = cam :: rest ∧ next = .jpeg rest) ∨
        ∃ app key p cam rest, cams = (key, cam) :: rest ∧ s.app = some app ∧
          app.pipelines.find key.toList = some (some p) ∧ p.isFilesink = false ∧
          next = .register (jpegRegs cam (.jpeg key.toList p)) (.jpeg rest)) :
      MainStep n config s { s with main := next }
  | registered {next : MainPc} (hm : s.main = .register [] next) :
      MainStep n config s { s with main := next }
  | throws {todo : List (Path × Handler)} {next : MainPc} (hm : s.main = .register todo next) :
      MainStep n config s { s with main := .terminated }
  | registers {uri : Path} {h : Handler} {todo : List (Path × Handler)} {next : MainPc}
      (hm : s.main = .register ((uri, h) :: todo) next) :
      MainStep n config s { s with
        regs := s.regs ++ [(uri, some h)], main := .register todo next }
  | zmqReady (hm : s.main = .zmq) : MainStep n config s { s with main := .register rpcRegs .mask }
  | masked (hm : s.main = .mask) : MainStep n config s { s with main := .waiting }
  | returns (hm : s.main = .zmq ∨ s.main = .mask) : MainStep n config s { s with main := .destroyApp }
  | waits (hm : s.main = .waiting) : MainStep n config s { s with main := .waiting }
  | sigint (hm : s.main = .waiting) : MainStep n config s { s with main := .shutdownPending .appStop }
  | shutsDown {k : AfterStop} (hm : s.main = .shutdownPending k) :
      MainStep n config s { s with main := .interrupting 0 k }
  | interrupts {i : Nat} {k : AfterStop} (hm : s.main = .interrupting i k) (hi : i < s.poolSize) :
      MainStep n config s { s with
        threads := s.threads.modify i (fun w => { w with keepRunning := false })
        main := .interrupting (i + 1) k }
  | interrupted {i : Nat} {k : AfterStop} (hm : s.main = .interrupting i k) (hi : ¬ i < s.poolSize) :
      MainStep n config s { s with main := .closing k }
  | closes {k : AfterStop} (hm : s.main = .closing k) :
      MainStep n config s { s with socket := false, main := .joining 0 k }
  | joins {i : Nat} {k : AfterStop} {w : Worker} (hm : s.main = .joining i k) (hi : i < s.poolSize)
      (hw : s.threads[i]? = some w) (hret : w.joinable = true → w.pc.isReturned = true) :
      MainStep n config s { s with
        threads := s.threads.modify i (fun w => { w with joinable := false })
        main := .joining (i + 1) k }
  | joinsNone {i : Nat} {k : AfterStop} (hm : s.main = .joining i k) (hi : i < s.poolSize)
      (hw : s.threads[i]? = none) : MainStep n config s { s with main := .terminated }
  | joined {i : Nat} {k : AfterStop} (hm : s.main = .joining i k) (hi : ¬ i < s.poolSize) :
      MainStep n config s { s with poolSize := 0, main := k.pc }
  | stops (hm : s.main = .appStop) (app : OpaleyeApp) (next : MainPc)
      (hnext : next = .destroyApp ∨ next = .terminated) :
      MainStep n config s { s with app := some app, main := next }
  | destroys (hm : s.main = .destroyApp) (next : MainPc)
      (hnext : next = .terminating ∨ next = .destroySvr) :
      MainStep n config s { s with app := none, main := next }
  | terminates (hm : s.main = .terminating) : MainStep n config s { s with main := .terminated }
  | exits (hm : s.main = .destroySvr) (hp : s.poolSize = 0) :
      MainStep n config s { s with main := .exited }
  | stopsLast (hm : s.main = .destroySvr) (hp : s.poolSize ≠ 0) :
      MainStep n config s { s with main := .shutdownPending .exit }

theorem mainStep_cases {n : Nat} {config : Option AppConfig} {s s' : Process} {l : MainInput}
    (h : mainStep n config s l = some s') : MainStep n config s s' := by
  cases l with
  | result ok =>
    simp only [mainStep] at h
    split at h
    · next hm =>
      cases ok with
      | true => obtain rfl := Option.some.inj h; exact .opened hm
      | false => obtain rfl := Option.some.inj h; exact .notOpened hm
    · next hm =>
      cases ok with
      | true => obtain rfl := Option.some.inj h; exact .zmqReady hm
      | false => obtain rfl := Option.some.inj h; exact .returns (Or.inl hm)
    · next hm =>
      cases ok with
      | true => obtain rfl := Option.some.inj h; exact .masked hm
      | false => obtain rfl := Option.some.inj h; exact .returns (Or.inr hm)
    · cases h
  | init env =>
    simp only [mainStep] at h
    split at h
    · next hm => obtain rfl := Option.some.inj h; exact .inits hm env
    · cases h
  | start starts =>
    simp only [mainStep] at h
    split at h
    · next hm happ => obtain rfl := Option.some.inj h; exact .starts hm happ _
    · cases h
  | signal sigint =>
    simp only [mainStep] at h
    split at h
    · next hm =>
      cases sigint with
      | true => obtain rfl := Option.some.inj h; exact .sigint hm
      | false => obtain rfl := Option.some.inj h; exact .waits hm
    · cases h
  | go =>
    simp only [mainStep] at h
    split at h
    · next hm =>
      by_cases hlt : s.threads.length < s.poolSize
      · rw [if_pos hlt] at h; obtain rfl := Option.some.inj h; exact .launches hm hlt
      · rw [if_neg hlt] at h; obtain rfl := Option.some.inj h; exact .launched hm hlt
    · next hm => obtain rfl := Option.some.inj h; exact .jpegs hm _ (Or.inl ⟨rfl, rfl⟩)
    · next key cam cams hm =>
      split at h
      · obtain rfl := Option.some.inj h; exact .jpegs hm _ (Or.inr (Or.inr (Or.inl ⟨_, _, rfl, rfl⟩)))
      · obtain rfl := Option.some.inj h; exact .jpegs hm _ (Or.inr (Or.inl rfl))
      · next p hfind =>
        split at h
        · next hthumb =>
          obtain rfl := Option.some.inj h
          obtain ⟨app, happ, hp⟩ := Option.bind_eq_some_iff.mp hfind
          refine .jpegs hm _ (Or.inr (Or.inr (Or.inr ⟨app, key, p, cam, cams, rfl, happ, hp, ?_, rfl⟩)))
          -- only a camera's pipeline has elements
          cases hk : p.kind with
          | gstreamer parts => rw [Pipeline.isFilesink, hk]
          | filesink listenTo => rw [Pipeline.getElement, hk] at hthumb; cases hthumb
        · obtain rfl := Option.some.inj h; exact .jpegs hm _ (Or.inr (Or.inr (Or.inl ⟨_, _, rfl, rfl⟩)))
    · next hm => obtain rfl := Option.some.inj h; exact .registered hm
    · next hm =>
      split at h
      · obtain rfl := Option.some.inj h; exact .throws hm
      · obtain rfl := Option.some.inj h; exact .registers hm
    · next hm => obtain rfl := Option.some.inj h; exact .shutsDown hm
    · next hm =>
      split at h
      · next hi => obtain rfl := Option.some.inj h; exact .interrupts hm hi
      · next hi => obtain rfl := Option.some.inj h; exact .interrupted hm hi
    · next hm => obtain rfl := Option.some.inj h; exact .closes hm
    · next hm =>
      split at h
      · next hi =>
        split at h
        · next hw => obtain rfl := Option.some.inj h; exact .joinsNone hm hi hw
        · next w hw =>
          split at h
          · cases h
          · next hret =>
            obtain rfl := Option.some.inj h
            exact .joins hm hi hw (fun hj => by simpa [hj] using hret)
      · next hi => obtain rfl := Option.some.inj h; exact .joined hm hi
    · next hm =>
      obtain ⟨app, -, rfl⟩ := Option.map_eq_some_iff.mp h
      refine .stops hm _ _ ?_
      split
      · exact Or.inl rfl
      · exact Or.inr rfl
    · next hm =>
      obtain rfl := Option.some.inj h
      refine .destroys hm _ ?_
      split
      · exact Or.inl rfl
      · exact Or.inr rfl
    · next hm => obtain rfl := Option.some.inj h; exact .terminates hm
    · next hm =>
      obtain rfl := Option.some.inj h
      by_cases hp : s.poolSize = 0
      · rw [if_pos hp]; exact .exits hm hp
      · rw [if_neg hp]; exact .stopsLast hm hp
    · cases h

/-- How many steps a worker has left once it is interrupted. -/
def WorkPc.rank : WorkPc → Nat
  | .returned => 0
  | .head | .accepted _ => 1
  | .accepting | .called => 2
  | .handling _ => 3

/-- The steps of a worker: it goes to another place, to a handler only if that was registered; the
process ends; or it makes a call. -/
theorem workStep_cases {s s' : Process} {i : Nat} {l : WorkInput} (h : workStep s i l = some s') :
    ∃ w, s.threads[i]? = some w ∧ w.pc.isReturned = false ∧
      ((∃ pc, s' = s.setPc i pc ∧ (w.keepRunning = false → pc.rank < w.pc.rank) ∧
          ∀ h, pc = .handling h → ∃ r ∈ s.regs, r.2 = some h) ∨
        s' = { s with main := .terminated } ∨
        ∃ app call env, w.pc = .handling .jsonrpc ∧ s.app = some app ∧
          s' = { s.setPc i .called with app := some (RpcCall.run env app call).1 }) := by
  rw [workStep] at h
  split at h
  · cases h
  · next w hw =>
    refine ⟨w, hw, ?_⟩
    split at h
    · next hpc =>
      obtain rfl := Option.some.inj h
      refine ⟨by rw [hpc]; rfl, Or.inl ⟨_, rfl, fun hk => ?_, fun h' hh => ?_⟩⟩
      · rw [hk, hpc]
        decide
      · split at hh <;> cases hh
    · next hpc =>
      obtain rfl := Option.some.inj h
      exact ⟨by rw [hpc]; rfl, Or.inl ⟨_, rfl, fun _ => by rw [hpc]; decide, fun h' hh => by cases hh⟩⟩
    · next uri hpc =>
      obtain rfl := Option.some.inj h
      exact ⟨by rw [hpc]; rfl,
        Or.inl ⟨_, rfl, fun _ => by rw [hpc]; exact Nat.one_lt_two, fun h' hh => by cases hh⟩⟩
    · next uri hpc =>
      refine ⟨by rw [hpc]; rfl, ?_⟩
      split at h
      · obtain rfl := Option.some.inj h
        exact Or.inl ⟨_, rfl, fun _ => by rw [hpc]; exact Nat.one_pos, fun h' hh => by cases hh⟩
      · next hk =>
        split at h
        · exact Or.inr (Or.inl (Option.some.inj h).symm)
        · obtain rfl := Option.some.inj h
          exact Or.inl ⟨_, rfl, fun hk' => absurd hk' hk, fun h' hh => by cases hh⟩
        · next cb hcb =>
          obtain rfl := Option.some.inj h
          refine Or.inl ⟨_, rfl, fun hk' => absurd hk' hk, fun h' hh => ?_⟩
          obtain rfl := WorkPc.handling.inj hh
          exact mem_of_getCbForDocUri hcb
    · next cb hpc =>
      obtain rfl := Option.some.inj h
      refine ⟨by rw [hpc]; rfl, Or.inl ⟨_, rfl, fun _ => ?_, fun h' hh => by cases hh⟩⟩
      rw [hpc]
      exact (by decide : 1 < 3)
    · next call env hpc =>
      refine ⟨by rw [hpc]; rfl, ?_⟩
      split at h
      · cases h
      · next app happ =>
        split at h
        · exact Or.inr (Or.inl (Option.some.inj h).symm)
        · exact Or.inr (Or.inr ⟨app, call, env, hpc, happ, (Option.some.inj h).symm⟩)
    · next hpc =>
      obtain rfl := Option.some.inj h
      exact ⟨by rw [hpc]; rfl, Or.inl ⟨_, rfl, fun _ => by rw [hpc]; decide, fun h' hh => by cases hh⟩⟩
    · cases h

/-- **Everything a step can do.** -/
theorem process_step {n : Nat} {config : Option AppConfig} {s s' : Process} {a : ProcessAct}
    (h : (process n config).step s a = some s') :
    s.main.isOver = false ∧
      ((∃ l, a = .main l ∧ mainStep n config s l = some s') ∨
        ∃ i l, a = .worker i l ∧ workStep s i l = some s') := by
  change (if s.main.isOver then none else _) = some s' at h
  split at h
  · cases h
  · next ho =>
    refine ⟨by simpa using ho, ?_⟩
    cases a with
    | main l => exact Or.inl ⟨l, rfl, h⟩
    | worker i l => exact Or.inr ⟨i, l, rfl, h⟩

/-! ### The pool -/

section Pool

variable {threads : List Worker} {poolSize : Nat}

def AllReturned (threads : List Worker) : Prop :=
  ∀ (j : Nat) (w : Worker), threads[j]? = some w → w.pc.isReturned = true

def AllInterrupted (threads : List Worker) : Prop :=
  ∀ (j : Nat) (w : Worker), threads[j]? = some w → w.keepRunning = false

/-- What is known of the pool at each place of `main`. -/
def PoolPhase (threads : List Worker) (poolSize : Nat) : MainPc → Prop
  | .openSocket => threads = [] ∧ poolSize = 0
  | .launch => threads.length ≤ poolSize
  | .register _ next => poolSize = threads.length ∧ (next = .mask ∨ ∃ cams, next = .jpeg cams)
  | .interrupting i _ => poolSize = threads.length ∧
      ∀ (j : Nat) (w : Worker), j < i → threads[j]? = some w → w.keepRunning = false
  | .closing _ => poolSize = threads.length ∧ AllInterrupted threads
  | .joining i _ => poolSize = threads.length ∧ AllInterrupted threads ∧
      ∀ (j : Nat) (w : Worker), j < i → threads[j]? = some w → w.pc.isReturned = true
  | .appStop | .exited => poolSize = 0 ∧ AllReturned threads
  | .destroyApp | .terminating | .destroySvr =>
    poolSize = threads.length ∨ (poolSize = 0 ∧ AllReturned threads)
  | .terminated => True
  | .appInit | .appStart | .jpeg _ | .zmq | .mask | .waiting | .shutdownPending _ =>
    poolSize = threads.length

/-- A thread is joined only after it has returned. -/
structure PoolInv (s : Process) : Prop where
  joined : ∀ (j : Nat) (w : Worker), s.threads[j]? = some w → w.joinable = false → w.pc.isReturned = true
  phase : PoolPhase s.threads s.poolSize s.main

theorem getElem?_modify_cases {i j : Nat} {f : Worker → Worker} {w : Worker}
    (h : (threads.modify i f)[j]? = some w) :
    (j = i ∧ ∃ v, threads[j]? = some v ∧ w = f v) ∨ (j ≠ i ∧ threads[j]? = some w) := by
  rw [List.getElem?_modify] at h
  obtain ⟨v, hv, rfl⟩ := Option.map_eq_some_iff.mp h
  by_cases hij : i = j
  · exact Or.inl ⟨hij.symm, v, hv, if_pos hij⟩
  · refine Or.inr ⟨Ne.symm hij, ?_⟩
    rw [if_neg hij]
    exact hv

theorem allReturned_nil : AllReturned [] := by
  intro j w h
  cases h

theorem PoolPhase.setPc {m : MainPc} (h : PoolPhase threads poolSize m) {i : Nat} {w : Worker}
    (hw : threads[i]? = some w) (hret : w.pc.isReturned = false) (pc : WorkPc) :
    PoolPhase (threads.modify i (fun w => { w with pc := pc })) poolSize m := by
  have hno : ¬ AllReturned threads := fun hall => absurd (hret.symm.trans (hall i w hw)) (by decide)
  have hkeep : ∀ (j : Nat) (v : Worker),
      (threads.modify i (fun w => { w with pc := pc }))[j]? = some v →
      ∃ u, threads[j]? = some u ∧ u.keepRunning = v.keepRunning := by
    intro j v hv
    rcases getElem?_modify_cases hv with ⟨-, u, hu, rfl⟩ | ⟨-, hu⟩
    · exact ⟨u, hu, rfl⟩
    · exact ⟨v, hu, rfl⟩
  have hint : AllInterrupted threads →
      AllInterrupted (threads.modify i (fun w => { w with pc := pc })) := by
    intro hall j v hv
    obtain ⟨u, hu, huv⟩ := hkeep j v hv
    rw [← huv]
    exact hall j u hu
  cases m with
  | openSocket =>
    rw [h.1] at hw
    cases hw
  | launch =>
    show (threads.modify i _).length ≤ poolSize
    rw [List.length_modify]
    exact h
  | register todo next => exact ⟨h.1.trans (List.length_modify _ _ _).symm, h.2⟩
  | interrupting k after =>
    refine ⟨h.1.trans (List.length_modify _ _ _).symm, fun j v hj hv => ?_⟩
    obtain ⟨u, hu, huv⟩ := hkeep j v hv
    rw [← huv]
    exact h.2 j u hj hu
  | closing after => exact ⟨h.1.trans (List.length_modify _ _ _).symm, hint h.2⟩
  | joining k after =>
    refine ⟨h.1.trans (List.length_modify _ _ _).symm, hint h.2.1, fun j v hj hv => ?_⟩
    rcases getElem?_modify_cases hv with ⟨rfl, -⟩ | ⟨-, hu⟩
    · exact absurd (hret.symm.trans (h.2.2 j w hj hw)) (by decide)
    · exact h.2.2 j v hj hu
  | appStop => exact absurd h.2 hno
  | exited => exact absurd h.2 hno
  | destroyApp =>
    rcases h with h | h
    · exact Or.inl (h.trans (List.length_modify _ _ _).symm)
    · exact absurd h.2 hno
  | terminating =>
    rcases h with h | h
    · exact Or.inl (h.trans (List.length_modify _ _ _).symm)
    · exact absurd h.2 hno
  | destroySvr =>
    rcases h with h | h
    · exact Or.inl (h.trans (List.length_modify _ _ _).symm)
    · exact absurd h.2 hno
  | terminated => trivial
  | _ => exact Eq.trans h (List.length_modify _ _ _).symm

theorem PoolInv.workStep {s s' : Process} (h : PoolInv s) {i : Nat} {l : WorkInput}
    (hs : workStep s i l = some s') : PoolInv s' := by
  obtain ⟨w, hw, hret, hcases⟩ := workStep_cases hs
  have hjoined : ∀ pc, ∀ (j : Nat) (v : Worker),
      (s.threads.modify i (fun w => { w with pc := pc }))[j]? = some v → v.joinable = false →
        v.pc.isReturned = true := by
    intro pc j v hv hj
    rcases getElem?_modify_cases hv with ⟨rfl, u, hu, rfl⟩ | ⟨-, hu⟩
    · obtain rfl := Option.some.inj (hw.symm.trans hu)
      exact absurd (hret.symm.trans (h.joined j w hw hj)) (by decide)
    · exact h.joined j v hu hj
  rcases hcases with ⟨pc, rfl, -, -⟩ | rfl | ⟨app, call, env, -, -, rfl⟩
  · exact ⟨hjoined pc, h.phase.setPc hw hret pc⟩
  · exact ⟨h.joined, trivial⟩
  · exact ⟨hjoined .called, h.phase.setPc hw hret .called⟩

theorem allReturned_of_joining {i : Nat} {k : AfterStop}
    (h : PoolPhase threads poolSize (.joining i k)) (hi : ¬ i < poolSize) : AllReturned threads := by
  intro j w hw
  obtain ⟨hj, -⟩ := List.getElem?_eq_some_iff.mp hw
  exact h.2.2 j w (by have := h.1; omega) hw

theorem PoolInv.mainStep {n : Nat} {config : Option AppConfig} {s s' : Process} (h : PoolInv s)
    (hs : MainStep n config s s') : PoolInv s' := by
  have hph := h.phase
  cases hs with
  | opened hm =>
    rw [hm] at hph
    refine ⟨h.joined, ?_⟩
    show s.threads.length ≤ n
    rw [hph.1]
    exact Nat.zero_le n
  | notOpened hm =>
    rw [hm] at hph
    exact ⟨h.joined, show s.poolSize = s.threads.length by rw [hph.1, hph.2]; rfl⟩
  | launches hm hlt =>
    refine ⟨fun j w hw hj => ?_, ?_⟩
    · rcases List.mem_append.mp (List.mem_of_getElem? hw) with hmem | hmem
      · obtain ⟨k, hk⟩ := List.getElem?_of_mem hmem
        exact h.joined k w hk hj
      · rw [List.mem_singleton.mp hmem] at hj
        cases hj
    · rw [hm]
      show (s.threads ++ [Worker.launched]).length ≤ s.poolSize
      rw [List.length_append]
      exact hlt
  | launched hm hle =>
    rw [hm] at hph
    exact ⟨h.joined, show s.poolSize = s.threads.length from
      le_antisymm (not_lt.mp hle) hph⟩
  | inits hm env =>
    rw [hm] at hph
    refine ⟨h.joined, ?_⟩
    rcases afterCall_cases _ _ with heq | heq | heq
    · rw [heq]
      exact hph
    · rw [heq]
      exact Or.inl hph
    · rw [heq]
      trivial
  | starts hm happ ret =>
    rw [hm] at hph
    refine ⟨h.joined, ?_⟩
    rcases afterCall_cases _ _ with heq | heq | heq
    · rw [heq]
      exact hph
    · rw [heq]
      exact Or.inl hph
    · rw [heq]
      trivial
  | jpegs hm next hnext =>
    rw [hm] at hph
    refine ⟨h.joined, ?_⟩
    show PoolPhase s.threads s.poolSize next
    rcases hnext with ⟨-, rfl⟩ | rfl | ⟨cam, cams, -, rfl⟩ | ⟨app, key, p, cam, cams, -, -, -, -, rfl⟩
    · exact hph
    · trivial
    · exact hph
    · exact ⟨hph, Or.inr ⟨cams, rfl⟩⟩
  | registered hm =>
    rw [hm] at hph
    refine ⟨h.joined, ?_⟩
    obtain ⟨hfull, rfl | ⟨cams, rfl⟩⟩ := hph
    · exact hfull
    · exact hfull
  | throws hm => exact ⟨h.joined, trivial⟩
  | registers hm =>
    rw [hm] at hph
    exact ⟨h.joined, hph⟩
  | zmqReady hm =>
    rw [hm] at hph
    exact ⟨h.joined, hph, Or.inl rfl⟩
  | masked hm =>
    rw [hm] at hph
    exact ⟨h.joined, hph⟩
  | returns hm =>
    rcases hm with hm | hm
    · rw [hm] at hph
      exact ⟨h.joined, Or.inl hph⟩
    · rw [hm] at hph
      exact ⟨h.joined, Or.inl hph⟩
  | waits hm =>
    rw [hm] at hph
    exact ⟨h.joined, hph⟩
  | sigint hm =>
    rw [hm] at hph
    exact ⟨h.joined, hph⟩
  | shutsDown hm =>
    rw [hm] at hph
    exact ⟨h.joined, hph, fun j w hj => absurd hj (Nat.not_lt_zero j)⟩
  | @interrupts i k hm hi =>
    rw [hm] at hph
    refine ⟨fun j w hw hj => ?_, hph.1.trans (List.length_modify _ _ _).symm, fun j w hj hw => ?_⟩
    · rcases getElem?_modify_cases hw with ⟨-, v, hv, rfl⟩ | ⟨-, hv⟩
      · exact h.joined j v hv hj
      · exact h.joined j w hv hj
    · rcases getElem?_modify_cases hw with ⟨-, v, hv, rfl⟩ | ⟨hne, hv⟩
      · rfl
      · exact hph.2 j w (by omega) hv
  | @interrupted i k hm hi =>
    rw [hm] at hph
    refine ⟨h.joined, hph.1, fun j w hw => ?_⟩
    have hj : j < s.threads.length := (List.getElem?_eq_some_iff.mp hw).1
    exact hph.2 j w (by have := hph.1; omega) hw
  | closes hm =>
    rw [hm] at hph
    exact ⟨h.joined, hph.1, hph.2, fun j w hj => absurd hj (Nat.not_lt_zero j)⟩
  | @joins i k v hm hi hv hret =>
    rw [hm] at hph
    have hretv : v.pc.isReturned = true := by
      cases hj : v.joinable with
      | true => exact hret hj
      | false => exact h.joined i v hv hj
    refine ⟨fun j w hw hj => ?_, hph.1.trans (List.length_modify _ _ _).symm, fun j w hw => ?_,
      fun j w hj hw => ?_⟩
    · rcases getElem?_modify_cases hw with ⟨rfl, u, hu, rfl⟩ | ⟨-, hu⟩
      · obtain rfl := Option.some.inj (hv.symm.trans hu)
        exact hretv
      · exact h.joined j w hu hj
    · rcases getElem?_modify_cases hw with ⟨-, u, hu, rfl⟩ | ⟨-, hu⟩
      · exact hph.2.1 j u hu
      · exact hph.2.1 j w hu
    · rcases getElem?_modify_cases hw with ⟨rfl, u, hu, rfl⟩ | ⟨hne, hu⟩
      · obtain rfl := Option.some.inj (hv.symm.trans hu)
        exact hretv
      · exact hph.2.2 j w (by omega) hu
  | joinsNone hm hi hw => exact ⟨h.joined, trivial⟩
  | @joined i k hm hi =>
    rw [hm] at hph
    have hall := allReturned_of_joining hph hi
    refine ⟨h.joined, ?_⟩
    cases k with
    | appStop => exact ⟨rfl, hall⟩
    | exit => exact ⟨rfl, hall⟩
  | stops hm app next hnext =>
    rw [hm] at hph
    refine ⟨h.joined, ?_⟩
    rcases hnext with rfl | rfl
    · exact Or.inr hph
    · trivial
  | destroys hm next hnext =>
    rw [hm] at hph
    refine ⟨h.joined, ?_⟩
    rcases hnext with rfl | rfl
    · exact hph
    · exact hph
  | terminates hm => exact ⟨h.joined, trivial⟩
  | exits hm hp =>
    rw [hm] at hph
    refine ⟨h.joined, hp, ?_⟩
    rcases hph with hfull | ⟨-, hall⟩
    · show AllReturned s.threads
      rw [List.eq_nil_of_length_eq_zero (hfull.symm.trans hp)]
      exact allReturned_nil
    · exact hall
  | stopsLast hm hp =>
    rw [hm] at hph
    refine ⟨h.joined, ?_⟩
    rcases hph with hfull | ⟨hzero, -⟩
    · exact hfull
    · exact absurd hzero hp

theorem PoolInv.step {n : Nat} {config : Option AppConfig} {s s' : Process} {a : ProcessAct}
    (h : PoolInv s) (hs : (process n config).step s a = some s') : PoolInv s' := by
  obtain ⟨-, ⟨l, -, hl⟩ | ⟨i, l, -, hl⟩⟩ := process_step hs
  · exact h.mainStep (mainStep_cases hl)
  · exact h.workStep hl

theorem poolInv_of_reach {n : Nat} {config : Option AppConfig} {C : Process → ProcessAct → Prop}
    {s : Process} (h : (process n config).Reach C s) : PoolInv s := by
  refine h.invariant (fun s hs => ?_) (fun s a s' hI _ hs => hI.step hs)
  obtain rfl : s = _ := hs
  exact ⟨fun j w hw => (by cases hw), rfl, rfl⟩

end Pool

/-! ### `http_fcgi_svr::stop` returns -/

section Stop

variable {n : Nat} {config : Option AppConfig} {s s' : Process}

/-- The steps that the threads have left, together. -/
def workLeft (threads : List Worker) : Nat := (threads.map (fun w => w.pc.rank)).sum

theorem workLeft_modify {f : Worker → Worker} : ∀ (threads : List Worker) (i : Nat) {w : Worker},
    threads[i]? = some w →
    workLeft (threads.modify i f) + w.pc.rank = workLeft threads + (f w).pc.rank := by
  intro threads
  induction threads with
  | nil => intro i w hw; cases hw
  | cons v threads ih =>
    intro i w hw
    cases i with
    | zero =>
      obtain rfl : v = w := by simpa using hw
      simp only [workLeft, List.modify_zero_cons, List.map_cons, List.sum_cons]
      omega
    | succ i =>
      have := ih i (by simpa using hw)
      simp only [workLeft, List.modify_succ_cons, List.map_cons, List.sum_cons] at this ⊢
      omega

theorem workLeft_le (threads : List Worker) : workLeft threads ≤ 3 * threads.length := by
  induction threads with
  | nil => exact Nat.le_refl 0
  | cons w threads ih =>
    have hrank : w.pc.rank ≤ 3 := by
      cases w.pc <;> simp [WorkPc.rank]
    simp only [workLeft, List.map_cons, List.sum_cons, List.length_cons] at ih ⊢
    omega

/-- The steps that all have left before `stop` is through with the threads. -/
def stopLeft (s : Process) (i : Nat) : Nat := workLeft s.threads + (s.poolSize - i)

theorem mainStep_joining {i : Nat} {k : AfterStop} {l : MainInput} (hm : s.main = .joining i k)
    (h : mainStep n config s l = some s') :
    s'.main = k.pc ∨ s'.main = .terminated ∨ (i < s.poolSize ∧ ∃ w, s.threads[i]? = some w ∧
      s' = { s with
        threads := s.threads.modify i (fun w => { w with joinable := false })
        main := .joining (i + 1) k }) := by
  cases l with
  | go =>
    simp only [mainStep, hm] at h
    split at h
    · next hi =>
      split at h
      · obtain rfl := Option.some.inj h
        exact Or.inr (Or.inl rfl)
      · next w hw =>
        split at h
        · cases h
        · exact Or.inr (Or.inr ⟨hi, w, hw, (Option.some.inj h).symm⟩)
    · obtain rfl := Option.some.inj h
      exact Or.inl rfl
  | _ =>
    simp only [mainStep, hm] at h
    cases h

/-- **A step while the threads are joined** ends the loop or brings it nearer to its end. -/
theorem stopLeft_step (h : PoolInv s) {i : Nat} {k : AfterStop} (hm : s.main = .joining i k)
    {a : ProcessAct} (hs : (process n config).step s a = some s') :
    s'.main = k.pc ∨ s'.main = .terminated ∨
      ∃ i', s'.main = .joining i' k ∧ stopLeft s' i' < stopLeft s i := by
  have hph := h.phase
  rw [hm] at hph
  obtain ⟨-, ⟨l, -, hl⟩ | ⟨j, l, -, hl⟩⟩ := process_step hs
  · rcases mainStep_joining hm hl with hk | hterm | ⟨hi, w, hw, rfl⟩
    · exact Or.inl hk
    · exact Or.inr (Or.inl hterm)
    · refine Or.inr (Or.inr ⟨i + 1, rfl, ?_⟩)
      have hleft : _ + w.pc.rank = workLeft s.threads + w.pc.rank :=
        workLeft_modify (f := fun w => { w with joinable := false }) s.threads i hw
      simp only [stopLeft]
      omega
  · obtain ⟨w, hw, -, hcases⟩ := workStep_cases hl
    rcases hcases with ⟨pc, rfl, hrank, -⟩ | rfl | ⟨app, call, env, hpc, -, rfl⟩
    · refine Or.inr (Or.inr ⟨i, hm, ?_⟩)
      have hleft : _ + w.pc.rank = workLeft s.threads + pc.rank :=
        workLeft_modify (f := fun w => { w with pc := pc }) s.threads j hw
      have := hrank (hph.2.1 j w hw)
      simp only [stopLeft, Process.setPc]
      omega
    · exact Or.inr (Or.inl rfl)
    · refine Or.inr (Or.inr ⟨i, hm, ?_⟩)
      have hleft : _ + w.pc.rank = workLeft s.threads + 2 :=
        workLeft_modify (f := fun w => { w with pc := .called }) s.threads j hw
      have hthree : w.pc.rank = 3 := by rw [hpc]; rfl
      simp only [stopLeft, Process.setPc]
      omega

theorem workStep_enabled {i : Nat} {w : Worker} (hw : s.threads[i]? = some w)
    (hk : w.keepRunning = false) (hret : w.pc.isReturned = false) :
    ∃ l, (workStep s i l).isSome = true := by
  cases hpc : w.pc with
  | head => exact ⟨.go, by simp [workStep, hw, hpc]⟩
  | accepting => exact ⟨.accept none, by simp [workStep, hw, hpc]⟩
  | accepted uri => exact ⟨.go, by simp [workStep, hw, hpc, hk]⟩
  | handling cb => exact ⟨.go, by simp [workStep, hw, hpc]⟩
  | called => exact ⟨.go, by simp [workStep, hw, hpc]⟩
  | returned => rw [hpc] at hret; cases hret

theorem joining_enabled (h : PoolInv s) {i : Nat} {k : AfterStop} (hm : s.main = .joining i k) :
    ∃ a, ((process n config).step s a).isSome = true := by
  have hph := h.phase
  rw [hm] at hph
  have hstep : ∀ a, (process n config).step s a = match a with
      | .main l => mainStep n config s l
      | .worker j l => workStep s j l := by
    intro a
    show (if s.main.isOver then none else _) = _
    rw [hm]
    rfl
  by_cases hi : i < s.poolSize
  · obtain ⟨w, hw⟩ : ∃ w, s.threads[i]? = some w := ⟨_, List.getElem?_eq_getElem (hph.1 ▸ hi)⟩
    by_cases hwait : w.joinable = true ∧ w.pc.isReturned = false
    · obtain ⟨l, hl⟩ := workStep_enabled hw (hph.2.1 i w hw) hwait.2
      exact ⟨.worker i l, by rw [hstep]; exact hl⟩
    · refine ⟨.main .go, ?_⟩
      rw [hstep]
      simp only [mainStep, hm, hi, if_true, hw, if_neg hwait, Option.isSome_some]
  · refine ⟨.main .go, ?_⟩
    rw [hstep]
    simp only [mainStep, hm, hi, if_false, Option.isSome_some]

theorem length_le_stopLeft {k : AfterStop} : ∀ (as : List ProcessAct) {s s' : Process} {i : Nat},
    PoolInv s → s.main = .joining i k → (process n config).run s as = some s' →
    (process n config).Always (fun s => ∃ i, s.main = .joining i k) s as →
    as.length ≤ stopLeft s i := by
  intro as
  induction as with
  | nil => intro s s' i _ _ _ _; exact Nat.zero_le _
  | cons a as ih =>
    intro s s' i hI hm hr hal
    rw [TransSys.run_cons] at hr
    obtain ⟨t, ht, hr⟩ := Option.bind_eq_some_iff.mp hr
    rw [TransSys.Always, ht] at hal
    obtain ⟨i', hm'⟩ := TransSys.always_head hal.2
    rcases stopLeft_step hI hm ht with hk | hterm | ⟨i'', hm'', hlt⟩
    · rw [hm'] at hk
      cases k <;> cases hk
    · rw [hm'] at hterm
      cases hterm
    · have := ih (hI.step ht) hm'' hr hal.2
      rw [List.length_cons]
      omega

/-- **`stop` returns.**  When it waits for the threads, someone can always take a step, and no run
keeps it waiting for more than four steps for each thread: handlers under way are finished, and no
request is looked up any more. -/
theorem stop_returns (n : Nat) (config : Option AppConfig) (s : Process)
    (h : (process n config).Reach TransSys.Any s) (i : Nat) (k : AfterStop)
    (hm : s.main = .joining i k) :
    (∃ a, ((process n config).step s a).isSome = true) ∧
      ∀ as s', (process n config).run s as = some s' →
        (process n config).Always (fun s => ∃ i, s.main = .joining i k) s as →
        as.length ≤ 4 * s.threads.length := by
  have hI := poolInv_of_reach h
  refine ⟨joining_enabled hI hm, fun as s' hr hal => ?_⟩
  have hlen := length_le_stopLeft as hI hm hr hal
  have hwork := workLeft_le s.threads
  have hph := hI.phase
  rw [hm] at hph
  have hsize := hph.1
  rw [stopLeft] at hlen
  omega

end Stop

/-! ### What handlers point to -/

/-- What a handler reaches into is there. -/
def Valid (app : Option OpaleyeApp) : Handler → Prop
  | .file => True
  | .sensors => True
  | .jsonrpc => app.isSome = true
  | .jpeg key p => p.isFilesink = false ∧
      ∃ a, app = some a ∧ a.pipelines.find key = some (some p)

/-- A handler that does not reach into the application. -/
def AppFree (h : Handler) : Prop := ∀ app, Valid app h

/-- All handlers that are registered, or that a worker is in. -/
structure Only (P : Handler → Prop) (regs : List (Path × Option Handler)) (threads : List Worker) :
    Prop where
  regs : ∀ r ∈ regs, ∀ h, r.2 = some h → P h
  handling : ∀ (j : Nat) (w : Worker) (h : Handler), threads[j]? = some w → w.pc = .handling h → P h

/-- The places of `main`: before it registers a handler that reaches into the application, while
there are such handlers, when the workers are joined for good, and on the way out. -/
inductive Life
  | before
  | serving
  | joined
  | leaving
  | gone

def MainPc.life : MainPc → Life
  | .openSocket | .launch | .appInit | .appStart => .before
  | .register _ _ | .jpeg _ | .zmq | .mask | .waiting | .shutdownPending .appStop
  | .interrupting _ .appStop | .closing .appStop | .joining _ .appStop => .serving
  | .appStop => .joined
  | .destroyApp | .terminating | .destroySvr | .shutdownPending .exit | .interrupting _ .exit
  | .closing .exit | .joining _ .exit | .exited => .leaving
  | .terminated => .gone

/-- What is known of the handlers, when `main` does not return once it has registered one that
reaches into the application. -/
def LifePhase (s : Process) : Life → Prop
  | .before => Only AppFree s.regs s.threads
  | .serving => s.app.isSome = true ∧ Only (Valid s.app) s.regs s.threads
  | .joined => AllReturned s.threads
  | .leaving => AllReturned s.threads ∨ Only AppFree s.regs s.threads
  | .gone =>
    ∀ (j : Nat) (w : Worker) (h : Handler), s.threads[j]? = some w → w.pc = .handling h → Valid s.app h

/-- What is yet to be registered. -/
def Pending (app : Option OpaleyeApp) : MainPc → Prop
  | .register todo next => (∀ x ∈ todo, Valid app x.2) ∧ (next = .mask ∨ ∃ cams, next = .jpeg cams)
  | _ => True

structure LifeInv (s : Process) : Prop where
  phase : LifePhase s s.main.life
  pending : Pending s.app s.main

section Lifetime

variable {P Q : Handler → Prop} {regs : List (Path × Option Handler)} {threads : List Worker}

theorem Only.mono (h : Only P regs threads) (hPQ : ∀ h, P h → Q h) : Only Q regs threads :=
  ⟨fun r hr hd hh => hPQ hd (h.regs r hr hd hh), fun j w hd hw hpc => hPQ hd (h.handling j w hd hw hpc)⟩

theorem Only.setPc (h : Only P regs threads) (i : Nat) {pc : WorkPc}
    (hpc : ∀ hd, pc = .handling hd → ∃ r ∈ regs, r.2 = some hd) :
    Only P regs (threads.modify i (fun w => { w with pc := pc })) := by
  refine ⟨h.regs, fun j w hd hw hh => ?_⟩
  rcases getElem?_modify_cases hw with ⟨-, v, -, rfl⟩ | ⟨-, hv⟩
  · obtain ⟨r, hr, hrd⟩ := hpc hd hh
    exact h.regs r hr hd hrd
  · exact h.handling j w hd hv hh

theorem Only.modify (h : Only P regs threads) (i : Nat) {f : Worker → Worker}
    (hf : ∀ w, (f w).pc = w.pc) : Only P regs (threads.modify i f) := by
  refine ⟨h.regs, fun j w hd hw hh => ?_⟩
  rcases getElem?_modify_cases hw with ⟨-, v, hv, rfl⟩ | ⟨-, hv⟩
  · exact h.handling j v hd hv ((hf v).symm.trans hh)
  · exact h.handling j w hd hv hh

theorem AllReturned.modify (h : AllReturned threads) (i : Nat) {f : Worker → Worker}
    (hf : ∀ w, (f w).pc = w.pc) : AllReturned (threads.modify i f) := by
  intro j w hw
  rcases getElem?_modify_cases hw with ⟨-, v, hv, rfl⟩ | ⟨-, hv⟩
  · rw [hf v]
    exact h j v hv
  · exact h j w hv

theorem AllReturned.not_handling (h : AllReturned threads) {j : Nat} {w : Worker} {hd : Handler}
    (hw : threads[j]? = some w) : w.pc ≠ .handling hd := by
  intro hpc
  have hret := h j w hw
  rw [hpc] at hret
  cases hret

variable {s : Process}

theorem LifePhase.handling {m : Life} (h : LifePhase s m) {j : Nat} {w : Worker} {hd : Handler}
    (hw : s.threads[j]? = some w) (hpc : w.pc = .handling hd) : Valid s.app hd := by
  cases m with
  | before => exact Only.handling h j w hd hw hpc s.app
  | serving => exact h.2.handling j w hd hw hpc
  | joined => exact absurd hpc (AllReturned.not_handling h hw)
  | leaving =>
    rcases h with h | h
    · exact absurd hpc (h.not_handling hw)
    · exact h.handling j w hd hw hpc s.app
  | gone => exact h j w hd hw hpc

theorem LifePhase.work {t : Process} {m : Life} (h : LifePhase s m) {i : Nat} {w : Worker}
    {pc : WorkPc} (hw : s.threads[i]? = some w) (hret : w.pc.isReturned = false)
    (hregs : t.regs = s.regs)
    (hthreads : t.threads = s.threads.modify i (fun w => { w with pc := pc }))
    (hpc : ∀ hd, pc = .handling hd → ∃ r ∈ s.regs, r.2 = some hd)
    (hsome : s.app.isSome = true → t.app.isSome = true)
    (hvalid : ∀ hd, Valid s.app hd → Valid t.app hd) (hm : m ≠ .gone) : LifePhase t m := by
  have hno : ¬ AllReturned s.threads := fun hall => absurd (hret.symm.trans (hall i w hw)) (by decide)
  have honly : ∀ {P}, Only P s.regs s.threads → Only P t.regs t.threads := by
    intro P h
    rw [hregs, hthreads]
    exact h.setPc i hpc
  cases m with
  | before => exact honly h
  | serving => exact ⟨hsome h.1, honly (h.2.mono hvalid)⟩
  | joined => exact absurd h hno
  | leaving => exact Or.inr (honly (h.resolve_left hno))
  | gone => exact absurd rfl hm

theorem life_ne_gone {m : MainPc} (h : m.isOver = false) : m.life ≠ .gone := by
  intro hl
  cases m with
  | terminated => cases h
  | shutdownPending k => cases k <;> cases hl
  | interrupting i k => cases k <;> cases hl
  | closing k => cases k <;> cases hl
  | joining i k => cases k <;> cases hl
  | _ => cases hl

theorem Valid.run {app : OpaleyeApp} {hd : Handler} (h : Valid (some app) hd) (env : RpcEnv)
    (call : RpcCall) : Valid (some (call.run env app).1) hd := by
  cases hd with
  | jpeg key p =>
    obtain ⟨hp, a, ha, hfind⟩ := h
    obtain rfl := Option.some.inj ha
    exact ⟨hp, _, rfl, find_run_camera env call hfind hp⟩
  | file => trivial
  | sensors => trivial
  | jsonrpc => rfl

theorem Pending.mono {app app' : Option OpaleyeApp} {m : MainPc} (h : Pending app m)
    (hvalid : ∀ hd, Valid app hd → Valid app' hd) : Pending app' m := by
  cases m with
  | register todo next => exact ⟨fun x hx => hvalid x.2 (h.1 x hx), h.2⟩
  | _ => trivial

theorem LifeInv.workStep {s' : Process} (h : LifeInv s) (hm : s.main.isOver = false) {i : Nat}
    {l : WorkInput} (hs : workStep s i l = some s') : LifeInv s' := by
  obtain ⟨w, hw, hret, hcases⟩ := workStep_cases hs
  rcases hcases with ⟨pc, rfl, -, hpc⟩ | rfl | ⟨app, call, env, -, happ, rfl⟩
  · exact ⟨h.phase.work hw hret rfl rfl hpc id (fun _ hv => hv) (life_ne_gone hm), h.pending⟩
  · exact ⟨fun j v hd hv hpc => h.phase.handling hv hpc, trivial⟩
  · have hvalid : ∀ hd, Valid s.app hd → Valid (some (call.run env app).1) hd := by
      intro hd hv
      rw [happ] at hv
      exact hv.run env call
    exact ⟨h.phase.work hw hret rfl rfl (fun hd hh => by cases hh) (fun _ => rfl) hvalid
      (life_ne_gone hm), h.pending.mono hvalid⟩

/-- `main` returns after it has registered handlers that reach into the application: the publisher
does not start, or the signals cannot be masked. -/
def returnsLate (s : Process) (a : ProcessAct) : Bool :=
  match s.main, a with
  | .zmq, .main (.result false) => true
  | .mask, .main (.result false) => true
  | _, _ => false

theorem result_of_returns {n : Nat} {config : Option AppConfig} {s' : Process} {l : MainInput}
    (hm : s.main = .zmq ∨ s.main = .mask) (hs : mainStep n config s l = some s')
    (hd : s'.main = .destroyApp) : l = .result false := by
  cases l with
  | result ok =>
    cases ok with
    | false => rfl
    | true =>
      rcases hm with hm | hm
      · simp only [mainStep, hm] at hs
        obtain rfl := Option.some.inj hs
        cases hd
      · simp only [mainStep, hm] at hs
        obtain rfl := Option.some.inj hs
        cases hd
  | _ =>
    rcases hm with hm | hm
    · simp only [mainStep, hm] at hs
      cases hs
    · simp only [mainStep, hm] at hs
      cases hs

theorem LifeInv.mainStep {n : Nat} {config : Option AppConfig} {s' : Process} (h : LifeInv s)
    (hpool : PoolInv s) {l : MainInput} (hl : returnsLate s (.main l) = false)
    (hs : mainStep n config s l = some s') : LifeInv s' := by
  have hph := h.phase
  have hpend := h.pending
  have hmain := mainStep_cases hs
  cases hmain with
  | opened hm => rw [hm] at hph; exact ⟨hph, trivial⟩
  | notOpened hm => rw [hm] at hph; exact ⟨hph, trivial⟩
  | launches hm hlt =>
    rw [hm] at hph
    refine ⟨?_, ?_⟩
    · rw [hm]
      refine ⟨hph.regs, fun j w hd hw hpc => ?_⟩
      rcases List.mem_append.mp (List.mem_of_getElem? hw) with hmem | hmem
      · obtain ⟨k, hk⟩ := List.getElem?_of_mem hmem
        exact Only.handling hph k w hd hk hpc
      · rw [List.mem_singleton.mp hmem] at hpc
        cases hpc
    · rw [hm]
      trivial
  | launched hm hle => rw [hm] at hph; exact ⟨hph, trivial⟩
  | inits hm env =>
    rw [hm] at hph
    rcases afterCall_cases ((OpaleyeApp.new config).init env).2 .appStart with heq | heq | heq
    · rw [heq]; exact ⟨hph, trivial⟩
    · rw [heq]; exact ⟨Or.inr hph, trivial⟩
    · rw [heq]
      exact ⟨fun j w hd hw hpc => Only.handling hph j w hd hw hpc _, trivial⟩
  | @starts hm app happ ret =>
    rw [hm] at hph
    rcases afterCall_cases ret (.jpeg [("pipe0", "cam0"), ("pipe1", "cam1")]) with heq | heq | heq
    · rw [heq]
      exact ⟨⟨by rw [happ]; rfl, hph.mono (fun hd hfree => hfree _)⟩, trivial⟩
    · rw [heq]; exact ⟨Or.inr hph, trivial⟩
    · rw [heq]
      exact ⟨fun j w hd hw hpc => Only.handling hph j w hd hw hpc _, trivial⟩
  | jpegs hm next hnext =>
    rw [hm] at hph
    rcases hnext with ⟨-, rfl⟩ | rfl | ⟨cam, cams, -, rfl⟩ |
      ⟨app, key, p, cam, cams, -, happ, hfind, hp, rfl⟩
    · exact ⟨hph, trivial⟩
    · exact ⟨fun j w hd hw hpc => hph.2.handling j w hd hw hpc, trivial⟩
    · exact ⟨hph, trivial⟩
    · refine ⟨hph, fun x hx => ?_, Or.inr ⟨cams, rfl⟩⟩
      have hx2 : x.2 = .jpeg key.toList p := by
        simp only [jpegRegs, List.mem_cons, List.not_mem_nil, or_false] at hx
        rcases hx with rfl | rfl | rfl <;> rfl
      rw [hx2]
      exact ⟨hp, app, happ, hfind⟩
  | registered hm =>
    rw [hm] at hph hpend
    obtain ⟨-, rfl | ⟨cams, rfl⟩⟩ := hpend
    · exact ⟨hph, trivial⟩
    · exact ⟨hph, trivial⟩
  | throws hm =>
    rw [hm] at hph
    exact ⟨fun j w hd hw hpc => hph.2.handling j w hd hw hpc, trivial⟩
  | @registers uri hd todo next hm =>
    rw [hm] at hph hpend
    refine ⟨⟨hph.1, fun r hr h' hh => ?_, hph.2.handling⟩, fun x hx => ?_, hpend.2⟩
    · rcases List.mem_append.mp hr with hr | hr
      · exact hph.2.regs r hr h' hh
      · rw [List.mem_singleton.mp hr] at hh
        obtain rfl := Option.some.inj hh
        exact hpend.1 _ List.mem_cons_self
    · exact hpend.1 x (List.mem_cons_of_mem _ hx)
  | zmqReady hm =>
    rw [hm] at hph
    refine ⟨hph, fun x hx => ?_, Or.inl rfl⟩
    rw [List.mem_singleton.mp hx]
    exact hph.1
  | masked hm => rw [hm] at hph; exact ⟨hph, trivial⟩
  | returns hm =>
    obtain rfl := result_of_returns hm hs rfl
    rcases hm with hm | hm
    · simp [returnsLate, hm] at hl
    · simp [returnsLate, hm] at hl
  | waits hm => rw [hm] at hph; exact ⟨hph, trivial⟩
  | sigint hm => rw [hm] at hph; exact ⟨hph, trivial⟩
  | @shutsDown k hm => rw [hm] at hph; cases k <;> exact ⟨hph, trivial⟩
  | @interrupts i k hm hi =>
    rw [hm] at hph
    cases k with
    | appStop => exact ⟨⟨hph.1, hph.2.modify i (fun _ => rfl)⟩, trivial⟩
    | exit =>
      exact ⟨hph.imp (fun h => h.modify i (fun _ => rfl)) (fun h => h.modify i (fun _ => rfl)), trivial⟩
  | @interrupted i k hm hi => rw [hm] at hph; cases k <;> exact ⟨hph, trivial⟩
  | @closes k hm => rw [hm] at hph; cases k <;> exact ⟨hph, trivial⟩
  | @joins i k w hm hi hw hret =>
    rw [hm] at hph
    cases k with
    | appStop => exact ⟨⟨hph.1, hph.2.modify i (fun _ => rfl)⟩, trivial⟩
    | exit =>
      exact ⟨hph.imp (fun h => h.modify i (fun _ => rfl)) (fun h => h.modify i (fun _ => rfl)), trivial⟩
  | joinsNone hm hi hw =>
    exact ⟨fun j w hd hw hpc => LifePhase.handling hph hw hpc, trivial⟩
  | @joined i k hm hi =>
    have hall : AllReturned s.threads := by
      have hpp := hpool.phase
      rw [hm] at hpp
      exact allReturned_of_joining hpp hi
    cases k with
    | appStop => exact ⟨hall, trivial⟩
    | exit => exact ⟨Or.inl hall, trivial⟩
  | stops hm app next hnext =>
    rw [hm] at hph
    rcases hnext with rfl | rfl
    · exact ⟨Or.inl hph, trivial⟩
    · exact ⟨fun j w hd hw hpc => absurd hpc (AllReturned.not_handling hph hw), trivial⟩
  | destroys hm next hnext =>
    rw [hm] at hph
    rcases hnext with rfl | rfl
    · exact ⟨hph, trivial⟩
    · exact ⟨hph, trivial⟩
  | terminates hm =>
    exact ⟨fun j w hd hw hpc => LifePhase.handling hph hw hpc, trivial⟩
  | exits hm hp => rw [hm] at hph; exact ⟨hph, trivial⟩
  | stopsLast hm hp => rw [hm] at hph; exact ⟨hph, trivial⟩

theorem lifeInv_of_reach {n : Nat} {config : Option AppConfig}
    (h : (process n config).Reach (fun s a => returnsLate s a = false) s) : LifeInv s := by
  refine (h.invariant (I := fun s => PoolInv s ∧ LifeInv s) (fun s hs => ?_)
    (fun s a s' hI hC hs => ⟨hI.1.step hs, ?_⟩)).2
  · obtain rfl : s = _ := hs
    refine ⟨⟨fun j w hw => (by cases hw), rfl, rfl⟩, ⟨fun r hr hd hh => ?_, fun j w hd hw => (by cases hw)⟩,
      trivial⟩
    simp only [firstRegs, List.mem_cons, List.not_mem_nil, or_false] at hr
    rcases hr with rfl | rfl | rfl
    all_goals
      obtain rfl := Option.some.inj hh
      exact fun _ => trivial
  · obtain ⟨hm, ⟨l, rfl, hl⟩ | ⟨i, l, rfl, hl⟩⟩ := process_step hs
    · exact hI.2.mainStep hI.1 hC hl
    · exact hI.2.workStep hm hl

end Lifetime

/-- **Handlers find what they point to.**  As long as `main` does not return after it has registered
a handler that reaches into the application, every handler that a worker is in finds the application
alive, a thumbnail handler finds its pipeline under the key where it was; and when the pipelines are
stopped every worker has returned. -/
theorem handlers_find_app (n : Nat) (config : Option AppConfig) (s : Process)
    (h : (process n config).Reach (fun s a => returnsLate s a = false) s) :
    (∀ w ∈ s.threads, ∀ hd, w.pc = .handling hd → Valid s.app hd) ∧
      (s.main = .appStop → ∀ w ∈ s.threads, w.pc.isReturned = true) := by
  have hI := lifeInv_of_reach h
  refine ⟨fun w hw hd hpc => ?_, fun hm w hw => ?_⟩
  · obtain ⟨j, hj⟩ := List.getElem?_of_mem hw
    exact hI.phase.handling hj hpc
  · have hph := hI.phase
    rw [hm] at hph
    obtain ⟨j, hj⟩ := List.getElem?_of_mem hw
    exact hph j w hj

section Runs

/-- Two cameras. -/
def dualConfig : Option AppConfig := AppConfig.deserialize (dualTree "pipe0" "pipe1")

def bootProcess : Process := ⟨.openSocket, firstRegs, false, [], 0, none⟩

/-- `main` with one worker up to the publisher; the worker is then in the handler of the first
camera. -/
def toHandler : List ProcessAct :=
  [.main (.result true), .main .go, .main .go, .main (.init fineInit), .main (.start fun _ => true)] ++
    List.replicate 11 (.main .go) ++
    [.worker 0 .go, .worker 0 (.accept (some ⟨"/cameras/cam0.jpg".toList⟩)), .worker 0 .go]

/-- From there to `SIGINT` and on to where the thread is joined. -/
def toJoin : List ProcessAct :=
  toHandler ++ [.main (.result true), .main .go, .main .go, .main (.result true),
    .main (.signal true), .main .go, .main .go, .main .go, .main .go]

def Worker.inJpeg (w : Worker) : Bool :=
  match w.pc with
  | .handling (.jpeg _ _) => true
  | _ => false

theorem reach_toJoin : ∃ s, (process 1 dualConfig).Reach (fun s a => returnsLate s a = false) s ∧
    s.threads.any Worker.inJpeg = true ∧ s.main = .joining 0 .appStop := by
  obtain ⟨s, hs, htest⟩ := TransSys.Reach.of_trace (T := process 1 dualConfig)
    (C := fun s a => returnsLate s a = false)
    (P := fun s => s.threads.any Worker.inJpeg && (match s.main with
      | .joining 0 .appStop => true
      | _ => false)) toJoin (s := bootProcess) rfl (by decide +kernel) (by decide +kernel)
  rw [Bool.and_eq_true] at htest
  refine ⟨s, hs, htest.1, ?_⟩
  have hjoin := htest.2
  split at hjoin
  · next hm => exact hm
  · cases hjoin

theorem handlers_find_app_dual :
    ∃ s, (process 1 dualConfig).Reach (fun s a => returnsLate s a = false) s ∧
      s.threads.any Worker.inJpeg = true ∧
      ∀ w ∈ s.threads, ∀ hd, w.pc = .handling hd → Valid s.app hd := by
  obtain ⟨s, hs, hjpeg, -⟩ := reach_toJoin
  exact ⟨s, hs, hjpeg, (handlers_find_app 1 dualConfig s hs).1⟩

theorem stop_returns_dual :
    ∃ s, (process 1 dualConfig).Reach TransSys.Any s ∧ s.threads.any Worker.inJpeg = true ∧
      ∀ as s', (process 1 dualConfig).run s as = some s' →
        (process 1 dualConfig).Always (fun s => ∃ i, s.main = .joining i .appStop) s as →
        as.length ≤ 4 * s.threads.length := by
  obtain ⟨s, hs, hjpeg, hm⟩ := reach_toJoin
  have hany := hs.mono (fun _ _ _ => trivial)
  exact ⟨s, hany, hjpeg, (stop_returns 1 dualConfig s hany 0 .appStop hm).2⟩

/-- **A handler outlives the application**: the publisher does not start, `main` returns, and the
worker is in the handler of a camera that is gone. -/
theorem handler_outlives_app :
    ∃ s, (process 1 dualConfig).Reach TransSys.Any s ∧ s.threads.any Worker.inJpeg = true ∧
      s.app.isNone = true := by
  obtain ⟨s, hs, htest⟩ := TransSys.Reach.of_trace (T := process 1 dualConfig) (C := TransSys.Any)
    (P := fun s => s.threads.any Worker.inJpeg && s.app.isNone)
    (toHandler ++ [.main (.result false), .main .go]) (s := bootProcess) rfl
    (TransSys.meets_any _ _) (by decide +kernel)
  rw [Bool.and_eq_true] at htest
  exact ⟨s, hs, htest.1, htest.2⟩

end Runs

end Opaleye.App
