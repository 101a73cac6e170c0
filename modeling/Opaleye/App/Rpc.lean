import Opaleye.App.PipelineTable
import Opaleye.Http.Jsonrpc
import Opaleye.Lib.AtomicObject

/-!
# The RPC interface

`main` adds twelve methods of `Opaleye_app` to the dispatcher of a JSON-RPC server, and
`http_req_jsonrpc` passes requests to that server from whichever worker thread they come in on.  The
header of `Opaleye_app` asks of its methods that they be safe to call concurrently.  None of them
takes a lock; what keeps them apart is `m_jsonrpc_mutex`, which a worker holds from the first byte
it reads to the end of the call.

Reading a request as a call and writing a reply are up to the JSON-RPC library: `RpcServer` is any
such pair of functions, with at most one call for each request.

`rpc_linearizable` says that the threads do not matter.  What comes in, is called and is answered on
all the workers is a history of `atomicRpc`, an object on which a request is refused, or makes one
call at one moment and is answered what that call returned.  The calls form one sequence, in the
order in which the mutex was taken, and the application is what it makes of it; so what is known of
runs of single calls (`sys`) is known of the server.

`rpc_never_crashes` says of the same workers that no call of theirs dereferences a null pointer.
-/

namespace Opaleye.App

open Opaleye.Http OpaleyeApp LockedThreads

/-! ### The methods -/

/-- The methods that `main` adds to the dispatcher, with their parameters. -/
inductive RpcCall
  | startCamera (camera : List Char)
  | getCameraList
  | startStillCapture (camera : List Char)
  | stopStillCapture (camera : List Char)
  | startVideoCapture (camera : List Char)
  | stopVideoCapture (camera : List Char)
  | startRtpStream (pipeName ipAddr : List Char) (port : Int)
  | stopRtpStream (pipeName ipAddr : List Char) (port : Int)
  | getPipelineStatus
  | getPipelineGraph
  | setCameraPropertyInt (pipelineId cameraId propertyId : List Char) (value : Int)
  | setCameraPropertyStr (pipelineId cameraId propertyId value : List Char)

/-- What a method finds around it: the file system and the elements of a capture, what a sink or a
camera returns, the state of a pipeline, and whether a camera is a `GST_v4l2_api`. -/
structure RpcEnv where
  capture : CaptureEnv
  udpClient : Bool
  state : GstState
  change : StateChange
  isV4l2 : Bool
  property : Bool

/-- What a method returns, or how else it ends. -/
inductive Reply
  | ret (r : Ret)
  | cameras (names : List (List Char))
  deriving DecidableEq

/-- `set_camera_property_int` and `set_camera_property_str` up to the call on the camera, which
returns `ret`. -/
def setCameraProperty (pipelineId cameraId : List Char) (casts ret : Bool) (app : OpaleyeApp) : Ret :=
  match app.pipelines.find pipelineId with
  | none => .returned false
  | some none => .crashed
  | some (some p) =>
    match p.getElement cameraId with
    | some .camera => if casts then .returned ret else .returned false
    | _ => .returned false

/-- A call on the table. -/
def onTable (r : OpaleyeApp × Ret) : OpaleyeApp × Reply := (r.1, .ret r.2)

def RpcCall.run (env : RpcEnv) (app : OpaleyeApp) : RpcCall → OpaleyeApp × Reply
  | .startCamera _ => (app, .ret (.returned true))
  | .getCameraList => (app, .cameras [])
  | .startStillCapture _ => (app, .ret (.fault "start_still_capture - not implemented"))
  | .stopStillCapture _ => (app, .ret (.fault "stop_still_capture - not implemented"))
  | .startVideoCapture camera => onTable (app.startVideoCapture camera env.capture)
  | .stopVideoCapture camera => onTable (app.stopVideoCapture camera)
  | .startRtpStream pipeName _ port => onTable (app.startRtpStream pipeName port env.udpClient)
  | .stopRtpStream pipeName _ port => onTable (app.stopRtpStream pipeName port env.udpClient)
  | .getPipelineStatus => onTable (app.getPipelineStatus env.state env.change)
  | .getPipelineGraph => onTable app.getPipelineGraph
  | .setCameraPropertyInt pipelineId cameraId _ _ =>
    (app, .ret (setCameraProperty pipelineId cameraId env.isV4l2 env.property app))
  | .setCameraPropertyStr pipelineId cameraId _ _ =>
    (app, .ret (setCameraProperty pipelineId cameraId true env.property app))

/-- The calls of `OpaleyeApp.call` among them. -/
def RpcCall.op (env : RpcEnv) : RpcCall → Option Op
  | .startVideoCapture camera => some (.startVideoCapture camera env.capture)
  | .stopVideoCapture camera => some (.stopVideoCapture camera)
  | .startRtpStream pipeName ipAddr port => some (.startRtpStream pipeName ipAddr port env.udpClient)
  | .stopRtpStream pipeName ipAddr port => some (.stopRtpStream pipeName ipAddr port env.udpClient)
  | .getPipelineStatus => some (.getPipelineStatus env.state env.change)
  | .getPipelineGraph => some .getPipelineGraph
  | _ => none

theorem run_of_op {env : RpcEnv} {call : RpcCall} {op : Op} (h : call.op env = some op)
    (app : OpaleyeApp) : call.run env app = onTable (app.call op) := by
  cases call
  all_goals first
    | (obtain rfl := Option.some.inj h; rfl)
    | cases h

theorem run_of_no_op {env : RpcEnv} {call : RpcCall} (h : call.op env = none) (app : OpaleyeApp) :
    (call.run env app).1 = app := by
  cases call
  all_goals first
    | rfl
    | cases h

/-! ### The server -/

/-- `jsonrpc::Server`: the call it reads from a request, if there is one in it, and what it makes of
the reply.  It throws, or returns data or none. -/
structure RpcServer where
  decode : List Char → Option RpcCall
  encode : List Char → Option Reply → Except (List Char) (Option (List Char))

/-- The call of `HandleRequest`. -/
def RpcServer.handleRequest (srv : RpcServer) (env : RpcEnv) (app : OpaleyeApp) (str : List Char) :
    OpaleyeApp × Option Reply :=
  match srv.decode str with
  | none => (app, none)
  | some call => ((call.run env app).1, some (call.run env app).2)

/-- What the workers share.  `crashed` is set when a call has dereferenced a null pointer. -/
structure RpcObject where
  obj : JsonrpcObject
  app : OpaleyeApp
  crashed : Bool

inductive RpcInput
  | io (l : JsonrpcInput)
  | handle (env : RpcEnv)

/-- The steps of `http_req_jsonrpc::handle`, with the application behind the server. -/
def rpcNext (srv : RpcServer) (l : RpcInput) (p : JsonrpcPc) (s : RpcObject) :
    Move JsonrpcPc RpcObject :=
  if s.crashed then .blocked
  else
    match l, p with
    | .io (.served _), _ => .blocked
    | .io l, p => (jsonrpcNext l p s.obj).mapShared (fun obj => { s with obj := obj })
    | .handle env, .assigned req reqLen avail =>
      let r := srv.handleRequest env s.app s.obj.mReqStr
      if r.2 = some (.ret .crashed) then .crit p { s with crashed := true }
      else
        (jsonrpcNext (.served (srv.encode s.obj.mReqStr r.2)) (.assigned req reqLen avail) s.obj).mapShared
          (fun obj => { s with obj := obj, app := r.1 })
    | .handle _, _ => .blocked

/-- What a request is answered once the server is done with it. -/
def rpcResult : Except (List Char) (Option (List Char)) → Except Exception (Option (List Char))
  | .error _ => .error (internalServerError "Error handling jsonrpc request")
  | .ok data => .ok data

/-- **Everything a step of a worker can do.** -/
theorem rpcNext_cases (srv : RpcServer) (l : RpcInput) (p : JsonrpcPc) (s : RpcObject) :
    rpcNext srv l p s = .blocked ∨
    (∃ l', (∀ result, l' ≠ .served result) ∧
      rpcNext srv l p s = (jsonrpcNext l' p s.obj).mapShared (fun obj => { s with obj := obj })) ∨
    (∃ req reqLen avail env, p = .assigned req reqLen avail ∧
      (srv.handleRequest env s.app s.obj.mReqStr).2 = some (.ret .crashed) ∧
      rpcNext srv l p s = .crit p { s with crashed := true }) ∨
    ∃ req reqLen avail env, p = .assigned req reqLen avail ∧ s.crashed = false ∧
      (srv.handleRequest env s.app s.obj.mReqStr).2 ≠ some (.ret .crashed) ∧
      rpcNext srv l p s = .crit
        (.leaving req
          (rpcResult (srv.encode s.obj.mReqStr (srv.handleRequest env s.app s.obj.mReqStr).2)))
        { obj := { s.obj with passed := s.obj.passed ++ [(req, s.obj.mReqStr)] }
          app := (srv.handleRequest env s.app s.obj.mReqStr).1
          crashed := s.crashed } := by
  fun_cases rpcNext srv l p s with
  | case1 hcr => exact Or.inl rfl
  | case2 hcr result p => exact Or.inl rfl
  | case3 hcr l' => exact Or.inr (Or.inl ⟨l', by assumption, rfl⟩)
  | case4 hcr env req reqLen avail r hr =>
    exact Or.inr (Or.inr (Or.inl ⟨req, reqLen, avail, env, rfl, hr, rfl⟩))
  | case5 hcr env req reqLen avail r hr =>
    exact Or.inr (Or.inr (Or.inr ⟨req, reqLen, avail, env, rfl, by simpa using hcr, hr, rfl⟩))
  | case6 hcr env p hp => exact Or.inl rfl

/-- The workers that share the server. -/
def rpcWorkers (srv : RpcServer) : LockedThreads JsonrpcPc RpcObject RpcInput Empty where
  start := .idle
  owns := JsonrpcPc.owns
  next := rpcNext srv
  interrupt e _ := e.elim
  start_free := jsonrpcWorkers.start_free
  next_owns := by
    intro l p s
    rcases rpcNext_cases srv l p s with h | ⟨l', -, h⟩ | ⟨req, reqLen, avail, env, rfl, -, h⟩ |
      ⟨req, reqLen, avail, env, rfl, -, -, h⟩
    · rw [h]
      trivial
    · rw [h]
      have ho := jsonrpcWorkers.next_owns l' p s.obj
      cases hn : jsonrpcWorkers.next l' p s.obj
      all_goals
        rw [hn] at ho
        rw [show jsonrpcNext l' p s.obj = _ from hn]
        exact ho
    · rw [h]
      exact ⟨rfl, rfl⟩
    · rw [h]
      exact ⟨rfl, rfl⟩

theorem reach_buffers {srv : RpcServer} {s : RpcObject} {c : Config JsonrpcPc RpcObject}
    (h : ((rpcWorkers srv).sys s).Reach TransSys.Any c) :
    (jsonrpcWorkers.sys s.obj).Reach TransSys.Any (c.mapShared RpcObject.obj) := by
  refine reach_part RpcObject.obj rfl (fun l p s => ?_) (fun e => nomatch e) h
  rcases rpcNext_cases srv l p s with h | ⟨l', -, h⟩ | ⟨req, reqLen, avail, env, rfl, -, h⟩ |
    ⟨req, reqLen, avail, env, rfl, -, -, h⟩
  · exact Or.inl h
  · refine Or.inr (Or.inr ⟨l', ?_⟩)
    rw [show (rpcWorkers srv).next l p s = _ from h]
    show _ = jsonrpcNext l' p s.obj
    cases jsonrpcNext l' p s.obj <;> rfl
  · exact Or.inr (Or.inl ⟨_, h, rfl⟩)
  · refine Or.inr (Or.inr
      ⟨.served (srv.encode s.obj.mReqStr (srv.handleRequest env s.app s.obj.mReqStr).2), ?_⟩)
    rw [show (rpcWorkers srv).next l _ s = _ from h]
    rfl

/-! ### One sequence of calls -/

/-- A call: the string that was handled, and what the method found around it. -/
structure Served where
  str : List Char
  env : RpcEnv

/-- A response, or what `http_req_jsonrpc::handle` throws. -/
abbrev Answer := Except Exception (List (List Char))

/-- What is recorded, each with its thread. -/
abbrev RpcHistory := List (Nat × ObjEvent Params Answer Served)

/-- What is answered without a call: the checks refuse the request, or its body ends too early. -/
def Refuses (req : Params) (ret : Answer) : Prop :=
  match checkRequest req with
  | .error e => ret = .error e
  | .ok _ => ret = .error (internalServerError "Read did not return expected length")

/-- **The server without threads.**  A request that passes the checks makes one call, on the
beginning of its own body. -/
def atomicRpc (srv : RpcServer) :
    AtomicObject OpaleyeApp Params Answer Served where
  may req e := (∃ reqLen, checkRequest req = .ok reqLen) ∧ IsOwn req e.str
  effect e app :=
    let r := srv.handleRequest e.env app e.str
    if r.2 = some (.ret .crashed) then none
    else some (r.1, (rpcResult (srv.encode e.str r.2)).map jsonrpcResponse)
  refuses := Refuses

/-- What is recorded of a worker's step: it has a new request, it makes a call, it returns. -/
def rpcEvent (srv : RpcServer) :
    RpcInput → JsonrpcPc → RpcObject → Option (ObjEvent Params Answer Served)
  | .io (.request req), .idle, _ => some (.came req)
  | .handle env, .assigned _ _ _, s =>
    if (srv.handleRequest env s.app s.obj.mReqStr).2 = some (.ret .crashed) then none
    else some (.took ⟨s.obj.mReqStr, env⟩)
  | .io .go, .left _ ret, _ => some (.answered ret)
  | _, _, _ => none

/-- The workers, with the record. -/
def rpcRecorded (srv : RpcServer) (s : RpcObject) :
    TransSys (Config JsonrpcPc RpcObject × RpcHistory) (Act RpcInput Empty) :=
  ((rpcWorkers srv).sys s).recorded (eventOf (rpcEvent srv))

/-- The calls of `sys` among those that were made. -/
def callsMade (srv : RpcServer) (calls : List Served) : List Op :=
  calls.filterMap (fun e => (srv.decode e.str).bind (RpcCall.op e.env))

/-- What a worker is owed at each place: from `leaving` on it has an answer, and either there was a
call for it or it is a refusal. -/
def Owes : JsonrpcPc → Owed Params Answer → Prop
  | .idle, o => o = .nothing
  | .leaving req ret, o => o = .answer (ret.map jsonrpcResponse) ∨
      (o = .effect req ∧ Refuses req (ret.map jsonrpcResponse))
  | .left req ret, o => o = .answer ret ∨ (o = .effect req ∧ Refuses req ret)
  | .checked req _, o | .locked req _, o | .resized req _, o | .read req _ _ _, o
  | .assigned req _ _, o => o = .effect req

section OneMove

variable {srv : RpcServer} {l : RpcInput} {p q : JsonrpcPc} {s s' : RpcObject}
  {o : Owed Params Answer}

/-- **One move of a worker** is recorded as what it is, or is not one of the server without
threads. -/
theorem rpc_moves (hbuf : BufInv p s.obj) (ho : Owes p o)
    (hd : (rpcNext srv l p s).dest s = some (q, s')) :
    ∃ o', (atomicRpc srv).Makes s.app o (rpcEvent srv l p s) s'.app o' ∧ Owes q o' := by
  revert hd
  fun_cases rpcNext srv l p s with
  | case1 => exact nofun
  | case2 => exact nofun
  | case3 hcr l' =>
    rename_i hserved
    fun_cases jsonrpcNext l' p s.obj with
    | case1 req obj e hcheck =>
      intro hd
      cases hd
      cases (ho : o = .nothing)
      exact ⟨_, .came, Or.inr ⟨rfl, by rw [Refuses, hcheck]⟩⟩
    | case2 req obj reqLen hcheck =>
      intro hd
      cases hd
      cases (ho : o = .nothing)
      exact ⟨_, .came, rfl⟩
    | case3 req reqLen obj =>
      intro hd
      cases hd
      exact ⟨o, ⟨rfl, rfl⟩, ho⟩
    | case4 req reqLen obj =>
      intro hd
      cases hd
      exact ⟨o, ⟨rfl, rfl⟩, ho⟩
    | case5 avail req reqLen obj data =>
      intro hd
      cases hd
      exact ⟨o, ⟨rfl, rfl⟩, ho⟩
    | case6 req reqLen avail bytesIn obj hne =>
      intro hd
      cases hd
      exact ⟨o, ⟨rfl, rfl⟩, Or.inr ⟨ho, by rw [Refuses, hbuf.1]; rfl⟩⟩
    | case7 req reqLen avail bytesIn obj heq =>
      intro hd
      cases hd
      exact ⟨o, ⟨rfl, rfl⟩, ho⟩
    | case8 result req reqLen avail obj ret => exact absurd rfl (hserved result)
    | case9 req ret obj =>
      intro hd
      cases hd
      exact ⟨o, ⟨rfl, rfl⟩, ho⟩
    | case10 req ret obj =>
      intro hd
      cases hd
      rcases (ho : _ ∨ _) with rfl | ⟨rfl, href⟩
      · exact ⟨_, .answered, rfl⟩
      · exact ⟨_, .refused href, rfl⟩
    | case11 => exact nofun
  | case4 hcr env req reqLen avail r hr =>
    intro hd
    cases hd
    exact ⟨o, by rw [rpcEvent, if_pos hr]; exact ⟨rfl, rfl⟩, ho⟩
  | case5 hcr env req reqLen avail r hr =>
    intro hd
    cases hd
    refine ⟨.answer ((rpcResult (srv.encode s.obj.mReqStr r.2)).map jsonrpcResponse), ?_, Or.inl rfl⟩
    rw [rpcEvent, if_neg hr, (ho : o = .effect req)]
    obtain ⟨hcheck, hstr, hlen⟩ := hbuf
    exact .took ⟨⟨reqLen, hcheck⟩, isOwn_of_assigned hcheck hstr hlen⟩ (if_neg hr)
  | case6 => exact nofun

end OneMove

theorem rpc_historyInv (srv : RpcServer) : (rpcWorkers srv).HistoryInv (atomicRpc srv)
    (rpcEvent srv) RpcObject.app Owes (fun p s => BufInv p s.obj) where
  start := rfl
  moves := rpc_moves
  intr := by
    intro e
    cases e

theorem bufInv_of_reach {srv : RpcServer} {s : RpcObject} (h0 : s.obj.passed = [])
    {c : Config JsonrpcPc RpcObject} (h : ((rpcWorkers srv).sys s).Reach TransSys.Any c) (i : Nat) :
    BufInv (c.pc i) c.shared.obj := by
  have hg := jsonrpc_guarded (by rw [AllOwn, h0]; simp) (reach_buffers h)
  cases ho : (c.pc i).owns with
  | true => exact (hg.locked i ((hg.excl i).mp ho)).2
  | false =>
    cases hpc : c.pc i with
    | idle => trivial
    | checked req reqLen => trivial
    | left req ret => trivial
    | _ =>
      rw [hpc] at ho
      cases ho

theorem atomicRpc_effect {srv : RpcServer} {e : Served} {app app' : OpaleyeApp}
    {ret : Answer}
    (h : (atomicRpc srv).effect e app = some (app', ret)) :
    (srv.handleRequest e.env app e.str).2 ≠ some (.ret .crashed) ∧
      (srv.handleRequest e.env app e.str).1 = app' := by
  by_cases hcr : (srv.handleRequest e.env app e.str).2 = some (.ret .crashed)
  · rw [atomicRpc] at h
    dsimp only at h
    rw [if_pos hcr] at h
    cases h
  · rw [atomicRpc] at h
    dsimp only at h
    rw [if_neg hcr] at h
    exact ⟨hcr, (Prod.mk.inj (Option.some.inj h)).1⟩

theorem run_of_replay (srv : RpcServer) : ∀ (calls : List Served) {app' : OpaleyeApp} (r : Run),
    r.crashed = false → (atomicRpc srv).replay r.app calls = some app' →
    ∃ r', sys.run r (callsMade srv calls) = some r' ∧ r'.app = app' ∧ r'.crashed = false := by
  intro calls
  induction calls with
  | nil => intro app' r hr h; exact ⟨r, rfl, Option.some.inj h, hr⟩
  | cons e calls ih =>
    intro app' r hr h
    obtain ⟨⟨app₁, ret⟩, heff, hrest⟩ := Option.bind_eq_some_iff.mp h
    obtain ⟨hne, heq⟩ := atomicRpc_effect heff
    rw [RpcServer.handleRequest] at hne heq
    rw [callsMade, List.filterMap_cons, ← callsMade]
    cases hd : srv.decode e.str with
    | none =>
      rw [hd] at heq
      exact ih r hr ((show r.app = app₁ from heq) ▸ hrest)
    | some call =>
      rw [hd] at hne heq
      dsimp only at hne heq
      rw [Option.bind_some]
      cases hop : call.op e.env with
      | none =>
        rw [run_of_no_op hop] at heq
        exact ih r hr (heq ▸ hrest)
      | some op =>
        -- one more step of `sys`, which the reply shows not to have crashed
        rw [run_of_op hop] at hne heq
        have hstep : sys.step r op
            = some ⟨(r.app.call op).1, r.log ++ [(op, (r.app.call op).2)]⟩ :=
          if_neg (by simp [hr])
        have hr' := (crashed_iff hstep).mpr (fun hc => hne (by rw [onTable, hc]))
        dsimp only
        rw [TransSys.run_cons, hstep, Option.bind_some]
        exact ih _ hr' ((show (r.app.call op).1 = app₁ from heq) ▸ hrest)

section TwoStarts

/-- A request to start the capture of the default camera. -/
def startRequest : Params := post "82"
  "\x7b\"jsonrpc\":\"2.0\",\"method\":\"start_video_capture\",\"params\":[\"cam0-pipeline\"],\"id\":1\x7d"

/-- A request for the state of the pipelines. -/
def statusRequest : Params := post "67"
  "\x7b\"jsonrpc\":\"2.0\",\"method\":\"get_pipeline_status\",\"params\":[],\"id\":2\x7d"

/-- A server that reads these two requests, the first for a camera of the given name. -/
def namedServer (camera : String) : RpcServer where
  decode str :=
    if str = startRequest.body then some (.startVideoCapture camera.toList)
    else if str = statusRequest.body then some .getPipelineStatus
    else none
  encode _ reply := .ok (match reply with
    | some (.ret (.returned b)) => some (if b then "true" else "false").toList
    | _ => none)

def fineRpc : RpcEnv := ⟨fineCapture, true, .playing, .success, true, true⟩

/-- One request on thread `i`, from the mutex on. -/
def serveOn (i : Nat) : List (Act RpcInput Empty) :=
  [.thread i (.io .go), .thread i (.io .go), .thread i (.io (.stream 100)), .thread i (.io .go),
    .thread i (.handle fineRpc), .thread i (.io .go), .thread i (.io .go)]

/-- Thread 1 is first at the mutex although the request came in on thread 0 before. -/
def twoStarts : List (Act RpcInput Empty) :=
  [.thread 0 (.io (.request startRequest)), .thread 1 (.io (.request startRequest))] ++
    serveOn 1 ++ serveOn 0

def bootRpc (app : OpaleyeApp) : RpcObject := ⟨⟨[], [], []⟩, app, false⟩

/-- The bodies of the responses, in order. -/
def bodies (H : RpcHistory) : List (Nat × Option (List Char)) :=
  H.filterMap (fun e => match e.2 with
    | .answered (.ok out) => some (e.1, out.getLast?)
    | .answered (.error _) => some (e.1, none)
    | _ => none)

end TwoStarts

/-! ### Cameras stay -/

theorem find_change_camera {app app' : OpaleyeApp} {call : CaptureCall} {ret : Ret}
    (hch : Change app call app' ret) {k : List Char} {p : Pipeline}
    (hk : app.pipelines.find k = some (some p)) (hp : p.isFilesink = false) :
    app'.pipelines.find k = some (some p) := by
  rcases find_of_change hch k with heq | ⟨-, hnone, -⟩ | ⟨hkey, ⟨-, q, hq, hfile, -⟩, -⟩
  · exact heq.trans hk
  · rw [hnone] at hk
    cases hk
  · rw [← hkey, hk] at hq
    obtain rfl := Option.some.inj (Option.some.inj hq)
    rw [hp] at hfile
    cases hfile

/-- **No method takes a camera out of the table.** -/
theorem find_run_camera (env : RpcEnv) (call : RpcCall) {app : OpaleyeApp} {k : List Char}
    {p : Pipeline} (hk : app.pipelines.find k = some (some p)) (hp : p.isFilesink = false) :
    (call.run env app).1.pipelines.find k = some (some p) := by
  cases call with
  | startVideoCapture camera =>
    exact find_change_camera (change_call app (.start camera env.capture)) hk hp
  | stopVideoCapture camera => exact find_change_camera (change_call app (.stop camera)) hk hp
  | getPipelineStatus =>
    show (app.getPipelineStatus env.state env.change).1.pipelines.find k = some (some p)
    rw [getPipelineStatus_fst]
    by_cases hpipe : k = "pipe0".toList
    · rw [find_entryAt (by rw [← hpipe, hk]; simp), hk]
    · rw [entryAt, StdMap.find_emplace_of_ne _ _ hpipe, hk]
  | _ => exact hk

/-- What `app₀` had in its table is there, and no null pointer. -/
structure CamerasStay (app₀ app : OpaleyeApp) : Prop where
  nonNull : NonNull app
  joinable : Joinable app
  cameras : ∀ k v, app₀.pipelines.find k = some v → app.pipelines.find k = some v

theorem CamerasStay.change {app₀ app app' : OpaleyeApp} {call : CaptureCall} {ret : Ret}
    (h : CamerasStay app₀ app) (h0 : app₀.CamerasOnly) (hch : Change app call app' ret) :
    CamerasStay app₀ app' := by
  refine ⟨h.nonNull.change hch, h.joinable.change hch, fun k v hv => ?_⟩
  obtain ⟨p, rfl, hp⟩ := h0 k v hv
  exact find_change_camera hch (h.cameras k _ hv) hp.isFilesink

theorem setCameraProperty_ne_crashed {app : OpaleyeApp} (h : NonNull app)
    (pipelineId cameraId : List Char) (casts ret : Bool) :
    setCameraProperty pipelineId cameraId casts ret app ≠ .crashed := by
  rw [setCameraProperty]
  split
  · exact fun he => (by cases he)
  · next hnull => exact absurd hnull (h pipelineId)
  · split
    · split
      · exact fun he => (by cases he)
      · exact fun he => (by cases he)
    · exact fun he => (by cases he)

theorem CamerasStay.call {app₀ app : OpaleyeApp} (h : CamerasStay app₀ app) (op : Op)
    (hkeeps : KeepsPipelines app op)
    (hcams : ∀ k v, app₀.pipelines.find k = some v → (app.call op).1.pipelines.find k = some v) :
    CamerasStay app₀ (app.call op).1 ∧ Reply.ret (app.call op).2 ≠ .ret .crashed := by
  obtain ⟨hne, hnull⟩ := (nonNull_call_iff h.joinable h.nonNull op).mpr hkeeps
  exact ⟨⟨hnull, h.joinable.call op, hcams⟩, fun he => hne (Reply.ret.inj he)⟩

/-- **One call of the server** crashes nothing and leaves the cameras where they are, when one of
them has the pipeline that `get_pipeline_status` asks for. -/
theorem CamerasStay.run {app₀ app : OpaleyeApp} (h : CamerasStay app₀ app)
    (h0 : app₀.CamerasOnly) (hpipe : app₀.pipelines.find "pipe0".toList ≠ none) (env : RpcEnv)
    (call : RpcCall) :
    CamerasStay app₀ (call.run env app).1 ∧ (call.run env app).2 ≠ .ret .crashed := by
  cases call with
  | startCamera camera => exact ⟨h, fun he => by cases he⟩
  | getCameraList => exact ⟨h, fun he => by cases he⟩
  | startStillCapture camera => exact ⟨h, fun he => by cases he⟩
  | stopStillCapture camera => exact ⟨h, fun he => by cases he⟩
  | startVideoCapture camera =>
    exact h.call (.startVideoCapture camera env.capture) trivial
      (h.change h0 (change_call app (.start camera env.capture))).cameras
  | stopVideoCapture camera =>
    exact h.call (.stopVideoCapture camera) trivial
      (h.change h0 (change_call app (.stop camera))).cameras
  | startRtpStream pipeName ipAddr port =>
    exact h.call (.startRtpStream pipeName ipAddr port env.udpClient) trivial h.cameras
  | stopRtpStream pipeName ipAddr port =>
    exact h.call (.stopRtpStream pipeName ipAddr port env.udpClient) trivial h.cameras
  | getPipelineStatus =>
    obtain ⟨v, hv⟩ := Option.ne_none_iff_exists'.mp hpipe
    have hthere : app.pipelines.find "pipe0".toList ≠ none := by
      rw [h.cameras _ v hv]
      simp
    refine h.call (.getPipelineStatus env.state env.change) hthere (fun k w hw => ?_)
    show (app.getPipelineStatus env.state env.change).1.pipelines.find k = some w
    rw [getPipelineStatus_fst, find_entryAt hthere]
    exact h.cameras k w hw
  | getPipelineGraph => exact h.call (.getPipelineGraph) trivial h.cameras
  | setCameraPropertyInt pipelineId cameraId propertyId value =>
    exact ⟨h, fun he => setCameraProperty_ne_crashed h.nonNull _ _ _ _ (Reply.ret.inj he)⟩
  | setCameraPropertyStr pipelineId cameraId propertyId value =>
    exact ⟨h, fun he => setCameraProperty_ne_crashed h.nonNull _ _ _ _ (Reply.ret.inj he)⟩

theorem CamerasStay.handleRequest {app₀ app : OpaleyeApp} (h : CamerasStay app₀ app)
    (h0 : app₀.CamerasOnly) (hpipe : app₀.pipelines.find "pipe0".toList ≠ none) (srv : RpcServer)
    (env : RpcEnv) (str : List Char) :
    CamerasStay app₀ (srv.handleRequest env app str).1 ∧
      (srv.handleRequest env app str).2 ≠ some (.ret .crashed) := by
  rw [RpcServer.handleRequest]
  cases srv.decode str with
  | none => exact ⟨h, fun he => by cases he⟩
  | some call =>
    obtain ⟨hkeeps, hne⟩ := h.run h0 hpipe env call
    exact ⟨hkeeps, fun he => hne (Option.some.inj he)⟩

theorem rpc_crit {srv : RpcServer} {l : RpcInput} {p q : JsonrpcPc} {s s' : RpcObject}
    (hn : rpcNext srv l p s = .crit q s') :
    (s'.app = s.app ∧ s'.crashed = s.crashed) ∨
    (∃ env, (srv.handleRequest env s.app s.obj.mReqStr).2 = some (.ret .crashed)) ∨
    ∃ env, s'.app = (srv.handleRequest env s.app s.obj.mReqStr).1 ∧ s'.crashed = s.crashed := by
  rcases rpcNext_cases srv l p s with hn' | ⟨l', -, hn'⟩ | ⟨_, _, _, env, -, hcr, -⟩ |
    ⟨_, _, _, env, -, -, -, hn'⟩
  · rw [hn] at hn'
    cases hn'
  · rw [hn] at hn'
    cases hm : jsonrpcNext l' p s.obj with
    | crit q' obj' =>
      rw [hm] at hn'
      obtain ⟨-, rfl⟩ := Move.crit.inj hn'
      exact Or.inl ⟨rfl, rfl⟩
    | _ =>
      rw [hm] at hn'
      cases hn'
  · exact Or.inr (Or.inl ⟨env, hcr⟩)
  · rw [hn] at hn'
    obtain ⟨-, rfl⟩ := Move.crit.inj hn'
    exact Or.inr (Or.inr ⟨env, rfl, rfl⟩)

/-- **No request brings the process down.**  Once `init` has installed the pipelines of a
configuration that names one `"pipe0"`, no traffic on any number of workers dereferences a null
pointer, and every camera keeps its pipeline. -/
theorem rpc_never_crashes (srv : RpcServer) (config : Option AppConfig) (env : InitEnv)
    (hinit : ((new config).init env).2 = .returned true)
    (hpipe : "pipe0".toList ∈ pipeNames (config.getD .makeDefault)) (obj : JsonrpcObject)
    (c : Config JsonrpcPc RpcObject)
    (h : ((rpcWorkers srv).sys ⟨obj, ((new config).init env).1, false⟩).Reach TransSys.Any c) :
    c.shared.crashed = false ∧
      ∀ k ∈ pipeNames (config.getD .makeDefault), ∃ p,
        ((new config).init env).1.pipelines.find k = some (some p) ∧
          c.shared.app.pipelines.find k = some (some p) := by
  have h0 := camerasOnly_init config env
  have hkeys := init_keys hinit
  generalize ((new config).init env).1 = app₀ at h h0 hkeys ⊢
  have hinv : c.shared.crashed = false ∧ CamerasStay app₀ c.shared.app := by
    refine reach_shared (I := fun s => s.crashed = false ∧ CamerasStay app₀ s.app)
      (fun {l p s q s'} hs hn => ?_) (fun {e} => nomatch e)
      ⟨rfl, h0.nonNull, h0.joinable, fun k v hv => hv⟩ h
    have hcall := fun env => hs.2.handleRequest h0 ((hkeys _).mpr hpipe) srv env s.obj.mReqStr
    rcases rpc_crit hn with ⟨happ, hcr⟩ | ⟨env, hcr⟩ | ⟨env, happ, hcr⟩
    · rw [happ, hcr]
      exact hs
    · exact absurd hcr (hcall env).2
    · rw [happ, hcr]
      exact ⟨hs.1, (hcall env).1⟩
  refine ⟨hinv.1, fun k hk => ?_⟩
  obtain ⟨v, hv⟩ := Option.ne_none_iff_exists'.mp ((hkeys k).mpr hk)
  obtain ⟨p, rfl, -⟩ := h0 k v hv
  exact ⟨p, hv, hinv.2.cameras k _ hv⟩

/-- The two cameras of a dual configuration, a capture that is started on thread 1, and the state of
the pipelines, which thread 0 asks for. -/
theorem rpc_never_crashes_dual :
    let srv := namedServer "pipe0"
    let config := AppConfig.deserialize (dualTree "pipe0" "pipe1")
    ∃ c, ((rpcWorkers srv).sys (bootRpc ((new config).init fineInit).1)).Reach TransSys.Any c ∧
      c.shared.obj.passed.map Prod.snd = [startRequest.body, statusRequest.body] ∧
      c.shared.app.pipelines.entries.map Prod.fst
        = ["pipe0".toList, "pipe0/file0".toList, "pipe1".toList] ∧
      c.shared.crashed = false ∧
      ∀ k ∈ pipeNames (config.getD .makeDefault), ∃ p,
        ((new config).init fineInit).1.pipelines.find k = some (some p) ∧
          c.shared.app.pipelines.find k = some (some p) := by
  intro srv config
  have hrun : (((rpcWorkers srv).sys (bootRpc ((new config).init fineInit).1)).run
      ((rpcWorkers srv).boot (bootRpc ((new config).init fineInit).1))
      ([.thread 0 (.io (.request statusRequest)), .thread 1 (.io (.request startRequest))] ++
        serveOn 1 ++ serveOn 0)).map (fun c => (c.shared.obj.passed.map Prod.snd,
          c.shared.app.pipelines.entries.map Prod.fst))
      = some ([startRequest.body, statusRequest.body],
          ["pipe0".toList, "pipe0/file0".toList, "pipe1".toList]) := by
    decide +kernel
  obtain ⟨c, hc, hran⟩ := Option.map_eq_some_iff.mp hrun
  obtain ⟨hpassed, hkeys⟩ := Prod.mk.inj hran
  have hreach := TransSys.Reach.run _ (.init rfl) (TransSys.meets_any _ _) hc
  exact ⟨c, hreach, hpassed, hkeys,
    rpc_never_crashes srv config fineInit (by decide) (by decide) _ c hreach⟩

end Opaleye.App
