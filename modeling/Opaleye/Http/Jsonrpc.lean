import Opaleye.Http.Handlers
import Opaleye.Lib.LockedThreads

/-!
# The buffers of `http_req_jsonrpc`

One object of `http_req_jsonrpc` serves all worker threads.  It reads the body of a
request into `m_req_buf`, copies that to `m_req_str` and passes the string to the
JSON-RPC server, all while it holds `m_jsonrpc_mutex`.  Both are members and keep
what the request before left in them: `resize` keeps the bytes there are, a short
read overwrites some of them, and a read that is too short or a server that throws
leaves the function at once.

The workers are threads of one program.  Every string passed to the server is
recorded with its request, and `jsonrpc_isolated` says what it is: the beginning of
the request's own body, whatever came before.  `jsonrpc_left` ties the threads to
`httpReqJsonrpc`, which has no buffers.
-/

namespace Opaleye.Http

open Text LockedThreads

/-! ### The object -/

/-- `http_req_jsonrpc`, with a record of what its server was passed. -/
structure JsonrpcObject where
  mReqBuf : List Char
  mReqStr : List Char
  passed : List (Params × List Char)

/-- `std::vector<char>::resize` -/
def resize (buf : List Char) (n : Nat) : List Char :=
  buf.take n ++ List.replicate (n - buf.length) '\x00'

/-- A read into the beginning of a buffer. -/
def overwrite (buf data : List Char) : List Char := data ++ buf.drop data.length

theorem length_resize (buf : List Char) (n : Nat) : (resize buf n).length = n := by
  rw [resize, List.length_append, List.length_take, List.length_replicate]
  omega

/-- **A read that fills the buffer leaves nothing of what was there.** -/
theorem overwrite_of_length {buf data : List Char} (h : data.length = buf.length) :
    overwrite buf data = data := by
  rw [overwrite, h, List.drop_length, List.append_nil]

/-- The checks before the mutex is taken; they yield `req_len`. -/
def checkRequest (req : Params) : Except Exception Int :=
  if parseReqMethod req.requestMethod ≠ .post then .error (badRequest "Only POST is accepted")
  else
    match sscanf [.conv readInt] req.contentLength with
    | [reqLen] =>
      if reqLen < 0 ∨ reqLen > maxReqLen then .error (badRequest "CONTENT_LENGTH is invalid")
      else if req.contentType.length = 0 then .error (badRequest "CONTENT_TYPE is invalid")
      else if req.contentType.take 16 ≠ "application/json".toList then
        .error (badRequest "CONTENT_TYPE is invalid")
      else .ok reqLen
    | _ => .error (badRequest "Could not parse CONTENT_LENGTH")

/-- `req_len`, as it is parsed. -/
def IsReqLen (req : Params) (reqLen : Int) : Prop :=
  sscanf [.conv readInt] req.contentLength = [reqLen] ∧ 0 ≤ reqLen

theorem isReqLen_of_checkRequest {req : Params} {reqLen : Int} (h : checkRequest req = .ok reqLen) :
    IsReqLen req reqLen := by
  unfold checkRequest at h
  split at h
  · cases h
  · split at h
    · next hscan =>
      split at h
      · cases h
      · next hrange =>
        split at h
        · cases h
        · split at h
          · cases h
          · cases h
            exact ⟨hscan, by omega⟩
    · cases h

theorem httpReqJsonrpc_eq (server : JsonrpcServer) (req : Params) :
    httpReqJsonrpc server req =
      match checkRequest req with
      | .error e => .error e
      | .ok reqLen =>
        if ((req.body.take reqLen.toNat).length : Int) ≠ reqLen then
          .error (internalServerError "Read did not return expected length")
        else
          match server (req.body.take reqLen.toNat) with
          | .error _ => .error (internalServerError "Error handling jsonrpc request")
          | .ok result => .ok (jsonrpcResponse result) := by
  unfold httpReqJsonrpc checkRequest
  split
  · rfl
  · generalize sscanf [.conv readInt] req.contentLength = scanned
    match scanned with
    | [] => rfl
    | [reqLen] =>
      dsimp only
      split
      · rfl
      · split
        · rfl
        · split <;> rfl
    | _ :: _ :: _ => rfl

/-! ### The threads -/

/-- Where a worker is in `handle`.  From `locked` to `leaving` it holds the mutex. -/
inductive JsonrpcPc
  | idle
  | checked (req : Params) (reqLen : Int)
  | locked (req : Params) (reqLen : Int)
  | resized (req : Params) (reqLen : Int)
  | read (req : Params) (reqLen : Int) (avail bytesIn : Nat)
  | assigned (req : Params) (reqLen : Int) (avail : Nat)
  | leaving (req : Params) (ret : Except Exception (Option (List Char)))
  | left (req : Params) (ret : Except Exception (List (List Char)))

def JsonrpcPc.owns : JsonrpcPc → Bool
  | .idle | .checked _ _ | .left _ _ => false
  | .locked _ _ | .resized _ _ | .read _ _ _ _ | .assigned _ _ _ | .leaving _ _ => true

/-- What a worker's step is given: the next request, how many bytes of the body the stream
delivers before it ends, and what the server does. -/
inductive JsonrpcInput
  | request (req : Params)
  | stream (avail : Nat)
  | served (result : Except (List Char) (Option (List Char)))
  | go

/-- `http_req_jsonrpc::handle`, step by step. -/
def jsonrpcNext : JsonrpcInput → JsonrpcPc → JsonrpcObject → Move JsonrpcPc JsonrpcObject
  | .request req, .idle, _ =>
    match checkRequest req with
    | .error e => .goto (.left req (.error e))
    | .ok reqLen => .goto (.checked req reqLen)
  | .go, .checked req reqLen, _ => .lock (.locked req reqLen)
  | .go, .locked req reqLen, s =>
    .crit (.resized req reqLen) { s with mReqBuf := resize s.mReqBuf reqLen.toNat }
  | .stream avail, .resized req reqLen, s =>
    -- `FCGX_GetStr`
    let data := (req.body.take avail).take s.mReqBuf.length
    .crit (.read req reqLen avail data.length) { s with mReqBuf := overwrite s.mReqBuf data }
  | .go, .read req reqLen avail bytesIn, s =>
    if (bytesIn : Int) ≠ reqLen then
      .crit (.leaving req (.error (internalServerError "Read did not return expected length"))) s
    else .crit (.assigned req reqLen avail) { s with mReqStr := s.mReqBuf }
  | .served result, .assigned req _ _, s =>
    let ret := match result with
      | .error _ => .error (internalServerError "Error handling jsonrpc request")
      | .ok data => .ok data
    .crit (.leaving req ret) { s with passed := s.passed ++ [(req, s.mReqStr)] }
  | .go, .leaving req ret, _ => .unlock (.left req (ret.map jsonrpcResponse))
  | .go, .left _ _, _ => .goto .idle
  | _, _, _ => .blocked

/-- The workers that share the object. -/
def jsonrpcWorkers : LockedThreads JsonrpcPc JsonrpcObject JsonrpcInput Empty where
  start := .idle
  owns := JsonrpcPc.owns
  next := jsonrpcNext
  interrupt e _ := nomatch e
  start_free := rfl
  next_owns := by
    intro l p s
    fun_cases jsonrpcNext l p s
    all_goals first | exact ⟨rfl, rfl⟩ | exact trivial

/-! ### What is passed -/

/-- The string is the first `req_len` bytes of the request's own body. -/
def IsOwn (req : Params) (str : List Char) : Prop :=
  ∃ reqLen, IsReqLen req reqLen ∧ str = req.body.take reqLen.toNat ∧ (str.length : Int) = reqLen

theorem IsOwn.unique {req : Params} {s t : List Char} (hs : IsOwn req s) (ht : IsOwn req t) :
    s = t := by
  obtain ⟨m, hm, rfl, -⟩ := hs
  obtain ⟨n, hn, rfl, -⟩ := ht
  have heq : [m] = [n] := hm.1.symm.trans hn.1
  rw [List.cons.inj heq |>.1]

def AllOwn (obj : JsonrpcObject) : Prop := ∀ e ∈ obj.passed, IsOwn e.1 e.2

/-- What a request is answered when the stream ends after some bytes of its body. -/
def OwnAnswer (req : Params) (ret : Except Exception (List (List Char))) : Prop :=
  ∃ avail server, ret = httpReqJsonrpc server { req with body := req.body.take avail }

/-- What the buffers hold at each place that has the mutex. -/
def BufInv : JsonrpcPc → JsonrpcObject → Prop
  | .locked req reqLen, _ => checkRequest req = .ok reqLen
  | .resized req reqLen, obj => checkRequest req = .ok reqLen ∧ obj.mReqBuf.length = reqLen.toNat
  | .read req reqLen avail bytesIn, obj => checkRequest req = .ok reqLen ∧
      ∃ buf data, buf.length = reqLen.toNat ∧ data = (req.body.take avail).take reqLen.toNat ∧
        bytesIn = data.length ∧ obj.mReqBuf = overwrite buf data
  | .assigned req reqLen avail, obj => checkRequest req = .ok reqLen ∧
      obj.mReqStr = (req.body.take avail).take reqLen.toNat ∧ (obj.mReqStr.length : Int) = reqLen
  | .leaving req ret, _ => OwnAnswer req (ret.map jsonrpcResponse)
  | _, _ => True

def PlaceInv : JsonrpcPc → Prop
  | .checked req reqLen => checkRequest req = .ok reqLen
  | .left req ret => OwnAnswer req ret
  | _ => True

section Steps

variable {req : Params} {reqLen : Int} {avail : Nat}

theorem ownAnswer_error {e : Exception} (h : checkRequest req = .error e) :
    OwnAnswer req (.error e) := by
  refine ⟨0, fun _ => .error [], ?_⟩
  rw [httpReqJsonrpc_eq]
  show _ = match checkRequest req with | .error e => _ | .ok reqLen => _
  rw [h]

theorem ownAnswer_short (h : checkRequest req = .ok reqLen)
    (hlen : (((req.body.take avail).take reqLen.toNat).length : Int) ≠ reqLen) :
    OwnAnswer req (.error (internalServerError "Read did not return expected length")) := by
  refine ⟨avail, fun _ => .error [], ?_⟩
  rw [httpReqJsonrpc_eq]
  show _ = match checkRequest req with | .error e => _ | .ok reqLen => _
  rw [h]
  exact (if_pos hlen).symm

theorem ownAnswer_served (h : checkRequest req = .ok reqLen)
    (hlen : (((req.body.take avail).take reqLen.toNat).length : Int) = reqLen)
    (result : Except (List Char) (Option (List Char))) :
    OwnAnswer req (match result with
      | .error _ => .error (internalServerError "Error handling jsonrpc request")
      | .ok data => .ok (jsonrpcResponse data)) := by
  refine ⟨avail, fun _ => result, ?_⟩
  rw [httpReqJsonrpc_eq]
  show _ = match checkRequest req with | .error e => _ | .ok reqLen => _
  rw [h]
  exact (if_neg (not_not.mpr hlen)).symm

/-- **The string is the request's own**: a read of the expected length has overwritten the
whole buffer. -/
theorem isOwn_of_assigned {str : List Char} (h : checkRequest req = .ok reqLen)
    (hstr : str = (req.body.take avail).take reqLen.toNat) (hlen : (str.length : Int) = reqLen) :
    IsOwn req str := by
  refine ⟨reqLen, isReqLen_of_checkRequest h, ?_, hlen⟩
  have hle : reqLen.toNat ≤ avail := by
    rw [hstr, List.length_take, List.length_take] at hlen
    omega
  rw [hstr, List.take_take, Nat.min_eq_left hle]

end Steps

/-- What a move leaves for the place it leads to. -/
def MoveInv (obj : JsonrpcObject) : Move JsonrpcPc JsonrpcObject → Prop
  | .blocked => True
  | .goto q => PlaceInv q
  | .lock q => BufInv q obj
  | .crit q obj' => AllOwn obj' ∧ BufInv q obj'
  | .unlock q => PlaceInv q

/-- **Everything a step of a worker does to the buffers.** -/
theorem jsonrpc_moveInv (l : JsonrpcInput) (p : JsonrpcPc) (obj : JsonrpcObject)
    (hplace : p.owns = false → PlaceInv p) (hbuf : p.owns = true → AllOwn obj ∧ BufInv p obj) :
    MoveInv obj (jsonrpcNext l p obj) := by
  fun_cases jsonrpcNext l p obj with
  | case1 req obj e hcheck => exact ownAnswer_error hcheck
  | case2 req obj reqLen hcheck => exact hcheck
  | case3 req reqLen obj => exact hplace rfl
  | case4 req reqLen obj =>
    obtain ⟨hown, hcheck⟩ := hbuf rfl
    exact ⟨hown, hcheck, length_resize _ _⟩
  | case5 avail req reqLen obj data =>
    obtain ⟨hown, hcheck, hlen⟩ := hbuf rfl
    refine ⟨hown, hcheck, obj.mReqBuf, data, hlen, ?_, rfl, rfl⟩
    rw [← hlen]
  | case6 req reqLen avail bytesIn obj hne =>
    obtain ⟨hown, hcheck, buf, data, -, hdata, hbytes, -⟩ := hbuf rfl
    rw [hbytes, hdata] at hne
    exact ⟨hown, ownAnswer_short hcheck hne⟩
  | case7 req reqLen avail bytesIn obj heq =>
    -- as many bytes were read as the buffer has
    obtain ⟨hown, hcheck, buf, data, hlen, hdata, hbytes, hobj⟩ := hbuf rfl
    rw [not_not, hbytes] at heq
    have hall : obj.mReqBuf = data := by
      rw [hobj, overwrite_of_length]
      omega
    refine ⟨hown, hcheck, ?_, ?_⟩
    · exact hall.trans hdata
    · show (obj.mReqBuf.length : Int) = reqLen
      rw [hall, heq]
  | case8 result req reqLen avail obj ret =>
    obtain ⟨hown, hcheck, hstr, hlen⟩ := hbuf rfl
    refine ⟨?_, ?_⟩
    · intro e he
      rcases List.mem_append.mp he with he | he
      · exact hown e he
      · obtain rfl := List.mem_singleton.mp he
        exact isOwn_of_assigned hcheck hstr hlen
    · have hserved := ownAnswer_served hcheck (hstr ▸ hlen) result
      cases result <;> exact hserved
  | case9 req ret obj => exact (hbuf rfl).2
  | case10 => trivial
  | case11 => trivial

theorem jsonrpc_lockInv :
    jsonrpcWorkers.LockInv (fun _ _ _ => True) AllOwn (fun p obj => AllOwn obj ∧ BufInv p obj)
      PlaceInv where
  start := trivial
  goto := by
    intro l p obj q _ hp hn
    have hmove := jsonrpc_moveInv l p obj (fun _ => hp)
      (fun ho => absurd ((owns_of_goto hn).1.symm.trans ho) (by simp))
    rw [show jsonrpcNext l p obj = .goto q from hn] at hmove
    exact hmove
  lock := by
    intro l p obj q _ hp hfree hn
    have hmove := jsonrpc_moveInv l p obj (fun _ => hp)
      (fun ho => absurd ((owns_of_lock hn).1.symm.trans ho) (by simp))
    rw [show jsonrpcNext l p obj = .lock q from hn] at hmove
    exact ⟨hfree, hmove⟩
  crit := by
    intro l p obj q obj' _ hp hn
    have hmove := jsonrpc_moveInv l p obj
      (fun ho => absurd ((owns_of_crit hn).1.symm.trans ho) (by simp)) (fun _ => hp)
    rw [show jsonrpcNext l p obj = .crit q obj' from hn] at hmove
    exact hmove
  unlock := by
    intro l p obj q _ hp hn
    have hmove := jsonrpc_moveInv l p obj
      (fun ho => absurd ((owns_of_unlock hn).1.symm.trans ho) (by simp)) (fun _ => hp)
    rw [show jsonrpcNext l p obj = .unlock q from hn] at hmove
    exact ⟨hp.1, hmove⟩
  intr_free := by
    intro e
    cases e
  intr_locked := by
    intro e
    cases e

section Reached

variable {obj : JsonrpcObject} {c : Config JsonrpcPc JsonrpcObject}

theorem jsonrpc_guarded (h0 : AllOwn obj) (h : (jsonrpcWorkers.sys obj).Reach TransSys.Any c) :
    jsonrpcWorkers.Guarded AllOwn (fun p obj => AllOwn obj ∧ BufInv p obj) PlaceInv c := by
  refine reach_locked jsonrpc_lockInv h0 (h.mono ?_)
  intro c a _
  cases a with
  | thread i l => trivial
  | interrupt e => cases e

theorem allOwn_of_reach (h0 : AllOwn obj) (h : (jsonrpcWorkers.sys obj).Reach TransSys.Any c) :
    AllOwn c.shared := by
  have hg := jsonrpc_guarded h0 h
  cases hm : c.mutex with
  | none => exact hg.free hm
  | some i => exact (hg.locked i hm).1

/-- **A request is answered as if there were no buffers and no other requests.** -/
theorem jsonrpc_left (h0 : AllOwn obj) (h : (jsonrpcWorkers.sys obj).Reach TransSys.Any c) {i : Nat}
    {req : Params} {ret : Except Exception (List (List Char))} (hpc : c.pc i = .left req ret) :
    OwnAnswer req ret := by
  have hloc := (jsonrpc_guarded h0 h).loc i (by rw [hpc]; rfl)
  rw [hpc] at hloc
  exact hloc

end Reached

/-- **Every string passed to the server is the request's own**, whatever the buffers held and
whatever requests came before, on any number of threads; and two histories that end in the same
request pass the same string. -/
theorem jsonrpc_isolated (obj obj' : JsonrpcObject) (h0 : obj.passed = []) (h0' : obj'.passed = [])
    (c c' : Config JsonrpcPc JsonrpcObject)
    (h : (jsonrpcWorkers.sys obj).Reach TransSys.Any c)
    (h' : (jsonrpcWorkers.sys obj').Reach TransSys.Any c') :
    (∀ req str, (req, str) ∈ c.shared.passed → IsOwn req str) ∧
      ∀ req str str', c.shared.passed.getLast? = some (req, str) →
        c'.shared.passed.getLast? = some (req, str') → str = str' := by
  have hall : AllOwn c.shared := allOwn_of_reach (by rw [AllOwn, h0]; simp) h
  have hall' : AllOwn c'.shared := allOwn_of_reach (by rw [AllOwn, h0']; simp) h'
  refine ⟨fun req str hmem => hall _ hmem, fun req str str' hlast hlast' => ?_⟩
  exact (hall _ (List.mem_of_getLast? hlast)).unique (hall' _ (List.mem_of_getLast? hlast'))

/-- A request that the checks accept. -/
def post (contentLength body : String) : Params :=
  ⟨"POST".toList, "/api/v1/jsonrpc".toList, contentLength.toList, "application/json".toList,
    body.toList, none⟩

/-- Thread 0 reads a long body short and gives up, thread 1 is served, and while it is, thread 0
waits for the mutex with a shorter body, for which the server throws. -/
def threeRequests : List (Act JsonrpcInput Empty) :=
  [.thread 0 (.request (post "8" "secret??")), .thread 0 .go, .thread 0 .go, .thread 0 (.stream 6),
    .thread 0 .go, .thread 0 .go, .thread 0 .go,
    .thread 1 (.request (post "4" "abcd")), .thread 1 .go, .thread 1 .go,
    .thread 0 (.request (post "2" "xyz")), .thread 1 (.stream 4), .thread 1 .go,
    .thread 1 (.served (.ok none)), .thread 1 .go,
    .thread 0 .go, .thread 0 .go, .thread 0 (.stream 3), .thread 0 .go,
    .thread 0 (.served (.error []))]

theorem jsonrpc_isolated_threeRequests :
    ∃ c, (jsonrpcWorkers.sys ⟨"old".toList, [], []⟩).Reach TransSys.Any c ∧
      c.shared.passed.map Prod.snd = ["abcd".toList, "xy".toList] ∧
      ∀ req str, (req, str) ∈ c.shared.passed → IsOwn req str := by
  have hrun : ((jsonrpcWorkers.sys ⟨"old".toList, [], []⟩).run
      (jsonrpcWorkers.boot ⟨"old".toList, [], []⟩) threeRequests).map
        (fun c => c.shared.passed.map Prod.snd) = some ["abcd".toList, "xy".toList] := by
    decide
  obtain ⟨c, hc, hpassed⟩ := Option.map_eq_some_iff.mp hrun
  have hreach := TransSys.Reach.run threeRequests (.init rfl) (TransSys.meets_any _ _) hc
  exact ⟨c, hreach, hpassed, (jsonrpc_isolated _ _ rfl rfl c c hreach hreach).1⟩

end Opaleye.Http
