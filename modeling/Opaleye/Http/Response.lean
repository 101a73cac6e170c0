import Opaleye.Http.Handlers
import Opaleye.Lib.Message

/-!
# What is written on a request

A request is answered by the handler that was looked up for it, or by the worker
itself.  `WellFormed` says what a response should be: header lines, an empty
line, and a body of the announced length.

Two responses never are.  A handler's `HTTPException` is answered with a body
that is two bytes longer than its `Content-Length` (`httpError_not_wellFormed`),
and a request for an image while there is no frame is answered with a single
header line (`emptyFrame_not_wellFormed`).  A length of `2 ^ 31` or more does not
survive the conversion to an `int`, and of a handler that runs into undefined
behaviour nothing can be said.  Everything else is well formed, so
`wellFormed_iff` is a condition on the request and on what the handler gets from
outside.
-/

namespace Opaleye.Http

open FsPath Text Message HttpFcgiSvr

/-! ### One request -/

/-- A handler in the table, with what it gets from outside on this request; the
last one stands for any other that throws before it writes. -/
inductive Callback
  | jpeg (frameBuf : List Char)
  | jsonrpc (server : JsonrpcServer)
  | sensors (s : Sensors)
  | throwing (e : Exception)

def Behaviour.ofExcept : Except Exception (List (List Char)) → Behaviour
  | .ok out => .finishes out
  | .error e => .throws e

/-- Undefined behaviour may come to anything. -/
def Behaviour.ofFault (anything : Behaviour) : Except Fault (List (List Char)) → Behaviour
  | .ok out => .finishes out
  | .error (.throws e) => .throws e
  | .error .undefined => anything

def Callback.handle (req : Params) (anything : Behaviour) : Callback → Behaviour
  | .jpeg frameBuf => .ofExcept (httpReqJpeg frameBuf req)
  | .jsonrpc server => .ofExcept (httpReqJsonrpc server req)
  | .sensors s => .ofFault anything (httpReqCallbackSensors s req)
  | .throwing e => .throws e

/-- The request as the worker sees it. -/
def Params.request (req : Params) (interrupted : Bool) (anything : Behaviour) : Request Callback :=
  ⟨req.documentUri, interrupted, Callback.handle req anything⟩

variable {β : Type}

/-- The calls made on an accepted request, once its handler is looked up. -/
def answer (req : Request β) (reqCb : Option β) : List Fcgx :=
  if req.interrupted then respond internalError else dispatch req reqCb

/-- The bytes written before `FCGX_Finish_r`. -/
def written : List Fcgx → List Char
  | [] => []
  | .put s :: calls => s ++ written calls
  | .finish :: _ => []

/-- **What the loop does with a request is `answer`**, unless the lookup threw. -/
theorem mem_work (svr : HttpFcgiSvr β) {calls : List Fcgx} : ∀ {ts : List (Turn β)},
    calls ∈ (work svr ts).1 → calls = [] ∨ ∃ req ∈ accepted ts, ∃ reqCb, calls = answer req reqCb := by
  intro ts
  induction ts with
  | nil => intro h; simp [work] at h
  | cons t ts ih =>
    intro h
    cases ht : t.interrupted with
    | true => simp [work, ht] at h
    | false =>
      cases hr : t.request with
      | none =>
        have hacc : accepted (t :: ts) = accepted ts := by simp [accepted, ht, hr]
        rw [hacc]
        exact ih (by simpa [work, ht, hr] using h)
      | some req =>
        cases hint : req.interrupted with
        | true =>
          have hcalls : calls = respond internalError := by simpa [work, ht, hr, hint] using h
          refine Or.inr ⟨req, by simp [accepted, ht, hr, hint], none, ?_⟩
          rw [hcalls, answer, hint, if_pos rfl]
        | false =>
          have hacc : accepted (t :: ts) = req :: accepted ts := by simp [accepted, ht, hr, hint]
          rw [hacc]
          cases hcb : svr.getCbForDocUri ⟨req.documentUri⟩ with
          | error e => exact Or.inl (by simpa [work, ht, hr, hint, hcb] using h)
          | ok reqCb =>
            have hmem : calls = dispatch req reqCb ∨ calls ∈ (work svr ts).1 := by
              simpa [work, ht, hr, hint, hcb] using h
            rcases hmem with hcalls | hrest
            · refine Or.inr ⟨req, by simp, reqCb, ?_⟩
              rw [hcalls, answer, hint, if_neg (by simp)]
            · rcases ih hrest with hnil | ⟨req', hreq', hex⟩
              · exact Or.inl hnil
              · exact Or.inr ⟨req', by simp [hreq'], hex⟩

@[simp] theorem written_respond (out : List (List Char)) : written (respond out) = out.flatten := by
  induction out with
  | nil => rfl
  | cons s out ih =>
    show s ++ written (respond out) = _
    rw [ih, List.flatten_cons]

/-! ### The responses -/

theorem toList_crlf : "\r\n".toList = crlf := rfl

theorem toList_textHtml :
    "Content-Type: text/html\r\n".toList = "Content-Type: text/html".toList ++ crlf := by
  simp [crlf]

theorem toList_applicationJson :
    "Content-Type: application/json\r\n".toList
      = "Content-Type: application/json".toList ++ crlf := by
  simp [crlf]

theorem toList_cacheControl :
    "Cache-Control: max-age=0, no-store\r\n".toList
      = "Cache-Control: max-age=0, no-store".toList ++ crlf := by
  simp [crlf]

theorem status_line {s : List Char} (h : s.all isPlain = true) :
    isLine ("Status: ".toList ++ s) = true ∧ contentLength ("Status: ".toList ++ s) = none :=
  ⟨isLine_append (by decide) h, contentLength_of_head (c := 'S') (by decide) _⟩

theorem lastModified_line {s : List Char} (h : s.all isPlain = true) :
    isLine ("Last-Modified: ".toList ++ s) = true
      ∧ contentLength ("Last-Modified: ".toList ++ s) = none :=
  ⟨isLine_append (by decide) h, contentLength_of_head (c := 'L') (by decide) _⟩

theorem cacheControl_line : isLine "Cache-Control: max-age=0, no-store".toList = true
    ∧ contentLength "Cache-Control: max-age=0, no-store".toList = none := by
  decide

theorem wellFormed_page {status : String} (hs : status.toList.all isPlain = true) (msg : String) :
    WellFormed (page status msg).flatten := by
  have hrender : (page status msg).flatten = render
      ("Content-Type: text/html".toList :: ("Content-Length: ".toList ++ printInt msg.toList.length)
        :: ["Status: ".toList ++ status.toList]) msg.toList := by
    simp only [page, render, List.flatten_cons, List.flatten_nil, List.append_assoc,
      List.append_nil, toList_crlf, toList_textHtml]
  rw [hrender, wellFormed_length_iff (by decide) (all_isPlain_printInt _), printInt_natCast]
  intro h hh
  rw [List.mem_singleton.mp hh]
  exact status_line hs

theorem wellFormed_internalError : WellFormed internalError.flatten :=
  wellFormed_page (by decide) _

theorem wellFormed_notFound : WellFormed notFound.flatten := wellFormed_page (by decide) _

/-- **The answer to an `HTTPException` is not well formed**, whatever its message:
the line end behind the text is not counted. -/
theorem httpError_not_wellFormed (code : Int) (what : List Char) :
    ¬ WellFormed (httpError code what).flatten := by
  rintro ⟨hs, body, heq, hhs, hlen⟩
  have hbytes : render hs body = "Content-Type: text/html".toList ++ crlf
      ++ ("Content-Length: ".toList ++ printSize what.length ++ crlf
        ++ ("Status: ".toList ++ printInt code ++ " ".toList ++ what
          ++ (crlf ++ (crlf ++ (what ++ crlf))))) := by
    rw [← heq]
    simp only [httpError, List.flatten_cons, List.flatten_nil, List.append_assoc, List.append_nil,
      toList_crlf, toList_textHtml]
  obtain ⟨hs, rfl, hrest⟩ := render_cons_of_line hhs (by decide) hbytes
  rw [List.all_cons, Bool.and_eq_true] at hhs
  obtain ⟨hs, rfl, hblank⟩ := render_cons_of_line hhs.2
    (isLine_append (by decide) (all_isPlain_printSize _)) hrest
  rw [List.all_cons, Bool.and_eq_true] at hhs
  -- the text and its line end are part of the body
  have hle := length_le_of_blank hhs.2.2 hblank
  rw [List.length_append] at hle
  have hcrlf : crlf.length = 2 := rfl
  have hdigits : printSize what.length = Nat.toDigits 10 body.length :=
    hlen _ (List.mem_cons_of_mem _ List.mem_cons_self) _ (contentLength_line _)
  have heq := ((printSize_eq_toDigits_iff (by omega)).mp hdigits).1
  omega

/-- **The answer without a frame is not well formed**: no empty line ends its
header. -/
theorem emptyFrame_not_wellFormed :
    ¬ WellFormed ["Status: 500 Internal Error\r\n".toList].flatten := by
  rintro ⟨hs, body, heq, hhs, -⟩
  have hbytes : render hs body = "Status: 500 Internal Error".toList ++ crlf ++ [] := by
    rw [← heq]
    rfl
  obtain ⟨hs, rfl, hnil⟩ := render_cons_of_line hhs (by decide) hbytes
  cases hs with
  | nil => cases hnil
  | cons h hs => simp [render, crlf] at hnil

theorem wellFormed_datedPage_iff {contentType : String} {timeStr payload : List Char}
    (hc : isLine ("Content-Type: ".toList ++ contentType.toList) = true
      ∧ contentLength ("Content-Type: ".toList ++ contentType.toList) = none)
    (ht : timeStr.all isPlain = true) :
    WellFormed (datedPage contentType timeStr payload).flatten ↔ payload.length < 2 ^ 31 := by
  have hrender : (datedPage contentType timeStr payload).flatten = render
      (("Content-Type: ".toList ++ contentType.toList)
        :: ("Content-Length: ".toList ++ printSize payload.length)
        :: ["Cache-Control: max-age=0, no-store".toList, "Last-Modified: ".toList ++ timeStr])
      payload := by
    simp only [datedPage, render, List.flatten_cons, List.flatten_nil, List.append_assoc,
      List.append_nil, toList_crlf, toList_cacheControl]
  rw [hrender, wellFormed_length_iff hc (all_isPlain_printSize _), printSize_eq_toDigits_iff le_rfl,
    eq_self_iff_true, true_and]
  intro h hh
  rcases List.mem_cons.mp hh with rfl | hh
  · exact cacheControl_line
  · rw [List.mem_singleton.mp hh]
    exact lastModified_line ht

theorem wellFormed_jsonrpcPage_iff {status : String} {length payload : List Char}
    (hs : status.toList.all isPlain = true) (hl : length.all isPlain = true) :
    WellFormed (jsonrpcPage status length payload).flatten
      ↔ length = Nat.toDigits 10 payload.length := by
  have hrender : (jsonrpcPage status length payload).flatten = render
      ("Content-Type: application/json".toList :: ("Content-Length: ".toList ++ length)
        :: ["Status: ".toList ++ status.toList, "Cache-Control: max-age=0, no-store".toList])
      payload := by
    simp only [jsonrpcPage, render, List.flatten_cons, List.flatten_nil, List.append_assoc,
      List.append_nil, toList_crlf, toList_applicationJson, toList_cacheControl]
  rw [hrender, wellFormed_length_iff (by decide) hl]
  intro h hh
  rcases List.mem_cons.mp hh with rfl | hh
  · exact status_line hs
  · rw [List.mem_singleton.mp hh]
    exact cacheControl_line

theorem all_isPlain_of_timeToHttpdate {gmtime : Option Tm} {timeStr : List Char}
    (h : timeToHttpdate gmtime = some timeStr) : timeStr.all isPlain = true := by
  cases gmtime with
  | none => cases h
  | some tm =>
    rw [timeToHttpdate] at h
    have hday : ∀ d, (dayStr d).toList.all isPlain = true := by decide
    have hmonth : ∀ m, (monthStr m).toList.all isPlain = true := by decide
    have hdate : (httpDate tm).all isPlain = true := by
      unfold httpDate
      simp only [List.all_append, hday, hmonth, all_isPlain_printInt, all_isPlain_printIntPad,
        Bool.true_and]
      decide
    split at h
    · rw [← Option.some.inj h]
      exact hdate
    · cases h

/-! ### Which requests are answered well -/

/-- The five documents of the sensor API. -/
def Sensors.documents (s : Sensors) : List (Route × Document) :=
  [(.types, sensorTypes),
   (.sensors "pressure".toList, sensorList "pressure-0"),
   (.sensors "temperature".toList, sensorList "temperature-0"),
   (.sensor "pressure".toList "0".toList, sensorData s.baroData "mbar" "pressure-0"),
   (.sensor "temperature".toList "0".toList, sensorData s.tempData "degC" "temperature-0")]

/-- The second temperature, which is read and not sent. -/
def boardRoute : Route := .sensor "temperature".toList "1".toList

/-- A text that is there and whose length is an `int`. -/
def Sendable (payload : List Char) : Prop := payload ≠ [] ∧ payload.length < 2 ^ 31

/-- The request is one its handler serves, the handler gets what it needs from
outside, and what it sends back is not too long.  A handler that throws anything
but an `HTTPException` leaves the answer to the worker. -/
def Delivers (req : Params) : Callback → Prop
  | .jpeg frameBuf =>
    parseReqMethod req.requestMethod = .get ∧ (timeToHttpdate req.gmtime).isSome = true ∧
      Sendable frameBuf
  | .jsonrpc server =>
    parseReqMethod req.requestMethod = .post ∧ "application/json".toList <+: req.contentType ∧
      ∃ reqLen, sscanf [.conv readInt] req.contentLength = [reqLen] ∧
        0 ≤ reqLen ∧ reqLen ≤ maxReqLen ∧ reqLen ≤ req.body.length ∧
        ∃ result, server (req.body.take reqLen.toNat) = .ok result ∧
          ∀ data, result = some data → data.length < 2 ^ 31
  | .sensors s =>
    parseReqMethod req.requestMethod = .get ∧
      (((timeToHttpdate req.gmtime).isSome = true ∧
          ∃ route doc, matchUri req.documentUri = some route ∧ (route, doc) ∈ s.documents ∧
            Sendable (s.ptreeToJsonStr doc)) ∨
        (matchUri req.documentUri = some boardRoute ∧ s.sampleExit = .threw))
  | .throwing e => ∀ code what, e ≠ .httpException code what

/-- What a handler does leads to a well formed response. -/
def AnswersWell : Behaviour → Prop
  | .finishes out => WellFormed out.flatten
  | .throws (.httpException _ _) => False
  | .throws (.stdException _) => True

theorem wellFormed_dispatch_iff (req : Request β) (cb : β) :
    WellFormed (written (dispatch req (some cb))) ↔ AnswersWell (req.handle cb) := by
  rw [dispatch]
  cases h : req.handle cb with
  | finishes out => rw [written_respond]; rfl
  | throws e =>
    cases e with
    | httpException code what =>
      rw [written_respond]
      exact iff_of_false (httpError_not_wellFormed code what) id
    | stdException what =>
      rw [written_respond]
      exact iff_of_true wellFormed_internalError trivial

theorem answersWell_jpeg_iff (frameBuf : List Char) (req : Params) :
    AnswersWell (.ofExcept (httpReqJpeg frameBuf req)) ↔ Delivers req (.jpeg frameBuf) := by
  rw [httpReqJpeg, Delivers]
  split
  · next hm => exact iff_of_false id (fun h => hm h.1)
  · next hm =>
    have hm := not_not.mp hm
    split
    · next hne =>
      cases ht : timeToHttpdate req.gmtime with
      | none => exact iff_of_false id (fun h => absurd h.2.1 (by decide))
      | some timeStr =>
        show WellFormed (datedPage "image/jpeg" timeStr frameBuf).flatten ↔ _
        rw [wellFormed_datedPage_iff (by decide) (all_isPlain_of_timeToHttpdate ht)]
        exact ⟨fun h => ⟨hm, rfl, hne, h⟩, fun h => h.2.2.2⟩
    · next hne => exact iff_of_false emptyFrame_not_wellFormed (fun h => hne h.2.2.1)

theorem wellFormed_jsonrpcResponse_iff (result : Option (List Char)) :
    WellFormed (jsonrpcResponse result).flatten ↔
      ∀ data, result = some data → data.length < 2 ^ 31 := by
  cases result with
  | none =>
    rw [jsonrpcResponse, wellFormed_jsonrpcPage_iff (by decide) (all_isPlain_printSize _),
      printSize_eq_toDigits_iff le_rfl]
    exact iff_of_true ⟨rfl, by decide⟩ (fun data h => by cases h)
  | some data =>
    rw [jsonrpcResponse]
    split
    · next h0 =>
      rw [wellFormed_jsonrpcPage_iff (by decide) (by decide)]
      refine iff_of_true (by decide) ?_
      intro data' hd
      rw [← Option.some.inj hd, h0]
      decide
    · rw [wellFormed_jsonrpcPage_iff (by decide) (all_isPlain_printSize _),
        printSize_eq_toDigits_iff le_rfl]
      refine ⟨fun h data' hd => ?_, fun h => ⟨rfl, h data rfl⟩⟩
      rw [← Option.some.inj hd]
      exact h.2

theorem take_length_eq_iff {p s : List Char} : s.take p.length = p ↔ p <+: s :=
  ⟨fun h => h ▸ List.take_prefix _ _, fun h => (List.prefix_iff_eq_take.mp h).symm⟩

theorem delivers_jsonrpc_iff {server : JsonrpcServer} {req : Params} {reqLen : Int}
    (hm : parseReqMethod req.requestMethod = .post)
    (hscan : sscanf [.conv readInt] req.contentLength = [reqLen]) :
    Delivers req (.jsonrpc server) ↔
      "application/json".toList <+: req.contentType ∧ 0 ≤ reqLen ∧ reqLen ≤ maxReqLen ∧
        reqLen ≤ req.body.length ∧ ∃ result, server (req.body.take reqLen.toNat) = .ok result ∧
          ∀ data, result = some data → data.length < 2 ^ 31 := by
  rw [Delivers]
  refine ⟨?_, fun h => ⟨hm, h.1, reqLen, hscan, h.2⟩⟩
  rintro ⟨-, htype, len, hlen, h⟩
  rw [hscan] at hlen
  obtain ⟨rfl, -⟩ := List.cons.inj hlen
  exact ⟨htype, h⟩

theorem answersWell_jsonrpc_iff (server : JsonrpcServer) (req : Params) :
    AnswersWell (.ofExcept (httpReqJsonrpc server req)) ↔ Delivers req (.jsonrpc server) := by
  rw [httpReqJsonrpc]
  split
  · next hm => exact iff_of_false id (fun h => hm h.1)
  · next hm =>
    split
    · next reqLen hscan =>
      rw [delivers_jsonrpc_iff (not_not.mp hm) hscan]
      split
      · next hrange => exact iff_of_false id (by omega)
      · next hrange =>
        split
        · next h0 =>
          refine iff_of_false id (fun h => ?_)
          rw [List.length_eq_zero_iff.mp h0, List.prefix_nil] at h
          exact absurd h.1 (by decide)
        · split
          · next htype => exact iff_of_false id (fun h => htype (take_length_eq_iff.mpr h.1))
          · next htype =>
            have hpre : "application/json".toList <+: req.contentType :=
              take_length_eq_iff.mp (not_not.mp htype)
            rw [List.length_take]
            split
            · next hshort => exact iff_of_false id (by omega)
            · next hshort =>
              cases hres : server (req.body.take reqLen.toNat) with
              | error e => exact iff_of_false id (by simp)
              | ok result =>
                show WellFormed (jsonrpcResponse result).flatten ↔ _
                rw [wellFormed_jsonrpcResponse_iff]
                refine ⟨fun h => ⟨hpre, by omega, by omega, by omega, result, rfl, h⟩, ?_⟩
                rintro ⟨-, -, -, -, result', hres', h⟩
                rw [Except.ok.inj hres']
                exact h
    · next hscan =>
      refine iff_of_false id ?_
      rintro ⟨-, -, len, hlen, -⟩
      exact hscan len hlen

theorem sensorResponse_of_mem {s : Sensors} {route : Route} {doc : Document}
    (h : (route, doc) ∈ s.documents) : sensorResponse s route = .ok (s.ptreeToJsonStr doc) := by
  simp only [Sensors.documents, List.mem_cons, Prod.mk.injEq, List.not_mem_nil, or_false] at h
  rcases h with ⟨rfl, rfl⟩ | ⟨rfl, rfl⟩ | ⟨rfl, rfl⟩ | ⟨rfl, rfl⟩ | ⟨rfl, rfl⟩
  all_goals rfl

theorem sensorResponse_board (s : Sensors) : sensorResponse s boardRoute = boardResponse s := rfl

theorem sensorResponse_cases (s : Sensors) (route : Route) :
    (∃ doc, (route, doc) ∈ s.documents) ∨ route = boardRoute ∨
      ∃ code what, sensorResponse s route = .error (.throws (.httpException code what)) := by
  cases route with
  | types => exact Or.inl ⟨_, .head _⟩
  | type t => exact Or.inr (Or.inr ⟨_, _, rfl⟩)
  | sensors t =>
    rw [sensorResponse]
    split
    · next ht =>
      rw [ht]
      exact Or.inl ⟨_, .tail _ (.head _)⟩
    · split
      · next ht =>
        rw [ht]
        exact Or.inl ⟨_, .tail _ (.tail _ (.head _))⟩
      · exact Or.inr (Or.inr ⟨_, _, rfl⟩)
  | sensor t n =>
    rw [sensorResponse]
    split
    · next ht =>
      split
      · next hn =>
        rw [ht, hn]
        exact Or.inl ⟨_, .tail _ (.tail _ (.tail _ (.head _)))⟩
      · exact Or.inr (Or.inr ⟨_, _, rfl⟩)
    · split
      · next ht =>
        split
        · next hn =>
          rw [ht, hn]
          exact Or.inl ⟨_, .tail _ (.tail _ (.tail _ (.tail _ (.head _))))⟩
        · split
          · next hn =>
            rw [ht, hn]
            exact Or.inr (Or.inl rfl)
          · exact Or.inr (Or.inr ⟨_, _, rfl⟩)
      · exact Or.inr (Or.inr ⟨_, _, rfl⟩)

theorem not_forall_answersWell : ¬ ∀ anything, AnswersWell anything :=
  fun h => h (.throws (.httpException 500 []))

theorem answersWell_datedPage_iff {responseStr timeStr : List Char}
    (ht : timeStr.all isPlain = true) (anything : Behaviour) :
    AnswersWell (.ofFault anything
        (if responseStr = [] then .error (.throws (serviceUnavailable "Service Unavailable"))
          else .ok (datedPage "application/json" timeStr responseStr))) ↔ Sendable responseStr := by
  split
  · next hnil => exact iff_of_false id (fun h => h.1 hnil)
  · next hne =>
    show WellFormed (datedPage "application/json" timeStr responseStr).flatten ↔ _
    rw [wellFormed_datedPage_iff (by decide) ht]
    exact ⟨fun h => ⟨hne, h⟩, fun h => h.2⟩

section OneRoute

variable {s : Sensors} {req : Params} {route : Route}

theorem delivers_sensors_iff (hm : parseReqMethod req.requestMethod = .get)
    (hroute : matchUri req.documentUri = some route) :
    Delivers req (.sensors s) ↔
      ((timeToHttpdate req.gmtime).isSome = true ∧
        ∃ doc, (route, doc) ∈ s.documents ∧ Sendable (s.ptreeToJsonStr doc)) ∨
      (route = boardRoute ∧ s.sampleExit = .threw) := by
  rw [Delivers, hroute]
  constructor
  · rintro ⟨-, ⟨ht, route', doc, hr, hdoc⟩ | ⟨hr, hexit⟩⟩
    · rw [Option.some.inj hr]
      exact Or.inl ⟨ht, doc, hdoc⟩
    · exact Or.inr ⟨Option.some.inj hr, hexit⟩
  · rintro (⟨ht, doc, hdoc⟩ | ⟨hr, hexit⟩)
    · exact ⟨hm, Or.inl ⟨ht, route, doc, rfl, hdoc⟩⟩
    · exact ⟨hm, Or.inr ⟨congrArg some hr, hexit⟩⟩

theorem answersWell_document_iff (hm : parseReqMethod req.requestMethod = .get)
    (hroute : matchUri req.documentUri = some route) {doc : Document}
    (hdoc : (route, doc) ∈ s.documents) (anything : Behaviour) :
    AnswersWell (.ofFault anything (httpReqCallbackSensors s req)) ↔
      Delivers req (.sensors s) := by
  have hboard : route ≠ boardRoute := by
    rintro rfl
    revert hdoc
    simp [Sensors.documents, boardRoute]
  have honly : ∀ doc', (route, doc') ∈ s.documents →
      s.ptreeToJsonStr doc' = s.ptreeToJsonStr doc := fun doc' hdoc' =>
    Except.ok.inj ((sensorResponse_of_mem hdoc').symm.trans (sensorResponse_of_mem hdoc))
  rw [delivers_sensors_iff hm hroute, httpReqCallbackSensors, if_neg (not_not.mpr hm), hroute]
  dsimp only
  rw [sensorResponse_of_mem hdoc]
  cases ht : timeToHttpdate req.gmtime with
  | none =>
    refine iff_of_false id ?_
    rintro (⟨hsome, -⟩ | ⟨hr, -⟩)
    · exact absurd hsome (by decide)
    · exact hboard hr
  | some timeStr =>
    refine (answersWell_datedPage_iff (all_isPlain_of_timeToHttpdate ht) anything).trans
      ⟨fun h => Or.inl ⟨rfl, doc, hdoc, h⟩, ?_⟩
    rintro (⟨-, doc', hdoc', hsend⟩ | ⟨hr, -⟩)
    · rw [honly doc' hdoc'] at hsend
      exact hsend
    · exact absurd hr hboard

theorem answersWell_board_iff (hm : parseReqMethod req.requestMethod = .get)
    (hroute : matchUri req.documentUri = some boardRoute) :
    (∀ anything, AnswersWell (.ofFault anything (httpReqCallbackSensors s req))) ↔
      Delivers req (.sensors s) := by
  have hnone : ∀ doc, (boardRoute, doc) ∉ s.documents := by
    intro doc
    simp [Sensors.documents, boardRoute]
  have hdeliver : Delivers req (.sensors s) ↔ s.sampleExit = .threw := by
    rw [delivers_sensors_iff hm hroute]
    refine ⟨?_, fun h => Or.inr ⟨rfl, h⟩⟩
    rintro (⟨-, doc, hdoc, -⟩ | ⟨-, h⟩)
    · exact absurd hdoc (hnone doc)
    · exact h
  rw [hdeliver, httpReqCallbackSensors, if_neg (not_not.mpr hm), hroute]
  dsimp only
  rw [sensorResponse_board, boardResponse]
  cases s.sampleExit with
  | returned ok =>
    refine iff_of_false (fun h => ?_) nofun
    have hfalse := h (.finishes [])
    cases ht : timeToHttpdate req.gmtime with
    | none =>
      rw [ht] at hfalse
      exact hfalse
    | some timeStr =>
      rw [ht] at hfalse
      exact hfalse
  | threw => exact iff_of_true (fun _ => trivial) rfl
  | undefined => exact iff_of_false not_forall_answersWell nofun

end OneRoute

theorem answersWell_sensors_iff (s : Sensors) (req : Params) :
    (∀ anything, AnswersWell (.ofFault anything (httpReqCallbackSensors s req))) ↔
      Delivers req (.sensors s) := by
  by_cases hm : parseReqMethod req.requestMethod = .get
  · cases hroute : matchUri req.documentUri with
    | none =>
      refine iff_of_false (fun h => ?_) ?_
      · have hfalse := h (.finishes [])
        rw [httpReqCallbackSensors, if_neg (not_not.mpr hm), hroute] at hfalse
        exact hfalse
      · rw [Delivers, hroute]
        rintro ⟨-, ⟨-, route, doc, hr, -⟩ | ⟨hr, -⟩⟩
        · cases hr
        · cases hr
    | some route =>
      rcases sensorResponse_cases s route with ⟨doc, hdoc⟩ | rfl | ⟨code, what, hres⟩
      · exact (forall_congr' (answersWell_document_iff hm hroute hdoc)).trans
          ⟨fun h => h (.finishes []), fun h _ => h⟩
      · exact answersWell_board_iff hm hroute
      · refine iff_of_false (fun h => ?_) (fun h => ?_)
        · have hfalse := h (.finishes [])
          rw [httpReqCallbackSensors, if_neg (not_not.mpr hm), hroute] at hfalse
          dsimp only at hfalse
          rw [hres] at hfalse
          exact hfalse
        · rcases (delivers_sensors_iff hm hroute).mp h with ⟨-, doc, hdoc, -⟩ | ⟨rfl, hexit⟩
          · rw [sensorResponse_of_mem hdoc] at hres
            cases hres
          · rw [sensorResponse_board, boardResponse, hexit] at hres
            cases hres
  · refine iff_of_false (fun h => ?_) (fun h => hm h.1)
    have hfalse := h (.finishes [])
    rw [httpReqCallbackSensors, if_pos hm] at hfalse
    exact hfalse

theorem answersWell_handle_iff (req : Params) (cb : Callback) :
    (∀ anything, AnswersWell (cb.handle req anything)) ↔ Delivers req cb := by
  have hsome : Nonempty Behaviour := ⟨.finishes []⟩
  cases cb with
  | jpeg frameBuf => exact forall_const Behaviour |>.trans (answersWell_jpeg_iff frameBuf req)
  | jsonrpc server => exact forall_const Behaviour |>.trans (answersWell_jsonrpc_iff server req)
  | sensors s => exact answersWell_sensors_iff s req
  | throwing e =>
    cases e with
    | httpException code what =>
      exact iff_of_false (fun h => h (.finishes [])) (fun h => h code what rfl)
    | stdException what => exact iff_of_true (fun _ => trivial) (fun code what h => by cases h)

/-- **A response is well formed exactly when** the thread was interrupted, no
handler was found, or the handler delivers; whatever undefined behaviour comes to. -/
theorem wellFormed_iff (req : Params) (interrupted : Bool) (reqCb : Option Callback) :
    (∀ anything, WellFormed (written (answer (req.request interrupted anything) reqCb))) ↔
      interrupted = true ∨ ∀ cb, reqCb = some cb → Delivers req cb := by
  cases interrupted with
  | true =>
    refine iff_of_true (fun anything => ?_) (Or.inl rfl)
    have hanswer : answer (req.request true anything) reqCb = respond internalError := if_pos rfl
    rw [hanswer, written_respond]
    exact wellFormed_internalError
  | false =>
    have hanswer : ∀ anything, answer (req.request false anything) reqCb
        = dispatch (req.request false anything) reqCb := fun _ => if_neg Bool.false_ne_true
    simp only [hanswer]
    cases reqCb with
    | none =>
      simp only [dispatch, written_respond]
      exact iff_of_true (fun _ => wellFormed_notFound) (Or.inr (fun cb h => by cases h))
    | some cb =>
      simp only [wellFormed_dispatch_iff]
      refine (answersWell_handle_iff req cb).trans ⟨fun h => Or.inr ?_, ?_⟩
      · intro cb' hcb
        rw [← Option.some.inj hcb]
        exact h
      · rintro (h | h)
        · cases h
        · exact h cb rfl

/-- A request for an image while there is none. -/
theorem wellFormed_no_frame :
    ¬ ∀ (req : Params) (interrupted : Bool) (reqCb : Option Callback) (anything : Behaviour),
      WellFormed (written (answer (req.request interrupted anything) reqCb)) := by
  intro h
  exact emptyFrame_not_wellFormed (h
    ⟨"GET".toList, "/cameras/cam0.jpg".toList, [], [], [], none⟩ false (some (.jpeg []))
    (.finishes []))

end Opaleye.Http
