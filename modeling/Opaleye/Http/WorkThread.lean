import Opaleye.Http.FcgiSvr
import Opaleye.Lib.Text

/-!
# The worker loop

`http_fcgi_work_thread::work` accepts requests one after another.  A request is
answered by its handler, or by the worker itself when the handler throws, when
there is none, or when the thread is being interrupted.

The environment of a run is a list of turns, one for each pass of the loop: what
the two reads of `is_interrupted` give, whether `FCGX_Accept_r` succeeds, the
request's URI, and how each handler would behave on it.  The run yields, for
each accepted request, the calls made on it, and how the loop ended.  `FCGX`
calls do not throw.

The lookup of the handler stands outside the `try` block, and it throws on a URI
that is not an absolute path.  `serves_iff` says that this is the only way the
loop fails.
-/

namespace Opaleye.Http

open FsPath Text Opaleye.Path HttpFcgiSvr

/-- What the worker's `catch` clauses tell apart. -/
inductive Exception
  | httpException (code : Int) (what : List Char)
  | stdException (what : List Char)
  deriving DecidableEq, Repr

/-- What a handler does with a request: it writes a response and finishes the
request, or it throws before writing. -/
inductive Behaviour
  | finishes (out : List (List Char))
  | throws (e : Exception)
  deriving DecidableEq, Repr

/-- The calls made on a request. -/
inductive Fcgx
  | put (s : List Char)
  | finish
  deriving DecidableEq, Repr

/-- An accepted request: its `DOCUMENT_URI`, whether the thread is found
interrupted right after, and how each handler would behave. -/
structure Request (β : Type) where
  documentUri : List Char
  interrupted : Bool
  handle : β → Behaviour

/-- One pass of the loop: whether the thread is interrupted at its head, and the
request `FCGX_Accept_r` yields. -/
structure Turn (β : Type) where
  interrupted : Bool
  request : Option (Request β)

/-- How the loop ended: it is waiting for the next request, it was left, or an
exception left it. -/
inductive Exit
  | accepting
  | returned
  | threw (e : Exception)
  deriving DecidableEq, Repr

variable {β : Type}

/-! ### The responses of the worker -/

/-- A status line and a short text, as for `500` and `404`. -/
def page (status msg : String) : List (List Char) :=
  ["Content-Type: text/html\r\n".toList,
   "Content-Length: ".toList ++ printInt msg.toList.length ++ "\r\n".toList,
   "Status: ".toList ++ status.toList ++ "\r\n".toList,
   "\r\n".toList,
   msg.toList]

def internalError : List (List Char) := page "500 Internal Error" "Internal Error"

def notFound : List (List Char) := page "404 Not Found" "Not Found"

/-- The response to an `HTTPException`; its length does not count the line end
behind the text. -/
def httpError (code : Int) (what : List Char) : List (List Char) :=
  ["Content-Type: text/html\r\n".toList,
   "Content-Length: ".toList ++ printSize what.length ++ "\r\n".toList,
   "Status: ".toList ++ printInt code ++ " ".toList ++ what ++ "\r\n".toList,
   "\r\n".toList,
   what ++ "\r\n".toList]

/-- Write a response and finish the request. -/
def respond (out : List (List Char)) : List Fcgx := out.map .put ++ [.finish]

/-! ### The loop -/

/-- The calls made once the handler is known: the `try` block and its `catch`
clauses, or the branch without a handler. -/
def dispatch (req : Request β) : Option β → List Fcgx
  | some reqCb =>
    match req.handle reqCb with
    | .finishes out => respond out
    | .throws (.httpException code what) => respond (httpError code what)
    | .throws (.stdException _) => respond internalError
  | none => respond notFound

/-- `http_fcgi_work_thread::work` -/
def work (svr : HttpFcgiSvr β) : List (Turn β) → List (List Fcgx) × Exit
  | [] => ([], .accepting)
  | t :: ts =>
    if t.interrupted then ([], .returned)
    else
      match t.request with
      | none => work svr ts
      | some req =>
        if req.interrupted then ([respond internalError], .returned)
        else
          match svr.getCbForDocUri ⟨req.documentUri⟩ with
          | .error e => ([[]], .threw (.stdException e.what.toList))
          | .ok reqCb => (dispatch req reqCb :: (work svr ts).1, (work svr ts).2)

/-! ### What the loop should do -/

/-- The requests accepted before the loop is left. -/
def accepted : List (Turn β) → List (Request β)
  | [] => []
  | t :: ts =>
    if t.interrupted then []
    else
      match t.request with
      | none => accepted ts
      | some req => if req.interrupted then [req] else req :: accepted ts

/-- The accepted requests that the thread is not interrupted at. -/
def served (ts : List (Turn β)) : List (Request β) := (accepted ts).filter (fun r => !r.interrupted)

/-- The thread finds itself interrupted. -/
def stops : List (Turn β) → Bool
  | [] => false
  | t :: ts => t.interrupted || t.request.any (fun req => req.interrupted) || stops ts

/-- One whole response: a handler's own, or one of the worker's. -/
inductive OneResponse (req : Request β) : List (List Char) → Prop
  | own {cb : β} {out : List (List Char)} (h : req.handle cb = .finishes out) : OneResponse req out
  | internalError : OneResponse req internalError
  | notFound : OneResponse req notFound
  | httpError {cb : β} {code : Int} {what : List Char}
      (h : req.handle cb = .throws (.httpException code what)) :
      OneResponse req (httpError code what)

/-- The request was finished once, after one response. -/
def Answered (req : Request β) (calls : List Fcgx) : Prop :=
  ∃ out, OneResponse req out ∧ calls = respond out

/-- Every accepted request is answered, and only an interruption ends the
loop. -/
structure Serves (svr : HttpFcgiSvr β) (ts : List (Turn β)) : Prop where
  answered : List.Forall₂ Answered (accepted ts) (work svr ts).1
  goesOn : (work svr ts).2 = if stops ts then .returned else .accepting

/-! ### One turn -/

theorem answered_dispatch (req : Request β) (reqCb : Option β) :
    Answered req (dispatch req reqCb) := by
  cases reqCb with
  | none => exact ⟨_, .notFound, rfl⟩
  | some cb =>
    rw [dispatch]
    cases h : req.handle cb with
    | finishes out => exact ⟨out, .own h, rfl⟩
    | throws e =>
      cases e with
      | httpException code what => exact ⟨_, .httpError h, rfl⟩
      | stdException what => exact ⟨_, .internalError, rfl⟩

section OneTurn

variable (svr : HttpFcgiSvr β) {t : Turn β} {req : Request β} (ts : List (Turn β))

theorem serves_interrupted (ht : t.interrupted = true) :
    Serves svr (t :: ts) ∧ served (t :: ts) = [] := by
  have hacc : accepted (t :: ts) = [] := by simp [accepted, ht]
  have hwork : work svr (t :: ts) = ([], .returned) := by simp [work, ht]
  refine ⟨⟨?_, ?_⟩, by rw [served, hacc]; rfl⟩
  · rw [hacc, hwork]; exact .nil
  · rw [hwork, stops, ht]; rfl

theorem serves_none (ht : t.interrupted = false) (hr : t.request = none) :
    (Serves svr (t :: ts) ↔ Serves svr ts) ∧ served (t :: ts) = served ts := by
  have hacc : accepted (t :: ts) = accepted ts := by simp [accepted, ht, hr]
  have hwork : work svr (t :: ts) = work svr ts := by simp [work, ht, hr]
  have hstops : stops (t :: ts) = stops ts := by simp [stops, ht, hr]
  refine ⟨⟨fun h => ⟨?_, ?_⟩, fun h => ⟨?_, ?_⟩⟩, by rw [served, hacc, served]⟩
  · have ha := h.answered
    rw [hacc, hwork] at ha
    exact ha
  · have hg := h.goesOn
    rw [hwork, hstops] at hg
    exact hg
  · rw [hacc, hwork]; exact h.answered
  · rw [hwork, hstops]; exact h.goesOn

theorem serves_interrupted_request (ht : t.interrupted = false) (hr : t.request = some req)
    (hint : req.interrupted = true) : Serves svr (t :: ts) ∧ served (t :: ts) = [] := by
  have hacc : accepted (t :: ts) = [req] := by simp [accepted, ht, hr, hint]
  have hwork : work svr (t :: ts) = ([respond internalError], .returned) := by
    simp [work, ht, hr, hint]
  refine ⟨⟨?_, ?_⟩, by simp [served, hacc, hint]⟩
  · rw [hacc, hwork]
    exact .cons ⟨_, .internalError, rfl⟩ .nil
  · rw [hwork, stops, ht, hr, Option.any_some, hint]; rfl

/-- **One request**: it is answered and the loop goes on, when its URI is
absolute; otherwise the lookup throws and nothing is written. -/
theorem serves_request (ht : t.interrupted = false) (hr : t.request = some req)
    (hint : req.interrupted = false) :
    (Serves svr (t :: ts) ↔ (FsPath.Path.mk req.documentUri).isAbsolute = true ∧ Serves svr ts) ∧
      served (t :: ts) = req :: served ts := by
  have hacc : accepted (t :: ts) = req :: accepted ts := by simp [accepted, ht, hr, hint]
  have hstops : stops (t :: ts) = stops ts := by simp [stops, ht, hr, hint]
  refine ⟨?_, by simp [served, hacc, hint]⟩
  cases habs : (FsPath.Path.mk req.documentUri).isAbsolute with
  | false =>
    refine ⟨fun h => ?_, fun h => absurd h.1 (by simp)⟩
    have hwork : (work svr (t :: ts)).2
        = .threw (.stdException "query_path must be absolute path".toList) := by
      simp [work, ht, hr, hint, getCbForDocUri_not_absolute svr habs]
    have hg := h.goesOn
    rw [hwork] at hg
    split at hg
    · exact absurd hg (by simp)
    · exact absurd hg (by simp)
  | true =>
    obtain ⟨reqCb, hcb⟩ := getCbForDocUri_absolute svr habs
    have hwork : work svr (t :: ts) = (dispatch req reqCb :: (work svr ts).1, (work svr ts).2) := by
      simp [work, ht, hr, hint, hcb]
    refine ⟨fun h => ⟨rfl, ?_, ?_⟩, fun h => ⟨?_, ?_⟩⟩
    · have ha := h.answered
      rw [hacc, hwork] at ha
      exact (List.forall₂_cons.mp ha).2
    · have hg := h.goesOn
      rw [hwork, hstops] at hg
      exact hg
    · rw [hacc, hwork]
      exact .cons (answered_dispatch req reqCb) h.2.answered
    · rw [hwork, hstops]
      exact h.2.goesOn

end OneTurn

/-- **The loop answers every request and goes on, exactly when every request it
looks up has an absolute URI**, whatever the table and the handlers. -/
theorem serves_iff (svr : HttpFcgiSvr β) (ts : List (Turn β)) :
    Serves svr ts ↔ ∀ req ∈ served ts, (FsPath.Path.mk req.documentUri).isAbsolute = true := by
  induction ts with
  | nil => exact ⟨fun _ req hreq => absurd hreq (by simp [served, accepted]), fun _ => ⟨.nil, rfl⟩⟩
  | cons t ts ih =>
    cases ht : t.interrupted with
    | true =>
      obtain ⟨hs, hnil⟩ := serves_interrupted svr ts ht
      exact ⟨fun _ req hreq => absurd hreq (by simp [hnil]), fun _ => hs⟩
    | false =>
      cases hr : t.request with
      | none =>
        obtain ⟨hiff, hserved⟩ := serves_none svr ts ht hr
        rw [hiff, hserved, ih]
      | some req =>
        cases hint : req.interrupted with
        | true =>
          obtain ⟨hs, hnil⟩ := serves_interrupted_request svr ts ht hr hint
          exact ⟨fun _ req hreq => absurd hreq (by simp [hnil]), fun _ => hs⟩
        | false =>
          obtain ⟨hiff, hserved⟩ := serves_request svr ts ht hr hint
          rw [hiff, hserved, ih, List.forall_mem_cons]

/-- A request with an empty `DOCUMENT_URI` ends the worker. -/
theorem serves_empty_uri :
    ¬ ∀ (svr : HttpFcgiSvr Unit) (ts : List (Turn Unit)), Serves svr ts := by
  intro h
  have hg := (h create [⟨false, some ⟨[], false, fun _ => .finishes []⟩⟩]).goesOn
  exact absurd hg (by decide)

end Opaleye.Http
