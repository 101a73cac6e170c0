import Opaleye.Http.Jsonrpc
import Opaleye.Lib.History

/-!
# Thumbnails

`Thumbnail_sw_pipe`, `Thumbnail_nv_pipe` and `Thumbnail_nv3_pipe` keep the last JPEG image of a
camera in `m_frame_buffer`.  `handle_new_sample` runs on a thread of GStreamer: it resizes the buffer
and copies the memory blocks of the sample into it one after another.  `copy_frame_buffer` runs on
the worker that handles a request.  Both hold `m_frame_buffer_mutex` while they touch the buffer,
and neither keeps it for the rest of what it does: the sample is pulled before, the response is
written after.

Producers and workers are threads of one program, which records the samples as they are completed.
`jpeg_whole` says what a worker answers: it answers with one whole sample, never with parts of two,
and with one that was the last at some time between the request and the answer.

The buffer is there once the element is initialised, and a buffer of GStreamer is as long as its
blocks together.
-/

namespace Opaleye.Stream

open Opaleye.Http LockedThreads History

/-- The memory blocks of a sample's buffer. -/
abbrev Sample := List (List Char)

/-- The element, with a record of the samples that were copied. -/
structure Thumbnail where
  mFrameBuffer : List Char
  stored : List (List Char)

/-- `std::copy_n` to a place in the buffer. -/
def copyTo (buf : List Char) (out : Nat) (blk : List Char) : List Char :=
  buf.take out ++ blk ++ buf.drop (out + blk.length)

/-- Where a thread is in `handle_new_sample`, or in `http_req_jpeg::handle` with its call of
`copy_frame_buffer`.  `since` is the number of samples that were there when the request came in. -/
inductive ThumbPc
  | idle
  | pulled (sample : Sample)
  | locked (sample : Sample)
  | copying (done todo : Sample) (out : Nat)
  | stored
  | asked (req : Params) (since : Nat)
  | reading (req : Params) (since : Nat)
  | copied (req : Params) (since : Nat) (frameBuf : List Char)
  | read (req : Params) (since : Nat) (frameBuf : List Char)
  | left (req : Params) (since : Nat) (ret : Except Exception (List (List Char)))

def ThumbPc.owns : ThumbPc → Bool
  | .idle | .pulled _ | .asked _ _ | .read _ _ _ | .left _ _ _ => false
  | .locked _ | .copying _ _ _ | .stored | .reading _ _ | .copied _ _ _ => true

inductive ThumbInput
  | pull (sample : Option Sample)
  | request (req : Params)
  | go

def thumbNext : ThumbInput → ThumbPc → Thumbnail → Move ThumbPc Thumbnail
  | .pull none, .idle, _ => .goto .idle
  | .pull (some sample), .idle, _ => .goto (.pulled sample)
  | .go, .pulled sample, _ => .lock (.locked sample)
  | .go, .locked sample, s =>
    .crit (.copying [] sample 0) { s with mFrameBuffer := resize s.mFrameBuffer sample.flatten.length }
  | .go, .copying done (blk :: todo) out, s =>
    .crit (.copying (done ++ [blk]) todo (out + blk.length))
      { s with mFrameBuffer := copyTo s.mFrameBuffer out blk }
  | .go, .copying done [] _, s => .crit .stored { s with stored := s.stored ++ [done.flatten] }
  | .go, .stored, _ => .unlock .idle
  | .request req, .idle, s =>
    if parseReqMethod req.requestMethod ≠ .get then
      .goto (.left req s.stored.length (.error (badRequest "Only GET is accepted")))
    else .goto (.asked req s.stored.length)
  | .go, .asked req since, _ => .lock (.reading req since)
  | .go, .reading req since, s => .crit (.copied req since s.mFrameBuffer) s
  | .go, .copied req since frameBuf, _ => .unlock (.read req since frameBuf)
  | .go, .read req since frameBuf, _ => .goto (.left req since (httpReqJpeg frameBuf req))
  | .go, .left _ _ _, _ => .goto .idle
  | _, _, _ => .blocked

/-- The threads that share the element. -/
def thumbThreads : LockedThreads ThumbPc Thumbnail ThumbInput Empty where
  start := .idle
  owns := ThumbPc.owns
  next := thumbNext
  interrupt e _ := e.elim
  start_free := rfl
  next_owns := by
    intro l p s
    fun_cases thumbNext l p s
    all_goals first | exact ⟨rfl, rfl⟩ | exact trivial

/-! ### Copying -/

theorem take_copyTo {buf : List Char} {out : Nat} (blk : List Char) (h : out ≤ buf.length) :
    (copyTo buf out blk).take (out + blk.length) = buf.take out ++ blk := by
  have hlen : (buf.take out ++ blk).length = out + blk.length := by
    rw [List.length_append, List.length_take, Nat.min_eq_left h]
  rw [copyTo, ← hlen, List.take_left]

theorem length_copyTo {buf : List Char} {out : Nat} {blk : List Char}
    (h : out + blk.length ≤ buf.length) : (copyTo buf out blk).length = buf.length := by
  rw [copyTo, List.length_append, List.length_append, List.length_take, List.length_drop]
  omega

/-- The blocks up to `out` are in place. -/
structure Filled (s : Thumbnail) (done todo : Sample) (out : Nat) : Prop where
  length : s.mFrameBuffer.length = (done ++ todo).flatten.length
  out_eq : out = done.flatten.length
  take : s.mFrameBuffer.take out = done.flatten

theorem Filled.copy {s : Thumbnail} {done todo : Sample} {blk : List Char} {out : Nat}
    (h : Filled s done (blk :: todo) out) :
    Filled { s with mFrameBuffer := copyTo s.mFrameBuffer out blk } (done ++ [blk]) todo
      (out + blk.length) := by
  have hlen : s.mFrameBuffer.length = out + (blk.length + todo.flatten.length) := by
    rw [h.length, h.out_eq, List.flatten_append, List.length_append, List.flatten_cons,
      List.length_append]
  have hflat : (done ++ [blk]).flatten = done.flatten ++ blk := by
    rw [List.flatten_append, List.flatten_singleton]
  refine ⟨?_, ?_, ?_⟩
  · show (copyTo s.mFrameBuffer out blk).length = _
    rw [length_copyTo (by omega), h.length, List.append_assoc]
    rfl
  · rw [hflat, List.length_append, h.out_eq]
  · show (copyTo s.mFrameBuffer out blk).take _ = _
    have hout : out ≤ s.mFrameBuffer.length := by omega
    rw [take_copyTo blk hout, h.take, hflat]

/-- **All blocks are in place**, and nothing else is in the buffer. -/
theorem Filled.eq {s : Thumbnail} {done : Sample} {out : Nat} (h : Filled s done [] out) :
    s.mFrameBuffer = done.flatten := by
  have hlen : s.mFrameBuffer.length = out := by
    rw [h.length, List.append_nil, h.out_eq]
  rw [← h.take, ← hlen, List.take_length]

/-! ### What the threads know -/

/-- The sample that was completed last; before the first there is nothing. -/
def Thumbnail.latest (s : Thumbnail) : List Char := s.stored.getLastD []

/-- What the buffer holds while a thread has the mutex. -/
def Held : ThumbPc → Thumbnail → Prop
  | .copying done todo out, s => Filled s done todo out
  | .stored, s => s.mFrameBuffer = s.latest
  | .reading _ _, s => s.mFrameBuffer = s.latest
  | .copied _ _ _, s => s.mFrameBuffer = s.latest
  | _, _ => True

/-- `frame` was the latest sample when there were `since` of them, or later. -/
def LatestSince (s : Thumbnail) (since : Nat) (frame : List Char) : Prop :=
  SeenSince [] s.stored since frame

/-- What the worker of a request knows. -/
def Knows : ThumbPc → Thumbnail → Prop
  | .asked _ since, s => since ≤ s.stored.length
  | .reading _ since, s => since ≤ s.stored.length
  | .copied _ since frameBuf, s => LatestSince s since frameBuf
  | .read _ since frameBuf, s => LatestSince s since frameBuf
  | .left req since ret, s => ∃ frameBuf, LatestSince s since frameBuf ∧ ret = httpReqJpeg frameBuf req
  | _, _ => True

theorem latestSince_latest {s : Thumbnail} {since : Nat} (h : since ≤ s.stored.length) :
    LatestSince s since s.latest :=
  seenSince_latest h

theorem LatestSince.append {s s' : Thumbnail} {since : Nat} {frame : List Char}
    (h : LatestSince s since frame) {new : List (List Char)} (hs : s'.stored = s.stored ++ new) :
    LatestSince s' since frame := by
  rw [LatestSince, hs]
  exact SeenSince.append h new

theorem Knows.append {s s' : Thumbnail} {p : ThumbPc} (h : Knows p s) {new : List (List Char)}
    (hs : s'.stored = s.stored ++ new) : Knows p s' := by
  have hle : s.stored.length ≤ s'.stored.length := by
    rw [hs, List.length_append]
    omega
  cases p with
  | asked req since => exact le_trans h hle
  | reading req since => exact le_trans h hle
  | copied req since frameBuf => exact LatestSince.append h hs
  | read req since frameBuf => exact LatestSince.append h hs
  | left req since ret =>
    obtain ⟨frameBuf, hl, hret⟩ := h
    exact ⟨frameBuf, hl.append hs, hret⟩
  | _ => trivial

/-- What a move leaves in the buffer for the place it leads to. -/
def HeldMove (s : Thumbnail) : Move ThumbPc Thumbnail → Prop
  | .blocked => True
  | .goto _ => True
  | .lock q => s.mFrameBuffer = s.latest → Held q s
  | .crit q s' => Held q s'
  | .unlock _ => s.mFrameBuffer = s.latest

/-- What the thread knows where a move leads to. -/
def KnowsMove (s : Thumbnail) : Move ThumbPc Thumbnail → Prop
  | .blocked => True
  | .goto q => Knows q s
  | .lock q => Knows q s
  | .crit q s' => Knows q s' ∧ ∃ new, s'.stored = s.stored ++ new
  | .unlock q => Knows q s

variable {p : ThumbPc} {s : Thumbnail}

/-- **Everything a step does to the buffer.** -/
theorem thumb_held (l : ThumbInput) (h : p.owns = true → Held p s) :
    HeldMove s (thumbNext l p s) := by
  fun_cases thumbNext l p s with
  | case1 s => trivial
  | case2 sample s => trivial
  | case3 sample s => exact fun _ => trivial
  | case4 sample s => exact ⟨length_resize _ _, rfl, List.take_zero⟩
  | case5 done blk todo out s => exact Filled.copy (h rfl)
  | case6 done out s =>
    show s.mFrameBuffer = (s.stored ++ [done.flatten]).getLastD []
    rw [List.getLastD_concat]
    exact Filled.eq (h rfl)
  | case7 s => exact h rfl
  | case8 req s hget => trivial
  | case9 req s hget => trivial
  | case10 req since s => exact fun hbuf => hbuf
  | case11 req since s => exact h rfl
  | case12 req since frameBuf s => exact h rfl
  | case13 req since frameBuf s => trivial
  | case14 => trivial
  | case15 => trivial

/-- **What a worker learns in a step.** -/
theorem thumb_knows (l : ThumbInput) (hk : Knows p s) (h : p.owns = true → Held p s) :
    KnowsMove s (thumbNext l p s) := by
  fun_cases thumbNext l p s with
  | case1 s => trivial
  | case2 sample s => trivial
  | case3 sample s => trivial
  | case4 sample s => exact ⟨trivial, [], by simp⟩
  | case5 done blk todo out s => exact ⟨trivial, [], by simp⟩
  | case6 done out s => exact ⟨trivial, [done.flatten], rfl⟩
  | case7 s => trivial
  | case8 req s hget =>
    refine ⟨s.latest, latestSince_latest le_rfl, ?_⟩
    rw [httpReqJpeg, if_pos hget]
  | case9 req s hget => exact le_rfl
  | case10 req since s => exact hk
  | case11 req since s =>
    have hbuf : s.mFrameBuffer = s.latest := h rfl
    refine ⟨?_, [], by simp⟩
    show LatestSince s since s.mFrameBuffer
    rw [hbuf]
    exact latestSince_latest hk
  | case12 req since frameBuf s => exact hk
  | case13 req since frameBuf s => exact ⟨frameBuf, hk, rfl⟩
  | case14 => trivial
  | case15 => trivial

theorem thumb_lockInv :
    thumbThreads.LockInv (fun _ _ _ => True) (fun s => s.mFrameBuffer = s.latest) Held
      (fun _ => True) where
  start := trivial
  goto := by
    intro l p s q _ _ _
    trivial
  lock := by
    intro l p s q _ _ hfree hn
    have hmove := thumb_held (s := s) l
      (fun ho => absurd ((owns_of_lock hn).1.symm.trans ho) (by simp))
    rw [show thumbNext l p s = .lock q from hn] at hmove
    exact hmove hfree
  crit := by
    intro l p s q s' _ hp hn
    have hmove := thumb_held l (fun _ => hp)
    rw [show thumbNext l p s = .crit q s' from hn] at hmove
    exact hmove
  unlock := by
    intro l p s q _ hp hn
    have hmove := thumb_held l (fun _ => hp)
    rw [show thumbNext l p s = .unlock q from hn] at hmove
    exact ⟨hmove, trivial⟩
  intr_free := by
    intro e
    cases e
  intr_locked := by
    intro e
    cases e

theorem thumb_seenInv : thumbThreads.SeenInv (fun _ _ _ => True) Held Knows where
  start := fun _ => trivial
  goto := by
    intro l p s q _ hk hn
    have hmove := thumb_knows l hk
      (fun ho => absurd ((owns_of_goto hn).1.symm.trans ho) (by simp))
    rw [show thumbNext l p s = .goto q from hn] at hmove
    exact hmove
  lock := by
    intro l p s q _ hk hn
    have hmove := thumb_knows l hk
      (fun ho => absurd ((owns_of_lock hn).1.symm.trans ho) (by simp))
    rw [show thumbNext l p s = .lock q from hn] at hmove
    exact hmove
  crit := by
    intro l p s q s' _ hp hk hn
    have hmove := thumb_knows l hk (fun _ => hp)
    rw [show thumbNext l p s = .crit q s' from hn] at hmove
    obtain ⟨hq, new, hnew⟩ := hmove
    exact ⟨hq, fun r hr => hr.append hnew⟩
  unlock := by
    intro l p s q _ hp hk hn
    have hmove := thumb_knows l hk (fun _ => hp)
    rw [show thumbNext l p s = .unlock q from hn] at hmove
    exact hmove
  intr := by
    intro e
    cases e

/-- **A worker answers with one whole image.**  Whatever producers and workers do meanwhile, the
answer to a request for the image of a camera is that of `http_req_jpeg` on a single sample, whole,
one that was the last completed at some time between the request and the answer (or on the empty
buffer, before the first). -/
theorem jpeg_whole (c : Config ThumbPc Thumbnail)
    (h : (thumbThreads.sys ⟨[], []⟩).Reach TransSys.Any c) (i : Nat) (req : Params) (since : Nat)
    (ret : Except Exception (List (List Char))) (hpc : c.pc i = .left req since ret) :
    ∃ frameBuf, LatestSince c.shared since frameBuf ∧ ret = httpReqJpeg frameBuf req := by
  have hmeet : (thumbThreads.sys ⟨[], []⟩).Reach (Meeting fun _ _ _ => True) c := by
    refine h.mono (fun c a _ => ?_)
    cases a with
    | thread i l => trivial
    | interrupt e => cases e
  have hknows := reach_seen thumb_lockInv thumb_seenInv rfl hmeet i
  rw [hpc] at hknows
  exact hknows

/-- A request for an image. -/
def getImage : Params where
  requestMethod := "GET".toList
  documentUri := "/cameras/cam0.jpg".toList
  contentLength := []
  contentType := []
  body := []
  gmtime := some ⟨4, 1, 0, 70, 0, 0, 0⟩

/-- A second sample comes in while the request waits for the mutex. -/
def twoSamples : List (Act ThumbInput Empty) :=
  [.thread 0 (.pull (some ["ab".toList, "c".toList])), .thread 0 .go, .thread 0 .go, .thread 0 .go,
    .thread 0 .go, .thread 0 .go, .thread 0 .go,
    .thread 0 (.pull (some ["d".toList])), .thread 0 .go, .thread 1 (.request getImage),
    .thread 0 .go, .thread 0 .go, .thread 0 .go, .thread 0 .go,
    .thread 1 .go, .thread 1 .go, .thread 1 .go, .thread 1 .go]

def ThumbPc.answer : ThumbPc → Option (Params × Nat × Except Exception (List (List Char)))
  | .left req since ret => some (req, since, ret)
  | _ => none

/-- The answer is the second sample. -/
theorem jpeg_whole_twoSamples :
    ∃ c, (thumbThreads.sys ⟨[], []⟩).Reach TransSys.Any c ∧
      c.shared.stored = ["abc".toList, "d".toList] ∧
      ∃ req since ret, c.pc 1 = .left req since ret ∧
        ∃ frameBuf, LatestSince c.shared since frameBuf ∧ ret = httpReqJpeg frameBuf req := by
  have hrun : ((thumbThreads.sys ⟨[], []⟩).run (thumbThreads.boot ⟨[], []⟩) twoSamples).map
      (fun c => (c.shared.stored, (c.pc 1).answer.isSome)) = some (["abc".toList, "d".toList], true) := by
    decide
  obtain ⟨c, hc, htest⟩ := Option.map_eq_some_iff.mp hrun
  obtain ⟨hstored, hleft⟩ := Prod.mk.inj htest
  have hreach := TransSys.Reach.run twoSamples (.init rfl) (TransSys.meets_any _ _) hc
  refine ⟨c, hreach, hstored, ?_⟩
  cases hpc : c.pc 1 with
  | left req since ret => exact ⟨req, since, ret, rfl, jpeg_whole c hreach 1 req since ret hpc⟩
  | _ =>
    rw [hpc] at hleft
    cases hleft

end Opaleye.Stream
