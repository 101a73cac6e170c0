import Mathlib.Data.Finset.Card
import Mathlib.Data.Finset.Basic
import Opaleye.Http.HttpDate
import Opaleye.Http.Jsonrpc
import Opaleye.Http.Response

/-!
# The file handler

`libs/http-bridge/http_req_callback_file.cpp`.  One object serves all worker threads,
and they read the file through one member of it, `m_buf`, without a mutex: between the
`read` that fills the buffer and the `FCGX_PutStr` that sends it another worker may
fill it again.  `close` stands at the end of the branch in which nothing failed.

The workers are threads that take turns step by step.  A response has the length it
announces in every run (`file_answers`), since it is `read_ret` bytes that are sent
whatever they are.  They are the bytes of the file when nobody reads while another
worker's bytes wait in the buffer (`file_whole`), and `file_mixed` is a run in which
they are not.  `file_descriptors` says which descriptors stay open.

The file keeps its contents while it is served.
-/

namespace Opaleye.Http

open Text Message TransSys

/-! ### The handler -/

/-- `m_buf.size()` -/
def mBufSize : Nat := 4096

/-- What is written before the file is read. -/
def fileHead (timeStr : List Char) (size : Nat) : List (List Char) :=
  ["Content-Type: image/jpeg\r\n".toList,
   "Content-Length: ".toList ++ printSize size ++ "\r\n".toList,
   "Last-Modified: ".toList ++ timeStr ++ "\r\n".toList,
   "Cache-Control: max-age=0, no-store\r\n".toList,
   "\r\n".toList]

/-- All that is written when something fails before. -/
def fileError : List (List Char) := ["Status: 500 Internal Error\r\n".toList]

/-- How a request was left, with the descriptor that was not closed. -/
inductive FileExit
  | notOpened
  | notStated (fd : Nat)
  | notDated (fd : Nat)
  | readError
  | readWhole
  deriving DecidableEq

/-- Where a worker is in `handle`, with its descriptor, what it has written, how far
the file is read, and how many bytes wait in the buffer. -/
inductive FilePc
  | idle
  | opening
  | opened (fd : Nat)
  | stated (fd : Nat)
  | reading (fd : Nat) (out : List (List Char)) (off : Nat)
  | filled (fd : Nat) (out : List (List Char)) (off readRet : Nat)
  | closing (fd : Nat) (out : List (List Char)) (exit : FileExit)
  | finishing (out : List (List Char)) (exit : FileExit)
  deriving DecidableEq

/-- What `read` gives: `count` is how much the kernel is ready to hand over, one byte at
the least. -/
inductive ReadRet
  | eintr
  | error
  | count (n : Nat)

/-- What a step gets from outside. -/
inductive FileInput
  | accept
  | opens (fd : Option Nat)
  | fstat (ok : Bool)
  | gmtime (tm : Option Tm)
  | read (ret : ReadRet)
  | go

/-- A finished request. -/
structure FileAnswer where
  exit : FileExit
  out : List (List Char)

/-- The handler's buffer, the descriptors it has open, its workers, and the requests
finished so far. -/
structure FileServer where
  mBuf : List Char
  fds : Finset Nat
  pc : Nat → FilePc
  log : List FileAnswer

namespace FileServer

def goto (c : FileServer) (i : Nat) (q : FilePc) : FileServer :=
  { c with pc := Function.update c.pc i q }

/-- The bytes that `read` finds at an offset. -/
def bytesAt (file : List Char) (off n : Nat) : List Char :=
  (file.drop off).take (min (n + 1) mBufSize)

/-- `http_req_callback_file::handle` -/
def step (file : List Char) (c : FileServer) (a : Nat × FileInput) : Option FileServer :=
  match c.pc a.1, a.2 with
  | .idle, .accept => some (c.goto a.1 .opening)
  | .opening, .opens none => some (c.goto a.1 (.finishing fileError .notOpened))
  | .opening, .opens (some fd) =>
    if fd ∈ c.fds then none
    else some { c.goto a.1 (.opened fd) with fds := insert fd c.fds }
  | .opened fd, .fstat ok =>
    if ok then some (c.goto a.1 (.stated fd))
    else some (c.goto a.1 (.finishing fileError (.notStated fd)))
  | .stated fd, .gmtime tm =>
    match timeToHttpdate tm with
    | some timeStr => some (c.goto a.1 (.reading fd (fileHead timeStr file.length) 0))
    | none => some (c.goto a.1 (.finishing fileError (.notDated fd)))
  | .reading fd out off, .read ret =>
    match ret with
    | .eintr => some (c.goto a.1 (.reading fd out off))
    | .error => some (c.goto a.1 (.closing fd out .readError))
    | .count n =>
      if (bytesAt file off n).length = 0 then some (c.goto a.1 (.closing fd out .readWhole))
      else
        some { c.goto a.1 (.filled fd out (off + (bytesAt file off n).length)
            (bytesAt file off n).length) with mBuf := overwrite c.mBuf (bytesAt file off n) }
  | .filled fd out off readRet, .go =>
    some (c.goto a.1 (.reading fd (out ++ [c.mBuf.take readRet]) off))
  | .closing fd out exit, .go =>
    some { c.goto a.1 (.finishing out exit) with fds := c.fds.erase fd }
  | .finishing out exit, .go => some { c.goto a.1 .idle with log := c.log ++ [⟨exit, out⟩] }
  | _, _ => none

/-- The handler with any number of workers, before the first request. -/
def sys (file : List Char) : TransSys FileServer (Nat × FileInput) where
  init := fun c => c.mBuf.length = mBufSize ∧ c.fds = ∅ ∧ (∀ i, c.pc i = .idle) ∧ c.log = []
  step := step file

/-- Nobody reads while another worker's bytes wait in the buffer. -/
def Undisturbed (c : FileServer) (a : Nat × FileInput) : Prop :=
  ∀ n, a.2 = .read (.count n) → ∀ j, j ≠ a.1 → ∀ fd out off readRet,
    c.pc j ≠ .filled fd out off readRet

/-! ### One step -/

@[simp] theorem goto_pc_self (c : FileServer) (i : Nat) (q : FilePc) : (c.goto i q).pc i = q := by
  simp [goto]

@[simp] theorem goto_pc_ne (c : FileServer) {i j : Nat} (q : FilePc) (h : j ≠ i) :
    (c.goto i q).pc j = c.pc j := by
  simp [goto, h]

theorem le_of_length_bytesAt {file : List Char} {off n : Nat} (h : (bytesAt file off n).length = 0) :
    file.length ≤ off := by
  rw [bytesAt, List.length_take, List.length_drop, mBufSize] at h
  omega

/-- **Everything a step can do.** -/
theorem step_cases {file : List Char} {c c' : FileServer} {i : Nat} {l : FileInput}
    (h : step file c (i, l) = some c') :
    (c.pc i = .idle ∧ c' = c.goto i .opening) ∨
    (c.pc i = .opening ∧ c' = c.goto i (.finishing fileError .notOpened)) ∨
    (∃ fd, c.pc i = .opening ∧ fd ∉ c.fds ∧
      c' = { c.goto i (.opened fd) with fds := insert fd c.fds }) ∨
    (∃ fd, c.pc i = .opened fd ∧
      (c' = c.goto i (.stated fd) ∨ c' = c.goto i (.finishing fileError (.notStated fd)))) ∨
    (∃ fd, c.pc i = .stated fd ∧
      ((∃ tm timeStr, timeToHttpdate tm = some timeStr ∧
          c' = c.goto i (.reading fd (fileHead timeStr file.length) 0)) ∨
        c' = c.goto i (.finishing fileError (.notDated fd)))) ∨
    (∃ fd out off, c.pc i = .reading fd out off ∧
      (c' = c.goto i (.reading fd out off) ∨ c' = c.goto i (.closing fd out .readError) ∨
        (file.length ≤ off ∧ c' = c.goto i (.closing fd out .readWhole)))) ∨
    (∃ fd out off n, c.pc i = .reading fd out off ∧ l = .read (.count n) ∧
      c' = { c.goto i (.filled fd out (off + (bytesAt file off n).length)
          (bytesAt file off n).length) with mBuf := overwrite c.mBuf (bytesAt file off n) }) ∨
    (∃ fd out off readRet, c.pc i = .filled fd out off readRet ∧
      c' = c.goto i (.reading fd (out ++ [c.mBuf.take readRet]) off)) ∨
    (∃ fd out exit, c.pc i = .closing fd out exit ∧
      c' = { c.goto i (.finishing out exit) with fds := c.fds.erase fd }) ∨
    (∃ out exit, c.pc i = .finishing out exit ∧
      c' = { c.goto i .idle with log := c.log ++ [⟨exit, out⟩] }) := by
  unfold step at h
  split at h
  next hpc hl => exact .inl ⟨hpc, (Option.some.inj h).symm⟩
  next hpc hl => exact .inr (.inl ⟨hpc, (Option.some.inj h).symm⟩)
  next fd hpc hl =>
    split at h
    · cases h
    · next hfd => exact .inr (.inr (.inl ⟨fd, hpc, hfd, (Option.some.inj h).symm⟩))
  next fd ok hpc hl =>
    refine .inr (.inr (.inr (.inl ⟨fd, hpc, ?_⟩)))
    split at h
    · exact .inl (Option.some.inj h).symm
    · exact .inr (Option.some.inj h).symm
  next fd tm hpc hl =>
    refine .inr (.inr (.inr (.inr (.inl ⟨fd, hpc, ?_⟩))))
    split at h
    · next timeStr ht => exact .inl ⟨tm, timeStr, ht, (Option.some.inj h).symm⟩
    · exact .inr (Option.some.inj h).symm
  next fd out off ret hpc hl =>
    refine .inr (.inr (.inr (.inr (.inr ?_))))
    split at h
    · exact .inl ⟨fd, out, off, hpc, .inl (Option.some.inj h).symm⟩
    · exact .inl ⟨fd, out, off, hpc, .inr (.inl (Option.some.inj h).symm)⟩
    · next n =>
      split at h
      · next hlen =>
        refine .inl ⟨fd, out, off, hpc, .inr (.inr ⟨?_, (Option.some.inj h).symm⟩)⟩
        exact le_of_length_bytesAt hlen
      · exact .inr (.inl ⟨fd, out, off, n, hpc, hl, (Option.some.inj h).symm⟩)
  next fd out off readRet hpc hl =>
    exact .inr (.inr (.inr (.inr (.inr (.inr (.inr (.inl
      ⟨fd, out, off, readRet, hpc, (Option.some.inj h).symm⟩)))))))
  next fd out exit hpc hl =>
    exact .inr (.inr (.inr (.inr (.inr (.inr (.inr (.inr (.inl
      ⟨fd, out, exit, hpc, (Option.some.inj h).symm⟩))))))))
  next out exit hpc hl =>
    exact .inr (.inr (.inr (.inr (.inr (.inr (.inr (.inr (.inr
      ⟨out, exit, hpc, (Option.some.inj h).symm⟩))))))))
  next => cases h

/-! ### What has been sent -/

/-- The head, and a body with the property `P`. -/
def Sent (file : List Char) (P : List Char → Prop) (out : List (List Char)) : Prop :=
  ∃ timeStr chunks, timeStr.all isPlain = true ∧ out = fileHead timeStr file.length ++ chunks ∧
    P chunks.flatten

section

variable {file : List Char} {P : List Char → Prop}

theorem Sent.mono {Q : List Char → Prop} {out : List (List Char)} (hPQ : ∀ body, P body → Q body)
    (h : Sent file P out) : Sent file Q out := by
  obtain ⟨timeStr, chunks, ht, hout, hP⟩ := h
  exact ⟨timeStr, chunks, ht, hout, hPQ _ hP⟩

theorem Sent.concat {out : List (List Char)} {s : List Char}
    (h : Sent file (fun body => P (body ++ s)) out) : Sent file P (out ++ [s]) := by
  obtain ⟨timeStr, chunks, ht, rfl, hP⟩ := h
  refine ⟨timeStr, chunks ++ [s], ht, List.append_assoc _ _ _, ?_⟩
  rwa [List.flatten_append, List.flatten_singleton]

theorem sent_head {timeStr : List Char} (ht : timeStr.all isPlain = true) (hP : P []) :
    Sent file P (fileHead timeStr file.length) :=
  ⟨timeStr, [], ht, (List.append_nil _).symm, hP⟩

end

/-- What a finished request has written, where `Good body k` says that the body is right
once `k` bytes of the file are read. -/
def Ends (file : List Char) (Good : List Char → Nat → Prop) (out : List (List Char)) :
    FileExit → Prop
  | .readWhole => Sent file (fun body => Good body file.length) out
  | .readError => ∃ k ≤ file.length, Sent file (fun body => Good body k) out
  | _ => out = fileError

/-- The same on the way; of bytes that wait in the buffer it is said what the body will be
with them. -/
def Fits (file : List Char) (Good : List Char → Nat → Prop) (buf : List Char) : FilePc → Prop
  | .reading _ out off => off ≤ file.length ∧ Sent file (fun body => Good body off) out
  | .filled _ out off readRet =>
    off ≤ file.length ∧ Sent file (fun body => Good (body ++ buf.take readRet) off) out
  | .closing _ out exit => Ends file Good out exit
  | .finishing out exit => Ends file Good out exit
  | _ => True

structure BodyInv (file : List Char) (Good : List Char → Nat → Prop) (c : FileServer) : Prop where
  bufLen : c.mBuf.length = mBufSize
  places : ∀ i, Fits file Good c.mBuf (c.pc i)
  log : ∀ a ∈ c.log, Ends file Good a.out a.exit

theorem length_bytesAt_le (file : List Char) (off n : Nat) :
    (bytesAt file off n).length ≤ mBufSize ∧
      (off ≤ file.length → off + (bytesAt file off n).length ≤ file.length) := by
  rw [bytesAt, List.length_take, List.length_drop]
  omega

theorem length_overwrite {buf data : List Char} (h : data.length ≤ buf.length) :
    (overwrite buf data).length = buf.length := by
  rw [overwrite, List.length_append, List.length_drop]
  omega

theorem take_overwrite (buf data : List Char) :
    (overwrite buf data).take data.length = data :=
  List.take_left

section

variable {file : List Char} {Good : List Char → Nat → Prop} {c : FileServer}

theorem BodyInv.goto {i : Nat} {q : FilePc} (h : BodyInv file Good c)
    (hq : Fits file Good c.mBuf q) : BodyInv file Good (c.goto i q) := by
  refine ⟨h.bufLen, fun j => ?_, h.log⟩
  rcases eq_or_ne j i with rfl | hj
  · rw [goto_pc_self]
    exact hq
  · rw [goto_pc_ne c q hj]
    exact h.places j

theorem BodyInv.fds {s : Finset Nat} (h : BodyInv file Good c) :
    BodyInv file Good { c with fds := s } := ⟨h.bufLen, h.places, h.log⟩

/-- A worker fills the buffer.  The bytes of another one that wait there are right
afterwards when only their number matters, or when there are none. -/
theorem BodyInv.fill {i fd off n : Nat} {out : List (List Char)} (h : BodyInv file Good c)
    (hread : ∀ body, Good body off →
      Good (body ++ bytesAt file off n) (off + (bytesAt file off n).length))
    (hother : (∀ body body' k, body.length = body'.length → Good body k → Good body' k) ∨
      ∀ j, j ≠ i → ∀ fd out off readRet, c.pc j ≠ .filled fd out off readRet)
    (hpc : c.pc i = .reading fd out off) :
    BodyInv file Good { c.goto i (.filled fd out (off + (bytesAt file off n).length)
      (bytesAt file off n).length) with mBuf := overwrite c.mBuf (bytesAt file off n) } := by
  have hlen : (overwrite c.mBuf (bytesAt file off n)).length = c.mBuf.length :=
    length_overwrite (by rw [h.bufLen]; exact (length_bytesAt_le file off n).1)
  refine ⟨hlen.trans h.bufLen, fun j => ?_, h.log⟩
  rcases eq_or_ne j i with rfl | hj
  · have hi := h.places j
    rw [hpc] at hi
    show Fits file Good _ ((c.goto j _).pc j)
    rw [goto_pc_self]
    refine ⟨(length_bytesAt_le file off n).2 hi.1, hi.2.mono (fun body hb => ?_)⟩
    rw [take_overwrite]
    exact hread body hb
  · have hj' := h.places j
    show Fits file Good _ ((c.goto i _).pc j)
    rw [goto_pc_ne c _ hj]
    cases hq : c.pc j with
    | filled fd' out' off' readRet =>
      rw [hq] at hj'
      rcases hother with hlength | hfree
      · refine ⟨hj'.1, hj'.2.mono (fun body => hlength _ _ _ ?_)⟩
        rw [List.length_append, List.length_append, List.length_take, List.length_take, hlen]
      · exact absurd hq (hfree j hj fd' out' off' readRet)
    | idle => trivial
    | opening => trivial
    | opened fd' => trivial
    | stated fd' => trivial
    | reading fd' out' off' =>
      rw [hq] at hj'
      exact hj'
    | closing fd' out' exit =>
      rw [hq] at hj'
      exact hj'
    | finishing out' exit =>
      rw [hq] at hj'
      exact hj'

theorem BodyInv.step {c' : FileServer} {a : Nat × FileInput} (h0 : Good [] 0)
    (hread : ∀ body off n, off ≤ file.length → Good body off →
      Good (body ++ bytesAt file off n) (off + (bytesAt file off n).length))
    (hother : (∀ body body' k, body.length = body'.length → Good body k → Good body' k) ∨
      Undisturbed c a)
    (h : BodyInv file Good c) (hst : FileServer.step file c a = some c') :
    BodyInv file Good c' := by
  obtain ⟨i, l⟩ := a
  have hi := h.places i
  rcases step_cases hst with ⟨-, rfl⟩ | ⟨-, rfl⟩ | ⟨fd, -, -, rfl⟩ | ⟨fd, -, rfl | rfl⟩ |
    ⟨fd, -, ⟨tm, timeStr, ht, rfl⟩ | rfl⟩ | ⟨fd, out, off, hpc, rfl | rfl | ⟨hend, rfl⟩⟩ |
    ⟨fd, out, off, n, hpc, rfl, rfl⟩ | ⟨fd, out, off, readRet, hpc, rfl⟩ |
    ⟨fd, out, exit, hpc, rfl⟩ | ⟨out, exit, hpc, rfl⟩
  · exact h.goto trivial
  · exact h.goto rfl
  · exact (h.goto (i := i) (q := .opened fd) trivial).fds
  · exact h.goto trivial
  · exact h.goto rfl
  · exact h.goto ⟨Nat.zero_le _, sent_head (all_isPlain_of_timeToHttpdate ht) h0⟩
  · exact h.goto rfl
  · rw [hpc] at hi
    exact h.goto hi
  · rw [hpc] at hi
    exact h.goto ⟨off, hi.1, hi.2⟩
  · rw [hpc] at hi
    refine h.goto ?_
    rw [Fits, Ends, Nat.le_antisymm hend hi.1]
    exact hi.2
  · rw [hpc] at hi
    exact h.fill (fun body => hread body off n hi.1) (hother.imp_right (fun hu => hu n rfl)) hpc
  · rw [hpc] at hi
    exact h.goto ⟨hi.1, hi.2.concat⟩
  · rw [hpc] at hi
    exact (h.goto (i := i) (q := .finishing out exit) hi).fds
  · rw [hpc] at hi
    have hg := h.goto (i := i) (q := .idle) trivial
    refine ⟨hg.bufLen, hg.places, ?_⟩
    intro a ha
    rcases List.mem_append.mp ha with ha | ha
    · exact h.log a ha
    · rw [List.mem_singleton.mp ha]
      exact hi

theorem bodyInv_init (h : (sys file).init c) : BodyInv file Good c := by
  obtain ⟨hbuf, -, hidle, hlog⟩ := h
  refine ⟨hbuf, fun i => ?_, fun a ha => ?_⟩
  · rw [hidle i]
    trivial
  · rw [hlog] at ha
    cases ha

end

/-- **In every run a body has as many bytes as were read**, whoever's they are. -/
theorem lengths_of_reach {file : List Char} {c : FileServer} (h : Reach (sys file) Any c) :
    BodyInv file (fun body k => body.length = k) c := by
  refine h.invariant (fun s hs => bodyInv_init hs) (fun s a s' hI _ hst => ?_)
  refine hI.step rfl (fun body off n _ hb => ?_) (.inl (fun body body' k heq hb => ?_)) hst
  · rw [List.length_append, hb]
  · rw [← heq, hb]

theorem take_append_bytesAt (file : List Char) (off n : Nat) :
    file.take off ++ bytesAt file off n = file.take (off + (bytesAt file off n).length) := by
  rw [List.take_add]
  exact congrArg _ (List.prefix_iff_eq_take.mp (List.take_prefix _ _))

/-- **Undisturbed, it is those bytes.** -/
theorem bytes_of_reach {file : List Char} {c : FileServer} (h : Reach (sys file) Undisturbed c) :
    BodyInv file (fun body k => body = file.take k) c := by
  refine h.invariant (fun s hs => bodyInv_init hs) (fun s a s' hI hC hst => ?_)
  refine hI.step rfl (fun body off n _ hb => ?_) (.inr hC) hst
  rw [hb]
  exact take_append_bytesAt file off n

/-! ### A worker that is alone -/

theorem step_pc_ne {file : List Char} {c c' : FileServer} {i j : Nat} {l : FileInput}
    (h : step file c (i, l) = some c') (hj : j ≠ i) : c'.pc j = c.pc j := by
  rcases step_cases h with ⟨-, rfl⟩ | ⟨-, rfl⟩ | ⟨fd, -, -, rfl⟩ | ⟨fd, -, rfl | rfl⟩ |
    ⟨fd, -, ⟨tm, timeStr, -, rfl⟩ | rfl⟩ | ⟨fd, out, off, -, rfl | rfl | ⟨-, rfl⟩⟩ |
    ⟨fd, out, off, n, -, -, rfl⟩ | ⟨fd, out, off, readRet, -, rfl⟩ |
    ⟨fd, out, exit, -, rfl⟩ | ⟨out, exit, -, rfl⟩
  all_goals exact goto_pc_ne c _ hj

theorem undisturbed_alone {file : List Char} {i : Nat} : ∀ (as : List (Nat × FileInput))
    {c : FileServer}, (∀ j, j ≠ i → c.pc j = .idle) → (∀ a ∈ as, a.1 = i) →
    (sys file).Meets Undisturbed c as := by
  intro as
  induction as with
  | nil => intro c _ _; exact trivial
  | cons a as ih =>
    intro c hidle has
    have ha := has a List.mem_cons_self
    refine ⟨fun n _ j hj fd out off readRet heq => ?_, ?_⟩
    · rw [hidle j (ha ▸ hj)] at heq
      cases heq
    · cases hst : (sys file).step c a with
      | none => trivial
      | some c' =>
        refine ih (fun j hj => ?_) (fun b hb => has b (List.mem_cons_of_mem _ hb))
        rw [step_pc_ne hst (ha ▸ hj)]
        exact hidle j hj

theorem run_pc_ne {file : List Char} {i : Nat} : ∀ (as : List (Nat × FileInput))
    {c c' : FileServer}, (∀ j, j ≠ i → c.pc j = .idle) → (∀ a ∈ as, a.1 = i) →
    (sys file).run c as = some c' → ∀ j, j ≠ i → c'.pc j = .idle := by
  intro as
  induction as with
  | nil =>
    intro c c' hidle _ hrun
    rw [run_nil] at hrun
    exact Option.some.inj hrun ▸ hidle
  | cons a as ih =>
    intro c c' hidle has hrun
    rw [run_cons] at hrun
    obtain ⟨t, hst, hrun⟩ := Option.bind_eq_some_iff.mp hrun
    refine ih (fun j hj => ?_) (fun b hb => has b (List.mem_cons_of_mem _ hb)) hrun
    rw [step_pc_ne hst ((has a List.mem_cons_self).symm ▸ hj)]
    exact hidle j hj

def freshFileServer : FileServer :=
  ⟨List.replicate mBufSize '\x00', ∅, fun _ => .idle, []⟩

theorem init_freshFileServer (file : List Char) : (sys file).init freshFileServer :=
  ⟨List.length_replicate, rfl, fun _ => rfl, rfl⟩

theorem reach_alone (file : List Char) {i : Nat} (P : FileServer → Bool)
    (as : List (Nat × FileInput)) (has : ∀ a ∈ as, a.1 = i)
    (h : ((sys file).run freshFileServer as).any P = true) :
    ∃ c, Reach (sys file) Undisturbed c ∧ (∀ j, j ≠ i → c.pc j = .idle) ∧ P c = true := by
  obtain ⟨c, hrun, hP⟩ := (Option.any_eq_true _ _).mp h
  exact ⟨c, Reach.run as (.init (init_freshFileServer file))
    (undisturbed_alone as (fun _ _ => rfl) has) hrun, run_pc_ne as (fun _ _ => rfl) has hrun, hP⟩

/-- A worker accepts a request, opens the file and reads its first byte. -/
def firstRead (i : Nat) : List (Nat × FileInput) :=
  [(i, .accept), (i, .opens (some i)), (i, .fstat true),
    (i, .gmtime (gmtime 0)), (i, .read (.count 0))]

/-- It sends what is in the buffer, reads on, and finishes the request. -/
def lastReads (i : Nat) : List (Nat × FileInput) :=
  [(i, .go), (i, .read (.count 0)), (i, .go), (i, .read (.count 0)), (i, .go), (i, .go)]

theorem reach_readWhole : ∃ (c : FileServer) (a : FileAnswer),
    Reach (sys "ab".toList) Undisturbed c ∧ a ∈ c.log ∧ a.exit = .readWhole := by
  obtain ⟨c, hreach, -, hany⟩ := reach_alone "ab".toList (i := 0)
    (fun c => c.log.any (fun a => a.exit == .readWhole)) (firstRead 0 ++ lastReads 0)
    (by decide) (by decide)
  obtain ⟨a, ha, hexit⟩ := List.any_eq_true.mp hany
  exact ⟨c, a, hreach, ha, eq_of_beq hexit⟩

/-! ### The responses -/

theorem toList_imageJpeg :
    "Content-Type: image/jpeg\r\n".toList = "Content-Type: image/jpeg".toList ++ crlf := by
  simp [crlf]

theorem wellFormed_fileHead_iff {timeStr body : List Char} {size : Nat}
    (ht : timeStr.all isPlain = true) :
    WellFormed ((fileHead timeStr size).flatten ++ body)
      ↔ printSize size = Nat.toDigits 10 body.length := by
  have hrender : (fileHead timeStr size).flatten ++ body = render
      ("Content-Type: image/jpeg".toList :: ("Content-Length: ".toList ++ printSize size)
        :: ["Last-Modified: ".toList ++ timeStr, "Cache-Control: max-age=0, no-store".toList])
      body := by
    simp only [fileHead, render, List.flatten_cons, List.flatten_nil, List.append_assoc,
      List.nil_append, toList_crlf, toList_cacheControl, toList_imageJpeg]
  rw [hrender, wellFormed_length_iff (by decide) (all_isPlain_printSize _)]
  intro h hh
  rcases List.mem_cons.mp hh with rfl | hh
  · exact lastModified_line ht
  · rw [List.mem_singleton.mp hh]
    exact cacheControl_line

/-- **In every run, a response that was read to the end is well formed exactly when its
size survives the conversion**; a request that failed before is not answered at all. -/
theorem file_answers {file : List Char} {c : FileServer} (h : Reach (sys file) Any c)
    {a : FileAnswer} (ha : a ∈ c.log) :
    (a.exit = .readWhole → (WellFormed a.out.flatten ↔ file.length < 2 ^ 31)) ∧
      (a.exit ≠ .readWhole → a.exit ≠ .readError → ¬ WellFormed a.out.flatten) := by
  have hends := (lengths_of_reach h).log a ha
  refine ⟨fun hexit => ?_, fun hw hr => ?_⟩
  · rw [hexit] at hends
    obtain ⟨timeStr, chunks, ht, hout, hlen⟩ := hends
    rw [hout, List.flatten_append, wellFormed_fileHead_iff ht,
      printSize_eq_toDigits_iff (Nat.le_of_eq hlen.symm), hlen, eq_self_iff_true, true_and]
  · have hout : a.out = fileError := by
      cases hexit : a.exit with
      | readWhole => exact absurd hexit hw
      | readError => exact absurd hexit hr
      | notOpened => rw [hexit] at hends; exact hends
      | notStated fd => rw [hexit] at hends; exact hends
      | notDated fd => rw [hexit] at hends; exact hends
    rw [hout]
    exact emptyFrame_not_wellFormed

theorem file_answers_ab : ∃ (c : FileServer) (a : FileAnswer), Reach (sys "ab".toList) Any c ∧
    a ∈ c.log ∧ a.exit = .readWhole ∧ WellFormed a.out.flatten := by
  obtain ⟨c, a, hreach, ha, hexit⟩ := reach_readWhole
  have hany : Reach (sys "ab".toList) Any c := hreach.mono (fun _ _ _ => trivial)
  exact ⟨c, a, hany, ha, hexit, ((file_answers hany ha).1 hexit).mpr (by decide)⟩

/-- **When nobody reads while another worker's bytes wait**, every response that was read
to the end is the head and the file, and one whose reading failed is the head and a
beginning of the file. -/
theorem file_whole {file : List Char} {c : FileServer} (h : Reach (sys file) Undisturbed c)
    {a : FileAnswer} (ha : a ∈ c.log) :
    (a.exit = .readWhole → ∃ timeStr,
      a.out.flatten = (fileHead timeStr file.length).flatten ++ file) ∧
    (a.exit = .readError → ∃ timeStr k,
      a.out.flatten = (fileHead timeStr file.length).flatten ++ file.take k) := by
  have hends := (bytes_of_reach h).log a ha
  refine ⟨fun hexit => ?_, fun hexit => ?_⟩
  · rw [hexit] at hends
    obtain ⟨timeStr, chunks, -, hout, hbody⟩ := hends
    refine ⟨timeStr, ?_⟩
    rw [hout, List.flatten_append, hbody, List.take_length]
  · rw [hexit] at hends
    obtain ⟨k, -, timeStr, chunks, -, hout, hbody⟩ := hends
    refine ⟨timeStr, k, ?_⟩
    rw [hout, List.flatten_append, hbody]

theorem file_whole_ab : ∃ (c : FileServer) (a : FileAnswer),
    Reach (sys "ab".toList) Undisturbed c ∧ a ∈ c.log ∧ a.exit = .readWhole ∧
      ∃ timeStr, a.out.flatten = (fileHead timeStr 2).flatten ++ "ab".toList := by
  obtain ⟨c, a, hreach, ha, hexit⟩ := reach_readWhole
  exact ⟨c, a, hreach, ha, hexit, (file_whole hreach ha).1 hexit⟩

/-- Two workers: the second fills the buffer before the first has sent what it read. -/
def mixedReads : List (Nat × FileInput) := firstRead 0 ++ firstRead 1 ++ lastReads 1 ++ lastReads 0

/-- **A response that is well formed need not be the file.** -/
theorem file_mixed : ∃ c, Reach (sys "ab".toList) Any c ∧
    (c.log.any (fun a => a.exit == .readWhole && a.out.drop 5 == ["b".toList, "b".toList])) =
      true :=
  Reach.of_trace mixedReads (init_freshFileServer _) (meets_any _ _) (by decide)

end FileServer

/-! ### The descriptors -/

/-- The descriptor that a request leaves open. -/
def FileExit.left : FileExit → Option Nat
  | .notStated fd => some fd
  | .notDated fd => some fd
  | _ => none

/-- The descriptor that a worker has, or has forgotten to close. -/
def FilePc.fd : FilePc → Option Nat
  | .opened fd => some fd
  | .stated fd => some fd
  | .reading fd _ _ => some fd
  | .filled fd _ _ _ => some fd
  | .closing fd _ _ => some fd
  | .finishing _ exit => exit.left
  | _ => none

namespace FileServer

/-- The descriptors that finished requests have left open. -/
def leftOpen (c : FileServer) : List Nat := c.log.filterMap (fun a => a.exit.left)

/-- Every open descriptor is a worker's or was left by one request. -/
structure FdInv (c : FileServer) : Prop where
  owned : ∀ fd, fd ∈ c.fds ↔ (∃ i, (c.pc i).fd = some fd) ∨ fd ∈ c.leftOpen
  apart : ∀ i j fd, (c.pc i).fd = some fd → (c.pc j).fd = some fd → i = j
  fresh : ∀ i fd, (c.pc i).fd = some fd → fd ∉ c.leftOpen
  once : c.leftOpen.Nodup
  closes : ∀ i fd out exit, c.pc i = .closing fd out exit → exit.left = none

section

variable {file : List Char} {c : FileServer}

theorem FdInv.goto {i : Nat} {q : FilePc} (h : FdInv c) (hq : q.fd = (c.pc i).fd)
    (hcl : ∀ fd out exit, q = .closing fd out exit → exit.left = none) : FdInv (c.goto i q) := by
  have hfd : ∀ j, ((c.goto i q).pc j).fd = (c.pc j).fd := by
    intro j
    rcases eq_or_ne j i with rfl | hj
    · rw [goto_pc_self, hq]
    · rw [goto_pc_ne c q hj]
  refine ⟨fun fd => ?_, fun j k fd => ?_, fun j fd => ?_, h.once, fun j fd out exit hpc => ?_⟩
  · simp only [hfd]
    exact h.owned fd
  · rw [hfd, hfd]
    exact h.apart j k fd
  · rw [hfd]
    exact h.fresh j fd
  · rcases eq_or_ne j i with rfl | hj
    · rw [goto_pc_self] at hpc
      exact hcl fd out exit hpc
    · rw [goto_pc_ne c q hj] at hpc
      exact h.closes j fd out exit hpc

theorem FdInv.fill {buf : List Char} (h : FdInv c) : FdInv { c with mBuf := buf } :=
  ⟨h.owned, h.apart, h.fresh, h.once, h.closes⟩

theorem FdInv.opens {i fd : Nat} (h : FdInv c) (hpc : (c.pc i).fd = none) (hfd : fd ∉ c.fds) :
    FdInv { c.goto i (.opened fd) with fds := insert fd c.fds } := by
  have hnew : ∀ j, j ≠ i → ((c.goto i (.opened fd)).pc j) = c.pc j :=
    fun j hj => goto_pc_ne c _ hj
  have hself : ((c.goto i (.opened fd)).pc i).fd = some fd := by rw [goto_pc_self]; rfl
  have hnone : ∀ j, (c.pc j).fd ≠ some fd := fun j hj => hfd ((h.owned fd).mpr (.inl ⟨j, hj⟩))
  refine ⟨fun fd' => ?_, fun j k fd' hj hk => ?_, fun j fd' hj hl => ?_, h.once,
    fun j fd' out exit hj => ?_⟩
  · show fd' ∈ insert fd c.fds ↔ _
    rw [Finset.mem_insert, h.owned fd']
    constructor
    · rintro (rfl | ⟨j, hj⟩ | hl)
      · exact .inl ⟨i, hself⟩
      · have hji : j ≠ i := fun heq => by rw [heq, hpc] at hj; cases hj
        exact .inl ⟨j, (congrArg FilePc.fd (hnew j hji)).trans hj⟩
      · exact .inr hl
    · rintro (⟨j, hj⟩ | hl)
      · rcases eq_or_ne j i with rfl | hji
        · exact .inl (Option.some.inj (hj.symm.trans hself))
        · exact .inr (.inl ⟨j, (congrArg FilePc.fd (hnew j hji)).symm.trans hj⟩)
      · exact .inr (.inr hl)
  · -- nobody else has the new descriptor
    rcases eq_or_ne j i with rfl | hji
    · rcases eq_or_ne k j with rfl | hkj
      · rfl
      · have hfd' : fd' = fd := Option.some.inj (hj.symm.trans hself)
        have hk' := (congrArg FilePc.fd (hnew k hkj)).symm.trans hk
        exact absurd (hfd' ▸ hk') (hnone k)
    · have hj' := (congrArg FilePc.fd (hnew j hji)).symm.trans hj
      rcases eq_or_ne k i with rfl | hki
      · have hfd' : fd' = fd := Option.some.inj (hk.symm.trans hself)
        exact absurd (hfd' ▸ hj') (hnone j)
      · exact h.apart j k fd' hj' ((congrArg FilePc.fd (hnew k hki)).symm.trans hk)
  · rcases eq_or_ne j i with rfl | hji
    · have hfd' : fd' = fd := Option.some.inj (hj.symm.trans hself)
      exact hfd ((h.owned fd).mpr (.inr (hfd' ▸ hl)))
    · exact h.fresh j fd' ((congrArg FilePc.fd (hnew j hji)).symm.trans hj) hl
  · rcases eq_or_ne j i with rfl | hji
    · have hpc' : (c.goto j (.opened fd)).pc j = .closing fd' out exit := hj
      rw [goto_pc_self] at hpc'
      cases hpc'
    · exact h.closes j fd' out exit ((hnew j hji).symm.trans hj)

theorem FdInv.closed {i fd : Nat} {out : List (List Char)} {exit : FileExit} (h : FdInv c)
    (hpc : c.pc i = .closing fd out exit) :
    FdInv { c.goto i (.finishing out exit) with fds := c.fds.erase fd } := by
  have hi : (c.pc i).fd = some fd := by rw [hpc]; rfl
  have hnew : ∀ j, j ≠ i → (c.goto i (.finishing out exit)).pc j = c.pc j :=
    fun j hj => goto_pc_ne c _ hj
  have hself : ((c.goto i (.finishing out exit)).pc i).fd = none := by
    rw [goto_pc_self]
    exact h.closes i fd out exit hpc
  have hold : ∀ j fd', ((c.goto i (.finishing out exit)).pc j).fd = some fd' →
      j ≠ i ∧ (c.pc j).fd = some fd' := by
    intro j fd' hj
    rcases eq_or_ne j i with rfl | hji
    · rw [hself] at hj
      cases hj
    · exact ⟨hji, (congrArg FilePc.fd (hnew j hji)).symm.trans hj⟩
  refine ⟨fun fd' => ?_, fun j k fd' hj hk => ?_, fun j fd' hj => ?_, h.once,
    fun j fd' out' exit' hj => ?_⟩
  · show fd' ∈ c.fds.erase fd ↔ _
    rw [Finset.mem_erase, h.owned fd']
    constructor
    · rintro ⟨hne, ⟨j, hj⟩ | hl⟩
      · have hji : j ≠ i := fun heq => by
          rw [heq, hi] at hj
          exact hne (Option.some.inj hj).symm
        exact .inl ⟨j, (congrArg FilePc.fd (hnew j hji)).trans hj⟩
      · exact .inr hl
    · rintro (⟨j, hj⟩ | hl)
      · obtain ⟨hji, hj⟩ := hold j fd' hj
        exact ⟨fun heq => hji (h.apart j i fd (heq ▸ hj) hi), .inl ⟨j, hj⟩⟩
      · exact ⟨fun heq => h.fresh i fd hi (heq ▸ hl), .inr hl⟩
  · exact h.apart j k fd' (hold j fd' hj).2 (hold k fd' hk).2
  · exact h.fresh j fd' (hold j fd' hj).2
  · rcases eq_or_ne j i with rfl | hji
    · have hpc' : (c.goto j (.finishing out exit)).pc j = .closing fd' out' exit' := hj
      rw [goto_pc_self] at hpc'
      cases hpc'
    · exact h.closes j fd' out' exit' ((hnew j hji).symm.trans hj)

theorem FdInv.finish {i : Nat} {out : List (List Char)} {exit : FileExit} (h : FdInv c)
    (hpc : c.pc i = .finishing out exit) :
    FdInv { c.goto i .idle with log := c.log ++ [⟨exit, out⟩] } := by
  have hi : (c.pc i).fd = exit.left := by rw [hpc]; rfl
  have hnew : ∀ j, j ≠ i → (c.goto i .idle).pc j = c.pc j := fun j hj => goto_pc_ne c _ hj
  have hold : ∀ j fd, ((c.goto i .idle).pc j).fd = some fd → j ≠ i ∧ (c.pc j).fd = some fd := by
    intro j fd hj
    rcases eq_or_ne j i with rfl | hji
    · rw [goto_pc_self] at hj
      cases hj
    · exact ⟨hji, (congrArg FilePc.fd (hnew j hji)).symm.trans hj⟩
  have hleft : leftOpen { c.goto i .idle with log := c.log ++ [⟨exit, out⟩] }
      = c.leftOpen ++ exit.left.toList := by
    rw [leftOpen, List.filterMap_append, leftOpen]
    cases hexit : exit.left with
    | none => simp [hexit]
    | some fd => simp [hexit]
  have hmem : ∀ fd, fd ∈ c.leftOpen ++ exit.left.toList ↔ fd ∈ c.leftOpen ∨ exit.left = some fd := by
    intro fd
    rw [List.mem_append, Option.mem_toList]
  refine ⟨fun fd => ?_, fun j k fd hj hk => ?_, fun j fd hj hl => ?_, ?_,
    fun j fd out' exit' hj => ?_⟩
  · rw [hleft, hmem, ← hi]
    show fd ∈ c.fds ↔ _
    rw [h.owned fd]
    constructor
    · rintro (⟨j, hj⟩ | hl)
      · rcases eq_or_ne j i with rfl | hji
        · exact .inr (.inr hj)
        · exact .inl ⟨j, (congrArg FilePc.fd (hnew j hji)).trans hj⟩
      · exact .inr (.inl hl)
    · rintro (⟨j, hj⟩ | hl | hj)
      · exact .inl ⟨j, (hold j fd hj).2⟩
      · exact .inr hl
      · exact .inl ⟨i, hj⟩
  · exact h.apart j k fd (hold j fd hj).2 (hold k fd hk).2
  · obtain ⟨hji, hj⟩ := hold j fd hj
    rw [hleft, hmem, ← hi] at hl
    rcases hl with hl | hl
    · exact h.fresh j fd hj hl
    · exact hji (h.apart j i fd hj hl)
  · rw [hleft]
    cases hexit : exit.left with
    | none =>
      rw [Option.toList_none, List.append_nil]
      exact h.once
    | some fd =>
      rw [Option.toList_some, List.nodup_append]
      refine ⟨h.once, List.nodup_singleton fd, fun a ha b hb => ?_⟩
      rw [List.mem_singleton.mp hb]
      exact fun heq => h.fresh i fd (hi.trans hexit) (heq ▸ ha)
  · rcases eq_or_ne j i with rfl | hji
    · have hpc' : (c.goto j .idle).pc j = .closing fd out' exit' := hj
      rw [goto_pc_self] at hpc'
      cases hpc'
    · exact h.closes j fd out' exit' ((hnew j hji).symm.trans hj)

theorem FdInv.step {c' : FileServer} {a : Nat × FileInput} (h : FdInv c)
    (hst : FileServer.step file c a = some c') : FdInv c' := by
  obtain ⟨i, l⟩ := a
  rcases step_cases hst with ⟨hpc, rfl⟩ | ⟨hpc, rfl⟩ | ⟨fd, hpc, hfd, rfl⟩ | ⟨fd, hpc, rfl | rfl⟩ |
    ⟨fd, hpc, ⟨tm, timeStr, ht, rfl⟩ | rfl⟩ | ⟨fd, out, off, hpc, rfl | rfl | ⟨-, rfl⟩⟩ |
    ⟨fd, out, off, n, hpc, -, rfl⟩ | ⟨fd, out, off, readRet, hpc, rfl⟩ |
    ⟨fd, out, exit, hpc, rfl⟩ | ⟨out, exit, hpc, rfl⟩
  · exact h.goto (by rw [hpc]; rfl) (by intros; contradiction)
  · exact h.goto (by rw [hpc]; rfl) (by intros; contradiction)
  · exact h.opens (by rw [hpc]; rfl) hfd
  · exact h.goto (by rw [hpc]; rfl) (by intros; contradiction)
  · exact h.goto (by rw [hpc]; rfl) (by intros; contradiction)
  · exact h.goto (by rw [hpc]; rfl) (by intros; contradiction)
  · exact h.goto (by rw [hpc]; rfl) (by intros; contradiction)
  · exact h.goto (congrArg FilePc.fd hpc).symm (by intros; contradiction)
  · refine h.goto (by rw [hpc]; rfl) (fun fd' out' exit heq => ?_)
    cases heq
    rfl
  · refine h.goto (by rw [hpc]; rfl) (fun fd' out' exit heq => ?_)
    cases heq
    rfl
  · exact (h.goto (by rw [hpc]; rfl) (by intros; contradiction)).fill
  · exact h.goto (by rw [hpc]; rfl) (by intros; contradiction)
  · exact h.closed hpc
  · exact h.finish hpc

theorem fdInv_init (h : (sys file).init c) : FdInv c := by
  obtain ⟨-, hfds, hidle, hlog⟩ := h
  have hnone : ∀ i fd, (c.pc i).fd ≠ some fd := by
    intro i fd hi
    rw [hidle i] at hi
    cases hi
  have hleft : c.leftOpen = [] := by rw [leftOpen, hlog]; rfl
  refine ⟨fun fd => ?_, fun i j fd hi => absurd hi (hnone i fd), fun i fd hi => absurd hi (hnone i fd),
    hleft ▸ List.nodup_nil, fun i fd out exit hi => ?_⟩
  · rw [hfds, hleft]
    exact iff_of_false (Finset.notMem_empty fd)
      (fun hfd => hfd.elim (fun ⟨i, hi⟩ => hnone i fd hi) List.not_mem_nil)
  · rw [hidle i] at hi
    cases hi

end

theorem fds_of_reach {file : List Char} {c : FileServer} (h : Reach (sys file) Any c) : FdInv c :=
  h.invariant (fun _ hs => fdInv_init hs) (fun _ _ _ hI _ hst => hI.step hst)

/-- **What stays open**: in every run the open descriptors are those of workers on their
way and those of requests that failed between `open` and the first line; when all workers
are idle there is one for each such request. -/
theorem file_descriptors {file : List Char} {c : FileServer} (h : Reach (sys file) Any c) :
    (∀ fd, fd ∈ c.fds ↔
      (∃ i, (c.pc i).fd = some fd) ∨ ∃ a ∈ c.log, a.exit = .notStated fd ∨ a.exit = .notDated fd) ∧
    ((∀ i, c.pc i = .idle) → c.fds.card = c.log.countP (fun a => a.exit.left.isSome)) := by
  have hinv := fds_of_reach h
  have hmem : ∀ fd, fd ∈ c.leftOpen ↔
      ∃ a ∈ c.log, a.exit = .notStated fd ∨ a.exit = .notDated fd := by
    intro fd
    rw [leftOpen, List.mem_filterMap]
    refine exists_congr (fun a => and_congr_right (fun _ => ?_))
    cases a.exit <;> simp [FileExit.left]
  refine ⟨fun fd => (hinv.owned fd).trans (or_congr_right (hmem fd)), fun hidle => ?_⟩
  have hfds : c.fds = c.leftOpen.toFinset := by
    refine Finset.ext (fun fd => ?_)
    rw [hinv.owned fd, List.mem_toFinset]
    refine or_iff_right ?_
    rintro ⟨i, hi⟩
    rw [hidle i] at hi
    cases hi
  rw [hfds, List.toFinset_card_of_nodup hinv.once, leftOpen, List.length_filterMap_eq_countP]

/-- A request whose `fstat` failed. -/
theorem file_descriptors_failedStat : ∃ c : FileServer, Reach (sys []) Any c ∧
    (∀ i, c.pc i = .idle) ∧ c.fds.card = 1 := by
  obtain ⟨c, hreach, hothers, hP⟩ := reach_alone [] (i := 0)
    (fun c => c.pc 0 == .idle && c.log.countP (fun a => a.exit.left.isSome) == 1)
    [(0, .accept), (0, .opens (some 7)), (0, .fstat false), (0, .go)] (by decide) (by decide)
  rw [Bool.and_eq_true] at hP
  have hidle : ∀ i, c.pc i = .idle := by
    intro i
    rcases eq_or_ne i 0 with rfl | hi
    · exact eq_of_beq hP.1
    · exact hothers i hi
  have hany : Reach (sys []) Any c := hreach.mono (fun _ _ _ => trivial)
  refine ⟨c, hany, hidle, ?_⟩
  rw [(file_descriptors hany).2 hidle]
  exact eq_of_beq hP.2

end FileServer

end Opaleye.Http
