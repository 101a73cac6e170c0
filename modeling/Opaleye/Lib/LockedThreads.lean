import Opaleye.Lib.TransSys

/-!
# Threads that share one mutex

Any number of threads run the same program on a shared state.  What a thread
does next is a `Move`: it goes to another place in its program, it takes the
mutex, it works on the shared state while it has the mutex, or it gives the
mutex back.  A thread that does not own the mutex may look at the shared state
(a `goto` may depend on it) but cannot change it.  Besides, interrupts change
the shared state at any time, mutex or not.

`LockedThreads` carries the proof that its moves respect the places that own
the mutex, so mutual exclusion (`Config.Excl`) is a property of every such
program.  Two rules give invariants.

* `reach_locked`, for any number of threads: a property `Free` of the shared
  state while nobody has the mutex, a property `Locked` of it at each owning
  place, and a property `Local` of the other places.  The latter cannot speak
  of the shared state, which others may change.
* `reach_alone`, for runs of a single thread: one property of its place and
  the shared state together.

In both rules a side condition on the thread's place and the shared state
before each move selects the runs.
-/

/-- One atomic step of a thread. -/
inductive Move (π σ : Type)
  | blocked
  | goto (q : π)
  | lock (q : π)
  | crit (q : π) (st : σ)
  | unlock (q : π)

/-- A move of a program whose places are part of a larger one. -/
def Move.map {π π' σ : Type} (f : π → π') : Move π σ → Move π' σ
  | .blocked => .blocked
  | .goto q => .goto (f q)
  | .lock q => .lock (f q)
  | .crit q st => .crit (f q) st
  | .unlock q => .unlock (f q)

/-- A move of a program whose shared state is part of a larger one. -/
def Move.mapShared {π σ τ : Type} (f : σ → τ) : Move π σ → Move π τ
  | .blocked => .blocked
  | .goto q => .goto q
  | .lock q => .lock q
  | .crit q st => .crit q (f st)
  | .unlock q => .unlock q

/-- The place and the shared state that a move leads to. -/
def Move.dest {π σ : Type} (st : σ) : Move π σ → Option (π × σ)
  | .blocked => none
  | .goto q => some (q, st)
  | .lock q => some (q, st)
  | .crit q st' => some (q, st')
  | .unlock q => some (q, st)

/-- `ι` labels the inputs a thread's step may take, `ε` the interrupts. -/
structure LockedThreads (π σ ι ε : Type) where
  start : π
  owns : π → Bool
  next : ι → π → σ → Move π σ
  interrupt : ε → σ → Option σ
  start_free : owns start = false
  next_owns : ∀ l p st, match next l p st with
    | .blocked => True
    | .goto q => owns p = false ∧ owns q = false
    | .lock q => owns p = false ∧ owns q = true
    | .crit q _ => owns p = true ∧ owns q = true
    | .unlock q => owns p = true ∧ owns q = false

namespace LockedThreads

variable {π σ ι ε : Type}

structure Config (π σ : Type) where
  shared : σ
  mutex : Option Nat
  pc : Nat → π

inductive Act (ι ε : Type)
  | thread (i : Nat) (l : ι)
  | interrupt (e : ε)

def Config.goto (c : Config π σ) (i : Nat) (q : π) : Config π σ :=
  { c with pc := Function.update c.pc i q }

@[simp] theorem Config.goto_pc_self (c : Config π σ) (i : Nat) (q : π) :
    (c.goto i q).pc i = q := by
  simp [Config.goto]

@[simp] theorem Config.goto_pc_ne (c : Config π σ) {i j : Nat} (q : π) (h : j ≠ i) :
    (c.goto i q).pc j = c.pc j := by
  simp [Config.goto, h]

variable (P : LockedThreads π σ ι ε)

def step (c : Config π σ) : Act ι ε → Option (Config π σ)
  | .thread i l =>
    match P.next l (c.pc i) c.shared with
    | .blocked => none
    | .goto q => some (c.goto i q)
    | .lock q => if c.mutex.isNone then some { c.goto i q with mutex := some i } else none
    | .crit q st => some { c.goto i q with shared := st }
    | .unlock q => some { c.goto i q with mutex := none }
  | .interrupt e => (P.interrupt e c.shared).map (fun st => { c with shared := st })

/-- All threads at the start of their program, the mutex free. -/
def boot (st : σ) : Config π σ := ⟨st, none, fun _ => P.start⟩

def sys (st : σ) : TransSys (Config π σ) (Act ι ε) where
  init := fun c => c = P.boot st
  step := P.step

theorem sys_step (st : σ) : (P.sys st).step = P.step := rfl

/-! ### Which moves own the mutex -/

section owns

variable {P} {l : ι} {p q : π} {st st' : σ}

theorem owns_of_goto (h : P.next l p st = .goto q) : P.owns p = false ∧ P.owns q = false := by
  have ho := P.next_owns l p st
  rwa [h] at ho

theorem owns_of_lock (h : P.next l p st = .lock q) : P.owns p = false ∧ P.owns q = true := by
  have ho := P.next_owns l p st
  rwa [h] at ho

theorem owns_of_crit (h : P.next l p st = .crit q st') : P.owns p = true ∧ P.owns q = true := by
  have ho := P.next_owns l p st
  rwa [h] at ho

theorem owns_of_unlock (h : P.next l p st = .unlock q) : P.owns p = true ∧ P.owns q = false := by
  have ho := P.next_owns l p st
  rwa [h] at ho

end owns

/-! ### What one step does -/

/-- **Everything a step can do.** -/
theorem step_cases {c c' : Config π σ} {a : Act ι ε} (h : P.step c a = some c') :
    (∃ i l q, a = .thread i l ∧ P.next l (c.pc i) c.shared = .goto q ∧ c' = c.goto i q) ∨
    (∃ i l q, a = .thread i l ∧ P.next l (c.pc i) c.shared = .lock q ∧ c.mutex = none ∧
      c' = { c.goto i q with mutex := some i }) ∨
    (∃ i l q st, a = .thread i l ∧ P.next l (c.pc i) c.shared = .crit q st ∧
      c' = { c.goto i q with shared := st }) ∨
    (∃ i l q, a = .thread i l ∧ P.next l (c.pc i) c.shared = .unlock q ∧
      c' = { c.goto i q with mutex := none }) ∨
    (∃ e st, a = .interrupt e ∧ P.interrupt e c.shared = some st ∧
      c' = { c with shared := st }) := by
  cases a with
  | thread i l =>
    cases hn : P.next l (c.pc i) c.shared with
    | blocked => simp [step, hn] at h
    | goto q =>
      simp only [step, hn, Option.some.injEq] at h
      exact Or.inl ⟨i, l, q, rfl, hn, h.symm⟩
    | lock q =>
      simp only [step, hn] at h
      split at h
      · next hm => exact Or.inr (Or.inl ⟨i, l, q, rfl, hn, by simpa using hm, by simpa using h.symm⟩)
      · simp at h
    | crit q st =>
      simp only [step, hn, Option.some.injEq] at h
      exact Or.inr (Or.inr (Or.inl ⟨i, l, q, st, rfl, hn, h.symm⟩))
    | unlock q =>
      simp only [step, hn, Option.some.injEq] at h
      exact Or.inr (Or.inr (Or.inr (Or.inl ⟨i, l, q, rfl, hn, h.symm⟩)))
  | interrupt e =>
    cases he : P.interrupt e c.shared with
    | none => simp [step, he] at h
    | some st =>
      simp only [step, he, Option.map_some, Option.some.injEq] at h
      exact Or.inr (Or.inr (Or.inr (Or.inr ⟨e, st, rfl, he, h.symm⟩)))

theorem step_goto {c : Config π σ} {i : Nat} {l : ι} {q : π}
    (h : P.next l (c.pc i) c.shared = .goto q) :
    P.step c (.thread i l) = some (c.goto i q) := by
  rw [step, h]

theorem step_dest {c c' : Config π σ} {i : Nat} {l : ι} (h : P.step c (.thread i l) = some c') :
    ∃ q, (P.next l (c.pc i) c.shared).dest c.shared = some (q, c'.shared) ∧
      c'.pc = Function.update c.pc i q := by
  rcases P.step_cases h with ⟨k, m, q, ha, hn, rfl⟩ | ⟨k, m, q, ha, hn, -, rfl⟩ |
    ⟨k, m, q, st, ha, hn, rfl⟩ | ⟨k, m, q, ha, hn, rfl⟩ | ⟨e, st, ha, -, rfl⟩
  · obtain ⟨rfl, rfl⟩ := Act.thread.inj ha
    exact ⟨q, by rw [hn]; rfl, rfl⟩
  · obtain ⟨rfl, rfl⟩ := Act.thread.inj ha
    exact ⟨q, by rw [hn]; rfl, rfl⟩
  · obtain ⟨rfl, rfl⟩ := Act.thread.inj ha
    exact ⟨q, by rw [hn]; rfl, rfl⟩
  · obtain ⟨rfl, rfl⟩ := Act.thread.inj ha
    exact ⟨q, by rw [hn]; rfl, rfl⟩
  · cases ha

theorem pc_of_step_ne {c c' : Config π σ} {i j : Nat} {l : ι}
    (h : P.step c (.thread i l) = some c') (hj : j ≠ i) : c'.pc j = c.pc j := by
  rcases P.step_cases h with ⟨k, m, q, ha, -, rfl⟩ | ⟨k, m, q, ha, -, -, rfl⟩ |
    ⟨k, m, q, st, ha, -, rfl⟩ | ⟨k, m, q, ha, -, rfl⟩ | ⟨e, st, ha, -, rfl⟩
  · obtain ⟨rfl, -⟩ := Act.thread.inj ha
    exact Config.goto_pc_ne c q hj
  · obtain ⟨rfl, -⟩ := Act.thread.inj ha
    exact Config.goto_pc_ne c q hj
  · obtain ⟨rfl, -⟩ := Act.thread.inj ha
    exact Config.goto_pc_ne c q hj
  · obtain ⟨rfl, -⟩ := Act.thread.inj ha
    exact Config.goto_pc_ne c q hj
  · cases ha

theorem pc_of_interrupt {c c' : Config π σ} {e : ε} (h : P.step c (.interrupt e) = some c') :
    c'.pc = c.pc := by
  simp only [step, Option.map_eq_some_iff] at h
  obtain ⟨st, -, rfl⟩ := h
  rfl

theorem run_thread (s₀ s : σ) (m : Option Nat) (pc : Nat → π) (i : Nat) (p : π) (l : ι)
    (as : List (Act ι ε)) :
    (P.sys s₀).run ⟨s, m, Function.update pc i p⟩ (.thread i l :: as) =
      match P.next l p s with
      | .blocked => none
      | .goto q => (P.sys s₀).run ⟨s, m, Function.update pc i q⟩ as
      | .lock q =>
        if m.isNone then (P.sys s₀).run ⟨s, some i, Function.update pc i q⟩ as else none
      | .crit q s' => (P.sys s₀).run ⟨s', m, Function.update pc i q⟩ as
      | .unlock q => (P.sys s₀).run ⟨s, none, Function.update pc i q⟩ as := by
  rw [TransSys.run_cons, sys_step]
  simp only [step, Function.update_self]
  cases P.next l p s with
  | blocked => rfl
  | goto q => simp only [Config.goto, Function.update_idem, Option.bind_some]
  | lock q =>
    by_cases hm : m.isNone = true
    · simp only [hm, if_true, Config.goto, Function.update_idem, Option.bind_some]
    · simp only [hm, if_false, Bool.false_eq_true, Option.bind_none]
  | crit q s' => simp only [Config.goto, Function.update_idem, Option.bind_some]
  | unlock q => simp only [Config.goto, Function.update_idem, Option.bind_some]

/-! ### Mutual exclusion -/

/-- A thread is at an owning place exactly when it has the mutex. -/
def Excl (c : Config π σ) : Prop := ∀ i, P.owns (c.pc i) = true ↔ c.mutex = some i

theorem excl_boot (st : σ) : P.Excl (P.boot st) := by
  intro i
  simp [boot, P.start_free]

theorem Excl.of_pc {c c' : Config π σ} (h : P.Excl c) {i : Nat} {q : π}
    (hpc : c'.pc = Function.update c.pc i q) (hi : P.owns q = true ↔ c'.mutex = some i)
    (hm : ∀ j, j ≠ i → (c'.mutex = some j ↔ c.mutex = some j)) : P.Excl c' := by
  intro j
  by_cases hj : j = i
  · subst hj
    rw [hpc, Function.update_self]
    exact hi
  · rw [hpc, Function.update_of_ne hj, hm j hj]
    exact h j

theorem Excl.step {c c' : Config π σ} {a : Act ι ε} (h : P.Excl c) (hs : P.step c a = some c') :
    P.Excl c' := by
  rcases P.step_cases hs with ⟨i, l, q, -, hn, rfl⟩ | ⟨i, l, q, -, hn, hm, rfl⟩ |
    ⟨i, l, q, st, -, hn, rfl⟩ | ⟨i, l, q, -, hn, rfl⟩ | ⟨e, st, -, -, rfl⟩
  · have ho := owns_of_goto hn
    exact h.of_pc P rfl (by rw [ho.2, ← ho.1]; exact h i) (fun _ _ => Iff.rfl)
  · have ho := owns_of_lock hn
    exact h.of_pc P rfl (by simp [ho.2]) (fun j hj => by simp [hm, Ne.symm hj])
  · have ho := owns_of_crit hn
    exact h.of_pc P rfl ⟨fun _ => (h i).mp ho.1, fun _ => ho.2⟩ (fun _ _ => Iff.rfl)
  · have ho := owns_of_unlock hn
    have hi := (h i).mp ho.1
    exact h.of_pc P rfl (by simp [ho.2]) (fun j hj => by simp [hi, Ne.symm hj])
  · exact h

/-! ### The rule for any number of threads -/

/-- A side condition on the thread that moves. -/
def Meeting (C : ι → π → σ → Prop) : Config π σ → Act ι ε → Prop
  | c, .thread i l => C l (c.pc i) c.shared
  | _, .interrupt _ => True

instance decidableMeeting {C : ι → π → σ → Prop} [∀ l p st, Decidable (C l p st)] :
    ∀ (c : Config π σ) (a : Act ι ε), Decidable (Meeting C c a)
  | c, .thread i l => inferInstanceAs (Decidable (C l (c.pc i) c.shared))
  | _, .interrupt _ => isTrue trivial

/-- What has to be checked of single moves. -/
structure LockInv (C : ι → π → σ → Prop) (Free : σ → Prop) (Locked : π → σ → Prop)
    (Local : π → Prop) : Prop where
  start : Local P.start
  goto : ∀ {l p st q}, C l p st → Local p → P.next l p st = .goto q → Local q
  lock : ∀ {l p st q}, C l p st → Local p → Free st → P.next l p st = .lock q → Locked q st
  crit : ∀ {l p st q st'}, C l p st → Locked p st → P.next l p st = .crit q st' → Locked q st'
  unlock : ∀ {l p st q}, C l p st → Locked p st → P.next l p st = .unlock q → Free st ∧ Local q
  intr_free : ∀ {e st st'}, Free st → P.interrupt e st = some st' → Free st'
  intr_locked : ∀ {e p st st'}, Locked p st → P.interrupt e st = some st' → Locked p st'

/-- What then holds of every state reached. -/
structure Guarded (Free : σ → Prop) (Locked : π → σ → Prop) (Local : π → Prop)
    (c : Config π σ) : Prop where
  excl : P.Excl c
  free : c.mutex = none → Free c.shared
  locked : ∀ i, c.mutex = some i → Locked (c.pc i) c.shared
  loc : ∀ i, P.owns (c.pc i) = false → Local (c.pc i)

variable {P} {C : ι → π → σ → Prop} {Free : σ → Prop} {Locked : π → σ → Prop} {Local : π → Prop}

section GuardedStep

variable {c c' : Config π σ} {a : Act ι ε}

theorem Guarded.step_free (hI : P.LockInv C Free Locked Local)
    (h : P.Guarded Free Locked Local c) (hc : Meeting C c a) (hs : P.step c a = some c')
    (hm' : c'.mutex = none) : Free c'.shared := by
  rcases P.step_cases hs with ⟨i, l, q, rfl, hn, rfl⟩ | ⟨i, l, q, rfl, hn, hm, rfl⟩ |
    ⟨i, l, q, st, rfl, hn, rfl⟩ | ⟨i, l, q, rfl, hn, rfl⟩ | ⟨e, st, rfl, hi, rfl⟩
  · exact h.free hm'
  · exact absurd hm' (by simp)
  · -- the thread has the mutex
    have hmi := (h.excl i).mp (owns_of_crit hn).1
    exact absurd (hmi.symm.trans hm') (by simp)
  · exact (hI.unlock hc (h.locked i ((h.excl i).mp (owns_of_unlock hn).1)) hn).1
  · exact hI.intr_free (h.free hm') hi

theorem Guarded.step_locked (hI : P.LockInv C Free Locked Local)
    (h : P.Guarded Free Locked Local c) (hc : Meeting C c a) (hs : P.step c a = some c')
    (j : Nat) (hj : c'.mutex = some j) : Locked (c'.pc j) c'.shared := by
  rcases P.step_cases hs with ⟨i, l, q, rfl, hn, rfl⟩ | ⟨i, l, q, rfl, hn, hm, rfl⟩ |
    ⟨i, l, q, st, rfl, hn, rfl⟩ | ⟨i, l, q, rfl, hn, rfl⟩ | ⟨e, st, rfl, hi, rfl⟩
  · -- another thread has the mutex
    have hji : j ≠ i := by
      rintro rfl
      exact absurd ((h.excl j).mpr hj) (by rw [(owns_of_goto hn).1]; simp)
    rw [Config.goto_pc_ne c q hji]
    exact h.locked j hj
  · obtain rfl : i = j := by simpa using hj
    simpa [Config.goto] using hI.lock hc (h.loc i (owns_of_lock hn).1) (h.free hm) hn
  · have hmi := (h.excl i).mp (owns_of_crit hn).1
    obtain rfl : i = j := Option.some.inj (hmi.symm.trans hj)
    simpa [Config.goto] using hI.crit hc (h.locked i hmi) hn
  · exact absurd hj (by simp)
  · exact hI.intr_locked (h.locked j hj) hi

theorem Guarded.loc_goto (h : P.Guarded Free Locked Local c) {i : Nat} {q : π}
    (hq : P.owns q = false → Local q) (j : Nat) (hj : P.owns ((c.goto i q).pc j) = false) :
    Local ((c.goto i q).pc j) := by
  by_cases hji : j = i
  · subst hji
    rw [Config.goto_pc_self] at hj ⊢
    exact hq hj
  · rw [Config.goto_pc_ne c q hji] at hj ⊢
    exact h.loc j hj

theorem Guarded.step_loc (hI : P.LockInv C Free Locked Local)
    (h : P.Guarded Free Locked Local c) (hc : Meeting C c a) (hs : P.step c a = some c')
    (j : Nat) (hj : P.owns (c'.pc j) = false) : Local (c'.pc j) := by
  rcases P.step_cases hs with ⟨i, l, q, rfl, hn, rfl⟩ | ⟨i, l, q, rfl, hn, hm, rfl⟩ |
    ⟨i, l, q, st, rfl, hn, rfl⟩ | ⟨i, l, q, rfl, hn, rfl⟩ | ⟨e, st, rfl, hi, rfl⟩
  · exact h.loc_goto (fun _ => hI.goto hc (h.loc i (owns_of_goto hn).1) hn) j hj
  · exact h.loc_goto (fun hq => absurd ((owns_of_lock hn).2.symm.trans hq) (by simp)) j hj
  · exact h.loc_goto (fun hq => absurd ((owns_of_crit hn).2.symm.trans hq) (by simp)) j hj
  · have hmi := (h.excl i).mp (owns_of_unlock hn).1
    exact h.loc_goto (fun _ => (hI.unlock hc (h.locked i hmi) hn).2) j hj
  · exact h.loc j hj

theorem Guarded.step (hI : P.LockInv C Free Locked Local) (h : P.Guarded Free Locked Local c)
    (hc : Meeting C c a) (hs : P.step c a = some c') : P.Guarded Free Locked Local c' :=
  ⟨h.excl.step P hs, h.step_free hI hc hs, h.step_locked hI hc hs, h.step_loc hI hc hs⟩

end GuardedStep

/-- **The lock rule.** -/
theorem reach_locked (hI : P.LockInv C Free Locked Local) {st : σ} (h0 : Free st)
    {c : Config π σ} (h : (P.sys st).Reach (Meeting C) c) : P.Guarded Free Locked Local c := by
  refine h.invariant (fun c hc => ?_) (fun c a c' hg hc hs => hg.step hI hc hs)
  obtain rfl : c = P.boot st := hc
  exact ⟨P.excl_boot st, fun _ => h0, fun i hm => by simp [boot] at hm, fun _ _ => hI.start⟩

theorem reach_shared {I : σ → Prop}
    (hcrit : ∀ {l p st q st'}, I st → P.next l p st = .crit q st' → I st')
    (hintr : ∀ {e st st'}, I st → P.interrupt e st = some st' → I st') {st : σ} (h0 : I st)
    {D : Config π σ → Act ι ε → Prop} {c : Config π σ} (h : (P.sys st).Reach D c) : I c.shared := by
  refine h.invariant (I := fun c => I c.shared) (fun c hc => ?_) (fun c a c' hg _ hs => ?_)
  · obtain rfl : c = P.boot st := hc
    exact h0
  · rcases P.step_cases hs with ⟨i, l, q, -, -, rfl⟩ | ⟨i, l, q, -, -, -, rfl⟩ |
      ⟨i, l, q, st', -, hn, rfl⟩ | ⟨i, l, q, -, -, rfl⟩ | ⟨e, st', -, hi, rfl⟩
    · exact hg
    · exact hg
    · exact hcrit hg hn
    · exact hg
    · exact hintr hg hi

/-! ### What threads have seen -/

/-- What has to be checked for a property `Seen` of each thread's place that may speak of the shared
state, mutex or not: whoever works on that keeps it for all others. -/
structure SeenInv (P : LockedThreads π σ ι ε) (C : ι → π → σ → Prop) (Locked : π → σ → Prop)
    (Seen : π → σ → Prop) : Prop where
  start : ∀ st, Seen P.start st
  goto : ∀ {l p st q}, C l p st → Seen p st → P.next l p st = .goto q → Seen q st
  lock : ∀ {l p st q}, C l p st → Seen p st → P.next l p st = .lock q → Seen q st
  crit : ∀ {l p st q st'}, C l p st → Locked p st → Seen p st → P.next l p st = .crit q st' →
    Seen q st' ∧ ∀ r, Seen r st → Seen r st'
  unlock : ∀ {l p st q}, C l p st → Locked p st → Seen p st → P.next l p st = .unlock q → Seen q st
  intr : ∀ {e st st' r}, P.interrupt e st = some st' → Seen r st → Seen r st'

/-- **The rule for what threads have seen.** -/
theorem reach_seen (hI : P.LockInv C Free Locked Local) {Seen : π → σ → Prop}
    (hS : P.SeenInv C Locked Seen) {st : σ} (h0 : Free st) {c : Config π σ}
    (h : (P.sys st).Reach (Meeting C) c) : ∀ i, Seen (c.pc i) c.shared := by
  refine (h.invariant (I := fun c => P.Guarded Free Locked Local c ∧
    ∀ i, Seen (c.pc i) c.shared) (fun c hc => ?_)
    (fun c a c' hg hc hs => ⟨hg.1.step hI hc hs, ?_⟩)).2
  · obtain rfl : c = P.boot st := hc
    exact ⟨⟨P.excl_boot st, fun _ => h0, fun i hm => by simp [boot] at hm, fun _ _ => hI.start⟩,
      fun _ => hS.start st⟩
  · obtain ⟨hg, hseen⟩ := hg
    -- the thread that moves, and the others
    have hboth : ∀ (i : Nat) (q : π) (st' : σ), Seen q st' → (∀ r, Seen r c.shared → Seen r st') →
        ∀ j, Seen ((c.goto i q).pc j) st' := by
      intro i q st' hq hr j
      by_cases hji : j = i
      · subst hji
        rw [Config.goto_pc_self]
        exact hq
      · rw [Config.goto_pc_ne c q hji]
        exact hr _ (hseen j)
    rcases P.step_cases hs with ⟨i, l, q, rfl, hn, rfl⟩ | ⟨i, l, q, rfl, hn, hm, rfl⟩ |
      ⟨i, l, q, st, rfl, hn, rfl⟩ | ⟨i, l, q, rfl, hn, rfl⟩ | ⟨e, st, rfl, hi, rfl⟩
    · exact hboth i q c.shared (hS.goto hc (hseen i) hn) (fun _ h => h)
    · exact hboth i q c.shared (hS.lock hc (hseen i) hn) (fun _ h => h)
    · have hmi := (hg.excl i).mp (owns_of_crit hn).1
      obtain ⟨hq, hr⟩ := hS.crit hc (hg.locked i hmi) (hseen i) hn
      exact hboth i q st hq hr
    · have hmi := (hg.excl i).mp (owns_of_unlock hn).1
      exact hboth i q c.shared (hS.unlock hc (hg.locked i hmi) (hseen i) hn) (fun _ h => h)
    · exact fun j => hS.intr hi (hseen j)

/-! ### Threads that work under their own name -/

/-- The same threads, each from a place of its own. -/
def sysFrom (pc : Nat → π) (st : σ) : TransSys (Config π σ) (Act ι ε) where
  init := fun c => c = ⟨st, none, pc⟩
  step := P.step

/-- What has to be checked when each thread has a name, which stays.  `Mine` is what a thread knows
of the shared state: whoever works on that keeps it for threads with another name. -/
structure NameInv {κ : Type} (P : LockedThreads π σ ι ε) (C : ι → π → σ → Prop) (Free : σ → Prop)
    (Locked : π → σ → Prop) (name : π → κ) (Mine : π → σ → Prop) : Prop where
  goto : ∀ {l p st q}, C l p st → Mine p st → P.next l p st = .goto q → Mine q st ∧ name q = name p
  lock : ∀ {l p st q}, C l p st → Free st → Mine p st → P.next l p st = .lock q →
    Locked q st ∧ Mine q st ∧ name q = name p
  crit : ∀ {l p st q st'}, C l p st → Locked p st → Mine p st → P.next l p st = .crit q st' →
    Locked q st' ∧ Mine q st' ∧ name q = name p ∧ ∀ r, name r ≠ name p → Mine r st → Mine r st'
  unlock : ∀ {l p st q}, C l p st → Locked p st → Mine p st → P.next l p st = .unlock q →
    Free st ∧ Mine q st ∧ name q = name p
  intr : ∀ {e st st'}, P.interrupt e st = some st' → st' = st

/-- What then holds of every state reached. -/
structure Apart {κ : Type} (P : LockedThreads π σ ι ε) (Free : σ → Prop) (Locked : π → σ → Prop)
    (name : π → κ) (Mine : π → σ → Prop) (names : Nat → κ) (c : Config π σ) : Prop where
  excl : P.Excl c
  free : c.mutex = none → Free c.shared
  locked : ∀ i, c.mutex = some i → Locked (c.pc i) c.shared
  name_eq : ∀ i, name (c.pc i) = names i
  mine : ∀ i, Mine (c.pc i) c.shared

section named

variable {κ : Type} {name : π → κ} {Mine : π → σ → Prop} {names : Nat → κ} {c c' : Config π σ}

theorem Apart.of_pc (h : P.Apart Free Locked name Mine names c) {i : Nat} {q : π} {st : σ}
    {m : Option Nat} (hpc : c' = ⟨st, m, Function.update c.pc i q⟩) (hexcl : P.Excl c')
    (hname : name q = name (c.pc i)) (hmine : Mine q st)
    (hothers : ∀ r, name r ≠ name (c.pc i) → Mine r c.shared → Mine r st)
    (hinj : Function.Injective names) (hfree : m = none → Free st)
    (hlocked : ∀ j, m = some j → if j = i then Locked q st else Locked (c.pc j) st) :
    P.Apart Free Locked name Mine names c' := by
  subst hpc
  refine ⟨hexcl, hfree, fun j hj => ?_, fun j => ?_, fun j => ?_⟩
  · have hl := hlocked j hj
    by_cases hji : j = i
    · subst hji
      rw [if_pos rfl] at hl
      simpa using hl
    · rw [if_neg hji] at hl
      simpa [Function.update_of_ne hji] using hl
  · by_cases hji : j = i
    · subst hji
      simpa using hname.trans (h.name_eq j)
    · simpa [Function.update_of_ne hji] using h.name_eq j
  · by_cases hji : j = i
    · subst hji
      simpa using hmine
    · have hne : name (c.pc j) ≠ name (c.pc i) := by
        rw [h.name_eq j, h.name_eq i]
        exact fun heq => hji (hinj heq)
      simpa [Function.update_of_ne hji] using hothers _ hne (h.mine j)

theorem Apart.step (hN : P.NameInv C Free Locked name Mine) (hinj : Function.Injective names)
    (h : P.Apart Free Locked name Mine names c) {a : Act ι ε} (hc : Meeting C c a)
    (hs : P.step c a = some c') : P.Apart Free Locked name Mine names c' := by
  have hexcl := h.excl.step P hs
  rcases P.step_cases hs with ⟨i, l, q, rfl, hn, rfl⟩ | ⟨i, l, q, rfl, hn, hm, rfl⟩ |
    ⟨i, l, q, st, rfl, hn, rfl⟩ | ⟨i, l, q, rfl, hn, rfl⟩ | ⟨e, st, rfl, hi, rfl⟩
  · obtain ⟨hmine, hname⟩ := hN.goto hc (h.mine i) hn
    refine h.of_pc rfl hexcl hname hmine (fun _ _ hr => hr) hinj h.free (fun j hj => ?_)
    have hji : j ≠ i := by
      rintro rfl
      exact absurd ((h.excl j).mpr hj) (by rw [(owns_of_goto hn).1]; simp)
    rw [if_neg hji]
    exact h.locked j hj
  · obtain ⟨hl, hmine, hname⟩ := hN.lock hc (h.free hm) (h.mine i) hn
    refine h.of_pc rfl hexcl hname hmine (fun _ _ hr => hr) hinj (by simp) (fun j hj => ?_)
    rw [if_pos (Option.some.inj hj).symm]
    exact hl
  · have hmi := (h.excl i).mp (owns_of_crit hn).1
    obtain ⟨hl, hmine, hname, hr⟩ := hN.crit hc (h.locked i hmi) (h.mine i) hn
    refine h.of_pc rfl hexcl hname hmine hr hinj (fun hm => absurd (hmi.symm.trans hm) (by simp))
      (fun j hj => ?_)
    rw [if_pos (Option.some.inj (hj.symm.trans hmi))]
    exact hl
  · have hmi := (h.excl i).mp (owns_of_unlock hn).1
    obtain ⟨hf, hmine, hname⟩ := hN.unlock hc (h.locked i hmi) (h.mine i) hn
    exact h.of_pc rfl hexcl hname hmine (fun _ _ hr => hr) hinj (fun _ => hf) (by simp)
  · obtain rfl := hN.intr hi
    exact h

/-- **The rule for threads with names of their own.** -/
theorem reach_named (hN : P.NameInv C Free Locked name Mine) {pc : Nat → π} {st : σ}
    (hinj : Function.Injective fun i => name (pc i)) (hstart : ∀ i, P.owns (pc i) = false)
    (h0 : Free st) (hmine : ∀ i, Mine (pc i) st) (h : (P.sysFrom pc st).Reach (Meeting C) c) :
    P.Apart Free Locked name Mine (fun i => name (pc i)) c := by
  refine h.invariant (fun c hc => ?_) (fun c a c' hg hc hs => hg.step hN hinj hc hs)
  obtain rfl : c = ⟨st, none, pc⟩ := hc
  exact ⟨fun i => by simp [hstart i], fun _ => h0, fun i hm => absurd hm (by simp), fun _ => rfl, hmine⟩

end named

/-! ### The rule for one thread -/

/-- Only thread `i` moves, and its moves meet `C`. -/
def Alone (i : Nat) (C : ι → π → σ → Prop) : Config π σ → Act ι ε → Prop
  | c, .thread j l => j = i ∧ C l (c.pc j) c.shared
  | _, .interrupt _ => True

instance decidableAlone {i : Nat} {C : ι → π → σ → Prop} [∀ l p st, Decidable (C l p st)] :
    ∀ (c : Config π σ) (a : Act ι ε), Decidable (Alone i C c a)
  | c, .thread j l => inferInstanceAs (Decidable (j = i ∧ C l (c.pc j) c.shared))
  | _, .interrupt _ => isTrue trivial

theorem pc_of_alone {i j : Nat} (hj : j ≠ i) {st : σ} {c : Config π σ}
    (h : (P.sys st).Reach (Alone i C) c) : c.pc j = P.start := by
  refine h.invariant (I := fun c => c.pc j = P.start) (fun c hc => ?_)
    (fun c a c' hg hc hs => ?_)
  · obtain rfl : c = P.boot st := hc
    rfl
  · cases a with
    | thread k l =>
      obtain ⟨rfl, -⟩ := hc
      exact (P.pc_of_step_ne hs hj).trans hg
    | interrupt e => exact (congrFun (P.pc_of_interrupt hs) j).trans hg

/-- What has to be checked of the moves of a thread that runs alone. -/
structure AloneInv (P : LockedThreads π σ ι ε) (C : ι → π → σ → Prop) (I : π → σ → Prop) :
    Prop where
  goto : ∀ {l p st q}, C l p st → I p st → P.next l p st = .goto q → I q st
  lock : ∀ {l p st q}, C l p st → I p st → P.next l p st = .lock q → I q st
  crit : ∀ {l p st q st'}, C l p st → I p st → P.next l p st = .crit q st' → I q st'
  unlock : ∀ {l p st q}, C l p st → I p st → P.next l p st = .unlock q → I q st
  intr : ∀ {e p st st'}, I p st → P.interrupt e st = some st' → I p st'

/-- **The rule for a thread alone.** -/
theorem reach_alone {i : Nat} {I : π → σ → Prop} (hI : P.AloneInv C I) {st : σ}
    (h0 : I P.start st) {c : Config π σ} (h : (P.sys st).Reach (Alone i C) c) :
    I (c.pc i) c.shared := by
  refine h.invariant (I := fun c => I (c.pc i) c.shared) (fun c hc => ?_)
    (fun c a c' hg hc hs => ?_)
  · obtain rfl : c = P.boot st := hc
    exact h0
  · rcases P.step_cases hs with ⟨j, l, q, rfl, hn, rfl⟩ | ⟨j, l, q, rfl, hn, -, rfl⟩ |
      ⟨j, l, q, st', rfl, hn, rfl⟩ | ⟨j, l, q, rfl, hn, rfl⟩ | ⟨e, st', rfl, hi, rfl⟩
    · obtain ⟨rfl, hC⟩ := hc
      rw [Config.goto_pc_self]
      exact hI.goto hC hg hn
    · obtain ⟨rfl, hC⟩ := hc
      simpa [Config.goto] using hI.lock hC hg hn
    · obtain ⟨rfl, hC⟩ := hc
      simpa [Config.goto] using hI.crit hC hg hn
    · obtain ⟨rfl, hC⟩ := hc
      simpa [Config.goto] using hI.unlock hC hg hn
    · exact hI.intr hg hi

/-! ### Part of the shared state -/

/-- A configuration with part of its shared state. -/
def Config.mapShared {τ : Type} (f : σ → τ) (c : Config π σ) : Config π τ := ⟨f c.shared, c.mutex, c.pc⟩

theorem step_mapShared {τ ι' : Type} {Q : LockedThreads π τ ι' ε} (f : σ → τ) {c c' : Config π σ}
    {i : Nat} {l : ι} {l' : ι'}
    (hl : (P.next l (c.pc i) c.shared).mapShared f = Q.next l' (c.pc i) (f c.shared))
    (hs : P.step c (.thread i l) = some c') :
    Q.step (c.mapShared f) (.thread i l') = some (c'.mapShared f) := by
  simp only [step, Config.mapShared] at hs ⊢
  rw [← hl]
  cases hn : P.next l (c.pc i) c.shared with
  | blocked => simp [hn] at hs
  | goto q =>
    simp only [hn, Option.some.injEq] at hs
    subst hs
    rfl
  | lock q =>
    simp only [hn] at hs
    split at hs
    · next hm =>
      obtain rfl := Option.some.inj hs
      exact if_pos hm
    · cases hs
  | crit q st =>
    simp only [hn, Option.some.injEq] at hs
    subst hs
    rfl
  | unlock q =>
    simp only [hn, Option.some.injEq] at hs
    subst hs
    rfl

/-- **A program seen through part of its shared state.**  When every move is a move of `Q` on that
part, or works on the rest, the states reached are states that `Q` reaches. -/
theorem reach_part {τ ι' : Type} {Q : LockedThreads π τ ι' ε} (f : σ → τ)
    (hstart : P.start = Q.start)
    (hnext : ∀ l p st, P.next l p st = .blocked ∨ (∃ st', P.next l p st = .crit p st' ∧ f st' = f st) ∨
      ∃ l', (P.next l p st).mapShared f = Q.next l' p (f st))
    (hintr : ∀ e st st', P.interrupt e st = some st' → f st' = f st ∨
      Q.interrupt e (f st) = some (f st'))
    {st : σ} {c : Config π σ} (h : (P.sys st).Reach TransSys.Any c) :
    (Q.sys (f st)).Reach TransSys.Any (c.mapShared f) := by
  refine h.project (Config.mapShared f) (fun c hc => ?_) (fun c a c' hs => ?_)
  · obtain rfl : c = P.boot st := hc
    show (P.boot st).mapShared f = Q.boot (f st)
    rw [boot, boot, hstart]
    rfl
  · cases a with
    | thread i l =>
      rcases hnext l (c.pc i) c.shared with hn | ⟨st', hn, hf⟩ | ⟨l', hl'⟩
      · rw [sys_step, step, hn] at hs
        cases hs
      · left
        rw [sys_step, step, hn] at hs
        obtain rfl := Option.some.inj hs
        simp only [Config.mapShared, Config.goto, Function.update_eq_self, hf]
      · exact Or.inr ⟨.thread i l', step_mapShared f hl' hs⟩
    | interrupt e =>
      rw [sys_step, step, Option.map_eq_some_iff] at hs
      obtain ⟨st', hi, rfl⟩ := hs
      rcases hintr e c.shared st' hi with hf | hf
      · left
        simp only [Config.mapShared, hf]
      · refine Or.inr ⟨.interrupt e, ?_⟩
        rw [sys_step, step, Config.mapShared, hf]
        rfl

end LockedThreads
