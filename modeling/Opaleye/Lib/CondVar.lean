import Opaleye.Lib.TransSys

/-!
# Waiting on a condition variable

Any number of threads wait with `cv.wait(lock, pred)`, and any number of
threads announce that the predicate has become true.  A waiter takes the mutex
and tests the predicate; if it is false, it gives the mutex back and blocks in
one step, and when it is woken it starts over.  It may also be woken for no
reason.  What an announcing thread does is a list of `NotifyOp`s, none of which
takes the mutex, so it may run between a waiter's test and its block.

`notify_all` wakes the threads blocked at that moment.  A waiter that has
tested the predicate but does not block yet is not among them.  `no_lost`
says that this is all that can go wrong: in a run in which no `notify_all`
falls into that gap, nobody is left blocked behind an announcement that has
been made.
-/

/-- One step of an announcing thread. -/
inductive NotifyOp (σ : Type)
  | store (f : σ → σ)
  | notifyAll

/-- Where a waiter is inside `cv.wait(lock, pred)`.  At `test`, `sleep` and
`leave` it has the mutex; `sleep` is the place after a test that failed. -/
inductive WaitPc
  | lock
  | test
  | sleep
  | blocked
  | leave
  | done
  deriving DecidableEq, Repr

namespace WaitPc

/-- `notify_all`, as it looks to one waiter. -/
def wake : WaitPc → WaitPc
  | .blocked => .lock
  | p => p

/-- The waiter has seen the predicate false and will not look again by itself. -/
def Asleep (p : WaitPc) : Prop := p = .sleep ∨ p = .blocked

theorem sleep_of_asleep_wake {p : WaitPc} (h : p.wake.Asleep) : p = .sleep := by
  cases p with
  | sleep => rfl
  | lock => simp [wake, Asleep] at h
  | test => simp [wake, Asleep] at h
  | blocked => simp [wake, Asleep] at h
  | leave => simp [wake, Asleep] at h
  | done => simp [wake, Asleep] at h

end WaitPc

/-- What is waited for, and what an announcing thread does. -/
structure CondVar (σ : Type) where
  pred : σ → Bool
  notifier : List (NotifyOp σ)

namespace CondVar

variable {σ : Type}

/-- `todo n` is what the announcing thread `n` has still to do. -/
structure Config (σ : Type) where
  shared : σ
  mutex : Option Nat
  waiter : Nat → WaitPc
  todo : Nat → List (NotifyOp σ)

inductive Act
  | wait (i : Nat)
  | spurious (i : Nat)
  | notify (n : Nat)
  deriving DecidableEq, Repr

def Config.goto (c : Config σ) (i : Nat) (p : WaitPc) : Config σ :=
  { c with waiter := Function.update c.waiter i p }

def Config.proceed (c : Config σ) (n : Nat) (ops : List (NotifyOp σ)) : Config σ :=
  { c with todo := Function.update c.todo n ops }

@[simp] theorem Config.goto_waiter_self (c : Config σ) (i : Nat) (p : WaitPc) :
    (c.goto i p).waiter i = p := by
  simp [Config.goto]

@[simp] theorem Config.goto_waiter_ne (c : Config σ) {i j : Nat} (p : WaitPc) (h : j ≠ i) :
    (c.goto i p).waiter j = c.waiter j := by
  simp [Config.goto, h]

@[simp] theorem Config.proceed_todo_self (c : Config σ) (n : Nat) (ops : List (NotifyOp σ)) :
    (c.proceed n ops).todo n = ops := by
  simp [Config.proceed]

@[simp] theorem Config.proceed_todo_ne (c : Config σ) {n m : Nat} (ops : List (NotifyOp σ))
    (h : m ≠ n) : (c.proceed n ops).todo m = c.todo m := by
  simp [Config.proceed, h]

variable (V : CondVar σ)

def waitStep (c : Config σ) (i : Nat) : Option (Config σ) :=
  match c.waiter i with
  | .lock => if c.mutex.isNone then some { c.goto i .test with mutex := some i } else none
  | .test => some (c.goto i (if V.pred c.shared then .leave else .sleep))
  | .sleep => some { c.goto i .blocked with mutex := none }
  | .blocked => none
  | .leave => some { c.goto i .done with mutex := none }
  | .done => none

def notifyStep (c : Config σ) (n : Nat) : Option (Config σ) :=
  match c.todo n with
  | [] => none
  | .store f :: ops => some { c.proceed n ops with shared := f c.shared }
  | .notifyAll :: ops => some { c.proceed n ops with waiter := fun i => (c.waiter i).wake }

def step (c : Config σ) : Act → Option (Config σ)
  | .wait i => V.waitStep c i
  | .spurious i => if c.waiter i = .blocked then some (c.goto i .lock) else none
  | .notify n => notifyStep c n

/-- Nobody has begun. -/
def boot (s : σ) : Config σ := ⟨s, none, fun _ => .lock, fun _ => V.notifier⟩

def sys (s : σ) : TransSys (Config σ) Act where
  init := fun c => c = V.boot s
  step := V.step

/-- Somebody is blocked although the predicate holds and an announcing thread
has finished. -/
def Lost (c : Config σ) : Prop :=
  ∃ i n, c.waiter i = .blocked ∧ V.pred c.shared = true ∧ c.todo n = []

/-- No `notify_all` is made while a waiter stands between its test and its
block. -/
def NotifySeen (c : Config σ) (a : Act) : Prop :=
  ∀ n ops, a = .notify n → c.todo n = .notifyAll :: ops → ∀ i, c.waiter i ≠ .sleep

/-- The announcing thread makes the predicate true, then calls `notify_all`. -/
def Announces : Prop :=
  ∃ f, V.notifier = [.store f, .notifyAll] ∧ ∀ s, V.pred (f s) = true

/-! ### The invariant -/

/-- An announcing thread that has made its store has left the predicate true,
and whoever sleeps while the predicate is true has still to be notified by
everybody. -/
structure Inv (f : σ → σ) (c : Config σ) : Prop where
  stored : ∀ n, c.todo n = [.store f, .notifyAll] ∨
    (c.todo n = [.notifyAll] ∨ c.todo n = []) ∧ V.pred c.shared = true
  pending : ∀ i, (c.waiter i).Asleep → V.pred c.shared = true → ∀ n, c.todo n ≠ []

variable {V} {f : σ → σ} {c c' : Config σ}

theorem asleep_goto {i j : Nat} {p : WaitPc} (h : ((c.goto i p).waiter j).Asleep) :
    (c.waiter j).Asleep ∨ (j = i ∧ p.Asleep) := by
  by_cases hji : j = i
  · rw [hji, Config.goto_waiter_self] at h
    exact Or.inr ⟨hji, h⟩
  · rw [Config.goto_waiter_ne c p hji] at h
    exact Or.inl h

theorem asleep_of_goto_awake {i j : Nat} {p : WaitPc} (hp : ¬ p.Asleep)
    (h : ((c.goto i p).waiter j).Asleep) : (c.waiter j).Asleep := by
  rcases asleep_goto h with ha | ⟨_, ha⟩
  · exact ha
  · exact absurd ha hp

/-- A waiter touches neither the shared state nor the announcing threads, and
it falls asleep only when it finds the predicate false. -/
theorem waitStep_spec {i : Nat} (h : V.waitStep c i = some c') :
    c'.shared = c.shared ∧ c'.todo = c.todo ∧
      ∀ j, (c'.waiter j).Asleep → (c.waiter j).Asleep ∨ V.pred c.shared = false := by
  rw [waitStep] at h
  cases hp : c.waiter i with
  | lock =>
    rw [hp] at h
    by_cases hm : c.mutex.isNone
    · simp only [hm, if_true, Option.some.injEq] at h
      subst h
      refine ⟨rfl, rfl, fun j hj => Or.inl ?_⟩
      exact asleep_of_goto_awake (by simp [WaitPc.Asleep]) hj
    · simp [hm] at h
  | test =>
    rw [hp] at h
    simp only [Option.some.injEq] at h
    subst h
    refine ⟨rfl, rfl, fun j hj => ?_⟩
    rcases asleep_goto hj with ha | ⟨_, ha⟩
    · exact Or.inl ha
    · by_cases hpred : V.pred c.shared = true
      · simp [hpred, WaitPc.Asleep] at ha
      · exact Or.inr (Bool.eq_false_iff.mpr hpred)
  | sleep =>
    rw [hp] at h
    simp only [Option.some.injEq] at h
    subst h
    refine ⟨rfl, rfl, fun j hj => Or.inl ?_⟩
    rcases asleep_goto hj with ha | ⟨hji, _⟩
    · exact ha
    · rw [hji, hp]
      exact Or.inl rfl
  | blocked => rw [hp] at h; simp at h
  | leave =>
    rw [hp] at h
    simp only [Option.some.injEq] at h
    subst h
    refine ⟨rfl, rfl, fun j hj => Or.inl ?_⟩
    exact asleep_of_goto_awake (by simp [WaitPc.Asleep]) hj
  | done => rw [hp] at h; simp at h

theorem Inv.waitStep {i : Nat} (hI : V.Inv f c) (h : V.waitStep c i = some c') : V.Inv f c' := by
  obtain ⟨hs, ht, hw⟩ := waitStep_spec h
  constructor
  · rw [hs, ht]
    exact hI.stored
  · intro j hj hpred n
    rw [hs] at hpred
    rw [ht]
    rcases hw j hj with ha | hfalse
    · exact hI.pending j ha hpred n
    · rw [hfalse] at hpred
      exact absurd hpred (by decide)

theorem Inv.spurious {i : Nat} (hI : V.Inv f c) : V.Inv f (c.goto i .lock) := by
  refine ⟨hI.stored, fun j hj hpred n => ?_⟩
  have ha := asleep_of_goto_awake (by simp [WaitPc.Asleep]) hj
  exact hI.pending j ha hpred n

/-- The store: nobody has finished yet unless the predicate held before. -/
theorem Inv.store {n : Nat} (hI : V.Inv f c) (hf : ∀ s, V.pred (f s) = true) :
    V.Inv f { c.proceed n [.notifyAll] with shared := f c.shared } := by
  constructor
  · intro m
    show (c.proceed n [.notifyAll]).todo m = _ ∨
      ((c.proceed n [.notifyAll]).todo m = _ ∨ (c.proceed n [.notifyAll]).todo m = _) ∧ _
    by_cases hmn : m = n
    · rw [hmn, Config.proceed_todo_self]
      exact Or.inr ⟨Or.inl rfl, hf _⟩
    · rw [Config.proceed_todo_ne c _ hmn]
      exact (hI.stored m).imp id (fun hm => ⟨hm.1, hf _⟩)
  · intro j hj _ m
    show (c.proceed n [.notifyAll]).todo m ≠ []
    by_cases hmn : m = n
    · rw [hmn, Config.proceed_todo_self]
      simp
    · rw [Config.proceed_todo_ne c _ hmn]
      rcases hI.stored m with hm | ⟨_, hpred⟩
      · rw [hm]
        simp
      · exact hI.pending j hj hpred m

/-- The `notify_all`: nobody is left asleep. -/
theorem Inv.notifyAll {n : Nat} (hI : V.Inv f c) (hpred : V.pred c.shared = true)
    (hseen : ∀ i, c.waiter i ≠ .sleep) :
    V.Inv f { c.proceed n [] with waiter := fun i => (c.waiter i).wake } := by
  constructor
  · intro m
    show (c.proceed n []).todo m = _ ∨ ((c.proceed n []).todo m = _ ∨ (c.proceed n []).todo m = _) ∧ _
    by_cases hmn : m = n
    · rw [hmn, Config.proceed_todo_self]
      exact Or.inr ⟨Or.inr rfl, hpred⟩
    · rw [Config.proceed_todo_ne c _ hmn]
      exact hI.stored m
  · intro j hj
    exact absurd (WaitPc.sleep_of_asleep_wake hj) (hseen j)

theorem Inv.notifyStep {n : Nat} (hI : V.Inv f c) (hf : ∀ s, V.pred (f s) = true)
    (hseen : NotifySeen c (.notify n)) (h : notifyStep c n = some c') : V.Inv f c' := by
  rw [CondVar.notifyStep] at h
  rcases hI.stored n with htodo | ⟨htodo | htodo, hpred⟩
  · rw [htodo] at h
    exact Option.some.inj h ▸ hI.store hf
  · rw [htodo] at h
    exact Option.some.inj h ▸ hI.notifyAll hpred (hseen n [] rfl htodo)
  · rw [htodo] at h
    simp at h

/-- **No lost wake-up**, in every run whose `notify_all`s are all seen. -/
theorem no_lost (hV : V.Announces) {s : σ} (h : TransSys.Reach (V.sys s) NotifySeen c) :
    ¬ V.Lost c := by
  obtain ⟨f, hprog, hf⟩ := hV
  have hI : V.Inv f c := by
    refine TransSys.Reach.invariant (I := V.Inv f) ?_ ?_ h
    · rintro c rfl
      refine ⟨fun n => Or.inl hprog, fun i hi => ?_⟩
      simp [boot, WaitPc.Asleep] at hi
    · intro c a c' hI hc hst
      cases a with
      | wait i => exact hI.waitStep hst
      | spurious i =>
        change (if c.waiter i = .blocked then some (c.goto i .lock) else none) = some c' at hst
        split at hst
        · exact Option.some.inj hst ▸ hI.spurious
        · simp at hst
      | notify n => exact hI.notifyStep hf hc hst
  rintro ⟨i, n, hblocked, hpred, hdone⟩
  exact hI.pending i (Or.inr hblocked) hpred n hdone

end CondVar
