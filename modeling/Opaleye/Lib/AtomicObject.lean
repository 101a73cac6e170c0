import Opaleye.Lib.LockedThreads

/-!
# Atomic objects

Threads send requests to an object they share.  On an atomic object a request comes in on a thread,
takes effect at one moment, and is answered; or it is refused and has no effect.  `Step` has these
three events for one thread, and `History` is a sequence of them on any number of threads: each
thread has at most one request under way, and what it is owed for it is its `Owed`.  So in a
history every answer belongs to one request of the same thread, and to one effect between the two.

Threads that work under a mutex are linearizable when the events of their runs are a history of an
atomic object.  `reach_history` is the rule for that: `Owes` says what a thread may be owed at each
place of its program, and one move of a thread is checked against one event or none.
-/

/-- What a thread is owed: nothing, an effect for the request that came in, or an answer. -/
inductive Owed (ι ο : Type)
  | nothing
  | effect (x : ι)
  | answer (y : ο)

/-- What is recorded of a thread. -/
inductive ObjEvent (ι ο κ : Type)
  | came (x : ι)
  | took (k : κ)
  | answered (y : ο)

/-- Requests in `ι` take effects in `κ` on a state in `τ` and are answered in `ο`. -/
structure AtomicObject (τ ι ο κ : Type) where
  may : ι → κ → Prop
  effect : κ → τ → Option (τ × ο)
  refuses : ι → ο → Prop

namespace AtomicObject

variable {τ ι ο κ : Type} (A : AtomicObject τ ι ο κ)

/-- One event of one thread. -/
inductive Step : τ → Owed ι ο → ObjEvent ι ο κ → τ → Owed ι ο → Prop
  | came {t : τ} {x : ι} : Step t .nothing (.came x) t (.effect x)
  | took {t t' : τ} {x : ι} {k : κ} {y : ο} : A.may x k → A.effect k t = some (t', y) →
      Step t (.effect x) (.took k) t' (.answer y)
  | answered {t : τ} {y : ο} : Step t (.answer y) (.answered y) t .nothing
  | refused {t : τ} {x : ι} {y : ο} : A.refuses x y → Step t (.effect x) (.answered y) t .nothing

/-- What a thread's move makes: the event that is recorded of it, or nothing. -/
def Makes (t : τ) (o : Owed ι ο) : Option (ObjEvent ι ο κ) → τ → Owed ι ο → Prop
  | none, t', o' => t' = t ∧ o' = o
  | some e, t', o' => A.Step t o e t' o'

/-- **The histories of the object**, with its state and what the threads are owed at the end. -/
inductive History (t₀ : τ) : List (Nat × ObjEvent ι ο κ) → τ → (Nat → Owed ι ο) → Prop
  | nil : History t₀ [] t₀ (fun _ => .nothing)
  | concat {H : List (Nat × ObjEvent ι ο κ)} {t t' : τ} {p : Nat → Owed ι ο} {i : Nat}
      {e : ObjEvent ι ο κ} {o : Owed ι ο} : History t₀ H t p → A.Step t (p i) e t' o →
      History t₀ (H ++ [(i, e)]) t' (Function.update p i o)

/-- The effects of a history. -/
def effects (H : List (Nat × ObjEvent ι ο κ)) : List κ :=
  H.filterMap (fun e => match e.2 with
    | .took k => some k
    | _ => none)

/-- The effects one after another, without any threads. -/
def replay : τ → List κ → Option τ
  | t, [] => some t
  | t, k :: ks => (A.effect k t).bind (fun r => replay r.1 ks)

theorem replay_concat : ∀ (ks : List κ) (t : τ) (k : κ),
    A.replay t (ks ++ [k]) = (A.replay t ks).bind (fun t' => (A.effect k t').map Prod.fst) := by
  intro ks
  induction ks with
  | nil =>
    intro t k
    show (A.effect k t).bind (fun r => some r.1) = (A.effect k t).map Prod.fst
    cases A.effect k t <;> rfl
  | cons j ks ih =>
    intro t k
    rw [List.cons_append, replay, replay, Option.bind_assoc]
    exact congrArg _ (funext (fun r => ih r.1 k))

variable {A}

/-- **The state is what the effects make of it one after another.** -/
theorem History.replay_effects {t₀ t : τ} {H : List (Nat × ObjEvent ι ο κ)} {p : Nat → Owed ι ο}
    (h : A.History t₀ H t p) : A.replay t₀ (effects H) = some t := by
  induction h with
  | nil => rfl
  | @concat H t t' p i e o _ hs ih =>
    rw [effects, List.filterMap_append, ← effects]
    generalize p i = o₀ at hs
    cases hs with
    | took hmay heff =>
      show A.replay t₀ (effects H ++ [_]) = some t'
      rw [replay_concat, ih, Option.bind_some, heff]
      rfl
    | _ =>
      show A.replay t₀ (effects H ++ []) = some t
      rw [List.append_nil, ih]

end AtomicObject

/-! ### Recorded runs -/

namespace LockedThreads

variable {π σ ι ε : Type}

/-- The record that a thread's moves leave. -/
def eventOf {ξ : Type} (event : ι → π → σ → Option ξ) (c : Config π σ) : Act ι ε → Option (Nat × ξ)
  | .thread i l => (event l (c.pc i) c.shared).map (fun e => (i, e))
  | .interrupt _ => none

variable {P : LockedThreads π σ ι ε}

section history

variable {τ ξ ο κ : Type} {A : AtomicObject τ ξ ο κ} {event : ι → π → σ → Option (ObjEvent ξ ο κ)}
  {abs : σ → τ} {Owes : π → Owed ξ ο → Prop} {Ok : π → σ → Prop}

/-- What has to be checked of one move: it makes the event that is recorded of it, or nothing. -/
structure HistoryInv (P : LockedThreads π σ ι ε) (A : AtomicObject τ ξ ο κ)
    (event : ι → π → σ → Option (ObjEvent ξ ο κ)) (abs : σ → τ) (Owes : π → Owed ξ ο → Prop)
    (Ok : π → σ → Prop) : Prop where
  start : Owes P.start .nothing
  moves : ∀ {l p st q st' o}, Ok p st → Owes p o → (P.next l p st).dest st = some (q, st') →
    ∃ o', A.Makes (abs st) o (event l p st) (abs st') o' ∧ Owes q o'
  intr : ∀ {e st st'}, P.interrupt e st = some st' → abs st' = abs st

theorem owes_update {c : Config π σ} {p : Nat → Owed ξ ο} (h : ∀ i, Owes (c.pc i) (p i)) {i : Nat}
    {q : π} {o : Owed ξ ο} (hq : Owes q o) (j : Nat) :
    Owes (Function.update c.pc i q j) (Function.update p i o j) := by
  by_cases hji : j = i
  · subst hji
    simpa using hq
  · simpa [Function.update_of_ne hji] using h j

/-- **The rule for linearizability.** -/
theorem reach_history (hH : P.HistoryInv A event abs Owes Ok) {st : σ}
    (hok : ∀ c, (P.sys st).Reach TransSys.Any c → ∀ i, Ok (c.pc i) c.shared)
    {x : Config π σ × List (Nat × ObjEvent ξ ο κ)}
    (h : ((P.sys st).recorded (eventOf event)).Reach TransSys.Any x) :
    ∃ p, A.History (abs st) x.2 (abs x.1.shared) p ∧ ∀ i, Owes (x.1.pc i) (p i) := by
  refine (h.invariant (I := fun x => (P.sys st).Reach TransSys.Any x.1 ∧
    ∃ p, A.History (abs st) x.2 (abs x.1.shared) p ∧ ∀ i, Owes (x.1.pc i) (p i))
    (fun x hx => ?_) (fun x a x' hI _ hs => ?_)).2
  · obtain ⟨hboot, hnil⟩ := hx
    refine ⟨.init hboot, fun _ => .nothing, ?_⟩
    obtain rfl : x = (P.boot st, []) := Prod.ext hboot hnil
    exact ⟨.nil, fun _ => hH.start⟩
  · obtain ⟨hreach, p, hhist, howes⟩ := hI
    obtain ⟨c', hc', rfl⟩ := Option.map_eq_some_iff.mp hs
    refine ⟨.step hreach trivial hc', ?_⟩
    cases a with
    | thread i l =>
      obtain ⟨q, hdest, hpc⟩ := P.step_dest hc'
      rw [hpc]
      obtain ⟨o, hmakes, hq⟩ := hH.moves (hok x.1 hreach i) (howes i) hdest
      refine ⟨Function.update p i o, ?_, owes_update howes hq⟩
      rw [eventOf]
      cases he : event l (x.1.pc i) x.1.shared with
      | none =>
        rw [he] at hmakes
        obtain ⟨habs, rfl⟩ := hmakes
        rw [Function.update_eq_self, habs]
        simpa using hhist
      | some e =>
        rw [he] at hmakes
        exact hhist.concat hmakes
    | interrupt e =>
      obtain ⟨st', hintr, rfl⟩ := Option.map_eq_some_iff.mp hc'
      refine ⟨p, ?_, howes⟩
      show A.History (abs st) (x.2 ++ []) (abs st') p
      rw [List.append_nil, hH.intr hintr]
      exact hhist

end history

end LockedThreads
