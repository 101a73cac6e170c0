import Mathlib.Logic.Function.Basic

/-!
# Labelled transition systems

A system is a set of initial states and a partial step `step s a`, which is
`none` when the action `a` is not enabled in `s`.  `Reach T C s` says that `s`
is reached from an initial state by steps that all meet the side condition
`C`, a predicate on the state before the step and on the action taken.  With
`C` always true (`Any`) these are the reachable states; a stronger `C` picks
out the runs in which a certain branch is not taken, or which one party alone
drives.

`Reach.invariant` is the one induction on runs.  An invariant is checked on
the initial states and on one step, and then holds in every state reached.
`run` executes a list of actions, so that a concrete trace can be evaluated,
and `Reach.run` says what such an evaluation proves.
-/

structure TransSys (σ α : Type) where
  init : σ → Prop
  step : σ → α → Option σ

namespace TransSys

variable {σ α : Type} {T : TransSys σ α} {C : σ → α → Prop}

/-- The side condition that every step meets. -/
def Any : σ → α → Prop := fun _ _ => True

/-- The states reached by steps that all meet `C`. -/
inductive Reach (T : TransSys σ α) (C : σ → α → Prop) : σ → Prop
  | init {s : σ} : T.init s → Reach T C s
  | step {s s' : σ} {a : α} : Reach T C s → C s a → T.step s a = some s' → Reach T C s'

/-- **An invariant holds in every state reached.** -/
theorem Reach.invariant {I : σ → Prop} (hi : ∀ s, T.init s → I s)
    (hs : ∀ s a s', I s → C s a → T.step s a = some s' → I s') :
    ∀ {s}, Reach T C s → I s := by
  intro s h
  induction h with
  | init h0 => exact hi _ h0
  | step _ hc hst ih => exact hs _ _ _ ih hc hst

theorem Reach.mono {D : σ → α → Prop} (hCD : ∀ s a, C s a → D s a) :
    ∀ {s}, Reach T C s → Reach T D s := by
  intro s h
  induction h with
  | init h0 => exact .init h0
  | step _ hc hst ih => exact .step ih (hCD _ _ hc) hst

/-- The same system with other names for some of its actions. -/
def comap {β : Type} (T : TransSys σ α) (f : β → α) : TransSys σ β where
  init := T.init
  step s b := T.step s (f b)

/-- **A system seen through `f`.**  When a step is a step of `T'` there or changes nothing that `f`
shows, the states reached are states that `T'` reaches. -/
theorem Reach.project {σ' α' : Type} {T' : TransSys σ' α'} (f : σ → σ')
    (hi : ∀ s, T.init s → T'.init (f s))
    (hs : ∀ s a s', T.step s a = some s' → f s' = f s ∨ ∃ a', T'.step (f s) a' = some (f s')) :
    ∀ {s}, Reach T Any s → Reach T' Any (f s) := by
  intro s h
  induction h with
  | init h0 => exact .init (hi _ h0)
  | step _ _ hst ih =>
    rcases hs _ _ _ hst with heq | ⟨a', ha'⟩
    · rw [heq]
      exact ih
    · exact .step ih trivial ha'

/-- The same system with a record of what its steps show. -/
def recorded {ξ : Type} (T : TransSys σ α) (event : σ → α → Option ξ) : TransSys (σ × List ξ) α where
  init x := T.init x.1 ∧ x.2 = []
  step x a := (T.step x.1 a).map (fun s' => (s', x.2 ++ (event x.1 a).toList))

/-! ### Executing a trace -/

/-- Take the actions of a list one after another. -/
def run (T : TransSys σ α) : σ → List α → Option σ
  | s, [] => some s
  | s, a :: as => (T.step s a).bind (fun s' => T.run s' as)

@[simp] theorem run_nil (s : σ) : T.run s [] = some s := rfl

theorem run_cons (s : σ) (a : α) (as : List α) :
    T.run s (a :: as) = (T.step s a).bind (fun s' => T.run s' as) := rfl

theorem run_concat : ∀ (as : List α) (s : σ) (a : α),
    T.run s (as ++ [a]) = (T.run s as).bind (fun s' => T.step s' a) := by
  intro as
  induction as with
  | nil =>
    intro s a
    cases h : T.step s a with
    | none => simp [run, h]
    | some s' => simp [run, h]
  | cons b as ih =>
    intro s a
    rw [List.cons_append, run_cons, run_cons, Option.bind_assoc]
    exact congrArg _ (funext (fun s' => ih s' a))

/-- Every step of the trace meets `C`. -/
def Meets (T : TransSys σ α) (C : σ → α → Prop) : σ → List α → Prop
  | _, [] => True
  | s, a :: as => C s a ∧ match T.step s a with
    | none => True
    | some s' => T.Meets C s' as

/-- With a decidable side condition a trace is checked by evaluation. -/
instance decidableMeets [∀ s a, Decidable (C s a)] : ∀ (as : List α) (s : σ),
    Decidable (T.Meets C s as)
  | [], _ => isTrue trivial
  | a :: as, s =>
    match h : T.step s a with
    | none => decidable_of_iff (C s a) (by simp [Meets, h])
    | some s' =>
      have := decidableMeets as s'
      decidable_of_iff (C s a ∧ T.Meets C s' as) (by simp [Meets, h])

theorem meets_any : ∀ (as : List α) (s : σ), T.Meets Any s as := by
  intro as
  induction as with
  | nil => intro s; exact trivial
  | cons a as ih =>
    intro s
    refine ⟨trivial, ?_⟩
    cases T.step s a with
    | none => exact trivial
    | some s' => exact ih s'

/-- The property holds in every state that the trace passes through. -/
def Always (T : TransSys σ α) (P : σ → Prop) : σ → List α → Prop
  | s, [] => P s
  | s, a :: as => P s ∧ match T.step s a with
    | none => True
    | some s' => T.Always P s' as

theorem always_head {P : σ → Prop} {s : σ} {as : List α} (h : T.Always P s as) : P s := by
  cases as with
  | nil => exact h
  | cons a as => exact h.1

theorem always_mono {P Q : σ → Prop} (hPQ : ∀ s, P s → Q s) : ∀ (as : List α) {s : σ},
    T.Always P s as → T.Always Q s as := by
  intro as
  induction as with
  | nil => intro s h; exact hPQ s h
  | cons a as ih =>
    intro s h
    rw [Always] at h ⊢
    refine ⟨hPQ s h.1, ?_⟩
    cases hst : T.step s a with
    | none => trivial
    | some s' =>
      rw [hst] at h
      exact ih h.2

theorem always_of_step {I : σ → Prop} (hs : ∀ s a s', I s → T.step s a = some s' → I s') :
    ∀ (as : List α) {s : σ}, I s → T.Always I s as := by
  intro as
  induction as with
  | nil => intro s h; exact h
  | cons a as ih =>
    intro s h
    rw [Always]
    refine ⟨h, ?_⟩
    cases hst : T.step s a with
    | none => trivial
    | some s' => exact ih (hs s a s' h hst)

theorem always_last {P : σ → Prop} : ∀ (as : List α) {s s' : σ}, T.Always P s as →
    T.run s as = some s' → P s' := by
  intro as
  induction as with
  | nil =>
    intro s s' h hr
    rw [run_nil] at hr
    exact Option.some.inj hr ▸ h
  | cons a as ih =>
    intro s s' h hr
    rw [run_cons] at hr
    obtain ⟨t, ht, hr⟩ := Option.bind_eq_some_iff.mp hr
    rw [Always, ht] at h
    exact ih h.2 hr

/-- **A property that exactly the steps against `C` destroy** holds throughout a
trace exactly when every step meets `C`.  What a step needs besides is an
invariant `I`. -/
theorem always_iff_meets {I P : σ → Prop}
    (hs : ∀ s a s', I s → P s → T.step s a = some s' → (P s' → I s') ∧ (P s' ↔ C s a))
    (hn : ∀ s a, I s → P s → T.step s a = none → C s a) : ∀ (as : List α) {s : σ},
    I s → P s → (T.Always P s as ↔ T.Meets C s as) := by
  intro as
  induction as with
  | nil => intro s _ hP; exact iff_of_true hP trivial
  | cons a as ih =>
    intro s hI hP
    rw [Always, Meets]
    cases hst : T.step s a with
    | none => exact iff_of_true ⟨hP, trivial⟩ ⟨hn s a hI hP hst, trivial⟩
    | some s' =>
      obtain ⟨hI', hiff⟩ := hs s a s' hI hP hst
      refine ⟨fun h => ?_, fun h => ⟨hP, ?_⟩⟩
      · have hP' := always_head h.2
        exact ⟨hiff.mp hP', (ih (hI' hP') hP').mp h.2⟩
      · have hP' := hiff.mpr h.1
        exact (ih (hI' hP') hP').mpr h.2

/-- **A trace that evaluates reaches its last state**, under any side condition
its steps meet. -/
theorem Reach.run : ∀ (as : List α) {s s' : σ}, Reach T C s → T.Meets C s as →
    T.run s as = some s' → Reach T C s' := by
  intro as
  induction as with
  | nil => intro s s' h _ hr; rw [run_nil] at hr; exact Option.some.inj hr ▸ h
  | cons a as ih =>
    intro s s' h hm hr
    rw [run_cons] at hr
    rw [Meets] at hm
    cases hst : T.step s a with
    | none => rw [hst] at hr; simp at hr
    | some t =>
      rw [hst] at hr hm
      exact ih (.step h hm.1 hst) hm.2 hr

theorem Reach.of_trace (as : List α) {s : σ} {P : σ → Bool} (h0 : T.init s)
    (hm : T.Meets C s as) (h : (T.run s as).any P = true) : ∃ s', Reach T C s' ∧ P s' = true := by
  obtain ⟨s', hr, hp⟩ := (Option.any_eq_true _ _).mp h
  exact ⟨s', Reach.run as (.init h0) hm hr, hp⟩

end TransSys
