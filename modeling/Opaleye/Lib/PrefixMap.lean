import Mathlib.Data.List.Infix

/-!
# Maps on sequences, closed under prefixes

A map from sequences to optional values in which every prefix of a place is a
place too: what a tree of named children is for.  `set` gives a place a value
and makes places, without a value, of the prefixes that were none.

`after` is the map a list of settings leaves, and `after_apply` reads it off
the list: the places are the prefixes of what was set, and the value is the one
set last.  So the order of settings at different places does not matter
(`after_congr`).
-/

/-- `none` where there is no place, `some none` at a place without a value. -/
def PrefixMap (κ δ : Type) := List κ → Option (Option δ)

namespace PrefixMap

variable {κ δ : Type}

/-- The places a list of settings makes: the empty sequence and the prefixes of
what was set. -/
def Place (l : List (List κ × Option δ)) (ks : List κ) : Prop := ks = [] ∨ ∃ c ∈ l, ks <+: c.1

theorem place_concat {l : List (List κ × Option δ)} {c : List κ × Option δ} {ks : List κ} :
    Place (l ++ [c]) ks ↔ Place l ks ∨ ks <+: c.1 := by
  simp [Place, or_and_right, exists_or, or_assoc]

theorem Place.of_prefix {l : List (List κ × Option δ)} {ks ks' : List κ} (h : Place l ks)
    (hp : ks' <+: ks) : Place l ks' := by
  rcases h with rfl | ⟨c, hc, hk⟩
  · exact Or.inl (List.prefix_nil.mp hp)
  · exact Or.inr ⟨c, hc, hp.trans hk⟩

variable [DecidableEq κ]

instance (l : List (List κ × Option δ)) (ks : List κ) : Decidable (Place l ks) :=
  inferInstanceAs (Decidable (ks = [] ∨ ∃ c ∈ l, ks <+: c.1))

/-! ### Settings -/

def root : PrefixMap κ δ := fun ks => if ks = [] then some none else none

def set (m : PrefixMap κ δ) (path : List κ) (d : Option δ) : PrefixMap κ δ := fun ks =>
  if ks = path then some d else if ks <+: path then some ((m ks).getD none) else m ks

/-- The map a list of settings leaves. -/
def after (l : List (List κ × Option δ)) : PrefixMap κ δ := l.foldl (fun m c => m.set c.1 c.2) root

/-- The settings at one place, in order. -/
def settingsAt (l : List (List κ × Option δ)) (ks : List κ) : List (List κ × Option δ) :=
  l.filter (fun c => c.1 = ks)

/-- The value set last at a place; none if none was. -/
def lastValue (l : List (List κ × Option δ)) (ks : List κ) : Option δ :=
  (settingsAt l ks).getLast?.bind Prod.snd

theorem after_concat (l : List (List κ × Option δ)) (c : List κ × Option δ) :
    after (l ++ [c]) = (after l).set c.1 c.2 := by
  rw [after, List.foldl_append]
  rfl

theorem lastValue_concat (l : List (List κ × Option δ)) (c : List κ × Option δ) (ks : List κ) :
    lastValue (l ++ [c]) ks = if ks = c.1 then c.2 else lastValue l ks := by
  by_cases h : ks = c.1
  · subst h
    simp [lastValue, settingsAt]
  · have h' : ¬ c.1 = ks := fun e => h e.symm
    simp [lastValue, settingsAt, h, h']

/-- **What a list of settings leaves**: a place for every prefix, with the
value set last. -/
theorem after_apply (ks : List κ) : ∀ l : List (List κ × Option δ),
    after l ks = if Place l ks then some (lastValue l ks) else none := by
  intro l
  induction l using List.reverseRecOn with
  | nil => simp [after, root, Place, lastValue, settingsAt]
  | append_singleton l c ih =>
    rw [after_concat, set, lastValue_concat]
    by_cases heq : ks = c.1
    · rw [if_pos heq, if_pos heq, if_pos (place_concat.mpr (Or.inr (heq ▸ List.prefix_rfl)))]
    · rw [if_neg heq, if_neg heq]
      by_cases hpre : ks <+: c.1
      · rw [if_pos hpre, if_pos (place_concat.mpr (Or.inr hpre)), ih]
        by_cases hpl : Place l ks
        · rw [if_pos hpl]; rfl
        · -- a new place: nothing was set at it
          have hnil : settingsAt l ks = [] := by
            refine List.filter_eq_nil_iff.mpr (fun x hx h => hpl (Or.inr ⟨x, hx, ?_⟩))
            rw [of_decide_eq_true h]
          rw [if_neg hpl, lastValue, hnil]; rfl
      · rw [if_neg hpre, ih]
        refine if_congr ?_ rfl rfl
        rw [place_concat, or_iff_left hpre]

theorem after_isSome {l : List (List κ × Option δ)} {ks : List κ} :
    (after l ks).isSome ↔ Place l ks := by
  rw [after_apply]
  by_cases h : Place l ks
  · rw [if_pos h]; exact ⟨fun _ => h, fun _ => rfl⟩
  · rw [if_neg h]; exact ⟨fun h' => absurd h' (by simp), fun h' => absurd h' h⟩

/-- **Settings at different places commute**: only the order at each place
matters. -/
theorem after_congr {l l' : List (List κ × Option δ)}
    (h : ∀ ks, settingsAt l ks = settingsAt l' ks) : after l = after l' := by
  have hmem : ∀ {a b : List (List κ × Option δ)}, (∀ ks, settingsAt a ks = settingsAt b ks) →
      ∀ c ∈ a, c ∈ b := by
    intro a b hab c hc
    have hc' : c ∈ settingsAt a c.1 := List.mem_filter.mpr ⟨hc, by simp⟩
    exact List.mem_of_mem_filter (hab c.1 ▸ hc')
  funext ks
  rw [after_apply, after_apply, lastValue, h ks, ← lastValue]
  refine if_congr (or_congr_right ⟨?_, ?_⟩) rfl rfl
  · rintro ⟨c, hc, hk⟩
    exact ⟨c, hmem h c hc, hk⟩
  · rintro ⟨c, hc, hk⟩
    exact ⟨c, hmem (fun ks => (h ks).symm) c hc, hk⟩

/-- **Every sequence is a place, or leaves the places at one element.** -/
theorem place_or_stop (l : List (List κ × Option δ)) (es : List κ) :
    Place l es ∨ ∃ ds e r, es = ds ++ e :: r ∧ Place l ds ∧ ¬ Place l (ds ++ [e]) := by
  induction es using List.reverseRecOn with
  | nil => exact Or.inl (Or.inl rfl)
  | append_singleton es x ih =>
    rcases ih with h | ⟨ds, e, r, rfl, hd, he⟩
    · by_cases hx : Place l (es ++ [x])
      · exact Or.inl hx
      · exact Or.inr ⟨es, x, [], rfl, h, hx⟩
    · exact Or.inr ⟨ds, e, r ++ [x], by simp, hd, he⟩

end PrefixMap
