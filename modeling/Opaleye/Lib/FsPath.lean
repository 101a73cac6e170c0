import Mathlib.Data.List.Basic

/-!
# File system paths

A path in the generic grammar of `boost::filesystem` (version 3, POSIX): a
spelling, and the sequence of elements it is read as.

* A spelling with exactly two leading separators has a root name, `//net`.
* A separator after that, or at the front, is the root directory `/`.
* The rest are the components between separators; repeated separators count as
  one, and a trailing separator stands for a last element `.`.

Paths are compared by their elements, so `/a//b` and `/a/b` are equal, and so
are `/a/` and `/a/.`.

`spell` writes an absolute path without redundant separators.  Appending one
component to it is spelling one component more (`append_spell`), and reading it
gives the components back (`elements_spell`).  `joined` does the same for a
relative path of any length (`append_spell_joined`).

A path is printed in quotes, and what was printed reads as another path
(`not_eqv_quoted`).
-/

namespace FsPath

/-- `boost::filesystem::path` -/
structure Path where
  pathname : List Char
  deriving DecidableEq, Repr

/-- The root name, when there is one, and what follows it. -/
def splitRootName : List Char → List Char × List Char
  | '/' :: '/' :: '/' :: s => ([], '/' :: '/' :: '/' :: s)
  | '/' :: '/' :: s => ('/' :: '/' :: s.takeWhile (· != '/'), s.dropWhile (· != '/'))
  | s => ([], s)

/-- The components of a spelling that goes on from the component `cur`.  With
no component open at the end, the spelling had a trailing separator. -/
def componentsFrom : List Char → List Char → List (List Char)
  | [], [] => [['.']]
  | cur, [] => [cur]
  | cur, c :: s =>
    if c = '/' then if cur = [] then componentsFrom [] s else cur :: componentsFrom [] s
    else componentsFrom (cur ++ [c]) s

/-- The elements of a spelling behind its root. -/
def relative (s : List Char) : List (List Char) := if s = [] then [] else componentsFrom [] s

namespace Path

/-- `begin()` to `end()` -/
def elements (p : Path) : List (List Char) :=
  let r := splitRootName p.pathname
  (if r.1 = [] then [] else [r.1]) ++
    match r.2 with
    | '/' :: s => ['/'] :: relative (s.dropWhile (· == '/'))
    | s => relative s

/-- `is_absolute`, which on POSIX is `has_root_directory`. -/
def isAbsolute (p : Path) : Bool := (splitRootName p.pathname).2.head? == some '/'

/-- `operator==` -/
def eqv (p q : Path) : Bool := p.elements == q.elements

/-- `filename`: the last element. -/
def filename (p : Path) : List Char := p.elements.getLastD []

/-- `operator/`: a separator is put in between where there is none. -/
def append (p q : Path) : Path :=
  if q.pathname = [] then p
  else if q.pathname.head? = some '/' then ⟨p.pathname ++ q.pathname⟩
  else if p.pathname = [] ∨ p.pathname.getLast? = some '/' then ⟨p.pathname ++ q.pathname⟩
  else ⟨p.pathname ++ '/' :: q.pathname⟩

end Path

/-- What an element behind the root is: non-empty, without a separator. -/
def Proper (e : List Char) : Prop := e ≠ [] ∧ '/' ∉ e

instance (e : List Char) : Decidable (Proper e) := inferInstanceAs (Decidable (_ ∧ _))

theorem proper_dot : Proper ['.'] := ⟨by decide, by decide⟩

/-! ### The elements behind the root -/

theorem proper_componentsFrom : ∀ (s cur : List Char), '/' ∉ cur →
    ∀ e ∈ componentsFrom cur s, Proper e := by
  intro s
  induction s with
  | nil =>
    intro cur hcur e he
    cases cur with
    | nil => rw [componentsFrom, List.mem_singleton] at he; exact he ▸ proper_dot
    | cons c cur =>
      rw [componentsFrom, List.mem_singleton] at he
      · exact he ▸ ⟨by simp, hcur⟩
      · simp
  | cons c s ih =>
    intro cur hcur e he
    have hnil : '/' ∉ ([] : List Char) := by simp
    rw [componentsFrom] at he
    by_cases hc : c = '/'
    · rw [if_pos hc] at he
      by_cases h0 : cur = []
      · rw [if_pos h0] at he
        exact ih [] hnil e he
      · rw [if_neg h0, List.mem_cons] at he
        rcases he with rfl | he
        · exact ⟨h0, hcur⟩
        · exact ih [] hnil e he
    · rw [if_neg hc] at he
      refine ih (cur ++ [c]) ?_ e he
      simp only [List.mem_append, List.mem_singleton, not_or]
      exact ⟨hcur, fun h => hc h.symm⟩

theorem proper_relative {s e : List Char} (he : e ∈ relative s) : Proper e := by
  rw [relative] at he
  by_cases hs : s = []
  · rw [if_pos hs] at he; exact absurd he (by simp)
  · rw [if_neg hs] at he
    exact proper_componentsFrom s [] (by simp) e he

theorem componentsFrom_append : ∀ (e cur s : List Char), '/' ∉ e →
    componentsFrom cur (e ++ s) = componentsFrom (cur ++ e) s := by
  intro e
  induction e with
  | nil => intro cur s _; rw [List.append_nil, List.nil_append]
  | cons c e ih =>
    intro cur s he
    obtain ⟨hc, he'⟩ := not_or.mp (fun h => he (List.mem_cons.mpr h))
    rw [List.cons_append, componentsFrom, if_neg (fun h => hc h.symm), ih _ _ he',
      List.append_assoc, List.singleton_append]

theorem componentsFrom_sep {cur : List Char} (h : cur ≠ []) (s : List Char) :
    componentsFrom cur ('/' :: s) = cur :: componentsFrom [] s := by
  rw [componentsFrom, if_pos rfl, if_neg h]

theorem componentsFrom_end {cur : List Char} (h : cur ≠ []) : componentsFrom cur [] = [cur] := by
  rw [componentsFrom]
  exact fun h' => absurd h' h

/-! ### Absolute paths -/

theorem splitRootName_fst (s : List Char) :
    (splitRootName s).1 = [] ∨ ∃ t, (splitRootName s).1 = '/' :: '/' :: t := by
  fun_cases splitRootName s with
  | case1 => exact Or.inl rfl
  | case2 => exact Or.inr ⟨_, rfl⟩
  | case3 => exact Or.inl rfl

/-- **The root directory comes first only in an absolute path**, and the
elements behind it are proper. -/
theorem isAbsolute_of_root {p : Path} {es : List (List Char)} (h : p.elements = ['/'] :: es) :
    p.isAbsolute = true ∧ ∀ e ∈ es, Proper e := by
  rw [Path.elements] at h
  rcases splitRootName_fst p.pathname with h0 | ⟨t, ht⟩
  · rw [if_pos h0, List.nil_append] at h
    split at h
    · next s hs =>
      rw [List.cons.injEq] at h
      refine ⟨by rw [Path.isAbsolute, hs]; rfl, fun e he => ?_⟩
      exact proper_relative (h.2 ▸ he)
    · next s _ =>
      -- a component is not a separator
      have hsep : Proper ['/'] := proper_relative (h ▸ List.mem_cons_self)
      exact absurd (List.mem_singleton.mpr rfl) hsep.2
  · -- a root name is longer than the root directory
    rw [if_neg (by rw [ht]; simp), List.singleton_append, List.cons.injEq, ht] at h
    exact absurd h.1 (by simp)

/-! ### Spelling -/

/-- An absolute path without redundant separators. -/
def spell (es : List (List Char)) : Path := ⟨if es = [] then ['/'] else es.flatMap ('/' :: ·)⟩

theorem pathname_spell_cons (e : List Char) (es : List (List Char)) :
    (spell (e :: es)).pathname = '/' :: (e ++ es.flatMap ('/' :: ·)) := by
  simp [spell]

theorem componentsFrom_flatMap : ∀ (es : List (List Char)) {e : List Char}, Proper e →
    (∀ x ∈ es, Proper x) → componentsFrom [] (e ++ es.flatMap ('/' :: ·)) = e :: es := by
  intro es
  induction es with
  | nil =>
    intro e he _
    rw [componentsFrom_append _ _ _ he.2, List.nil_append, List.flatMap_nil,
      componentsFrom_end he.1]
  | cons x es ih =>
    intro e he hes
    rw [componentsFrom_append _ _ _ he.2, List.nil_append, List.flatMap_cons, List.cons_append,
      componentsFrom_sep he.1, ih (hes x (by simp)) (fun y hy => hes y (by simp [hy]))]

/-- **A spelled path reads as it was spelled.** -/
theorem elements_spell {es : List (List Char)} (h : ∀ e ∈ es, Proper e) :
    (spell es).elements = ['/'] :: es := by
  cases es with
  | nil => rfl
  | cons e es =>
    have he := h e (by simp)
    have hes : ∀ x ∈ es, Proper x := fun x hx => h x (by simp [hx])
    cases e with
    | nil => exact absurd rfl he.1
    | cons c e =>
      have hc : c ≠ '/' := fun hc => he.2 (hc ▸ List.mem_cons_self)
      have hroot : splitRootName (spell ((c :: e) :: es)).pathname
          = ([], '/' :: (c :: e ++ es.flatMap ('/' :: ·))) := by
        rw [pathname_spell_cons, List.cons_append]
        unfold splitRootName
        split
        · next heq => simp_all
        · next heq => simp_all
        · rfl
      have hdrop : (c :: e ++ es.flatMap ('/' :: ·)).dropWhile (· == '/')
          = c :: e ++ es.flatMap ('/' :: ·) := by
        rw [List.cons_append, List.dropWhile_cons, if_neg (by simpa using hc)]
      rw [Path.elements, hroot]
      simp only [if_true, List.nil_append, hdrop]
      rw [relative, if_neg (by simp), componentsFrom_flatMap es he hes]

theorem spell_injective {es es' : List (List Char)} (h : ∀ e ∈ es, Proper e)
    (h' : ∀ e ∈ es', Proper e) (heq : (spell es).elements = (spell es').elements) : es = es' := by
  rw [elements_spell h, elements_spell h', List.cons.injEq] at heq
  exact heq.2

theorem filename_spell_append {es : List (List Char)} {e : List Char} (h : ∀ x ∈ es, Proper x)
    (he : Proper e) : (spell (es ++ [e])).filename = e := by
  have hall : ∀ x ∈ es ++ [e], Proper x := by
    intro x hx
    rcases List.mem_append.mp hx with hx | hx
    · exact h x hx
    · exact List.mem_singleton.mp hx ▸ he
  rw [Path.filename, elements_spell hall, ← List.cons_append, List.getLastD_concat]

/-- **Appending a component spells it.** -/
theorem append_spell {es : List (List Char)} {e : List Char} (h : ∀ x ∈ es, Proper x)
    (he : Proper e) : (spell es).append ⟨e⟩ = spell (es ++ [e]) := by
  have hhead : e.head? ≠ some '/' := fun hc => he.2 (List.mem_of_mem_head? hc)
  rw [Path.append, if_neg he.1, if_neg hhead]
  rcases List.eq_nil_or_concat' es with rfl | ⟨ds, d, rfl⟩
  · simp [spell]
  · have hd : Proper d := h d (by simp)
    have hlast : (spell (ds ++ [d])).pathname.getLast? = d.getLast? := by
      simp only [spell, List.append_eq_nil_iff, List.cons_ne_nil, and_false, if_false,
        List.flatMap_append, List.flatMap_singleton]
      rw [List.getLast?_append_of_ne_nil _ (by simp), List.getLast?_cons_of_ne_nil hd.1]
    have hne : d.getLast? ≠ some '/' := fun hc => hd.2 (List.mem_of_getLast? hc)
    rw [if_neg (by rw [hlast]; simp [spell, hne])]
    simp [spell]

/-! ### Relative paths -/

/-- A relative path without redundant separators. -/
def joined : List (List Char) → List Char
  | [] => []
  | e :: es => e ++ es.flatMap ('/' :: ·)

theorem joined_concat {es : List (List Char)} (h : es ≠ []) (e : List Char) :
    joined (es ++ [e]) = joined es ++ '/' :: e := by
  cases es with
  | nil => exact absurd rfl h
  | cons x es => simp [joined]

/-- **Appending a relative path spells its components one after another.** -/
theorem append_spell_joined {es es' : List (List Char)} (h : ∀ e ∈ es, Proper e)
    (h' : ∀ e ∈ es', Proper e) (hne : es' ≠ []) :
    (spell es).append ⟨joined es'⟩ = spell (es ++ es') := by
  cases es' with
  | nil => exact absurd rfl hne
  | cons e es' =>
    have he : Proper e := h' e List.mem_cons_self
    have hhead : (joined (e :: es')).head? = e.head? := List.head?_append_of_ne_nil _ he.1
    have hjoined : joined (e :: es') ≠ [] := fun hnil => he.1 (List.append_eq_nil_iff.mp hnil).1
    have hone := append_spell h he
    have hslash : e.head? ≠ some '/' := fun hc => he.2 (List.mem_of_mem_head? hc)
    rw [Path.append, if_neg he.1, if_neg hslash] at hone
    rw [Path.append, if_neg hjoined, hhead, if_neg hslash]
    have hlong : spell (es ++ e :: es')
        = ⟨(spell (es ++ [e])).pathname ++ es'.flatMap ('/' :: ·)⟩ := by
      simp [spell]
    rw [hlong, ← hone]
    split
    · simp [joined]
    · simp [joined]

/-! ### Printing -/

/-- A quote or an `&` gets an `&` in front of it. -/
def escape (c : Char) : List Char := if c = '"' ∨ c = '&' then ['&', c] else [c]

/-- What `operator<<` prints for a spelling. -/
def quoted (s : List Char) : List Char := '"' :: (s.flatMap escape ++ ['"'])

/-- How many characters of a text are no separators. -/
def weight (s : List Char) : Nat := s.countP (· != '/')

theorem weight_cons (c : Char) (s : List Char) :
    weight (c :: s) = weight s + if c = '/' then 0 else 1 := by
  rw [weight, weight, List.countP_cons]
  by_cases hc : c = '/' <;> simp [hc]

theorem weight_append (s t : List Char) : weight (s ++ t) = weight s + weight t :=
  List.countP_append

theorem weight_componentsFrom : ∀ s cur : List Char,
    weight cur + weight s ≤ weight (componentsFrom cur s).flatten ∧
      weight (componentsFrom cur s).flatten ≤ weight cur + weight s + 1 := by
  intro s
  induction s with
  | nil =>
    intro cur
    cases cur with
    | nil => decide
    | cons c cur =>
      rw [componentsFrom_end (by simp), List.flatten_singleton]
      exact ⟨Nat.le_refl _, Nat.le_succ _⟩
  | cons c s ih =>
    intro cur
    rw [componentsFrom, weight_cons]
    by_cases hc : c = '/'
    · rw [if_pos hc, if_pos hc]
      by_cases h0 : cur = []
      · rw [if_pos h0, h0]
        exact ih []
      · rw [if_neg h0, List.flatten_cons, weight_append]
        have hnil : weight [] = 0 := rfl
        have hrest := ih []
        omega
    · have hsnoc : weight (cur ++ [c]) = weight cur + 1 := by
        rw [weight_append, weight_cons, if_neg hc]
        rfl
      have hrest := ih (cur ++ [c])
      rw [if_neg hc, if_neg hc]
      omega

theorem weight_relative (s : List Char) :
    weight s ≤ weight (relative s).flatten ∧ weight (relative s).flatten ≤ weight s + 1 := by
  rw [relative]
  by_cases hs : s = []
  · rw [if_pos hs, hs]
    decide
  · have hnil : weight [] = 0 := rfl
    have hfrom := weight_componentsFrom s []
    rw [if_neg hs]
    omega

theorem splitRootName_append (s : List Char) : (splitRootName s).1 ++ (splitRootName s).2 = s := by
  fun_cases splitRootName s with
  | case1 => rfl
  | case2 s => exact congrArg (fun t => '/' :: '/' :: t) List.takeWhile_append_dropWhile
  | case3 => rfl

theorem weight_dropWhile (s : List Char) : weight (s.dropWhile (· == '/')) = weight s := by
  induction s with
  | nil => rfl
  | cons c s ih =>
    by_cases hc : c = '/'
    · rw [List.dropWhile_cons_of_pos (by simpa using hc), ih, weight_cons, if_pos hc]
      rfl
    · rw [List.dropWhile_cons_of_neg (by simpa using hc)]

theorem weight_elements (p : Path) : weight p.pathname ≤ weight p.elements.flatten ∧
    weight p.elements.flatten ≤ weight p.pathname + 1 := by
  have hsplit : weight p.pathname
      = weight (splitRootName p.pathname).1 + weight (splitRootName p.pathname).2 := by
    rw [← weight_append, splitRootName_append]
  have hroot : weight (if (splitRootName p.pathname).1 = [] then []
      else [(splitRootName p.pathname).1]).flatten = weight (splitRootName p.pathname).1 := by
    split
    · next h => rw [h]; rfl
    · rw [List.flatten_singleton]
  rw [hsplit, Path.elements, List.flatten_append, weight_append, hroot]
  split
  · next s hs =>
    have hrest := weight_relative (s.dropWhile (· == '/'))
    rw [weight_dropWhile] at hrest
    rw [hs, List.flatten_cons, weight_append, weight_cons, if_pos rfl]
    have hsep : weight ['/'] = 0 := rfl
    omega
  · have hrest := weight_relative (splitRootName p.pathname).2
    omega

theorem weight_quoted (s : List Char) : weight s + 2 ≤ weight (quoted s) := by
  have hescape : weight s ≤ weight (s.flatMap escape) := by
    induction s with
    | nil => exact Nat.le_refl _
    | cons c s ih =>
      have hc : weight [c] ≤ weight (escape c) := by
        rw [escape]
        split
        · rw [weight_cons '&']
          exact Nat.le_add_right _ _
        · exact Nat.le_refl _
      rw [List.flatMap_cons, weight_append, ← List.singleton_append, weight_append]
      omega
  have hquote : weight ['"'] = 1 := rfl
  rw [quoted, weight_cons, if_neg (by decide), weight_append]
  omega

/-- **A path is never what it prints**: the quotes are part of the new path. -/
theorem not_eqv_quoted (s : List Char) : Path.eqv ⟨s⟩ ⟨quoted s⟩ = false := by
  rw [Path.eqv, beq_eq_false_iff_ne]
  intro h
  have hs : weight (Path.elements ⟨s⟩).flatten ≤ weight s + 1 := (weight_elements ⟨s⟩).2
  have hq : weight (quoted s) ≤ weight (Path.elements ⟨quoted s⟩).flatten :=
    (weight_elements ⟨quoted s⟩).1
  have hlt := weight_quoted s
  rw [h] at hs
  omega

end FsPath
