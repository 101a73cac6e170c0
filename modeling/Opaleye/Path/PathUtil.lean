import Opaleye.Path.DirectoryTree

/-!
# Parent paths

`libs/opaleye-util/include/opaleye-util/path/Path_util.hpp`.  `is_parent_path` walks
two paths element by element, but only the iterator of the base path is tested
against its end.  What is to keep the other one in range is a test of the lengths of
the spellings, which say little about the number of elements: `/a/b` is shorter than
`////a`.

`matchLoop` is the loop, with `none` for a dereference past the end.  It decides
whether the base path is a prefix, except where the other path ends first
(`matchLoop_eq`), and the length test is right or wrong by the spelling alone.  For
two paths spelled without redundant separators both are right (`isParentPath_spell`).
-/

namespace Opaleye.Path

open FsPath

/-- The `for` loop over both iterators; `none` is a dereference of `req_path.end()`. -/
def matchLoop (basePathEndsInDir : Bool) : List (List Char) → List (List Char) → Option Bool
  | [], _ => some true
  | b :: bs, rs =>
    if basePathEndsInDir ∧ bs = [] then some true
    else
      match rs with
      | [] => none
      | r :: rs => if b ≠ r then some false else matchLoop basePathEndsInDir bs rs

/-- `Path_util::is_parent_path` -/
def isParentPath (basePath reqPath : Path) : Except DomainError (Option Bool) :=
  if basePath.pathname = [] then .error ⟨"path must not be empty"⟩
  else if reqPath.pathname = [] then .error ⟨"path must not be empty"⟩
  else if basePath.isAbsolute = false then .error ⟨"must be absolute path"⟩
  else if reqPath.isAbsolute = false then .error ⟨"must be absolute path"⟩
  else if basePath.pathname.length > reqPath.pathname.length then .ok (some false)
  else .ok (matchLoop (trailingElementIsDir basePath) basePath.elements reqPath.elements)

/-! ### Enclosing -/

/-- A path encloses another: without a trailing `.` as a prefix, with one as a proper prefix without
it. -/
def Encloses (base req : List (List Char)) : Prop :=
  if base.getLast? = some ['.'] then base.dropLast <+: req ∧ base.dropLast ≠ req else base <+: req

instance (base req : List (List Char)) : Decidable (Encloses base req) :=
  inferInstanceAs (Decidable (if base.getLast? = some ['.'] then _ else _))

/-- The other path ends first. -/
def EndsFirst (base req : List (List Char)) : Prop := req <+: base ∧ req ≠ base

instance (base req : List (List Char)) : Decidable (EndsFirst base req) :=
  inferInstanceAs (Decidable (_ ∧ _))

/-- A call that returns what the elements say. -/
def DecidesEnclosing (basePath reqPath : Path) : Prop :=
  isParentPath basePath reqPath = .ok (some (decide (Encloses basePath.elements reqPath.elements)))

/-! ### The loop -/

theorem matchLoop_cons (dir : Bool) (b : List Char) (bs rs : List (List Char)) :
    matchLoop dir (b :: bs) rs =
      if dir ∧ bs = [] then some true
      else
        match rs with
        | [] => none
        | r :: rs => if b ≠ r then some false else matchLoop dir bs rs := by
  rw [matchLoop.eq_def]

/-- **The loop decides whether the base path is a prefix**, unless the other path ends first. -/
theorem matchLoop_eq : ∀ bs rs : List (List Char),
    matchLoop false bs rs = if EndsFirst bs rs then none else some (decide (bs <+: rs)) := by
  intro bs
  induction bs with
  | nil =>
    intro rs
    have hends : ¬ EndsFirst [] rs := fun h => h.2 (List.prefix_nil.mp h.1)
    rw [if_neg hends]
    rfl
  | cons b bs ih =>
    intro rs
    rw [matchLoop_cons, if_neg (by simp)]
    cases rs with
    | nil =>
      have hends : EndsFirst (b :: bs) [] := ⟨List.nil_prefix, by simp⟩
      rw [if_pos hends]
    | cons r rs =>
      dsimp only
      by_cases hbr : b = r
      · -- the heads agree, so the tails decide
        have hends : EndsFirst (b :: bs) (r :: rs) ↔ EndsFirst bs rs := by
          simp [EndsFirst, List.cons_prefix_cons, hbr]
        have hpre : b :: bs <+: r :: rs ↔ bs <+: rs := by
          simp [List.cons_prefix_cons, hbr]
        rw [if_neg (not_not.mpr hbr), ih rs]
        simp only [hends, hpre]
      · have hends : ¬ EndsFirst (b :: bs) (r :: rs) :=
          fun h => hbr (List.cons_prefix_cons.mp h.1).1.symm
        have hpre : ¬ b :: bs <+: r :: rs := fun h => hbr (List.cons_prefix_cons.mp h).1
        rw [if_pos hbr, if_neg hends, decide_eq_false hpre]

theorem matchLoop_concat (x : List Char) : ∀ bs rs : List (List Char),
    matchLoop true (bs ++ [x]) rs = matchLoop false bs rs := by
  intro bs
  induction bs with
  | nil =>
    intro rs
    rw [List.nil_append, matchLoop_cons, if_pos ⟨rfl, rfl⟩, matchLoop]
  | cons b bs ih =>
    intro rs
    rw [List.cons_append, matchLoop_cons, if_neg (by simp), matchLoop_cons, if_neg (by simp)]
    cases rs with
    | nil => rfl
    | cons r rs =>
      dsimp only
      rw [ih rs]

theorem matchLoop_dir_iff (bs rs : List (List Char)) :
    matchLoop false bs rs = some (decide (bs <+: rs ∧ bs ≠ rs)) ↔ ¬ rs <+: bs := by
  rw [matchLoop_eq]
  by_cases hends : EndsFirst bs rs
  · rw [if_pos hends]
    exact iff_of_false nofun (not_not.mpr hends.1)
  · rw [if_neg hends, Option.some.injEq, decide_eq_decide]
    constructor
    · intro h hrs
      have heq : rs = bs := by
        by_contra hne
        exact hends ⟨hrs, hne⟩
      exact (h.mp (heq ▸ List.prefix_refl _)).2 heq.symm
    · intro hrs
      exact ⟨fun h => ⟨h, fun heq => hrs (heq ▸ List.prefix_refl _)⟩, fun h => h.1⟩

/-- **The loop is right unless the other path ends first.** -/
theorem matchLoop_encloses_iff (base req : List (List Char)) :
    matchLoop (base.getLast? == some ['.']) base req = some (decide (Encloses base req)) ↔
      ¬ EndsFirst base req := by
  by_cases hdir : base.getLast? = some ['.']
  · obtain ⟨bs, rfl⟩ : ∃ bs, base = bs ++ [['.']] := ⟨_, (List.dropLast_append_getLast? _ hdir).symm⟩
    have hends : EndsFirst (bs ++ [['.']]) req ↔ req <+: bs := by
      rw [EndsFirst, List.prefix_concat_iff]
      constructor
      · rintro ⟨h | h, hne⟩
        · exact absurd h hne
        · exact h
      · intro h
        refine ⟨Or.inr h, ?_⟩
        rintro rfl
        have hlen := h.length_le
        rw [List.length_append, List.length_singleton] at hlen
        omega
    have hencloses : Encloses (bs ++ [['.']]) req ↔ bs <+: req ∧ bs ≠ req := by
      rw [Encloses, if_pos hdir, List.dropLast_concat]
    rw [hdir, beq_self_eq_true, matchLoop_concat, hends]
    simp only [hencloses]
    exact matchLoop_dir_iff bs req
  · have hencloses : Encloses base req ↔ base <+: req := by
      rw [Encloses, if_neg hdir]
    rw [beq_eq_false_iff_ne.mpr hdir, matchLoop_eq]
    simp only [hencloses]
    by_cases hends : EndsFirst base req
    · rw [if_pos hends]
      exact iff_of_false nofun (not_not.mpr hends)
    · rw [if_neg hends]
      exact iff_of_true rfl hends

/-! ### The call -/

theorem pathname_ne_nil {p : Path} (h : p.isAbsolute = true) : p.pathname ≠ [] := by
  intro hnil
  rw [Path.isAbsolute, hnil] at h
  cases h

theorem isParentPath_eq {basePath reqPath : Path} (hb : basePath.isAbsolute = true)
    (hr : reqPath.isAbsolute = true) :
    isParentPath basePath reqPath =
      if basePath.pathname.length > reqPath.pathname.length then .ok (some false)
      else .ok (matchLoop (basePath.elements.getLast? == some ['.']) basePath.elements
        reqPath.elements) := by
  rw [isParentPath, if_neg (pathname_ne_nil hb), if_neg (pathname_ne_nil hr), if_neg (by simp [hb]),
    if_neg (by simp [hr])]
  rfl

/-- **A call decides enclosing exactly when the lengths of the spellings allow it**: a base path that is
spelled longer must not enclose the other one, and one that is not must not go on where the other ends. -/
theorem decidesEnclosing_iff (basePath reqPath : Path) (hb : basePath.isAbsolute = true)
    (hr : reqPath.isAbsolute = true) :
    DecidesEnclosing basePath reqPath ↔
      (reqPath.pathname.length < basePath.pathname.length →
        ¬ Encloses basePath.elements reqPath.elements) ∧
      (basePath.pathname.length ≤ reqPath.pathname.length →
        ¬ EndsFirst basePath.elements reqPath.elements) := by
  rw [DecidesEnclosing, isParentPath_eq hb hr]
  by_cases hlen : basePath.pathname.length > reqPath.pathname.length
  · rw [if_pos hlen, Except.ok.injEq, Option.some.injEq]
    constructor
    · intro h
      exact ⟨fun _ => of_decide_eq_false h.symm, fun hle => absurd hlen (by omega)⟩
    · intro h
      exact (decide_eq_false (h.1 hlen)).symm
  · rw [if_neg hlen, Except.ok.injEq, matchLoop_encloses_iff]
    constructor
    · intro h
      exact ⟨fun hlt => absurd hlt hlen, fun _ => h⟩
    · intro h
      exact h.2 (by omega)

theorem decidesEnclosing_foo : DecidesEnclosing ⟨"/foo/".toList⟩ ⟨"/foo/bar".toList⟩ :=
  (decidesEnclosing_iff ⟨"/foo/".toList⟩ ⟨"/foo/bar".toList⟩ (by decide) (by decide)).mpr
    (by decide)

/-- The iterator runs past the end, a file is taken for the directory of that name, and a path is not
its own parent. -/
theorem not_decidesEnclosing :
    isParentPath ⟨"/a/b".toList⟩ ⟨"////a".toList⟩ = .ok none ∧
      isParentPath ⟨"/a/".toList⟩ ⟨"////a".toList⟩ = .ok (some true) ∧
      isParentPath ⟨"/a//b".toList⟩ ⟨"/a/b".toList⟩ = .ok (some false) ∧
      ¬ DecidesEnclosing ⟨"/a/b".toList⟩ ⟨"////a".toList⟩ ∧
      ¬ DecidesEnclosing ⟨"/a/".toList⟩ ⟨"////a".toList⟩ ∧
      ¬ DecidesEnclosing ⟨"/a//b".toList⟩ ⟨"/a/b".toList⟩ := by
  have hpast : isParentPath ⟨"/a/b".toList⟩ ⟨"////a".toList⟩ = .ok none := rfl
  have hfile : isParentPath ⟨"/a/".toList⟩ ⟨"////a".toList⟩ = .ok (some true) := rfl
  have hsame : isParentPath ⟨"/a//b".toList⟩ ⟨"/a/b".toList⟩ = .ok (some false) := rfl
  refine ⟨hpast, hfile, hsame, fun h => ?_, fun h => ?_, fun h => ?_⟩
  · cases hpast.symm.trans h
  · have heq := hfile.symm.trans h
    rw [Except.ok.injEq, Option.some.injEq] at heq
    exact absurd (of_decide_eq_true heq.symm) (by decide)
  · have heq := hsame.symm.trans h
    rw [Except.ok.injEq, Option.some.injEq] at heq
    exact absurd (by decide) (of_decide_eq_false heq.symm)

/-! ### Spellings without redundant separators -/

theorem two_le_length_flatMap {es : List (List Char)} (h : ∀ e ∈ es, Proper e) (hne : es ≠ []) :
    2 ≤ (es.flatMap ('/' :: ·)).length := by
  cases es with
  | nil => exact absurd rfl hne
  | cons e es =>
    have he := List.length_pos_iff.mpr (h e List.mem_cons_self).1
    rw [List.flatMap_cons, List.length_append, List.length_cons]
    omega

theorem length_spell {es : List (List Char)} (h : ∀ e ∈ es, Proper e) :
    (spell es).pathname.length = max 1 (es.flatMap ('/' :: ·)).length := by
  by_cases hne : es = []
  · rw [hne]
    rfl
  · have hlen := two_le_length_flatMap h hne
    rw [spell, if_neg hne, max_eq_right (by omega)]

theorem length_spell_lt {es fs : List (List Char)} (h : ∀ e ∈ fs, Proper e) (hpre : es <+: fs)
    (hne : es ≠ fs) : (es.flatMap ('/' :: ·)).length + 2 ≤ (fs.flatMap ('/' :: ·)).length := by
  obtain ⟨gs, rfl⟩ := hpre
  have hgs : gs ≠ [] := by
    rintro rfl
    exact hne (List.append_nil es).symm
  have hlen := two_le_length_flatMap (fun e he => h e (List.mem_append_right es he)) hgs
  rw [List.flatMap_append, List.length_append]
  omega

/-- **Without redundant separators a call decides enclosing.** -/
theorem isParentPath_spell {bs rs : List (List Char)} (hb : ∀ e ∈ bs, Proper e)
    (hr : ∀ e ∈ rs, Proper e) : DecidesEnclosing (spell bs) (spell rs) := by
  have hbase := elements_spell hb
  have hreq := elements_spell hr
  rw [DecidesEnclosing, isParentPath_eq (isAbsolute_of_root hbase).1 (isAbsolute_of_root hreq).1, hbase,
    hreq, length_spell hb, length_spell hr]
  split
  · next hlt =>
    have hencl : ¬ Encloses (['/'] :: bs) (['/'] :: rs) := by
      intro hencl
      rw [Encloses] at hencl
      split at hencl
      · next hdir =>
        -- the trailing `.` takes as much room as any element that follows in its place
        rcases List.eq_nil_or_concat' bs with rfl | ⟨ds, d, rfl⟩
        · exact absurd hdir (by decide)
        · rw [← List.cons_append, List.dropLast_concat, List.cons_prefix_cons] at hencl
          rw [← List.cons_append, List.getLast?_concat, Option.some.injEq] at hdir
          have hne : ds ≠ rs := fun heq => hencl.2 (congrArg _ heq)
          have hlen := length_spell_lt hr hencl.1.2 hne
          rw [hdir, List.flatMap_append, List.length_append] at hlt
          have hdot : (([['.']] : List (List Char)).flatMap ('/' :: ·)).length = 2 := rfl
          omega
      · rw [List.cons_prefix_cons] at hencl
        by_cases heq : bs = rs
        · rw [heq] at hlt
          omega
        · have hlen := length_spell_lt hr hencl.2 heq
          omega
    rw [decide_eq_false hencl]
  · next hle =>
    rw [Except.ok.injEq, matchLoop_encloses_iff]
    rintro ⟨hpre, hne⟩
    rw [List.cons_prefix_cons] at hpre
    have hlen := length_spell_lt hb hpre.2 (fun heq => hne (congrArg _ heq))
    omega

end Opaleye.Path
