import Mathlib.Data.List.TakeWhile
import Mathlib.Data.Int.ModEq
import Mathlib.Tactic.NormNum
import Mathlib.Tactic.Ring

/-!
# Numbers as text

The integer conversions of `printf` and `scanf` on character lists.

* `padDigits w n` is `%0wu`, `printInt n` is `%ld` and `printIntPad w n` is
  `%0wld`: a minus sign counts as one of the `w` characters, and a number that
  needs more room than `w` gets it.
* A scan format is a list of `Directive`s, literal characters and conversions.
  `sscanf` returns the values converted before the first mismatch, so its
  length is the number the C function returns.
* `readSigned` and `readSet` are `%ld` and `%9[...]` as the Linux kernel reads
  them, `readUnsigned` is `%06u` as the C library does.

The lemmas read back what was printed.  A decimal number followed by a
character that is not a digit is read to its end by `readSigned`; a number
printed on `w` places is read back by a conversion of width `w`, as long as it
fits there.
-/

namespace Text

/-! ### Printing -/

def padDigits (w n : Nat) : List Char :=
  List.replicate (w - (Nat.toDigits 10 n).length) '0' ++ Nat.toDigits 10 n

def printInt (n : Int) : List Char :=
  if n < 0 then '-' :: Nat.toDigits 10 n.natAbs else Nat.toDigits 10 n.natAbs

/-- `%d` given a `size_t`: the low 32 bits, as an `int`. -/
def printSize (n : Nat) : List Char := printInt (Int.bmod n (2 ^ 32))

def printIntPad (w : Nat) (n : Int) : List Char :=
  if n < 0 then '-' :: padDigits (w - 1) n.natAbs else padDigits w n.natAbs

theorem printInt_natCast (n : Nat) : printInt (n : Int) = Nat.toDigits 10 n := by
  rw [printInt, if_neg (by omega), Int.natAbs_natCast]

theorem printIntPad_natCast (w n : Nat) : printIntPad w (n : Int) = padDigits w n := by
  rw [printIntPad, if_neg (by omega), Int.natAbs_natCast]

theorem isDigit_of_mem_toDigits {n : Nat} : ∀ c ∈ Nat.toDigits 10 n, c.isDigit = true :=
  fun _ hc => Nat.isDigit_of_mem_toDigits (by decide) (by decide) hc

theorem eq_of_printInt_eq_toDigits {n : Int} {m : Nat} (h : printInt n = Nat.toDigits 10 m) :
    n = m := by
  rw [printInt] at h
  split at h
  · next hn =>
    have hmem : '-' ∈ Nat.toDigits 10 m := by rw [← h]; simp
    exact absurd (isDigit_of_mem_toDigits _ hmem) (by decide)
  · next hn =>
    have hval : n.natAbs = m := by
      rw [← Nat.ofDigitChars_ten_toDigits (n := n.natAbs), h, Nat.ofDigitChars_ten_toDigits]
    omega

/-- **A size is printed as it is exactly below `2 ^ 31`**, and never as a
larger one. -/
theorem printSize_eq_toDigits_iff {n m : Nat} (hnm : n ≤ m) :
    printSize n = Nat.toDigits 10 m ↔ n = m ∧ n < 2 ^ 31 := by
  have hle : Int.bmod n (2 ^ 32) ≤ n := by
    rw [Int.bmod_def]
    norm_num only
    split <;> omega
  refine ⟨fun h => ?_, ?_⟩
  · have hm : Int.bmod n (2 ^ 32) = m := eq_of_printInt_eq_toDigits h
    have hlt : Int.bmod n (2 ^ 32) < (2 ^ 32 + 1) / 2 := Int.bmod_lt (by decide)
    omega
  · rintro ⟨rfl, hlt⟩
    rw [printSize, Int.bmod_eq_of_le_mul_two (by omega) (by omega), printInt_natCast]

theorem isDigit_of_mem_padDigits {w n : Nat} : ∀ c ∈ padDigits w n, c.isDigit = true := by
  intro c hc
  rw [padDigits, List.mem_append] at hc
  rcases hc with hz | hd
  · rw [List.eq_of_mem_replicate hz]; rfl
  · exact isDigit_of_mem_toDigits c hd

theorem ofDigitChars_padDigits (w n : Nat) : Nat.ofDigitChars 10 (padDigits w n) 0 = n := by
  rw [padDigits, Nat.ofDigitChars_append, Nat.ofDigitChars_replicate_zero, Nat.mul_zero,
    Nat.ofDigitChars_ten_toDigits]

theorem padDigits_injective (w : Nat) : Function.Injective (padDigits w) := by
  intro m n h
  rw [← ofDigitChars_padDigits w m, h, ofDigitChars_padDigits]

theorem padDigits_ne_nil (w n : Nat) : padDigits w n ≠ [] := by
  rw [padDigits]
  simp

theorem length_padDigits {w n : Nat} (hw : 0 < w) (hn : n < 10 ^ w) :
    (padDigits w n).length = w := by
  have hlen : (Nat.toDigits 10 n).length ≤ w :=
    (Nat.length_toDigits_le_iff (by decide) hw).mpr hn
  rw [padDigits, List.length_append, List.length_replicate]
  omega

/-! ### Scanning -/

/-- One directive of a scan format. -/
inductive Directive (β : Type)
  | lit (c : Char)
  | conv (read : List Char → Option (β × List Char))

/-- The values converted before the first mismatch. -/
def sscanf {β : Type} : List (Directive β) → List Char → List β
  | [], _ => []
  | .lit _ :: _, [] => []
  | .lit c :: fmt, x :: s => if x = c then sscanf fmt s else []
  | .conv read :: fmt, s =>
    match read s with
    | none => []
    | some (v, rest) => v :: sscanf fmt rest

def Directive.isConv {β : Type} : Directive β → Bool
  | .lit _ => false
  | .conv _ => true

/-- A format given by its literal text. -/
def lits {β : Type} (s : List Char) : List (Directive β) := s.map .lit

@[simp] theorem sscanf_nil {β : Type} (s : List Char) : sscanf ([] : List (Directive β)) s = [] := by
  cases s <;> rfl

@[simp] theorem sscanf_lit_cons {β : Type} (c : Char) (fmt : List (Directive β)) (s : List Char) :
    sscanf (.lit c :: fmt) (c :: s) = sscanf fmt s := by
  rw [sscanf, if_pos rfl]

theorem sscanf_conv {β : Type} {read : List Char → Option (β × List Char)}
    {fmt : List (Directive β)} {s rest : List Char} {v : β} (h : read s = some (v, rest)) :
    sscanf (.conv read :: fmt) s = v :: sscanf fmt rest := by
  rw [sscanf, h]

theorem length_sscanf_le {β : Type} : ∀ (fmt : List (Directive β)) (s : List Char),
    (sscanf fmt s).length ≤ fmt.countP Directive.isConv := by
  intro fmt
  induction fmt with
  | nil => intro s; simp
  | cons d fmt ih =>
    intro s
    cases d with
    | lit c =>
      rw [List.countP_cons_of_neg (by simp [Directive.isConv])]
      cases s with
      | nil => simp [sscanf]
      | cons x s =>
        rw [sscanf]
        split
        · exact ih s
        · simp
    | conv read =>
      rw [List.countP_cons_of_pos (by simp [Directive.isConv]), sscanf]
      cases read s with
      | none => simp
      | some p => exact Nat.succ_le_succ (ih p.2)

theorem sscanf_lits {β : Type} : ∀ t s : List Char, sscanf (lits t : List (Directive β)) s = [] := by
  intro t
  induction t with
  | nil => intro s; exact sscanf_nil s
  | cons c t ih =>
    intro s
    cases s with
    | nil => rfl
    | cons x s =>
      rw [lits, List.map_cons, sscanf]
      split
      · exact ih s
      · rfl

theorem sscanf_lits_append {β : Type} : ∀ (t : List Char) (fmt : List (Directive β))
    (s : List Char), sscanf (lits t ++ fmt) (t ++ s) = sscanf fmt s := by
  intro t
  induction t with
  | nil => intro fmt s; rfl
  | cons c t ih =>
    intro fmt s
    rw [lits, List.map_cons, List.cons_append, List.cons_append, sscanf_lit_cons]
    exact ih fmt s

/-- `isspace` in the C locale. -/
def isSpace (c : Char) : Bool := c == ' ' || ('\t' ≤ c && c ≤ '\r')

theorem isSpace_of_isDigit {c : Char} (h : c.isDigit = true) : isSpace c = false := by
  rw [Char.isDigit_iff_toNat] at h
  simp only [isSpace, Bool.or_eq_false_iff, beq_eq_false_iff_ne, Bool.and_eq_false_iff,
    decide_eq_false_iff_not, Char.not_le, ne_eq]
  refine ⟨?_, Or.inr ?_⟩
  · rintro rfl
    exact absurd h.1 (by decide)
  · rw [Char.lt_def, UInt32.lt_iff_toNat_lt]
    exact lt_of_lt_of_le (by decide) h.1

/-- `%w[set]`: between one and `width` characters of the set. -/
def readSet (width : Nat) (member : Char → Bool) (s : List Char) :
    Option (List Char × List Char) :=
  if (s.take width).takeWhile member = [] then none
  else some ((s.take width).takeWhile member, s.drop ((s.take width).takeWhile member).length)

/-- Between one and `width` digits, as a number. -/
def readNat (width : Nat) (s : List Char) : Option (Nat × List Char) :=
  (readSet width Char.isDigit s).map (fun p => (Nat.ofDigitChars 10 p.1 0, p.2))

/-- `%ld` into a signed integer of `bits` bits, as the kernel reads it: blanks,
an optional minus sign and at least one digit; a number out of range wraps. -/
def readSigned (bits : Nat) (s : List Char) : Option (Int × List Char) :=
  match s.dropWhile isSpace with
  | '-' :: t => (readNat t.length t).map (fun p => (Int.bmod (-(p.1 : Int)) (2 ^ bits), p.2))
  | t => (readNat t.length t).map (fun p => (Int.bmod (p.1 : Int) (2 ^ bits), p.2))

/-- `%wu` into an unsigned integer of `bits` bits, as the C library reads it:
blanks, then at most `width` characters, an optional sign and at least one
digit; a negative number is taken modulo `2 ^ bits`. -/
def readUnsigned (width bits : Nat) (s : List Char) : Option (Nat × List Char) :=
  match s.dropWhile isSpace with
  | '-' :: t => (readNat (width - 1) t).map (fun p => ((-(p.1 : Int) % 2 ^ bits).toNat, p.2))
  | '+' :: t => (readNat (width - 1) t).map (fun p => (p.1 % 2 ^ bits, p.2))
  | t => (readNat width t).map (fun p => (p.1 % 2 ^ bits, p.2))

/-- An integer as `operator>>` extracts it: blanks, an optional sign and at
least one digit, of any size. -/
def readStream (s : List Char) : Option (Int × List Char) :=
  match s.dropWhile isSpace with
  | '-' :: t => (readNat t.length t).map (fun p => (-(p.1 : Int), p.2))
  | '+' :: t => (readNat t.length t).map (fun p => ((p.1 : Int), p.2))
  | t => (readNat t.length t).map (fun p => ((p.1 : Int), p.2))

/-- `%d` into an `int`, as the C library reads it: a `long`, the nearest one if
the number does not fit, cut down to 32 bits. -/
def readInt (s : List Char) : Option (Int × List Char) :=
  (readStream s).map (fun p => (Int.bmod (max (-2 ^ 63) (min (2 ^ 63 - 1) p.1)) (2 ^ 32), p.2))

/-- The integer of `bits` bits that makes up the whole text but for blanks; one
that does not fit is a failure. -/
def streamInt (bits : Nat) (s : List Char) : Option Int :=
  (readStream s).bind (fun p =>
    if p.2.all isSpace = true ∧ -2 ^ (bits - 1) ≤ p.1 ∧ p.1 < 2 ^ (bits - 1) then some p.1 else none)

/-! ### Reading back -/

/-- The text goes on with a character outside the set, or ends. -/
def HeadNot (member : Char → Bool) (rest : List Char) : Prop :=
  ∀ c, rest.head? = some c → member c = false

theorem headNot_cons {member : Char → Bool} {c : Char} (h : member c = false) (r : List Char) :
    HeadNot member (c :: r) := by
  intro d hd
  simp only [List.head?_cons, Option.some.injEq] at hd
  exact hd ▸ h

theorem takeWhile_eq_nil_of_headNot {member : Char → Bool} {rest : List Char}
    (h : HeadNot member rest) : rest.takeWhile member = [] := by
  cases rest with
  | nil => rfl
  | cons c r => rw [List.takeWhile_cons, h c rfl]; rfl

theorem readSet_eq_none {width : Nat} {member : Char → Bool} {c : Char} (h : member c = false)
    (r : List Char) : readSet width member (c :: r) = none := by
  rw [readSet, if_pos]
  cases width with
  | zero => rfl
  | succ w => rw [List.take_succ_cons, List.takeWhile_cons, h]; rfl

/-- **A run of set characters is read to its end**, when it fills the width or
is followed by a character outside the set. -/
theorem readSet_append {width : Nat} {member : Char → Bool} {ds rest : List Char}
    (hds : ∀ c ∈ ds, member c = true) (hne : ds ≠ []) (hw : ds.length ≤ width)
    (hend : ds.length = width ∨ HeadNot member rest) :
    readSet width member (ds ++ rest) = some (ds, rest) := by
  have htake : ((ds ++ rest).take width).takeWhile member = ds := by
    rw [List.take_append, List.take_of_length_le hw, List.takeWhile_append_of_pos hds]
    rcases hend with he | hh
    · rw [he, Nat.sub_self, List.take_zero, List.takeWhile_nil, List.append_nil]
    · have hnil : (rest.take (width - ds.length)).takeWhile member = [] := by
        apply takeWhile_eq_nil_of_headNot
        intro c hc
        cases rest with
        | nil => simp at hc
        | cons d r =>
          cases hk : width - ds.length with
          | zero => rw [hk] at hc; simp at hc
          | succ k => rw [hk] at hc; exact hh c (by simpa using hc)
      rw [hnil, List.append_nil]
  rw [readSet, htake, if_neg hne, List.drop_left]

theorem readNat_append {width : Nat} {ds rest : List Char}
    (hds : ∀ c ∈ ds, c.isDigit = true) (hne : ds ≠ []) (hw : ds.length ≤ width)
    (hend : ds.length = width ∨ HeadNot Char.isDigit rest) :
    readNat width (ds ++ rest) = some (Nat.ofDigitChars 10 ds 0, rest) := by
  rw [readNat, readSet_append hds hne hw hend]
  rfl

theorem isDigit_of_append_eq_cons {ds rest t : List Char} {d : Char}
    (hds : ∀ c ∈ ds, c.isDigit = true) (hne : ds ≠ []) (h : ds ++ rest = d :: t) :
    d.isDigit = true := by
  cases ds with
  | nil => exact absurd rfl hne
  | cons c r =>
    rw [List.cons_append, List.cons.injEq] at h
    exact h.1 ▸ hds c (by simp)

theorem dropWhile_isSpace_append {ds rest : List Char} (hds : ∀ c ∈ ds, c.isDigit = true)
    (hne : ds ≠ []) : (ds ++ rest).dropWhile isSpace = ds ++ rest := by
  cases ds with
  | nil => exact absurd rfl hne
  | cons c r =>
    rw [List.cons_append, List.dropWhile_cons, isSpace_of_isDigit (hds c (by simp))]
    rfl

theorem readSigned_append {bits : Nat} {ds rest : List Char}
    (hds : ∀ c ∈ ds, c.isDigit = true) (hne : ds ≠ []) (hrest : HeadNot Char.isDigit rest) :
    readSigned bits (ds ++ rest)
      = some (Int.bmod (Nat.ofDigitChars 10 ds 0 : Int) (2 ^ bits), rest) := by
  have hread := readNat_append hds hne (by simp : ds.length ≤ (ds ++ rest).length) (Or.inr hrest)
  rw [readSigned, dropWhile_isSpace_append hds hne]
  split
  · -- a digit is not a minus sign
    next t ht => exact absurd (isDigit_of_append_eq_cons hds hne ht) (by decide)
  · rw [hread]; rfl

/-- **`%ld` takes any printed number**, wrapped to the bits it is read into. -/
theorem readSigned_printInt (bits : Nat) (n : Int) {rest : List Char}
    (hrest : HeadNot Char.isDigit rest) :
    readSigned bits (printInt n ++ rest) = some (Int.bmod n (2 ^ bits), rest) := by
  rw [printInt]
  by_cases hn : n < 0
  · have hread := readNat_append (isDigit_of_mem_toDigits (n := n.natAbs)) Nat.toDigits_ne_nil
      (by simp : _ ≤ (Nat.toDigits 10 n.natAbs ++ rest).length) (Or.inr hrest)
    have habs : -(n.natAbs : Int) = n := by omega
    have hsign : ('-' :: Nat.toDigits 10 n.natAbs ++ rest).dropWhile isSpace
        = '-' :: (Nat.toDigits 10 n.natAbs ++ rest) := rfl
    rw [if_pos hn, readSigned, hsign]
    simp only
    rw [hread, Nat.ofDigitChars_ten_toDigits, Option.map_some, habs]
  · have habs : (n.natAbs : Int) = n := by omega
    rw [if_neg hn, readSigned_append isDigit_of_mem_toDigits Nat.toDigits_ne_nil hrest,
      Nat.ofDigitChars_ten_toDigits, habs]

/-- **`%ld` reads back what `%ld` printed**, for a number that fits. -/
theorem readSigned_toDigits {bits n : Nat} {rest : List Char} (hn : 2 * n < 2 ^ bits)
    (hrest : HeadNot Char.isDigit rest) :
    readSigned bits (Nat.toDigits 10 n ++ rest) = some ((n : Int), rest) := by
  rw [readSigned_append isDigit_of_mem_toDigits Nat.toDigits_ne_nil hrest,
    Nat.ofDigitChars_ten_toDigits, Int.bmod_eq_of_le_mul_two (by omega) (by omega)]

theorem readUnsigned_append {width bits : Nat} {ds rest : List Char}
    (hds : ∀ c ∈ ds, c.isDigit = true) (hne : ds ≠ []) (hw : ds.length ≤ width)
    (hend : ds.length = width ∨ HeadNot Char.isDigit rest) :
    readUnsigned width bits (ds ++ rest)
      = some (Nat.ofDigitChars 10 ds 0 % 2 ^ bits, rest) := by
  have hread := readNat_append hds hne hw hend
  rw [readUnsigned, dropWhile_isSpace_append hds hne]
  split
  · next t ht => exact absurd (isDigit_of_append_eq_cons hds hne ht) (by decide)
  · next t ht => exact absurd (isDigit_of_append_eq_cons hds hne ht) (by decide)
  · rw [hread]; rfl

theorem readNat_digits {ds : List Char} (hds : ∀ c ∈ ds, c.isDigit = true) (hne : ds ≠ []) :
    readNat ds.length ds = some (Nat.ofDigitChars 10 ds 0, []) := by
  have h : readNat ds.length (ds ++ []) = some (Nat.ofDigitChars 10 ds 0, []) :=
    readNat_append hds hne (le_refl _) (Or.inl rfl)
  rwa [List.append_nil] at h

theorem readStream_digits {ds : List Char} (hds : ∀ c ∈ ds, c.isDigit = true) (hne : ds ≠ []) :
    readStream ds = some ((Nat.ofDigitChars 10 ds 0 : Int), []) := by
  have hblank : ds.dropWhile isSpace = ds := by
    have h : (ds ++ []).dropWhile isSpace = ds ++ [] := dropWhile_isSpace_append hds hne
    rwa [List.append_nil] at h
  rw [readStream, hblank]
  split
  · next t => exact absurd (hds '-' (by simp)) (by decide)
  · next t => exact absurd (hds '+' (by simp)) (by decide)
  · rw [readNat_digits hds hne]; rfl

/-- **A decimal text is its value, or nothing when that does not fit.** -/
theorem streamInt_digits {bits : Nat} {ds : List Char} (hds : ∀ c ∈ ds, c.isDigit = true)
    (hne : ds ≠ []) :
    streamInt bits ds = if Nat.ofDigitChars 10 ds 0 < 2 ^ (bits - 1)
      then some (Nat.ofDigitChars 10 ds 0 : Int) else none := by
  have hpow : ((2 ^ (bits - 1) : Nat) : Int) = 2 ^ (bits - 1) := by push_cast; rfl
  rw [streamInt, readStream_digits hds hne, Option.bind_some]
  by_cases hlt : Nat.ofDigitChars 10 ds 0 < 2 ^ (bits - 1)
  · rw [if_pos hlt, if_pos ⟨rfl, by omega, by omega⟩]
  · rw [if_neg hlt, if_neg (fun h => hlt (by have := h.2.2; omega))]

theorem readStream_printInt (n : Int) : readStream (printInt n) = some (n, []) := by
  have hread := readNat_digits (isDigit_of_mem_toDigits (n := n.natAbs)) Nat.toDigits_ne_nil
  rw [printInt]
  by_cases hn : n < 0
  · have habs : -(n.natAbs : Int) = n := by omega
    have hsign : ('-' :: Nat.toDigits 10 n.natAbs).dropWhile isSpace
        = '-' :: Nat.toDigits 10 n.natAbs := rfl
    rw [if_pos hn, readStream, hsign]
    simp only
    rw [hread, Nat.ofDigitChars_ten_toDigits, Option.map_some, habs]
  · have habs : (n.natAbs : Int) = n := by omega
    rw [if_neg hn, readStream_digits isDigit_of_mem_toDigits Nat.toDigits_ne_nil,
      Nat.ofDigitChars_ten_toDigits, habs]

/-- **A number that was printed is read back**, when it fits. -/
theorem streamInt_printInt {bits : Nat} {n : Int} (hlo : -2 ^ (bits - 1) ≤ n)
    (hhi : n < 2 ^ (bits - 1)) : streamInt bits (printInt n) = some n := by
  rw [streamInt, readStream_printInt, Option.bind_some, if_pos ⟨rfl, hlo, hhi⟩]

theorem bounds_of_streamInt {bits : Nat} {s : List Char} {n : Int} (h : streamInt bits s = some n) :
    -2 ^ (bits - 1) ≤ n ∧ n < 2 ^ (bits - 1) := by
  rw [streamInt] at h
  obtain ⟨p, -, h⟩ := Option.bind_eq_some_iff.mp h
  split at h
  · next hfits =>
    obtain rfl := Option.some.inj h
    exact hfits.2
  · cases h

/-! ### What a stream accepts -/

theorem readNat_length_eq_some_iff {t rest : List Char} {n : Nat} :
    readNat t.length t = some (n, rest) ↔ ∃ ds, t = ds ++ rest ∧ (∀ c ∈ ds, c.isDigit = true) ∧
      ds ≠ [] ∧ HeadNot Char.isDigit rest ∧ n = Nat.ofDigitChars 10 ds 0 := by
  constructor
  · intro h
    rw [readNat, readSet, List.take_length] at h
    split at h
    · cases h
    · next hne =>
      rw [Option.map_some, Option.some.injEq, Prod.mk.injEq] at h
      have hrest : rest = t.dropWhile Char.isDigit := by
        have happ : t.takeWhile Char.isDigit ++ t.dropWhile Char.isDigit = t :=
          List.takeWhile_append_dropWhile
        have hdrop := congrArg (List.drop (t.takeWhile Char.isDigit).length) happ
        rw [List.drop_left] at hdrop
        exact h.2.symm.trans hdrop.symm
      refine ⟨t.takeWhile Char.isDigit, ?_, fun c hc => List.mem_takeWhile_imp hc, hne, ?_, h.1.symm⟩
      · rw [hrest, List.takeWhile_append_dropWhile]
      · intro c hc
        rw [hrest] at hc
        have hnot := List.head?_dropWhile_not Char.isDigit t
        rw [hc] at hnot
        exact hnot
  · rintro ⟨ds, rfl, hds, hne, hrest, rfl⟩
    exact readNat_append hds hne (by simp) (Or.inr hrest)

theorem readNat_map_eq_some_iff {f : Nat → Int} {t rest : List Char} {v : Int} :
    (readNat t.length t).map (fun p => (f p.1, p.2)) = some (v, rest) ↔
      ∃ ds, t = ds ++ rest ∧ (∀ c ∈ ds, c.isDigit = true) ∧ ds ≠ [] ∧ HeadNot Char.isDigit rest ∧
        v = f (Nat.ofDigitChars 10 ds 0) := by
  constructor
  · intro h
    obtain ⟨⟨n, r⟩, hn, heq⟩ := Option.map_eq_some_iff.mp h
    obtain ⟨ds, ht, hds, hne, hr, rfl⟩ := readNat_length_eq_some_iff.mp hn
    cases heq
    exact ⟨ds, ht, hds, hne, hr, rfl⟩
  · rintro ⟨ds, ht, hds, hne, hr, rfl⟩
    rw [readNat_length_eq_some_iff.mpr ⟨ds, ht, hds, hne, hr, rfl⟩]
    rfl

/-- Blanks, an optional sign and the digits of a number. -/
inductive Numeral : List Char → Int → List Char → Prop
  | plain (blanks ds rest : List Char) (hblanks : ∀ c ∈ blanks, isSpace c = true)
      (hds : ∀ c ∈ ds, c.isDigit = true) (hne : ds ≠ []) (hrest : HeadNot Char.isDigit rest) :
      Numeral (blanks ++ (ds ++ rest)) (Nat.ofDigitChars 10 ds 0) rest
  | plus (blanks ds rest : List Char) (hblanks : ∀ c ∈ blanks, isSpace c = true)
      (hds : ∀ c ∈ ds, c.isDigit = true) (hne : ds ≠ []) (hrest : HeadNot Char.isDigit rest) :
      Numeral (blanks ++ '+' :: (ds ++ rest)) (Nat.ofDigitChars 10 ds 0) rest
  | minus (blanks ds rest : List Char) (hblanks : ∀ c ∈ blanks, isSpace c = true)
      (hds : ∀ c ∈ ds, c.isDigit = true) (hne : ds ≠ []) (hrest : HeadNot Char.isDigit rest) :
      Numeral (blanks ++ '-' :: (ds ++ rest)) (-(Nat.ofDigitChars 10 ds 0 : Int)) rest

/-- **A stream extracts the number its text begins with**, and nothing else. -/
theorem readStream_eq_some_iff {s rest : List Char} {v : Int} :
    readStream s = some (v, rest) ↔ Numeral s v rest := by
  constructor
  · intro h
    have hsplit : s.takeWhile isSpace ++ s.dropWhile isSpace = s := List.takeWhile_append_dropWhile
    have hblanks : ∀ c ∈ s.takeWhile isSpace, isSpace c = true := fun c hc => List.mem_takeWhile_imp hc
    rw [readStream] at h
    rw [← hsplit]
    split at h
    · next t ht =>
      obtain ⟨ds, rfl, hds, hne, hr, rfl⟩ := (readNat_map_eq_some_iff (f := fun n => -(n : Int))).mp h
      rw [ht]
      exact .minus _ ds rest hblanks hds hne hr
    · next t ht =>
      obtain ⟨ds, rfl, hds, hne, hr, rfl⟩ := (readNat_map_eq_some_iff (f := fun n => (n : Int))).mp h
      rw [ht]
      exact .plus _ ds rest hblanks hds hne hr
    · obtain ⟨ds, ht, hds, hne, hr, rfl⟩ := (readNat_map_eq_some_iff (f := fun n => (n : Int))).mp h
      rw [ht]
      exact .plain _ ds rest hblanks hds hne hr
  · intro h
    cases h with
    | plain blanks ds rest hblanks hds hne hrest =>
      rw [readStream, List.dropWhile_append_of_pos hblanks, dropWhile_isSpace_append hds hne]
      split
      · next t ht => exact absurd (isDigit_of_append_eq_cons hds hne ht) (by decide)
      · next t ht => exact absurd (isDigit_of_append_eq_cons hds hne ht) (by decide)
      · exact (readNat_map_eq_some_iff (f := fun n => (n : Int))).mpr ⟨ds, rfl, hds, hne, hrest, rfl⟩
    | plus blanks ds rest hblanks hds hne hrest =>
      rw [readStream, List.dropWhile_append_of_pos hblanks]
      exact (readNat_map_eq_some_iff (f := fun n => (n : Int))).mpr ⟨ds, rfl, hds, hne, hrest, rfl⟩
    | minus blanks ds rest hblanks hds hne hrest =>
      rw [readStream, List.dropWhile_append_of_pos hblanks]
      exact (readNat_map_eq_some_iff (f := fun n => -(n : Int))).mpr ⟨ds, rfl, hds, hne, hrest, rfl⟩

theorem numeral_digits {ds : List Char} (hds : ∀ c ∈ ds, c.isDigit = true) (hne : ds ≠ []) :
    Numeral ds (Nat.ofDigitChars 10 ds 0) [] :=
  readStream_eq_some_iff.mp (readStream_digits hds hne)

/-- `%d` stores the low 32 bits of the nearest `long`. -/
def longToInt (v : Int) : Int := Int.bmod (max (-2 ^ 63) (min (2 ^ 63 - 1) v)) (2 ^ 32)

theorem longToInt_of_lt {v : Int} (h0 : 0 ≤ v) (h : v < 2 ^ 31) : longToInt v = v := by
  rw [longToInt, min_eq_right (by omega), max_eq_right (by omega)]
  exact Int.bmod_eq_of_le_mul_two (by omega) (by omega)

/-- **`%d` accepts any text that begins with a number.** -/
theorem sscanf_readInt_eq_iff {s : List Char} {n : Int} :
    sscanf [.conv readInt] s = [n] ↔ ∃ v rest, Numeral s v rest ∧ n = longToInt v := by
  rw [sscanf, readInt]
  cases hread : readStream s with
  | none =>
    refine iff_of_false (by simp) ?_
    rintro ⟨v, rest, hnum, -⟩
    rw [readStream_eq_some_iff.mpr hnum] at hread
    cases hread
  | some p =>
    obtain ⟨v, rest⟩ := p
    show longToInt v :: sscanf [] rest = [n] ↔ _
    rw [sscanf_nil]
    constructor
    · intro h
      exact ⟨v, rest, readStream_eq_some_iff.mp hread, (List.cons.inj h).1.symm⟩
    · rintro ⟨v', rest', hnum, rfl⟩
      rw [readStream_eq_some_iff.mpr hnum] at hread
      cases hread
      rfl

/-! ### Fixed widths -/

/-- The values of all conversions, when the format matches the text to its end. -/
def scanAll {β : Type} : List (Directive β) → List Char → Option (List β)
  | [], s => if s = [] then some [] else none
  | .lit _ :: _, [] => none
  | .lit c :: fmt, x :: s => if x = c then scanAll fmt s else none
  | .conv read :: fmt, s =>
    match read s with
    | none => none
    | some (v, rest) => (scanAll fmt rest).map (v :: ·)

/-- `w` digits, no more and no fewer. -/
def readFixed (w : Nat) (s : List Char) : Option (Nat × List Char) :=
  if (s.take w).length = w ∧ (s.take w).all Char.isDigit = true then
    some (Nat.ofDigitChars 10 (s.take w) 0, s.drop w)
  else none

/-- One of some words of length `w`, as its place in their list. -/
def readWord (w : Nat) (words : List String) (s : List Char) : Option (Nat × List Char) :=
  (words.findIdx? (fun word => word.toList == s.take w)).map (fun i => (i, s.drop w))

theorem scanAll_lits_append {β : Type} : ∀ (t : List Char) (fmt : List (Directive β))
    (s : List Char), scanAll (lits t ++ fmt) (t ++ s) = scanAll fmt s := by
  intro t
  induction t with
  | nil => intro fmt s; rfl
  | cons c t ih =>
    intro fmt s
    rw [lits, List.map_cons, List.cons_append, List.cons_append, scanAll, if_pos rfl]
    exact ih fmt s

theorem scanAll_conv {β : Type} {read : List Char → Option (β × List Char)}
    {fmt : List (Directive β)} {s rest : List Char} {v : β} (h : read s = some (v, rest)) :
    scanAll (.conv read :: fmt) s = (scanAll fmt rest).map (v :: ·) := by
  rw [scanAll, h]

theorem scanAll_lits {β : Type} (t : List Char) :
    scanAll (lits t : List (Directive β)) t = some [] := by
  have h := scanAll_lits_append t ([] : List (Directive β)) []
  rwa [List.append_nil, List.append_nil] at h

/-- **A number that was padded to a width is read back.** -/
theorem readFixed_padDigits {w n : Nat} (hw : 0 < w) (hn : n < 10 ^ w) (rest : List Char) :
    readFixed w (padDigits w n ++ rest) = some (n, rest) := by
  have hlen := length_padDigits hw hn
  have htake : (padDigits w n ++ rest).take w = padDigits w n := by
    rw [List.take_append_of_le_length hlen.ge, List.take_of_length_le hlen.le]
  have hdrop : (padDigits w n ++ rest).drop w = rest := by
    rw [List.drop_append_of_le_length hlen.ge, List.drop_of_length_le hlen.le, List.nil_append]
  have hall : (padDigits w n).all Char.isDigit = true := List.all_eq_true.mpr isDigit_of_mem_padDigits
  rw [readFixed, htake, hdrop, if_pos ⟨hlen, hall⟩, ofDigitChars_padDigits]

/-- **Nothing is padded exactly when the number has its places already.** -/
theorem toDigits_eq_padDigits_iff {w n : Nat} (hw : 0 < w) :
    Nat.toDigits 10 n = padDigits (w + 1) n ↔ 10 ^ w ≤ n := by
  have hlen : (Nat.toDigits 10 n).length ≤ w ↔ n < 10 ^ w :=
    Nat.length_toDigits_le_iff (by decide) hw
  constructor
  · intro h
    by_contra hlt
    have hle := hlen.mpr (by omega)
    have hpad := congrArg List.length h
    rw [padDigits, List.length_append, List.length_replicate] at hpad
    omega
  · intro h
    have hle : ¬ (Nat.toDigits 10 n).length ≤ w := fun hle => by
      have := hlen.mp hle
      omega
    rw [padDigits, Nat.sub_eq_zero_of_le (by omega), List.replicate_zero, List.nil_append]

end Text
