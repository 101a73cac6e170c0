import Opaleye.Lib.Text

/-!
# Header lines and a body

A message of the CGI kind is a sequence of header lines, each ended by a CRLF,
one empty line, and a body.  `render hs body` is that text; it is well formed
when every header is a line and every `Content-Length` among the headers is the
length of the body in decimal.

A reader finds the header and the body again, since a line has no CR or LF in
it.  Here that is `render_cons_of_line`, which takes a line off the front, and
`length_le_of_blank`, which says that the body starts at the first empty line at
the latest.
-/

namespace Message

open Text

def crlf : List Char := ['\r', '\n']

/-- A character that may stand in a line. -/
def isPlain (c : Char) : Bool := c != '\r' && c != '\n'

/-- A line with something on it. -/
def isLine (l : List Char) : Bool := !l.isEmpty && l.all isPlain

def render : List (List Char) → List Char → List Char
  | [], body => crlf ++ body
  | h :: hs, body => h ++ crlf ++ render hs body

/-- The value a line gives to a field; field names are compared without case. -/
def fieldValue (name line : List Char) : Option (List Char) :=
  if (line.take (name.length + 2)).map Char.toLower = name ++ ": ".toList then
    some (line.drop (name.length + 2))
  else none

def contentLength (line : List Char) : Option (List Char) := fieldValue "content-length".toList line

/-- Header lines, an empty line, and a body as long as the header says. -/
def WellFormed (bytes : List Char) : Prop :=
  ∃ hs body, bytes = render hs body ∧ hs.all isLine = true ∧
    ∀ h ∈ hs, ∀ v, contentLength h = some v → v = Nat.toDigits 10 body.length

/-! ### Lines -/

theorem isPlain_of_isDigit {c : Char} (h : c.isDigit = true) : isPlain c = true := by
  rw [isPlain, Bool.and_eq_true, bne_iff_ne, bne_iff_ne]
  refine ⟨?_, ?_⟩
  · rintro rfl
    exact absurd h (by decide)
  · rintro rfl
    exact absurd h (by decide)

theorem all_isPlain_toDigits (n : Nat) : (Nat.toDigits 10 n).all isPlain = true :=
  List.all_eq_true.mpr (fun c hc => isPlain_of_isDigit (isDigit_of_mem_toDigits c hc))

theorem all_isPlain_padDigits (w n : Nat) : (padDigits w n).all isPlain = true :=
  List.all_eq_true.mpr (fun c hc => isPlain_of_isDigit (isDigit_of_mem_padDigits c hc))

theorem all_isPlain_printInt (n : Int) : (printInt n).all isPlain = true := by
  rw [printInt]
  split
  · rw [List.all_cons, all_isPlain_toDigits]
    rfl
  · exact all_isPlain_toDigits _

theorem all_isPlain_printSize (n : Nat) : (printSize n).all isPlain = true :=
  all_isPlain_printInt _

theorem all_isPlain_printIntPad (w : Nat) (n : Int) : (printIntPad w n).all isPlain = true := by
  rw [printIntPad]
  split
  · rw [List.all_cons, all_isPlain_padDigits]
    rfl
  · exact all_isPlain_padDigits _ _

theorem isLine_append {l v : List Char} (hl : isLine l = true) (hv : v.all isPlain = true) :
    isLine (l ++ v) = true := by
  rw [isLine, Bool.and_eq_true] at hl ⊢
  refine ⟨?_, ?_⟩
  · cases l with
    | nil => exact absurd hl.1 (by decide)
    | cons c r => rfl
  · rw [List.all_append, hl.2, hv]
    rfl

theorem isPlain_of_mem {l : List Char} (hl : isLine l = true) {c : Char} (hc : c ∈ l) :
    isPlain c = true := by
  rw [isLine, Bool.and_eq_true] at hl
  exact List.all_eq_true.mp hl.2 c hc

theorem contentLength_of_head {c : Char} (h : c.toLower ≠ 'c') (r : List Char) :
    contentLength (c :: r) = none := by
  rw [contentLength, fieldValue, if_neg]
  intro heq
  exact h (List.cons.inj heq).1

theorem contentLength_line (v : List Char) :
    contentLength ("Content-Length: ".toList ++ v) = some v := by
  rw [contentLength, fieldValue]
  exact if_pos rfl

/-! ### Taking a message apart -/

/-- **Two lines that end here are the same**: a CRLF is the first one. -/
theorem line_eq_of_append {l l' r r' : List Char} (hl : ∀ c ∈ l, isPlain c = true)
    (hl' : ∀ c ∈ l', isPlain c = true) (h : l ++ crlf ++ r = l' ++ crlf ++ r') :
    l = l' ∧ r = r' := by
  induction l generalizing l' with
  | nil =>
    cases l' with
    | nil => exact ⟨rfl, List.append_cancel_left h⟩
    | cons c t =>
      have hc : '\r' = c := (List.cons.injEq _ _ _ _ ▸ h : _ ∧ _).1
      exact absurd (hl' c (by simp)) (by rw [← hc]; decide)
  | cons c t ih =>
    cases l' with
    | nil =>
      have hc : c = '\r' := (List.cons.injEq _ _ _ _ ▸ h : _ ∧ _).1
      exact absurd (hl c (by simp)) (by rw [hc]; decide)
    | cons c' t' =>
      have hcons : c = c' ∧ t ++ crlf ++ r = t' ++ crlf ++ r' := by
        simpa only [List.cons_append, List.cons.injEq] using h
      obtain ⟨ht, hr⟩ := ih (fun d hd => hl d (by simp [hd])) (fun d hd => hl' d (by simp [hd]))
        hcons.2
      exact ⟨by rw [hcons.1, ht], hr⟩

theorem render_cons_of_line {hs : List (List Char)} {body l r : List Char}
    (hhs : hs.all isLine = true) (hl : isLine l = true) (h : render hs body = l ++ crlf ++ r) :
    ∃ hs', hs = l :: hs' ∧ render hs' body = r := by
  cases hs with
  | nil =>
    have hnil := line_eq_of_append (l := []) (by simp) (fun c hc => isPlain_of_mem hl hc) h
    rw [← hnil.1] at hl
    exact absurd hl (by decide)
  | cons h' hs' =>
    rw [List.all_cons, Bool.and_eq_true] at hhs
    obtain ⟨rfl, hr⟩ := line_eq_of_append (fun c hc => isPlain_of_mem hhs.1 hc)
      (fun c hc => isPlain_of_mem hl hc) h
    exact ⟨hs', rfl, hr⟩

theorem body_eq_of_blank {hs : List (List Char)} {body s : List Char} (hhs : hs.all isLine = true)
    (h : render hs body = crlf ++ s) : body = s := by
  cases hs with
  | nil => exact List.append_cancel_left h
  | cons l hs =>
    rw [List.all_cons, Bool.and_eq_true] at hhs
    have h' : l ++ crlf ++ render hs body = [] ++ crlf ++ s := h
    have hnil : l = [] := (line_eq_of_append (fun c hc => isPlain_of_mem hhs.1 hc) (by simp) h').1
    rw [hnil] at hhs
    exact absurd hhs.1 (by decide)

/-- **The body starts at an empty line at the latest.** -/
theorem length_le_of_blank {hs : List (List Char)} {body p s : List Char}
    (hhs : hs.all isLine = true) (h : render hs body = p ++ (crlf ++ (crlf ++ s))) :
    s.length ≤ body.length := by
  induction hs generalizing p with
  | nil =>
    have hlen := congrArg List.length h
    simp only [render, List.length_append] at hlen
    omega
  | cons l hs ih =>
    rw [List.all_cons, Bool.and_eq_true] at hhs
    have hend : render hs body = crlf ++ s → s.length ≤ body.length := by
      intro hr
      rw [body_eq_of_blank hhs.2 hr]
    rw [render, List.append_assoc, List.append_eq_append_iff] at h
    rcases h with ⟨a, rfl, ha⟩ | ⟨b, rfl, hb⟩
    · -- the first header ends before the empty line
      match a, ha with
      | [], ha => exact hend (List.append_cancel_left ha)
      | [c], ha => simp [crlf] at ha
      | c :: d :: a, ha =>
        simp only [crlf, List.cons_append, List.nil_append, List.cons.injEq] at ha
        exact ih hhs.2 ha.2.2
    · -- it ends no earlier, since it has no CR in it
      cases b with
      | nil => exact hend (List.append_cancel_left hb).symm
      | cons c b =>
        simp only [crlf, List.cons_append, List.nil_append, List.cons.injEq] at hb
        exact absurd (isPlain_of_mem hhs.1 (c := c) (by simp)) (by rw [← hb.1]; decide)

theorem render_injective {hs hs' : List (List Char)} {body body' : List Char}
    (hhs : hs.all isLine = true) (hhs' : hs'.all isLine = true)
    (h : render hs body = render hs' body') : hs = hs' ∧ body = body' := by
  induction hs' generalizing hs with
  | nil =>
    cases hs with
    | nil => exact ⟨rfl, List.append_cancel_left h⟩
    | cons l hs =>
      obtain ⟨hs'', hnil, -⟩ := render_cons_of_line hhs' (List.all_eq_true.mp hhs l (by simp)) h.symm
      cases hnil
  | cons l' hs' ih =>
    rw [List.all_cons, Bool.and_eq_true] at hhs'
    obtain ⟨hs'', rfl, hr⟩ := render_cons_of_line hhs hhs'.1 h
    rw [List.all_cons, Bool.and_eq_true] at hhs
    obtain ⟨rfl, hbody⟩ := ih hhs.2 hhs'.2 hr
    exact ⟨rfl, hbody⟩

/-- **A message made of lines is well formed exactly when its length is right.** -/
theorem wellFormed_render_iff {hs : List (List Char)} {body : List Char}
    (hhs : hs.all isLine = true) : WellFormed (render hs body)
      ↔ ∀ h ∈ hs, ∀ v, contentLength h = some v → v = Nat.toDigits 10 body.length := by
  refine ⟨?_, fun h => ⟨hs, body, rfl, hhs, h⟩⟩
  rintro ⟨hs', body', heq, hhs', hlen⟩
  obtain ⟨rfl, rfl⟩ := render_injective hhs hhs' heq
  exact hlen

theorem wellFormed_length_iff {l v body : List Char} {hs : List (List Char)}
    (hl : isLine l = true ∧ contentLength l = none) (hv : v.all isPlain = true)
    (hhs : ∀ h ∈ hs, isLine h = true ∧ contentLength h = none) :
    WellFormed (render (l :: ("Content-Length: ".toList ++ v) :: hs) body)
      ↔ v = Nat.toDigits 10 body.length := by
  have hlines : (l :: ("Content-Length: ".toList ++ v) :: hs).all isLine = true := by
    rw [List.all_cons, List.all_cons, hl.1, isLine_append (by decide) hv]
    exact List.all_eq_true.mpr (fun h hh => (hhs h hh).1)
  rw [wellFormed_render_iff hlines]
  refine ⟨fun h => h _ (by simp) v (contentLength_line v), ?_⟩
  intro hlen h hh w hw
  rcases List.mem_cons.mp hh with rfl | hh
  · rw [hl.2] at hw
    cases hw
  · rcases List.mem_cons.mp hh with rfl | hh
    · rw [contentLength_line, Option.some.injEq] at hw
      rw [← hw, hlen]
    · rw [(hhs h hh).2] at hw
      cases hw

end Message
