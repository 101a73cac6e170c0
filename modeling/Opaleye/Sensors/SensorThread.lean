import Opaleye.Lib.FieldCopy
import Opaleye.Lib.TransSys
import Opaleye.Sensors.MS5837

/-!
# The sensor thread

`opaleye/sensor_thread.cpp`: `work` samples both sensors again and again and
publishes what it has in `m_temp_degC` and `m_baro_data`, which `get_temp_data` and
`get_baro_data` copy.  All three construct a `std::unique_lock` without a mutex,
which locks nothing, so a `RESULT` is copied field by field while others are at it.

`ext_temp` starts as 0.0, as the constructor's value does, but `baro_result` is not
initialised: what is published before the first pressure sample succeeds is
whatever stood on the stack.

The temperatures are of any type and `calc_temp` is any function of a word.  The
samples that succeeded and the values that were returned are kept as a history.
-/

namespace Opaleye.Sensors

open TransSys FieldCopy
open MS5837 (Reading CalData Result calcPressure)

namespace TSYS01

/-- `TSYS01::sample`: a command and a read of one word. -/
def sample (write : Bool) (read : Option Reading) : Option UInt32 :=
  if write = false then none
  else
    match read with
    | none => none
    | some word => some word.word

end TSYS01

/-! ### Memory -/

/-- The fields of a `RESULT`. -/
inductive Field
  | p1Mbar
  | temp1CdegC
  | p2Mbar
  | temp2DegC
  deriving DecidableEq

instance : Fintype Field where
  elems := {.p1Mbar, .temp1CdegC, .p2Mbar, .temp2DegC}
  complete := by
    intro f
    cases f <;> decide

/-- A `RESULT` in memory. -/
abbrev Cells := Field → Int

def cells (r : Result) : Cells
  | .p1Mbar => r.p1Mbar
  | .temp1CdegC => r.temp1CdegC
  | .p2Mbar => r.p2Mbar
  | .temp2DegC => r.temp2DegC

/-- `m_baro_data = {}` -/
def zeroCells : Cells := fun _ => 0

/-- Where `work` is. -/
inductive Place
  | test
  | temp
  | baro
  | storeTemp
  /-- `m_baro_data = baro_result`, with these fields to be copied -/
  | storeBaro (todo : Finset Field)
  | done

/-- A call of `get_baro_data`. -/
structure Reader where
  todo : Finset Field
  out : Cells

structure State (τ : Type) where
  place : Place
  extTemp : τ
  baroResult : Cells
  mTempDegC : τ
  mBaroData : Cells
  readers : Nat → Option Reader
  /-- the samples that succeeded, the latest first -/
  temps : List UInt32
  baros : List (UInt32 × UInt32)
  /-- what `get_temp_data` and `get_baro_data` returned -/
  gotTemps : List τ
  gotBaros : List Cells

inductive Act
  | test (interrupted : Bool)
  | sampleTemp (write : Bool) (read : Option Reading)
  | sampleBaro (writeD1 : Bool) (readD1 : Option Reading) (writeD2 : Bool) (readD2 : Option Reading)
  | storeTemp
  | storeBaro (f : Field)
  | wait
  | getTemp
  | callBaro (i : Nat) (out : Cells)
  | copyBaro (i : Nat) (f : Field)
  | returnBaro (i : Nat)

/-! ### The thread and its readers -/

/-- The sensors: the temperature 0.0, `calc_temp` with its calibration and the
calibration of the pressure. -/
structure Setup (τ : Type) where
  zero : τ
  calcTemp : UInt32 → τ
  baroCal : CalData

variable {τ : Type}

namespace Setup

variable (S : Setup τ)

/-- The constructor and the head of `work`; `junk` is the uninitialised `baro_result`. -/
def boot (junk : Cells) : State τ where
  place := .test
  extTemp := S.zero
  baroResult := junk
  mTempDegC := S.zero
  mBaroData := zeroCells
  readers := fun _ => none
  temps := []
  baros := []
  gotTemps := []
  gotBaros := []

/-- `m_temp.sample`, and `calc_temp` when it succeeds. -/
def sampleTemp (s : State τ) (write : Bool) (read : Option Reading) : State τ :=
  match TSYS01.sample write read with
  | none => { s with place := .baro }
  | some word =>
    { s with place := .baro, extTemp := S.calcTemp word, temps := word :: s.temps }

/-- `m_baro.sample`, and `calc_pressure` when it succeeds. -/
def sampleBaro (s : State τ) (words : Option (UInt32 × UInt32)) : Option (State τ) :=
  match words with
  | none => some { s with place := .storeTemp }
  | some (d1, d2) => do
    let r ← calcPressure d1 d2 S.baroCal
    some { s with place := .storeTemp, baroResult := cells r, baros := (d1, d2) :: s.baros }

def step (s : State τ) : Act → Option (State τ)
  | .test interrupted =>
    match s.place with
    | .test => some { s with place := if interrupted then .done else .temp }
    | _ => none
  | .sampleTemp write read =>
    match s.place with
    | .temp => some (S.sampleTemp s write read)
    | _ => none
  | .sampleBaro writeD1 readD1 writeD2 readD2 =>
    match s.place with
    | .baro => S.sampleBaro s (MS5837.sample writeD1 readD1 writeD2 readD2)
    | _ => none
  | .storeTemp =>
    match s.place with
    | .storeTemp => some { s with mTempDegC := s.extTemp, place := .storeBaro Finset.univ }
    | _ => none
  | .storeBaro f =>
    match s.place with
    | .storeBaro todo =>
      if f ∈ todo then
        some { s with
          mBaroData := copyField s.baroResult s.mBaroData f
          place := .storeBaro (todo.erase f) }
      else none
    | _ => none
  | .wait =>
    match s.place with
    | .storeBaro todo => if todo = ∅ then some { s with place := .test } else none
    | _ => none
  | .getTemp => some { s with gotTemps := s.mTempDegC :: s.gotTemps }
  | .callBaro i out =>
    match s.readers i with
    | none => some { s with readers := Function.update s.readers i (some ⟨Finset.univ, out⟩) }
    | some _ => none
  | .copyBaro i f =>
    match s.readers i with
    | some r =>
      if f ∈ r.todo then
        some { s with
          readers := Function.update s.readers i
            (some ⟨r.todo.erase f, copyField s.mBaroData r.out f⟩) }
      else none
    | none => none
  | .returnBaro i =>
    match s.readers i with
    | some r =>
      if r.todo = ∅ then
        some { s with
          readers := Function.update s.readers i none
          gotBaros := r.out :: s.gotBaros }
      else none
    | none => none

def sys : TransSys (State τ) Act where
  init := fun s => ∃ junk, s = S.boot junk
  step := S.step

/-! ### Real samples -/

/-- The constructor's value, or `calc_temp` of a sample. -/
def TempOf (temps : List UInt32) (t : τ) : Prop := t = S.zero ∨ ∃ word ∈ temps, t = S.calcTemp word

/-- The four fields of `calc_pressure` of these words. -/
def PressureOf (words : UInt32 × UInt32) (c : Cells) : Prop :=
  ∃ r, calcPressure words.1 words.2 S.baroCal = some r ∧ c = cells r

/-- The constructor's value, or all of `calc_pressure` of one sample. -/
def BaroOf (baros : List (UInt32 × UInt32)) (c : Cells) : Prop :=
  c = zeroCells ∨ ∃ words ∈ baros, S.PressureOf words c

/-- The temperature of the latest sample. -/
def LatestTemp : List UInt32 → τ → Prop
  | [], t => t = S.zero
  | word :: _, t => t = S.calcTemp word

/-- The pressure of the latest sample. -/
def LatestBaro : List (UInt32 × UInt32) → Cells → Prop
  | [], c => c = zeroCells
  | words :: _, c => S.PressureOf words c

/-- What was returned is real, and what was published is the latest. -/
structure Sound (s : State τ) : Prop where
  temp : ∀ t ∈ s.gotTemps, S.TempOf s.temps t
  baro : ∀ c ∈ s.gotBaros, S.BaroOf s.baros c
  published : s.place = .storeBaro ∅ →
    S.LatestTemp s.temps s.mTempDegC ∧ S.LatestBaro s.baros s.mBaroData

/-- The first pressure sample succeeds, and no field is copied while another copy of the `RESULT` is
partway. -/
def Undisturbed (s : State τ) : Act → Prop
  | .sampleBaro writeD1 readD1 writeD2 readD2 =>
    s.baros ≠ [] ∨ (MS5837.sample writeD1 readD1 writeD2 readD2).isSome = true
  | .storeBaro _ => ∀ i r, s.readers i = some r → ¬ Partway r.todo
  | .copyBaro _ _ => ∀ todo, s.place = .storeBaro todo → ¬ Partway todo
  | _ => True

/-! ### What one step does -/

/-- **Everything a step can do.** -/
inductive Stepped (s : State τ) : Act → State τ → Prop
  | test (interrupted : Bool) (hp : s.place = .test) :
      Stepped s (.test interrupted) { s with place := if interrupted then .done else .temp }
  | tempFailed (write : Bool) (read : Option Reading) (hp : s.place = .temp) :
      Stepped s (.sampleTemp write read) { s with place := .baro }
  | tempSampled (write : Bool) (read : Option Reading) (word : UInt32) (hp : s.place = .temp) :
      Stepped s (.sampleTemp write read)
        { s with place := .baro, extTemp := S.calcTemp word, temps := word :: s.temps }
  | baroFailed (writeD1 : Bool) (readD1 : Option Reading) (writeD2 : Bool) (readD2 : Option Reading)
      (hp : s.place = .baro) (hfail : MS5837.sample writeD1 readD1 writeD2 readD2 = none) :
      Stepped s (.sampleBaro writeD1 readD1 writeD2 readD2) { s with place := .storeTemp }
  | baroSampled (writeD1 : Bool) (readD1 : Option Reading) (writeD2 : Bool) (readD2 : Option Reading)
      (d1 d2 : UInt32) (r : Result) (hp : s.place = .baro)
      (hr : calcPressure d1 d2 S.baroCal = some r) :
      Stepped s (.sampleBaro writeD1 readD1 writeD2 readD2)
        { s with place := .storeTemp, baroResult := cells r, baros := (d1, d2) :: s.baros }
  | storeTemp (hp : s.place = .storeTemp) :
      Stepped s .storeTemp { s with mTempDegC := s.extTemp, place := .storeBaro Finset.univ }
  | storeBaro (f : Field) (todo : Finset Field) (hp : s.place = .storeBaro todo) (hf : f ∈ todo) :
      Stepped s (.storeBaro f)
        { s with
          mBaroData := copyField s.baroResult s.mBaroData f
          place := .storeBaro (todo.erase f) }
  | wait (hp : s.place = .storeBaro ∅) : Stepped s .wait { s with place := .test }
  | getTemp : Stepped s .getTemp { s with gotTemps := s.mTempDegC :: s.gotTemps }
  | callBaro (i : Nat) (out : Cells) (hi : s.readers i = none) :
      Stepped s (.callBaro i out)
        { s with readers := Function.update s.readers i (some ⟨Finset.univ, out⟩) }
  | copyBaro (i : Nat) (f : Field) (r : Reader) (hi : s.readers i = some r) (hf : f ∈ r.todo) :
      Stepped s (.copyBaro i f)
        { s with
          readers := Function.update s.readers i
            (some ⟨r.todo.erase f, copyField s.mBaroData r.out f⟩) }
  | returnBaro (i : Nat) (r : Reader) (hi : s.readers i = some r) (ht : r.todo = ∅) :
      Stepped s (.returnBaro i)
        { s with
          readers := Function.update s.readers i none
          gotBaros := r.out :: s.gotBaros }

variable {S} {s s' : State τ}

theorem stepped {a : Act} (h : S.step s a = some s') : S.Stepped s a s' := by
  cases a with
  | test interrupted =>
    simp only [step] at h
    split at h
    · next hp => cases h; exact .test interrupted hp
    · cases h
  | sampleTemp write read =>
    simp only [step] at h
    split at h
    · next hp =>
      cases h
      rw [sampleTemp]
      split
      · exact .tempFailed write read hp
      · exact .tempSampled write read _ hp
    · cases h
  | sampleBaro writeD1 readD1 writeD2 readD2 =>
    simp only [step] at h
    split at h
    · next hp =>
      rw [sampleBaro.eq_def] at h
      split at h
      · next hfail => cases h; exact .baroFailed _ _ _ _ hp hfail
      · next d1 d2 hwords =>
        obtain ⟨r, hr, h⟩ := Option.bind_eq_some_iff.mp h
        cases h
        exact .baroSampled _ _ _ _ d1 d2 r hp hr
    · cases h
  | storeTemp =>
    simp only [step] at h
    split at h
    · next hp => cases h; exact .storeTemp hp
    · cases h
  | storeBaro f =>
    simp only [step] at h
    split at h
    · next todo hp =>
      split at h
      · next hf => cases h; exact .storeBaro f todo hp hf
      · cases h
    · cases h
  | wait =>
    simp only [step] at h
    split at h
    · next todo hp =>
      split at h
      · next ht => cases h; exact .wait (ht ▸ hp)
      · cases h
    · cases h
  | getTemp => cases h; exact .getTemp
  | callBaro i out =>
    simp only [step] at h
    split at h
    · next hi => cases h; exact .callBaro i out hi
    · cases h
  | copyBaro i f =>
    simp only [step] at h
    split at h
    · next r hi =>
      split at h
      · next hf => cases h; exact .copyBaro i f r hi hf
      · cases h
    · cases h
  | returnBaro i =>
    simp only [step] at h
    split at h
    · next r hi =>
      split at h
      · next ht => cases h; exact .returnBaro i r hi ht
      · cases h
    · cases h

/-- **A sample is always digested**: two words of 24 bits do not overflow `calc_pressure`. -/
theorem sampleBaro_isSome (hp : s.place = .baro) (writeD1 : Bool) (readD1 : Option Reading)
    (writeD2 : Bool) (readD2 : Option Reading) :
    (S.step s (.sampleBaro writeD1 readD1 writeD2 readD2)).isSome = true := by
  simp only [step, hp]
  cases hwords : MS5837.sample writeD1 readD1 writeD2 readD2 with
  | none => rfl
  | some words =>
    obtain ⟨d1, d2⟩ := words
    obtain ⟨h1, h2⟩ := MS5837.sample_lt hwords
    have hr := (MS5837.calcPressure_eq S.baroCal h1 h2).1
    simp only [sampleBaro, hr]
    rfl

/-! ### Temperatures -/

theorem TempOf.cons {temps : List UInt32} {t : τ} (h : S.TempOf temps t) (word : UInt32) :
    S.TempOf (word :: temps) t := by
  rcases h with h | ⟨w, hw, h⟩
  · exact Or.inl h
  · exact Or.inr ⟨w, List.mem_cons_of_mem _ hw, h⟩

theorem tempOf_of_latest {temps : List UInt32} {t : τ} (h : S.LatestTemp temps t) :
    S.TempOf temps t := by
  cases temps with
  | nil => exact Or.inl h
  | cons word temps => exact Or.inr ⟨word, List.mem_cons_self, h⟩

/-- `ext_temp` is of the latest sample, and so is the member while the pressure is stored. -/
structure TempInv (S : Setup τ) (s : State τ) : Prop where
  ext : S.LatestTemp s.temps s.extTemp
  member : S.TempOf s.temps s.mTempDegC
  stored : ∀ todo, s.place = .storeBaro todo → s.mTempDegC = s.extTemp
  got : ∀ t ∈ s.gotTemps, S.TempOf s.temps t

theorem tempInv_boot (junk : Cells) : S.TempInv (S.boot junk) where
  ext := rfl
  member := Or.inl rfl
  stored := by
    intro todo h
    cases h
  got := by
    intro t ht
    cases ht

/-- The readers of the pressure are not concerned, whatever they do. -/
theorem TempInv.step {a : Act} (hI : S.TempInv s) (h : S.step s a = some s') : S.TempInv s' := by
  cases stepped h with
  | test interrupted hp =>
    refine ⟨hI.ext, hI.member, fun todo h => ?_, hI.got⟩
    cases interrupted <;> cases h
  | tempFailed write read hp => exact ⟨hI.ext, hI.member, nofun, hI.got⟩
  | tempSampled write read word hp =>
    exact ⟨rfl, hI.member.cons word, nofun, fun t ht => (hI.got t ht).cons word⟩
  | baroFailed _ _ _ _ hp hfail => exact ⟨hI.ext, hI.member, nofun, hI.got⟩
  | baroSampled _ _ _ _ d1 d2 r hp hr => exact ⟨hI.ext, hI.member, nofun, hI.got⟩
  | storeTemp hp => exact ⟨hI.ext, tempOf_of_latest hI.ext, fun _ _ => rfl, hI.got⟩
  | storeBaro f todo hp hf => exact ⟨hI.ext, hI.member, fun _ _ => hI.stored todo hp, hI.got⟩
  | wait hp => exact ⟨hI.ext, hI.member, nofun, hI.got⟩
  | getTemp =>
    refine ⟨hI.ext, hI.member, hI.stored, fun t ht => ?_⟩
    rcases List.mem_cons.mp ht with rfl | ht
    · exact hI.member
    · exact hI.got t ht
  | callBaro i out hi => exact ⟨hI.ext, hI.member, hI.stored, hI.got⟩
  | copyBaro i f r hi hf => exact ⟨hI.ext, hI.member, hI.stored, hI.got⟩
  | returnBaro i r hi ht => exact ⟨hI.ext, hI.member, hI.stored, hI.got⟩

/-- **Every temperature is real**, in every run. -/
theorem reach_tempInv {C : State τ → Act → Prop} (h : Reach S.sys C s) : S.TempInv s := by
  refine Reach.invariant (I := S.TempInv) ?_ ?_ h
  · rintro s ⟨junk, rfl⟩
    exact tempInv_boot junk
  · intro s a s' hI _ hst
    exact hI.step hst

/-! ### Pressures -/

theorem BaroOf.cons {baros : List (UInt32 × UInt32)} {c : Cells} (h : S.BaroOf baros c)
    (words : UInt32 × UInt32) : S.BaroOf (words :: baros) c := by
  rcases h with h | ⟨w, hw, h⟩
  · exact Or.inl h
  · exact Or.inr ⟨w, List.mem_cons_of_mem _ hw, h⟩

theorem baroOf_of_latest {baros : List (UInt32 × UInt32)} {c : Cells} (h : S.LatestBaro baros c) :
    S.BaroOf baros c := by
  cases baros with
  | nil => exact Or.inl h
  | cons words baros => exact Or.inr ⟨words, List.mem_cons_self, h⟩

/-- No copy into the member is partway. -/
def Settled (s : State τ) : Prop := ∀ todo, s.place = .storeBaro todo → ¬ Partway todo

/-- A reader copies a real `RESULT`, the one that is there while it is partway. -/
def ReaderOk (S : Setup τ) (s : State τ) (r : Reader) : Prop :=
  ∃ src, S.BaroOf s.baros src ∧ Copied r.todo src r.out ∧ (Partway r.todo → src = s.mBaroData)

/-- Between two publications the member is real, during one its fields are those of two real values,
and then no reader is partway. -/
structure BaroInv (S : Setup τ) (s : State τ) : Prop where
  result : s.baros ≠ [] → S.LatestBaro s.baros s.baroResult
  sampled : (s.place = .storeTemp ∨ ∃ todo, s.place = .storeBaro todo) → s.baros ≠ []
  stored : ∀ todo, s.place = .storeBaro todo → Copied todo s.baroResult s.mBaroData
  member : Settled s → S.BaroOf s.baros s.mBaroData
  reader : ∀ i r, s.readers i = some r → S.ReaderOk s r
  got : ∀ c ∈ s.gotBaros, S.BaroOf s.baros c

theorem baroInv_boot (junk : Cells) : S.BaroInv (S.boot junk) where
  result := fun h => absurd rfl h
  sampled := by
    rintro (h | ⟨todo, h⟩)
    · cases h
    · cases h
  stored := nofun
  member := fun _ => Or.inl rfl
  reader := nofun
  got := nofun

theorem settled_of_ne {p : Place} (hs : s.place = p) (hp : ∀ todo, p ≠ .storeBaro todo) : Settled s :=
  fun todo h => absurd (hs.symm.trans h) (hp todo)

theorem BaroInv.move (hI : S.BaroInv s) {p : Place} (hs : Settled s) (ht : p ≠ .storeTemp)
    (hp : ∀ todo, p ≠ .storeBaro todo) : S.BaroInv { s with place := p } where
  result := hI.result
  sampled := by
    rintro (h | ⟨todo, h⟩)
    · exact absurd h ht
    · exact absurd h (hp todo)
  stored := fun todo h => absurd h (hp todo)
  member := fun _ => hI.member hs
  reader := hI.reader
  got := hI.got

theorem BaroInv.update (hI : S.BaroInv s) (i : Nat) {o : Option Reader}
    (ho : ∀ r, o = some r → S.ReaderOk s r) :
    S.BaroInv { s with readers := Function.update s.readers i o } where
  result := hI.result
  sampled := hI.sampled
  stored := hI.stored
  member := hI.member
  reader := by
    intro j r hj
    by_cases hji : j = i
    · rw [hji] at hj
      exact ho r ((Function.update_self i o s.readers).symm.trans hj)
    · exact hI.reader j r ((Function.update_of_ne hji o s.readers).symm.trans hj)
  got := hI.got

theorem BaroInv.sampled_step (hI : S.BaroInv s) (hp : s.place = .baro) {d1 d2 : UInt32} {r : Result}
    (hr : calcPressure d1 d2 S.baroCal = some r) :
    S.BaroInv { s with place := .storeTemp, baroResult := cells r, baros := (d1, d2) :: s.baros } where
  result := fun _ => ⟨r, hr, rfl⟩
  sampled := fun _ => List.cons_ne_nil _ _
  stored := nofun
  member := fun _ => (hI.member (settled_of_ne hp nofun)).cons _
  reader := by
    intro i rd hi
    obtain ⟨src, hsrc, hcopied, hpart⟩ := hI.reader i rd hi
    exact ⟨src, hsrc.cons _, hcopied, hpart⟩
  got := fun c hc => (hI.got c hc).cons _

/-- One more field of the member, while no reader is partway. -/
theorem BaroInv.store_step (hI : S.BaroInv s) {f : Field} {todo : Finset Field}
    (hp : s.place = .storeBaro todo) (hC : ∀ i r, s.readers i = some r → ¬ Partway r.todo) :
    S.BaroInv { s with
      mBaroData := copyField s.baroResult s.mBaroData f, place := .storeBaro (todo.erase f) } where
  result := hI.result
  sampled := fun _ => hI.sampled (Or.inr ⟨todo, hp⟩)
  stored := by
    rintro _ ⟨⟩
    exact (hI.stored todo hp).step f
  member := by
    -- the copy has begun, so it is settled only if it has ended
    intro hsettled
    rcases eq_of_not_partway (hsettled _ rfl) with hempty | huniv
    · have hcopied := (hI.stored todo hp).step f
      rw [hempty] at hcopied
      dsimp only
      rw [hcopied.eq]
      exact baroOf_of_latest (hI.result (hI.sampled (Or.inr ⟨todo, hp⟩)))
    · exact absurd huniv (erase_ne_univ todo f)
  reader := by
    intro i r hi
    obtain ⟨src, hsrc, hcopied, -⟩ := hI.reader i r hi
    exact ⟨src, hsrc, hcopied, fun hpart => absurd hpart (hC i r hi)⟩
  got := hI.got

/-- One more field of a reader, while the member is settled: whatever it has copied is of the member. -/
theorem BaroInv.readerOk_copy (hI : S.BaroInv s) {i : Nat} {f : Field} {r : Reader}
    (hi : s.readers i = some r) (hf : f ∈ r.todo) (hs : Settled s) :
    S.ReaderOk s ⟨r.todo.erase f, copyField s.mBaroData r.out f⟩ := by
  obtain ⟨src, -, hcopied, hpart⟩ := hI.reader i r hi
  have hmember : Copied r.todo s.mBaroData r.out := by
    by_cases hp : Partway r.todo
    · rw [hpart hp] at hcopied
      exact hcopied
    · rcases eq_of_not_partway hp with hempty | huniv
      · rw [hempty] at hf
        exact absurd hf (Finset.notMem_empty f)
      · rw [huniv]
        exact copied_univ _ _
  exact ⟨s.mBaroData, hI.member hs, hmember.step f, fun _ => rfl⟩

theorem BaroInv.step {a : Act} (hI : S.BaroInv s) (hC : Undisturbed s a)
    (h : S.step s a = some s') : S.BaroInv s' := by
  cases stepped h with
  | test interrupted hp =>
    cases interrupted
    · exact hI.move (settled_of_ne hp nofun) nofun nofun
    · exact hI.move (settled_of_ne hp nofun) nofun nofun
  | tempFailed write read hp => exact hI.move (settled_of_ne hp nofun) nofun nofun
  | tempSampled write read word hp =>
    obtain ⟨hresult, hsampled, hstored, hmember, hreader, hgot⟩ :=
      hI.move (p := .baro) (settled_of_ne hp nofun) nofun nofun
    exact ⟨hresult, hsampled, hstored, hmember, hreader, hgot⟩
  | baroFailed writeD1 readD1 writeD2 readD2 hp hfail =>
    have hne : s.baros ≠ [] := by
      rcases hC with hne | hsome
      · exact hne
      · rw [hfail] at hsome
        cases hsome
    exact ⟨hI.result, fun _ => hne, nofun, fun _ => hI.member (settled_of_ne hp nofun), hI.reader,
      hI.got⟩
  | baroSampled _ _ _ _ d1 d2 r hp hr => exact hI.sampled_step hp hr
  | storeTemp hp =>
    refine ⟨hI.result, fun _ => hI.sampled (Or.inl hp), ?_, ?_, hI.reader, hI.got⟩
    · rintro _ ⟨⟩
      exact copied_univ _ _
    · exact fun _ => hI.member (settled_of_ne hp nofun)
  | storeBaro f todo hp hf => exact hI.store_step hp hC
  | wait hp =>
    refine hI.move (fun todo h => ?_) nofun nofun
    cases hp.symm.trans h
    exact not_partway_empty
  | getTemp => exact ⟨hI.result, hI.sampled, hI.stored, hI.member, hI.reader, hI.got⟩
  | callBaro i out hi =>
    refine hI.update i (fun r hr => ?_)
    cases hr
    exact ⟨zeroCells, Or.inl rfl, copied_univ _ _, fun hp => absurd hp not_partway_univ⟩
  | copyBaro i f r hi hf =>
    refine hI.update i (fun r' hr' => ?_)
    cases hr'
    exact hI.readerOk_copy hi hf hC
  | returnBaro i r hi ht =>
    obtain ⟨hresult, hsampled, hstored, hmember, hreader, hgot⟩ := hI.update i (o := none) nofun
    refine ⟨hresult, hsampled, hstored, hmember, hreader, fun c hc => ?_⟩
    rcases List.mem_cons.mp hc with rfl | hc
    · obtain ⟨src, hsrc, hcopied, -⟩ := hI.reader i r hi
      rw [ht] at hcopied
      rw [hcopied.eq]
      exact hsrc
    · exact hgot c hc

theorem reach_baroInv (h : Reach S.sys Undisturbed s) : S.BaroInv s := by
  refine Reach.invariant (I := S.BaroInv) ?_ ?_ h
  · rintro s ⟨junk, rfl⟩
    exact baroInv_boot junk
  · intro s a s' hI hC hst
    exact hI.step hC hst

/-! ### Every run -/

theorem TempInv.latest (hI : S.TempInv s) (hp : s.place = .storeBaro ∅) :
    S.LatestTemp s.temps s.mTempDegC := by
  rw [hI.stored ∅ hp]
  exact hI.ext

theorem BaroInv.latest (hI : S.BaroInv s) (hp : s.place = .storeBaro ∅) :
    S.LatestBaro s.baros s.mBaroData := by
  rw [(hI.stored ∅ hp).eq]
  exact hI.result (hI.sampled (Or.inr ⟨∅, hp⟩))

/-- **In an undisturbed run every value is a real one**, returned or published. -/
theorem sensorThread_sound (S : Setup τ) (s : State τ) (h : Reach S.sys Undisturbed s) : S.Sound s where
  temp := (reach_tempInv h).got
  baro := (reach_baroInv h).got
  published := fun hp => ⟨(reach_tempInv h).latest hp, (reach_baroInv h).latest hp⟩

end Setup

/-! ### Runs -/

/-- `calc_temp` without the rounding of its doubles. -/
def TSYS01.calcTemp (k4 k3 k2 k1 k0 : Nat) (sample : UInt32) : ℚ :=
  let adc16 : ℚ := ((sample.toNat / 256 : Nat) : ℚ)
  0 - 2 * k4 / 10 ^ 21 * adc16 ^ 4 + 4 * k3 / 10 ^ 16 * adc16 ^ 3 - 2 * k2 / 10 ^ 11 * adc16 ^ 2
    + k1 / 10 ^ 6 * adc16 - 3 / 2 * k0 / 10 ^ 2

def datasheetSetup : Setup ℚ where
  zero := 0
  calcTemp := TSYS01.calcTemp 28446 24926 36016 32791 40781
  baroCal := ⟨34982, 36352, 20328, 22354, 26646, 26146⟩

/-- One round up to the publication, with both samples. -/
def sampledRound : List Act :=
  [.test false, .sampleTemp true (some ⟨0x95, 0xB7, 0x00⟩),
    .sampleBaro true (some ⟨0x4B, 0xA7, 0xE3⟩) true (some ⟨0x67, 0xFE, 0xB6⟩), .storeTemp]

/-- The publication, and a call of `get_baro_data` after it. -/
def readAfterStore : List Act :=
  sampledRound ++ [.storeBaro .p1Mbar, .storeBaro .temp1CdegC, .storeBaro .p2Mbar,
    .storeBaro .temp2DegC, .callBaro 0 zeroCells, .copyBaro 0 .p1Mbar, .copyBaro 0 .temp1CdegC,
    .copyBaro 0 .p2Mbar, .copyBaro 0 .temp2DegC, .returnBaro 0]

/-- A call of `get_baro_data` after the first field of the publication. -/
def readAmidStore : List Act :=
  sampledRound ++ [.storeBaro .p1Mbar, .callBaro 0 zeroCells, .copyBaro 0 .p1Mbar,
    .copyBaro 0 .temp1CdegC, .copyBaro 0 .p2Mbar, .copyBaro 0 .temp2DegC, .returnBaro 0]

/-- The first pressure sample fails. -/
def failedRound : List Act :=
  [.test false, .sampleTemp true (some ⟨0x95, 0xB7, 0x00⟩), .sampleBaro false none false none,
    .storeTemp, .storeBaro .p1Mbar, .storeBaro .temp1CdegC, .storeBaro .p2Mbar,
    .storeBaro .temp2DegC]

/-- The pressures and temperatures that were returned. -/
def got (s : State ℚ) : List (Int × Int) := s.gotBaros.map (fun c => (c .p1Mbar, c .temp1CdegC))

/-- A publication has just ended. -/
def published (s : State ℚ) : Bool :=
  match s.place with
  | .storeBaro todo => decide (todo = ∅)
  | _ => false

theorem place_of_published {s : State ℚ} (h : published s = true) : s.place = .storeBaro ∅ := by
  rw [published] at h
  split at h
  · next todo hp => rw [hp, of_decide_eq_true h]
  · cases h

namespace Setup

theorem readAfterStore_undisturbed : datasheetSetup.sys.Meets Undisturbed
    (datasheetSetup.boot zeroCells) readAfterStore := by
  have hnone : ∀ i r, (fun _ : Nat => (none : Option Reader)) i = some r → ¬ Partway r.todo := nofun
  have hstored : ∀ todo, Place.storeBaro ∅ = .storeBaro todo → ¬ Partway todo := by
    rintro _ ⟨⟩
    exact not_partway_empty
  exact ⟨trivial, trivial, Or.inr rfl, trivial, hnone, hnone, hnone, hnone, trivial, hstored, hstored,
    hstored, hstored, trivial, trivial⟩

theorem sensorThread_sound_readAfterStore :
    ∃ s, Reach datasheetSetup.sys Undisturbed s ∧ got s = [(39998, 1981)] ∧ datasheetSetup.Sound s := by
  have hinit : datasheetSetup.sys.init (datasheetSetup.boot zeroCells) := ⟨zeroCells, rfl⟩
  obtain ⟨s, hs, hgot⟩ := Reach.of_trace readAfterStore
    (P := fun s => decide (got s = [(39998, 1981)])) hinit readAfterStore_undisturbed (by decide)
  exact ⟨s, hs, of_decide_eq_true hgot, sensorThread_sound datasheetSetup s hs⟩

/-- A result of the sample with its pressure has its temperature too. -/
theorem not_baroOf_torn {c : Cells} (hp : c .p1Mbar = 39998) (ht : c .temp1CdegC = 0) :
    ¬ datasheetSetup.BaroOf [(4958179, 6815414)] c := by
  have heq : calcPressure 4958179 6815414 datasheetSetup.baroCal = some _ :=
    (MS5837.calcPressure_eq datasheetSetup.baroCal (by decide) (by decide)).1
  rintro (rfl | ⟨words, hwords, r, hr, rfl⟩)
  · exact absurd hp (by decide)
  · obtain rfl := List.mem_singleton.mp hwords
    obtain rfl := Option.some.inj (heq.symm.trans hr)
    exact absurd ht (by decide)

/-- **The gap is reachable**: a reader amid the publication gets the pressure of the sample with the
constructor's temperature, and after a first pressure sample that fails the stack is published. -/
theorem sensorThread_not_sound :
    (∃ s, Reach datasheetSetup.sys Any s ∧ got s = [(39998, 0)] ∧ ¬ datasheetSetup.Sound s) ∧
    (∃ s, Reach datasheetSetup.sys Any s ∧ s.mBaroData .p1Mbar = 12345 ∧ s.baros = [] ∧
      ¬ datasheetSetup.Sound s) := by
  constructor
  · have hinit : datasheetSetup.sys.init (datasheetSetup.boot zeroCells) := ⟨zeroCells, rfl⟩
    obtain ⟨s, hs, hP⟩ := Reach.of_trace (C := Any) readAmidStore
      (P := fun s => decide (got s = [(39998, 0)] ∧ s.baros = [(4958179, 6815414)])) hinit
      (meets_any _ _) (by decide)
    obtain ⟨hgot, hbaros⟩ := of_decide_eq_true hP
    refine ⟨s, hs, hgot, fun hsound => ?_⟩
    have hmem : ((39998, 0) : Int × Int) ∈ got s := hgot ▸ List.mem_singleton_self _
    obtain ⟨c, hc, hfields⟩ := List.mem_map.mp hmem
    have hreal := hsound.baro c hc
    rw [hbaros] at hreal
    exact not_baroOf_torn (congrArg Prod.fst hfields) (congrArg Prod.snd hfields) hreal
  · have hinit : datasheetSetup.sys.init (datasheetSetup.boot fun _ => 12345) := ⟨_, rfl⟩
    obtain ⟨s, hs, hP⟩ := Reach.of_trace (C := Any) failedRound
      (P := fun s => decide (published s = true ∧ s.mBaroData .p1Mbar = 12345 ∧ s.baros = [])) hinit
      (meets_any _ _) (by decide)
    obtain ⟨hpub, hdata, hbaros⟩ := of_decide_eq_true hP
    refine ⟨s, hs, hdata, hbaros, fun hsound => ?_⟩
    have hlatest := (hsound.published (place_of_published hpub)).2
    rw [hbaros] at hlatest
    rw [show s.mBaroData = zeroCells from hlatest] at hdata
    exact absurd hdata (by decide)

end Setup

end Opaleye.Sensors
