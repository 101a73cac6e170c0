import Opaleye.Lib.FsPath
import Opaleye.Lib.Text
import Opaleye.Lib.TransSys
import Mathlib.Data.List.Nodup

/-!
# Numbered recordings

`mp4_splitmuxsink` and `mkv_splitmuxsink` number their files.  At the start of a
session `init` scans the day's directory for the numbers in use, and
`handle_format_location` then counts on from there.

The number is printed on six places *or more* and read back on six places *or
fewer*.  Up to `999999` the scan finds every recording (`sscanf_recording`), so
the session starts above all of them.  A recording with a longer number is read
as its first six digits, and a session that counts that far may come upon it.

`Recorder` is the directory over a sequence of sessions; a listing of it may
come in any order.  `recordings_fresh` says when no recording is written twice.
-/

namespace Opaleye.Storage

open FsPath Text

/-! ### The two sinks -/

/-- An entry of a directory. -/
structure DirEntry where
  filename : List Char
  isRegularFile : Bool
  deriving DecidableEq, Repr

/-- `std::max<guint>(starting_id, num + 1)` for an entry that matches. -/
def scanEntry (fmt : List (Directive Nat)) (startingId : Nat) (e : DirEntry) : Nat :=
  if e.isRegularFile then
    match sscanf fmt e.filename with
    | [num] => max startingId ((num + 1) % 2 ^ 32)
    | _ => startingId
  else startingId

/-- The part of `init` that finds `starting_id`. -/
def scanDir (fmt : List (Directive Nat)) (entries : List DirEntry) : Nat :=
  entries.foldl (scanEntry fmt) 0

/-- `fmt::format("file-{:06d}.avi", n)` -/
def recording (n : Nat) : List Char := "file-".toList ++ padDigits 6 n ++ ".avi".toList

/-- `"file-%06u"` and a suffix. -/
def fileFormat (suffix : String) : List (Directive Nat) :=
  lits "file-".toList ++ (.conv (readUnsigned 6 32) :: lits suffix.toList)

/-- The file name and the path that `handle_format_location` makes. -/
def formatLocation (topStorageDir : Path) (startingId fragmentId : Nat) : List Char × Path :=
  let currentFragmentId := (fragmentId + startingId) % 2 ^ 32
  let currentFilename := recording currentFragmentId
  (currentFilename, topStorageDir.append ⟨currentFilename⟩)

/-- `mp4_splitmuxsink::init` -/
def mp4Init (entries : List DirEntry) : Nat := scanDir (fileFormat ".mp4") entries

/-- `mp4_splitmuxsink::handle_format_location` -/
def mp4HandleFormatLocation (topStorageDir : Path) (startingId fragmentId : Nat) :
    List Char × Path := formatLocation topStorageDir startingId fragmentId

/-- `mkv_splitmuxsink::init`, which looks for `.mp4` too. -/
def mkvInit (entries : List DirEntry) : Nat := scanDir (fileFormat ".mp4") entries

/-- `mkv_splitmuxsink::handle_format_location` -/
def mkvHandleFormatLocation (topStorageDir : Path) (startingId fragmentId : Nat) :
    List Char × Path := formatLocation topStorageDir startingId fragmentId

inductive Sink
  | mp4
  | mkv
  deriving DecidableEq, Repr

def Sink.init : Sink → List DirEntry → Nat
  | .mp4 => mp4Init
  | .mkv => mkvInit

def Sink.handleFormatLocation : Sink → Path → Nat → Nat → List Char × Path
  | .mp4 => mp4HandleFormatLocation
  | .mkv => mkvHandleFormatLocation

@[simp] theorem Sink.init_eq (k : Sink) : k.init = scanDir (fileFormat ".mp4") := by
  cases k with
  | mp4 => rfl
  | mkv => rfl

@[simp] theorem Sink.handleFormatLocation_eq (k : Sink) :
    k.handleFormatLocation = formatLocation := by
  cases k with
  | mp4 => rfl
  | mkv => rfl

/-! ### Sessions in one directory -/

/-- A session: the files it found, where it counts from and how many fragments
it has begun. -/
structure Session where
  sink : Sink
  found : List (List Char)
  startingId : Nat
  fragments : Nat
  deriving DecidableEq, Repr

/-- The day's directory: what was in it at first, what was recorded into it, and
the paths returned for that. -/
structure Recorder where
  topStorageDir : Path
  initial : List (List Char)
  recorded : List (List Char)
  returned : List Path
  session : Option Session
  deriving DecidableEq, Repr

/-- The regular files in the directory. -/
def Recorder.files (s : Recorder) : List (List Char) := s.initial ++ s.recorded

inductive Act
  /-- A new session, which lists the directory in this order. -/
  | init (k : Sink) (listing : List (List Char))
  /-- The next fragment of the session. -/
  | formatLocation
  deriving DecidableEq, Repr

def step (s : Recorder) : Act → Option Recorder
  | .init k listing =>
    if listing.Perm s.files then
      some { s with
        session := some ⟨k, listing, k.init (listing.map (fun n => ⟨n, true⟩)), 0⟩ }
    else none
  | .formatLocation =>
    s.session.map (fun se =>
      let r := se.sink.handleFormatLocation s.topStorageDir se.startingId (se.fragments % 2 ^ 32)
      { s with
        recorded := s.recorded ++ [r.1]
        returned := s.returned ++ [r.2]
        session := some { se with fragments := se.fragments + 1 } })

/-- Sessions one after another, in a directory of arbitrary regular files. -/
def sys : TransSys Recorder Act where
  init s := s.recorded = [] ∧ s.returned = [] ∧ s.session = none ∧ ∀ n ∈ s.initial, Proper n
  step := step

/-- No path was returned twice, and none is that of a file that was there. -/
def Fresh (s : Recorder) : Prop :=
  s.returned.Nodup ∧ ∀ n ∈ s.initial, s.topStorageDir.append ⟨n⟩ ∉ s.returned

/-- The number of the next fragment is a `guint`, and it has six digits at most
or the session found no recording with a longer number. -/
def NumbersAgree (s : Recorder) : Act → Prop
  | .init _ _ => True
  | .formatLocation => ∀ se, s.session = some se →
      se.startingId + se.fragments < 2 ^ 32 ∧
        (se.startingId + se.fragments < 10 ^ 6 ∨
          ∀ n, 10 ^ 6 ≤ n → n < 2 ^ 32 → recording n ∉ se.found)

/-! ### Printing and scanning -/

theorem recording_eq (n : Nat) :
    recording n = "file-".toList ++ (padDigits 6 n ++ ".avi".toList) := by
  unfold recording
  rw [List.append_assoc]

theorem recording_injective : Function.Injective recording := by
  intro m n h
  rw [recording_eq, recording_eq] at h
  exact padDigits_injective 6 (List.append_cancel_right (List.append_cancel_left h))

/-- **Six digits are read back as they were printed.** -/
theorem sscanf_recording {n : Nat} (hn : n < 10 ^ 6) (suffix : String) :
    sscanf (fileFormat suffix) (recording n) = [n] := by
  have hlen := length_padDigits (by decide : 0 < 6) hn
  have hread : readUnsigned 6 32 (padDigits 6 n ++ ".avi".toList)
      = some (n, ".avi".toList) := by
    have hmod : n % 2 ^ 32 = n := Nat.mod_eq_of_lt (by omega)
    rw [readUnsigned_append isDigit_of_mem_padDigits (padDigits_ne_nil _ _) (by omega)
      (Or.inl hlen), ofDigitChars_padDigits, hmod]
  rw [fileFormat, recording_eq, sscanf_lits_append, sscanf_conv hread, sscanf_lits]

theorem le_scanDir (fmt : List (Directive Nat)) : ∀ (entries : List DirEntry) (a : Nat),
    a ≤ entries.foldl (scanEntry fmt) a := by
  intro entries
  induction entries with
  | nil => intro a; exact Nat.le_refl a
  | cons e entries ih =>
    intro a
    refine Nat.le_trans ?_ (ih _)
    rw [scanEntry]
    split
    · split
      · exact Nat.le_max_left _ _
      · exact Nat.le_refl a
    · exact Nat.le_refl a

/-- **The scan ends up above every six-digit recording it sees.** -/
theorem lt_scanDir {n : Nat} (hn : n < 10 ^ 6) (suffix : String) :
    ∀ (names : List (List Char)) (a : Nat), recording n ∈ names →
    n < (names.map (fun x => (⟨x, true⟩ : DirEntry))).foldl (scanEntry (fileFormat suffix)) a := by
  intro names
  induction names with
  | nil => intro a h; exact absurd h (by simp)
  | cons x names ih =>
    intro a h
    rw [List.map_cons, List.foldl_cons]
    rcases List.mem_cons.mp h with rfl | h
    · have hentry : n < scanEntry (fileFormat suffix) a ⟨recording n, true⟩ := by
        simp only [scanEntry, sscanf_recording hn suffix]
        rw [Nat.mod_eq_of_lt (by omega)]
        exact Nat.lt_of_lt_of_le (Nat.lt_succ_self n) (Nat.le_max_right _ _)
      exact Nat.lt_of_lt_of_le hentry (le_scanDir _ _ _)
    · exact ih _ h

/-! ### The invariant -/

/-- The path of a file in the day's directory. -/
def Recorder.pathOf (s : Recorder) (name : List Char) : Path := s.topStorageDir.append ⟨name⟩

theorem pathOf_injective (s : Recorder) {m n : List Char} (hm : Proper m) (hn : Proper n)
    (h : s.pathOf m = s.pathOf n) : m = n := by
  have hhead : ∀ {x : List Char}, Proper x → x.head? ≠ some '/' :=
    fun hx hc => hx.2 (List.mem_of_mem_head? hc)
  simp only [Recorder.pathOf, Path.append, hm.1, hn.1, hhead hm, hhead hn, if_false] at h
  split at h
  · exact List.append_cancel_left (FsPath.Path.mk.inj h)
  · exact (List.cons.inj (List.append_cancel_left (FsPath.Path.mk.inj h))).2

theorem proper_recording (n : Nat) : Proper (recording n) := by
  rw [recording_eq]
  refine ⟨by simp, fun h => ?_⟩
  simp only [List.mem_append] at h
  rcases h with h | h | h
  · exact absurd h (by decide)
  · exact absurd (isDigit_of_mem_padDigits _ h) (by decide)
  · exact absurd h (by decide)

/-- The recordings a session has to mind: those with six digits, and all of them
when it found none with a longer number. -/
def Minds (se : Session) (n : Nat) : Prop :=
  n < 10 ^ 6 ∨ ∀ m, 10 ^ 6 ≤ m → m < 2 ^ 32 → recording m ∉ se.found

/-- **What every run keeps.**  The running session is past every recording in
the directory that it has to mind. -/
structure Inv (s : Recorder) : Prop where
  initial_proper : ∀ n ∈ s.initial, Proper n
  returned_eq : s.returned = s.recorded.map s.pathOf
  recorded_num : ∀ name ∈ s.recorded, ∃ n, n < 2 ^ 32 ∧ name = recording n
  past : ∀ se, s.session = some se → ∀ n, n < 2 ^ 32 → recording n ∈ s.files → Minds se n →
    n < se.startingId + se.fragments
  nodup : s.recorded.Nodup
  disjoint : ∀ n ∈ s.initial, n ∉ s.recorded

theorem inv_init_session {s : Recorder} (h : Inv s) {k : Sink} {listing : List (List Char)}
    (hperm : listing.Perm s.files) :
    Inv { s with session := some ⟨k, listing, k.init (listing.map (fun n => ⟨n, true⟩)), 0⟩ } := by
  refine { h with past := ?_ }
  intro se hse n hn hmem hminds
  obtain rfl := Option.some.inj hse
  have hmem' : recording n ∈ listing := hperm.mem_iff.mpr hmem
  -- a recording with a longer number would have been found
  have hsix : n < 10 ^ 6 := by
    rcases hminds with hsix | hbig
    · exact hsix
    · by_contra hlt
      exact hbig n (by omega) hn hmem'
  rw [Sink.init_eq]
  exact lt_scanDir hsix _ listing 0 hmem'

theorem inv_formatLocation {s : Recorder} (h : Inv s) {se : Session} (hse : s.session = some se)
    (hlt : se.startingId + se.fragments < 2 ^ 32) (hminds : Minds se (se.startingId + se.fragments)) :
    Inv { s with
      recorded := s.recorded ++ [recording (se.startingId + se.fragments)]
      returned := s.returned ++ [s.pathOf (recording (se.startingId + se.fragments))]
      session := some { se with fragments := se.fragments + 1 } } := by
  have hnew : recording (se.startingId + se.fragments) ∉ s.files := fun hmem =>
    absurd (h.past se hse _ hlt hmem hminds) (Nat.lt_irrefl _)
  rw [Recorder.files, List.mem_append, not_or] at hnew
  constructor
  · exact h.initial_proper
  · rw [h.returned_eq, List.map_append]
    rfl
  · intro name hname
    rcases List.mem_append.mp hname with hname | hname
    · exact h.recorded_num name hname
    · exact ⟨_, hlt, List.mem_singleton.mp hname⟩
  · intro se' hse' n hn hmem hm
    obtain rfl := Option.some.inj hse'
    show n < se.startingId + (se.fragments + 1)
    simp only [Recorder.files, ← List.append_assoc, List.mem_append, List.mem_singleton] at hmem
    rcases hmem with hmem | hmem
    · have hpast := h.past se hse n hn (by simpa [Recorder.files] using hmem) hm
      omega
    · have := recording_injective hmem
      omega
  · exact List.nodup_append.mpr ⟨h.nodup, by simp, fun a ha b hb =>
      fun hab => hnew.2 (List.mem_singleton.mp hb ▸ hab ▸ ha)⟩
  · intro n hn hmem
    rcases List.mem_append.mp hmem with hmem | hmem
    · exact h.disjoint n hn hmem
    · exact hnew.1 (List.mem_singleton.mp hmem ▸ hn)

theorem inv_step {s s' : Recorder} {a : Act} (h : Inv s) (hc : NumbersAgree s a)
    (hstep : step s a = some s') : Inv s' := by
  cases a with
  | init k listing =>
    rw [step] at hstep
    by_cases hperm : listing.Perm s.files
    · rw [if_pos hperm, Option.some.injEq] at hstep
      exact hstep ▸ inv_init_session h hperm
    · rw [if_neg hperm] at hstep
      exact absurd hstep (by simp)
  | formatLocation =>
    rw [step] at hstep
    obtain ⟨se, hse, rfl⟩ := Option.map_eq_some_iff.mp hstep
    obtain ⟨hlt, hagree⟩ := hc se hse
    have hnum : (se.fragments % 2 ^ 32 + se.startingId) % 2 ^ 32
        = se.startingId + se.fragments := by omega
    have hinv := inv_formatLocation h hse hlt hagree
    simp only [Sink.handleFormatLocation_eq, formatLocation, hnum]
    exact hinv

/-- **No recording is overwritten**, in any number of sessions in which each
number handed out is a `guint` and, when it has more than six digits, the
session found none like it. -/
theorem recordings_fresh (s : Recorder) (h : TransSys.Reach sys NumbersAgree s) : Fresh s := by
  have hinv : Inv s := by
    refine TransSys.Reach.invariant (I := Inv) (fun s hs => ?_)
      (fun s a s' hi hc hst => inv_step hi hc hst) h
    obtain ⟨hrec, hret, hse, hprop⟩ := hs
    exact ⟨hprop, by rw [hrec, hret]; rfl, by simp [hrec], by simp [hse], by simp [hrec],
      by simp [hrec]⟩
  have hproper : ∀ n ∈ s.recorded, Proper n := by
    intro n hn
    obtain ⟨m, -, rfl⟩ := hinv.recorded_num n hn
    exact proper_recording m
  refine ⟨?_, fun n hn hmem => ?_⟩
  · rw [hinv.returned_eq]
    exact List.Nodup.map_on (fun a ha b hb hab =>
      pathOf_injective s (hproper a ha) (hproper b hb) hab) hinv.nodup
  · rw [hinv.returned_eq] at hmem
    obtain ⟨m, hm, heq⟩ := List.mem_map.mp hmem
    have := pathOf_injective s (hproper m hm) (hinv.initial_proper n hn) heq
    exact hinv.disjoint n hn (this ▸ hm)

/-- The start of a day, with some files there. -/
def dayStart (initial : List (List Char)) : Recorder :=
  ⟨⟨"/mnt/video".toList⟩, initial, [], [], none⟩

theorem numbersAgree_of_lt {s : Recorder} {se : Session} (hse : s.session = some se)
    (hlt : se.startingId + se.fragments < 10 ^ 6) : NumbersAgree s .formatLocation := by
  intro se' hse'
  rw [hse, Option.some.injEq] at hse'
  subst hse'
  exact ⟨by omega, Or.inl hlt⟩

/-- An empty directory: two sessions, of two fragments and of one. -/
def twoSessions : List Act :=
  [.init .mp4 [], .formatLocation, .formatLocation,
   .init .mkv [recording 1, recording 0], .formatLocation]

theorem recordings_fresh_twoSessions : ∃ s, sys.run (dayStart []) twoSessions = some s ∧ Fresh s ∧
    s.returned = [⟨"/mnt/video/file-000000.avi".toList⟩, ⟨"/mnt/video/file-000001.avi".toList⟩,
      ⟨"/mnt/video/file-000002.avi".toList⟩] := by
  have hrun : ∃ s, sys.run (dayStart []) twoSessions = some s ∧
      s.returned = [⟨"/mnt/video/file-000000.avi".toList⟩, ⟨"/mnt/video/file-000001.avi".toList⟩,
        ⟨"/mnt/video/file-000002.avi".toList⟩] := ⟨_, rfl, by decide⟩
  obtain ⟨s, hs, hret⟩ := hrun
  have hmeets : sys.Meets NumbersAgree (dayStart []) twoSessions :=
    ⟨trivial, numbersAgree_of_lt rfl (by decide), numbersAgree_of_lt rfl (by decide), trivial,
      numbersAgree_of_lt rfl (by decide), trivial⟩
  have hstart : TransSys.Reach sys NumbersAgree (dayStart []) :=
    .init ⟨rfl, rfl, rfl, by decide⟩
  exact ⟨s, hs, recordings_fresh s (TransSys.Reach.run _ hstart hmeets hs), hret⟩

/-- The directory of a day on which `file-999999.avi` was recorded: two sessions
of one fragment each get the same path. -/
theorem recordings_overwritten : ¬ ∀ s, TransSys.Reach sys TransSys.Any s → Fresh s := by
  intro h
  have hrun : ∃ s, sys.run (dayStart [recording 999999])
      [.init .mp4 [recording 999999], .formatLocation,
       .init .mp4 [recording 999999, recording 1000000], .formatLocation] = some s ∧
      ¬ s.returned.Nodup := ⟨_, rfl, by decide⟩
  obtain ⟨s, hs, hdup⟩ := hrun
  have hstart : TransSys.Reach sys TransSys.Any (dayStart [recording 999999]) :=
    .init ⟨rfl, rfl, rfl, by decide⟩
  exact hdup (h s (TransSys.Reach.run _ hstart (TransSys.meets_any _ _) hs)).1

end Opaleye.Storage
