import Opaleye.Lib.StdMap
import Opaleye.Lib.Text
import Mathlib.Data.List.Lex
import Mathlib.Data.Char
import Mathlib.Data.List.Perm.Subperm

/-!
# Temperatures of the board

`libs/sensors/linux_thermal_zone.cpp`: `sample` goes through `/sys/class/thermal`, reads
the files `type` and `temp` of every `thermal_zoneN` and enters the temperature under
the type.  The directory is passed in any order, and the first file that cannot be read
ends the call.

The order does not matter as long as the types differ: `sampleLoop_cases` says that what
is entered is what the zones have.  Two zones of one type leave one temperature, that of
the zone that comes first, and the type is looked at with `back()` before anything has
asked whether it is empty.  `samplesAll_iff` says that nothing else goes wrong.

The temperatures are of any type, and `parse` is `sscanf` with `%lf` and the division by
1000; it is given the name of the zone too, so that temperatures can be told apart.
-/

namespace Opaleye.Sensors

namespace LinuxThermalZone

/-! ### Files -/

/-- A file: what `status`, `file_size`, `fopen` and `fclose` say, and what `fread` hands over until it
hands over nothing. -/
structure File where
  isRegularFile : Bool
  /-- `none` when `file_size` throws, or `status` before it -/
  fileLen : Option Nat
  opens : Bool
  content : List Char
  closes : Bool

/-- The `do` loop over `fread`, 128 bytes at a time. -/
def readLoop : (fuel : Nat) → (rest outStr : List Char) → List Char
  | 0, _, outStr => outStr
  | fuel + 1, rest, outStr =>
    let buf := rest.take 128
    if buf.length = 0 then outStr else readLoop fuel (rest.drop 128) (outStr ++ buf)

/-- How `sample` is left. -/
inductive SampleExit
  | returned (ok : Bool)
  | threw
  /-- `back()` of an empty string -/
  | undefined
  deriving DecidableEq, Repr

/-- `read_file_to_string`, with `returned false` for its `false`.  The error flag that it returns is
shadowed in the loop and stays zero. -/
def readFileToString (f : File) : Except SampleExit (List Char) :=
  if f.isRegularFile = false then .error (.returned false)
  else
    match f.fileLen with
    | none => .error .threw
    | some fileLen =>
      if fileLen > 8192 then .error (.returned false)
      else if f.opens = false then .error (.returned false)
      else
        let outStr := readLoop (f.content.length + 1) f.content []
        if f.closes = false then .error (.returned false) else .ok outStr

/-! ### `sample` -/

/-- An entry of `/sys/class/thermal`. -/
structure DirEntry where
  filename : List Char
  /-- `none` when `status` throws -/
  isDirectory : Option Bool
  typeFile : File
  tempFile : File

/-- `thermal_zone\d+` -/
def thermalZoneRegex (name : List Char) : Bool :=
  name.take 12 == "thermal_zone".toList && !(name.drop 12).isEmpty && (name.drop 12).all Char.isDigit

variable {τ : Type} (parse : List Char → List Char → Option τ)

/-- The files of a zone: the type without its newline, and the temperature. -/
def readZone (e : DirEntry) : Except SampleExit (List Char × τ) := do
  let typeData ← readFileToString e.typeFile
  let tempData ← readFileToString e.tempFile
  match typeData.getLast? with
  | none => .error .undefined
  | some back =>
    let typeData := if back = '\n' then typeData.dropLast else typeData
    match parse e.filename tempData with
    | none => .error (.returned false)
    | some newTemp => .ok (typeData, newTemp)

/-- What an entry adds, if it is a zone. -/
def visit (e : DirEntry) : Except SampleExit (Option (List Char × τ)) :=
  match e.isDirectory with
  | none => .error .threw
  | some false => .ok none
  | some true => if thermalZoneRegex e.filename then (readZone parse e).map some else .ok none

/-- The `for` loop over the directory. -/
def sampleLoop : List DirEntry → StdMap (List Char) τ → Except SampleExit (StdMap (List Char) τ)
  | [], newTemps => .ok newTemps
  | e :: es, newTemps =>
    match visit parse e with
    | .error x => .error x
    | .ok none => sampleLoop es newTemps
    | .ok (some (typeData, newTemp)) => sampleLoop es (newTemps.emplace typeData newTemp)

/-- `linux_thermal_zone::sample` with the directory in this order: how it is left, and `m_temps`. -/
def sample (order : List DirEntry) (mTemps : StdMap (List Char) τ) :
    SampleExit × StdMap (List Char) τ :=
  match sampleLoop parse order .empty with
  | .error x => (x, mTemps)
  | .ok newTemps => (.returned true, newTemps)

/-! ### What should hold -/

/-- A `thermal_zoneN` directory. -/
def DirEntry.IsZone (e : DirEntry) : Prop := e.isDirectory = some true ∧ thermalZoneRegex e.filename = true

instance (e : DirEntry) : Decidable e.IsZone := inferInstanceAs (Decidable (_ ∧ _))

def zones (entries : List DirEntry) : List DirEntry := entries.filter (fun e => e.IsZone)

/-- **Nothing is lost**, in whatever order the directory is passed: no `back()` of an empty string, no
change after a `false`, and after a `true` one temperature for each zone, the same map in any order. -/
def SamplesAll (mTemps : StdMap (List Char) τ) (entries : List DirEntry) : Prop :=
  ∀ order : List DirEntry, order.Perm entries →
    (sample parse order mTemps).1 ≠ .undefined ∧
    ((sample parse order mTemps).1 = .returned false → (sample parse order mTemps).2 = mTemps) ∧
    ((sample parse order mTemps).1 = .returned true →
      ((sample parse order mTemps).2.entries.map (fun t => some t.2)).Perm
        ((zones entries).map (fun e => parse e.filename e.tempFile.content)) ∧
      ∀ order' : List DirEntry, order'.Perm entries →
        sample parse order' mTemps = sample parse order mTemps)

/-- `read_file_to_string` reads the file. -/
def File.Readable (f : File) : Prop :=
  f.isRegularFile = true ∧ (∃ n ≤ 8192, f.fileLen = some n) ∧ f.opens = true ∧ f.closes = true

/-- The type of a zone, without its newline. -/
def File.line (f : File) : List Char :=
  if f.content.getLast? = some '\n' then f.content.dropLast else f.content

/-- No zone whose files are read has an empty type. -/
def TypesGiven (entries : List DirEntry) : Prop :=
  ∀ e ∈ entries, e.IsZone → e.typeFile.Readable → e.tempFile.Readable → e.typeFile.content ≠ []

/-- Nothing stands in the way of reading every zone. -/
def AllRead (entries : List DirEntry) : Prop :=
  ∀ e ∈ entries, e.isDirectory ≠ none ∧ (e.IsZone → e.typeFile.Readable ∧ e.tempFile.Readable ∧
    parse e.filename e.tempFile.content ≠ none)

/-! ### Reading a file -/

theorem readLoop_eq : ∀ (fuel : Nat) (rest outStr : List Char), rest.length < fuel →
    readLoop fuel rest outStr = outStr ++ rest := by
  intro fuel
  induction fuel with
  | zero => intro rest outStr h; exact absurd h (Nat.not_lt_zero _)
  | succ fuel ih =>
    intro rest outStr h
    rw [readLoop]
    by_cases hnil : (rest.take 128).length = 0
    · have hrest : rest = [] := by simpa using hnil
      rw [if_pos hnil, hrest, List.append_nil]
    · rw [if_neg hnil, ih, List.append_assoc, List.take_append_drop]
      rw [List.length_take] at hnil
      rw [List.length_drop]
      omega

theorem readFileToString_eq (f : File) (h : f.Readable) : readFileToString f = .ok f.content := by
  obtain ⟨hregular, ⟨n, hn, hlen⟩, hopens, hcloses⟩ := h
  rw [readFileToString, if_neg (by simp [hregular]), hlen]
  dsimp only
  rw [if_neg (not_lt.mpr hn), if_neg (by simp [hopens]), if_neg (by simp [hcloses]),
    readLoop_eq _ _ _ (Nat.lt_succ_self _), List.nil_append]

/-- The call ends here, with an exception or with `false`. -/
def Stopped {α : Type} (r : Except SampleExit α) : Prop := r = .error .threw ∨ r = .error (.returned false)

namespace Stopped

variable {α β : Type} {r : Except SampleExit α}

theorem bind (h : Stopped r) (f : α → Except SampleExit β) : Stopped (r >>= f) := by
  rcases h with rfl | rfl
  · exact Or.inl rfl
  · exact Or.inr rfl

theorem map (h : Stopped r) (f : α → β) : Stopped (r.map f) := by
  rcases h with rfl | rfl
  · exact Or.inl rfl
  · exact Or.inr rfl

theorem ne_ok (h : Stopped r) (a : α) : r ≠ .ok a := by
  rcases h with rfl | rfl
  · exact nofun
  · exact nofun

theorem ne_undefined (h : Stopped r) : r ≠ .error .undefined := by
  rcases h with rfl | rfl
  · exact nofun
  · exact nofun

end Stopped

theorem stopped_readFileToString {f : File} (h : ¬ f.Readable) : Stopped (readFileToString f) := by
  rw [readFileToString]
  split
  · exact Or.inr rfl
  · next hregular =>
    split
    · exact Or.inl rfl
    · next n hlen =>
      split
      · exact Or.inr rfl
      · next hn =>
        split
        · exact Or.inr rfl
        · next hopens =>
          dsimp only
          split
          · exact Or.inr rfl
          · next hcloses =>
            exact absurd ⟨by simpa using hregular, ⟨n, not_lt.mp hn, hlen⟩, by simpa using hopens,
              by simpa using hcloses⟩ h

/-! ### One entry -/

variable {e : DirEntry}

/-- **What reading a zone comes to.** -/
theorem readZone_cases (e : DirEntry) :
    (e.typeFile.Readable ∧ e.tempFile.Readable ∧ e.typeFile.content = [] ∧
      readZone parse e = .error .undefined) ∨
    (∃ temp, e.typeFile.Readable ∧ e.tempFile.Readable ∧ e.typeFile.content ≠ [] ∧
      parse e.filename e.tempFile.content = some temp ∧
      readZone parse e = .ok (e.typeFile.line, temp)) ∨
    ¬ (e.typeFile.Readable ∧ e.tempFile.Readable ∧
        (e.typeFile.content = [] ∨ parse e.filename e.tempFile.content ≠ none)) ∧
      Stopped (readZone parse e) := by
  by_cases htype : e.typeFile.Readable
  · by_cases htemp : e.tempFile.Readable
    · rw [readZone, readFileToString_eq _ htype, readFileToString_eq _ htemp]
      by_cases hempty : e.typeFile.content = []
      · exact Or.inl ⟨htype, htemp, hempty, by rw [hempty]; rfl⟩
      · have hback := List.getLast?_eq_some_getLast hempty
        cases hparse : parse e.filename e.tempFile.content with
        | none =>
          refine Or.inr (Or.inr ⟨fun h => h.2.2.elim hempty (fun hne => hne rfl), Or.inr ?_⟩)
          simp only [bind, Except.bind, hback, hparse]
        | some temp =>
          refine Or.inr (Or.inl ⟨temp, htype, htemp, hempty, rfl, ?_⟩)
          simp only [bind, Except.bind, hback, hparse, File.line, Option.some.injEq]
    · refine Or.inr (Or.inr ⟨fun h => htemp h.2.1, ?_⟩)
      rw [readZone, readFileToString_eq _ htype]
      exact (stopped_readFileToString htemp).bind _
  · refine Or.inr (Or.inr ⟨fun h => htype h.1, ?_⟩)
    exact (stopped_readFileToString htype).bind _

/-- **What visiting an entry comes to.** -/
theorem visit_cases (e : DirEntry) :
    (e.IsZone ∧ e.typeFile.Readable ∧ e.tempFile.Readable ∧ e.typeFile.content = [] ∧
      visit parse e = .error .undefined) ∨
    (∃ temp, e.IsZone ∧ e.typeFile.Readable ∧ e.tempFile.Readable ∧ e.typeFile.content ≠ [] ∧
      parse e.filename e.tempFile.content = some temp ∧
      visit parse e = .ok (some (e.typeFile.line, temp))) ∨
    (¬ e.IsZone ∧ e.isDirectory ≠ none ∧ visit parse e = .ok none) ∨
    (e.isDirectory = none ∨ e.IsZone ∧ ¬ (e.typeFile.Readable ∧ e.tempFile.Readable ∧
        (e.typeFile.content = [] ∨ parse e.filename e.tempFile.content ≠ none))) ∧
      Stopped (visit parse e) := by
  by_cases hzone : e.IsZone
  · rw [visit, hzone.1]
    dsimp only
    rw [if_pos hzone.2]
    rcases readZone_cases parse e with ⟨htype, htemp, hempty, hread⟩ |
      ⟨temp, htype, htemp, hempty, hparse, hread⟩ | ⟨hnot, hstop⟩
    · exact Or.inl ⟨hzone, htype, htemp, hempty, by rw [hread]; rfl⟩
    · exact Or.inr (Or.inl ⟨temp, hzone, htype, htemp, hempty, hparse, by rw [hread]; rfl⟩)
    · exact Or.inr (Or.inr (Or.inr ⟨Or.inr ⟨hzone, hnot⟩, hstop.map some⟩))
  · refine Or.inr (Or.inr ?_)
    rw [visit]
    cases hdir : e.isDirectory with
    | none => exact Or.inr ⟨Or.inl rfl, Or.inl rfl⟩
    | some dir =>
      refine Or.inl ⟨hzone, nofun, ?_⟩
      cases dir with
      | false => rfl
      | true => exact if_neg (fun hname => hzone ⟨hdir, hname⟩)

theorem visit_ok {parse : List Char → List Char → Option τ} {r : Option (List Char × τ)}
    (h : visit parse e = .ok r) :
    (∃ temp, e.IsZone ∧ e.typeFile.Readable ∧ e.tempFile.Readable ∧
      parse e.filename e.tempFile.content = some temp ∧ r = some (e.typeFile.line, temp)) ∨
    (¬ e.IsZone ∧ e.isDirectory ≠ none ∧ r = none) := by
  rcases visit_cases parse e with ⟨-, -, -, -, hvisit⟩ |
    ⟨temp, hzone, htype, htemp, -, hparse, hvisit⟩ | ⟨hzone, hdir, hvisit⟩ | ⟨-, hstop⟩
  · cases hvisit.symm.trans h
  · cases hvisit.symm.trans h
    exact Or.inl ⟨temp, hzone, htype, htemp, hparse, rfl⟩
  · cases hvisit.symm.trans h
    exact Or.inr ⟨hzone, hdir, rfl⟩
  · exact absurd h (hstop.ne_ok r)

theorem visit_undefined_iff {parse : List Char → List Char → Option τ} : visit parse e = .error .undefined ↔
    e.IsZone ∧ e.typeFile.Readable ∧ e.tempFile.Readable ∧ e.typeFile.content = [] := by
  rcases visit_cases parse e with ⟨hzone, htype, htemp, hempty, h⟩ |
    ⟨temp, -, -, -, hempty, -, h⟩ | ⟨hzone, -, h⟩ | ⟨hnot, h⟩
  · exact iff_of_true h ⟨hzone, htype, htemp, hempty⟩
  · rw [h]
    exact iff_of_false nofun (fun h => hempty h.2.2.2)
  · rw [h]
    exact iff_of_false nofun (fun h => hzone h.1)
  · refine iff_of_false h.ne_undefined ?_
    rintro ⟨hzone, htype, htemp, hempty⟩
    rcases hnot with hnone | ⟨-, hnot⟩
    · cases hzone.1.symm.trans hnone
    · exact hnot ⟨htype, htemp, Or.inl hempty⟩

/-- What a zone is read as. -/
def reading (parse : List Char → List Char → Option τ) (e : DirEntry) : Option (List Char × τ) :=
  match visit parse e with
  | .ok r => r
  | .error _ => none

/-! ### The loop -/

/-- **The loop enters what the zones are read as**, or it ends at an entry that cannot be read. -/
theorem sampleLoop_cases : ∀ (es : List DirEntry) (newTemps : StdMap (List Char) τ),
    (∀ e ∈ es, ∃ r, visit parse e = .ok r) ∧ sampleLoop parse es newTemps
        = .ok ((es.filterMap (reading parse)).foldl (fun m r => m.emplace r.1 r.2) newTemps) ∨
      ∃ e ∈ es, ∃ x, visit parse e = .error x ∧ sampleLoop parse es newTemps = .error x := by
  intro es
  induction es with
  | nil => intro newTemps; exact Or.inl ⟨fun e he => absurd he List.not_mem_nil, rfl⟩
  | cons e es ih =>
    intro newTemps
    rw [sampleLoop]
    cases hvisit : visit parse e with
    | error x => exact Or.inr ⟨e, List.mem_cons_self, x, hvisit, rfl⟩
    | ok r =>
      have hreading : reading parse e = r := by
        rw [reading, hvisit]
      -- the rest of the directory, with what this entry added
      have hrest : ∀ m, (∀ x ∈ es, ∃ r, visit parse x = .ok r) ∧ sampleLoop parse es m
            = .ok ((es.filterMap (reading parse)).foldl (fun m r => m.emplace r.1 r.2) m) →
          ∀ x ∈ e :: es, ∃ r, visit parse x = .ok r := by
        intro m h x hx
        rcases List.mem_cons.mp hx with rfl | hx
        · exact ⟨r, hvisit⟩
        · exact h.1 x hx
      cases r with
      | none =>
        dsimp only
        rw [List.filterMap_cons_none hreading]
        rcases ih newTemps with h | ⟨x, hx, herror⟩
        · exact Or.inl ⟨hrest _ h, h.2⟩
        · exact Or.inr ⟨x, List.mem_cons_of_mem e hx, herror⟩
      | some r =>
        dsimp only
        rw [List.filterMap_cons_some hreading, List.foldl_cons]
        rcases ih (newTemps.emplace r.1 r.2) with h | ⟨x, hx, herror⟩
        · exact Or.inl ⟨hrest _ h, h.2⟩
        · exact Or.inr ⟨x, List.mem_cons_of_mem e hx, herror⟩

/-- The map of what the zones are read as, each type with the first zone that has it. -/
def collected (parse : List Char → List Char → Option τ) (order : List DirEntry) : StdMap (List Char) τ :=
  (order.filterMap (reading parse)).foldl (fun m r => m.emplace r.1 r.2) .empty

theorem sample_cases (order : List DirEntry) (mTemps : StdMap (List Char) τ) :
    (∀ e ∈ order, ∃ r, visit parse e = .ok r) ∧
        sample parse order mTemps = (.returned true, collected parse order) ∨
      ∃ e ∈ order, ∃ x, visit parse e = .error x ∧ x ≠ .returned true ∧
        sample parse order mTemps = (x, mTemps) := by
  rw [sample]
  rcases sampleLoop_cases parse order .empty with ⟨hall, hloop⟩ | ⟨e, he, x, hx, hloop⟩
  · exact Or.inl ⟨hall, by rw [hloop]; rfl⟩
  · refine Or.inr ⟨e, he, x, hx, ?_, by rw [hloop]⟩
    rintro rfl
    rcases visit_cases parse e with ⟨-, -, -, -, h⟩ | ⟨temp, -, -, -, -, -, h⟩ |
      ⟨-, -, h⟩ | ⟨-, h | h⟩
    all_goals cases h.symm.trans hx

theorem sample_of_visited {parse : List Char → List Char → Option τ} {order : List DirEntry} (mTemps : StdMap (List Char) τ)
    (h : ∀ e ∈ order, ∃ r, visit parse e = .ok r) :
    sample parse order mTemps = (.returned true, collected parse order) := by
  rcases sample_cases parse order mTemps with ⟨-, hsample⟩ | ⟨e, he, x, hx, -⟩
  · exact hsample
  · obtain ⟨r, hr⟩ := h e he
    cases hr.symm.trans hx

/-! ### All zones -/

variable {parse}

/-- Every entry can be visited when nothing stands in the way and no type is empty. -/
theorem visited_iff {entries : List DirEntry} :
    (∀ e ∈ entries, ∃ r, visit parse e = .ok r) ↔ AllRead parse entries ∧ TypesGiven entries := by
  constructor
  · intro h
    constructor
    · intro e he
      obtain ⟨r, hr⟩ := h e he
      rcases visit_ok hr with ⟨temp, hzone, htype, htemp, hparse, -⟩ | ⟨hzone, hdir, -⟩
      · refine ⟨by rw [hzone.1]; exact nofun, fun _ => ⟨htype, htemp, ?_⟩⟩
        rw [hparse]
        exact nofun
      · exact ⟨hdir, fun h => absurd h hzone⟩
    · intro e he hzone htype htemp hempty
      obtain ⟨r, hr⟩ := h e he
      cases (visit_undefined_iff.mpr ⟨hzone, htype, htemp, hempty⟩).symm.trans hr
  · rintro ⟨hall, hgiven⟩ e he
    rcases visit_cases parse e with ⟨hzone, htype, htemp, hempty, -⟩ |
      ⟨temp, -, -, -, -, -, h⟩ | ⟨-, -, h⟩ | ⟨hnot, -⟩
    · exact absurd hempty (hgiven e he hzone htype htemp)
    · exact ⟨_, h⟩
    · exact ⟨_, h⟩
    · obtain ⟨hdir, hread⟩ := hall e he
      rcases hnot with hnone | ⟨hzone, hnot⟩
      · exact absurd hnone hdir
      · obtain ⟨htype, htemp, hparse⟩ := hread hzone
        exact absurd ⟨htype, htemp, Or.inr hparse⟩ hnot

theorem readings_eq : ∀ {entries : List DirEntry}, (∀ e ∈ entries, ∃ r, visit parse e = .ok r) →
    (entries.filterMap (reading parse)).map (fun r => (r.1, some r.2))
      = (zones entries).map (fun e => (e.typeFile.line, parse e.filename e.tempFile.content)) := by
  intro entries
  induction entries with
  | nil => intro _; rfl
  | cons e es ih =>
    intro h
    obtain ⟨r, hr⟩ := h e List.mem_cons_self
    have hrest := ih (fun x hx => h x (List.mem_cons_of_mem e hx))
    have hreading : reading parse e = r := by
      rw [reading, hr]
    rw [zones] at hrest ⊢
    rcases visit_ok hr with ⟨temp, hzone, -, -, hparse, rfl⟩ | ⟨hzone, -, rfl⟩
    · rw [List.filterMap_cons_some hreading, List.filter_cons_of_pos (by simpa using hzone),
        List.map_cons, List.map_cons, hrest, hparse]
    · rw [List.filterMap_cons_none hreading, List.filter_cons_of_neg (by simpa using hzone), hrest]

section Readings

variable {entries order : List DirEntry} (h : ∀ e ∈ entries, ∃ r, visit parse e = .ok r)
include h

theorem types_readings :
    (entries.filterMap (reading parse)).map Prod.fst = (zones entries).map (fun e => e.typeFile.line) := by
  have heq := congrArg (List.map Prod.fst) (readings_eq h)
  rwa [List.map_map, List.map_map] at heq

theorem temps_readings : (entries.filterMap (reading parse)).map (fun r => some r.2)
    = (zones entries).map (fun e => parse e.filename e.tempFile.content) := by
  have heq := congrArg (List.map Prod.snd) (readings_eq h)
  rwa [List.map_map, List.map_map] at heq

/-- With different types nothing is lost. -/
theorem entries_collected_perm (hnodup : ((zones entries).map (fun e => e.typeFile.line)).Nodup)
    (hperm : order.Perm entries) :
    (collected parse order).entries.Perm (entries.filterMap (reading parse)) := by
  have hreadings := hperm.filterMap (reading parse)
  rw [← types_readings h] at hnodup
  have hentries := StdMap.entries_foldl_emplace_perm (order.filterMap (reading parse)) .empty
    ((hreadings.map Prod.fst).nodup_iff.mpr hnodup) (fun r _ => StdMap.find_empty r.1)
  have hempty : (StdMap.empty : StdMap (List Char) τ).entries = [] := rfl
  rw [hempty, List.append_nil] at hentries
  exact hentries.trans hreadings

theorem nodup_types_of_length (hlen : (collected parse entries).entries.length = (zones entries).length) :
    ((zones entries).map (fun e => e.typeFile.line)).Nodup := by
  have hkeys := StdMap.nodup_keys (collected parse entries)
  have hsub : (collected parse entries).keys ⊆ (zones entries).map (fun e => e.typeFile.line) := by
    intro k hk
    rw [← types_readings h]
    exact StdMap.mem_keys_foldl_emplace.mp hk
  have hle : ((zones entries).map (fun e => e.typeFile.line)).length
      ≤ (collected parse entries).keys.length := by
    rw [List.length_map, StdMap.keys, List.length_map, hlen]
  exact ((List.subperm_of_subset hkeys hsub).perm_of_length_le hle).nodup_iff.mp hkeys

end Readings

/-- **Nothing is lost exactly when no type is empty and, where every zone is read, no two zones have the
same type.** -/
theorem samplesAll_iff (parse : List Char → List Char → Option τ) (mTemps : StdMap (List Char) τ)
    (entries : List DirEntry) :
    SamplesAll parse mTemps entries ↔ TypesGiven entries ∧
      (AllRead parse entries → ((zones entries).map (fun e => e.typeFile.line)).Nodup) := by
  constructor
  · intro h
    have hgiven : TypesGiven entries := by
      intro e he hzone htype htemp hempty
      -- with this zone first the call ends in it
      obtain ⟨pre, post, rfl⟩ := List.append_of_mem he
      refine (h (e :: (pre ++ post)) List.perm_middle.symm).1 ?_
      have hvisit : visit parse e = .error .undefined :=
        visit_undefined_iff.mpr ⟨hzone, htype, htemp, hempty⟩
      rw [sample, sampleLoop, hvisit]
    refine ⟨hgiven, fun hall => ?_⟩
    have hvisited := visited_iff.mpr ⟨hall, hgiven⟩
    have hsample := sample_of_visited mTemps hvisited
    have htemps := ((h entries (List.Perm.refl _)).2.2 (by rw [hsample])).1.length_eq
    rw [hsample, List.length_map, List.length_map] at htemps
    exact nodup_types_of_length hvisited htemps
  · rintro ⟨hgiven, hnodup⟩ order hperm
    rcases sample_cases parse order mTemps with ⟨hvisited, hsample⟩ | ⟨e, he, x, hx, hne, hsample⟩
    · have hentries : ∀ e ∈ entries, ∃ r, visit parse e = .ok r :=
        fun e he => hvisited e (hperm.mem_iff.mpr he)
      have htypes := hnodup (visited_iff.mp hentries).1
      have hcollected := entries_collected_perm hentries htypes hperm
      rw [hsample]
      refine ⟨nofun, nofun, fun _ => ⟨?_, fun order' hperm' => ?_⟩⟩
      · rw [← temps_readings hentries]
        exact hcollected.map _
      · have hcollected' := entries_collected_perm hentries htypes hperm'
        rw [sample_of_visited mTemps (fun e he => hentries e (hperm'.mem_iff.mp he)),
          StdMap.ext_perm (hcollected'.trans hcollected.symm)]
    · rw [hsample]
      refine ⟨?_, fun _ => rfl, fun htrue => absurd htrue hne⟩
      rintro rfl
      obtain ⟨hzone, htype, htemp, hempty⟩ := visit_undefined_iff.mp hx
      exact hgiven e (hperm.mem_iff.mp he) hzone htype htemp hempty

/-- A file of sysfs. -/
def sysfsFile (content : String) : File := ⟨true, some 4096, true, content.toList, true⟩

/-- A zone, with its temperature in thousandths of a degree. -/
def zone (name type temp : String) : DirEntry :=
  ⟨name.toList, some true, sysfsFile type, sysfsFile temp⟩

/-- The number that the text begins with, and the zone it came from. -/
def parseMilli (name tempData : List Char) : Option (List Char × Int) :=
  (Text.readStream tempData).map (fun p => (name, p.1))

/-- Two zones of one type leave the temperature of the first, and a zone without a type leaves nothing
that is defined. -/
theorem samplesAll_not_twoZones :
    sample parseMilli [zone "thermal_zone0" "acpitz\n" "27800\n", zone "thermal_zone1" "acpitz\n" "29800\n"]
        .empty = (.returned true, StdMap.empty.emplace "acpitz".toList ("thermal_zone0".toList, 27800)) ∧
      sample parseMilli [zone "thermal_zone1" "acpitz\n" "29800\n", zone "thermal_zone0" "acpitz\n" "27800\n"]
        .empty = (.returned true, StdMap.empty.emplace "acpitz".toList ("thermal_zone1".toList, 29800)) ∧
      ¬ SamplesAll parseMilli .empty
        [zone "thermal_zone0" "acpitz\n" "27800\n", zone "thermal_zone1" "acpitz\n" "29800\n"] ∧
      (sample parseMilli [zone "thermal_zone0" "" "27800\n"] .empty).1 = .undefined ∧
      ¬ SamplesAll parseMilli .empty [zone "thermal_zone0" "" "27800\n"] := by
  have hfirst : sample parseMilli
      [zone "thermal_zone0" "acpitz\n" "27800\n", zone "thermal_zone1" "acpitz\n" "29800\n"] .empty
        = (.returned true, StdMap.empty.emplace "acpitz".toList ("thermal_zone0".toList, 27800)) := rfl
  refine ⟨hfirst, rfl, fun h => ?_, rfl, fun h => ?_⟩
  · have htemps := ((h _ (List.Perm.refl _)).2.2 (by rw [hfirst])).1.length_eq
    rw [hfirst, List.length_map, List.length_map] at htemps
    exact absurd htemps (by decide)
  · exact (h _ (List.Perm.refl _)).1 rfl

end LinuxThermalZone

end Opaleye.Sensors
