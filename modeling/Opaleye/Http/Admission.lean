import Opaleye.Http.Jsonrpc

/-!
# What `http_req_jsonrpc` admits

`handle` checks three strings before it reads the body: the method against a table,
`CONTENT_LENGTH` with `sscanf("%d")` and `CONTENT_TYPE` with `strncmp`.  The comment
in the source is "ignoring any optional charset", but the comparison ignores whatever
follows, and so does `%d`, which takes blanks and a sign besides and stores the low
32 bits.

`Admissible` is the grammar that is meant, `handleJsonrpc` says which strings the
server is passed.  Whatever is admissible is passed on; what else is passed on is the
kind of text that `Strict` excludes (`admits_iff`).
-/

namespace Opaleye.Http

open Text

/-- `http_req_jsonrpc::handle`, with what it passes to `HandleRequest`. -/
def handleJsonrpc (server : JsonrpcServer) (req : Params) :
    Except Exception (List (List Char)) × List (List Char) :=
  match checkRequest req with
  | .error e => (.error e, [])
  | .ok reqLen =>
    let reqStr := req.body.take reqLen.toNat
    if (reqStr.length : Int) ≠ reqLen then
      (.error (internalServerError "Read did not return expected length"), [])
    else
      match server reqStr with
      | .error _ => (.error (internalServerError "Error handling jsonrpc request"), [reqStr])
      | .ok result => (.ok (jsonrpcResponse result), [reqStr])

theorem handleJsonrpc_fst (server : JsonrpcServer) (req : Params) :
    (handleJsonrpc server req).1 = httpReqJsonrpc server req := by
  rw [httpReqJsonrpc_eq, handleJsonrpc]
  cases checkRequest req with
  | error e => rfl
  | ok reqLen =>
    dsimp only
    split
    · rfl
    · cases server (req.body.take reqLen.toNat) <;> rfl

/-! ### The grammar -/

/-- Blanks between the tokens of a header. -/
def isBlank (c : Char) : Bool := c == ' ' || c == '\t'

/-- `application/json` alone, or with parameters. -/
def JsonType (contentType : List Char) : Prop :=
  contentType.take 16 = "application/json".toList ∧
    (contentType.drop 16 = [] ∨ ((contentType.drop 16).dropWhile isBlank).head? = some ';')

instance (contentType : List Char) : Decidable (JsonType contentType) :=
  inferInstanceAs (Decidable (_ ∧ _))

/-- A request with `n` bytes of JSON. -/
structure Admissible (req : Params) (n : Nat) : Prop where
  method : caseEq "POST".toList req.requestMethod = true
  length_ne : req.contentLength ≠ []
  digits : ∀ c ∈ req.contentLength, c.isDigit = true
  length : Nat.ofDigitChars 10 req.contentLength 0 = n
  le_max : n ≤ 16384
  type : JsonType req.contentType
  body : n ≤ req.body.length

/-- The server is called with the body of an admissible request, and any other request ends in an
`HTTPException` before it is called. -/
def Admits (server : JsonrpcServer) (req : Params) : Prop :=
  (∀ n, Admissible req n → (handleJsonrpc server req).2 = [req.body.take n]) ∧
    ((∀ n, ¬ Admissible req n) → (handleJsonrpc server req).2 = [] ∧
      ∃ status msg, (handleJsonrpc server req).1 = .error (.httpException status msg))

/-- A number that `%d` finds in the range is the whole of `CONTENT_LENGTH` and was not cut down, and
`application/json` goes on with parameters only. -/
def Strict (req : Params) : Prop :=
  ∀ v rest, caseEq "POST".toList req.requestMethod = true → Numeral req.contentLength v rest →
    0 ≤ longToInt v → longToInt v ≤ 16384 → longToInt v ≤ req.body.length →
    req.contentType.take 16 = "application/json".toList →
    ((∀ c ∈ req.contentLength, c.isDigit = true) ∧ v ≤ 16384) ∧ JsonType req.contentType

/-! ### What the code admits -/

variable {req : Params} {reqLen : Int}

theorem parseReqMethod_eq_post_iff (m : List Char) :
    parseReqMethod m = .post ↔ caseEq "POST".toList m = true := by
  constructor
  · intro h
    rw [parseReqMethod] at h
    split at h
    · split at h
      · next str hfind =>
        have hmem := List.mem_of_find?_eq_some hfind
        have heq := List.find?_some hfind
        simp only [requestMethodStr, List.mem_cons, List.not_mem_nil, or_false] at hmem
        rcases hmem with rfl | rfl | rfl | rfl | rfl | rfl | rfl | rfl | rfl
        all_goals first
          | exact heq
          | cases h
      · cases h
    · cases h
  · intro h
    have hlower : m.map Char.toLower = "post".toList := (of_decide_eq_true h).symm
    have hlen : m.length ≠ 0 := by
      have := congrArg List.length hlower
      rw [List.length_map] at this
      rw [this]
      decide
    have hcase : ∀ w : List Char, caseEq w m = decide (w.map Char.toLower = "post".toList) := by
      intro w
      rw [caseEq, hlower]
    rw [parseReqMethod, if_pos hlen]
    simp only [hcase]
    rfl

theorem checkRequest_eq_ok_iff :
    checkRequest req = .ok reqLen ↔ caseEq "POST".toList req.requestMethod = true ∧
      (∃ v rest, Numeral req.contentLength v rest ∧ reqLen = longToInt v) ∧
      0 ≤ reqLen ∧ reqLen ≤ 16384 ∧ req.contentType.take 16 = "application/json".toList := by
  rw [← parseReqMethod_eq_post_iff, ← sscanf_readInt_eq_iff, checkRequest]
  split
  · next hm => exact iff_of_false nofun (fun h => hm h.1)
  · next hm =>
    split
    · next n hscan =>
      have hlen : sscanf [.conv readInt] req.contentLength = [reqLen] ↔ n = reqLen := by
        rw [hscan]
        simp
      rw [hlen]
      split
      · next hrange =>
        refine iff_of_false nofun ?_
        rintro ⟨-, rfl, h0, h1, -⟩
        rw [maxReqLen] at hrange
        omega
      · next hrange =>
        rw [maxReqLen] at hrange
        split
        · next h0 =>
          refine iff_of_false nofun ?_
          rintro ⟨-, -, -, -, htype⟩
          rw [List.length_eq_zero_iff.mp h0] at htype
          exact absurd htype (by decide)
        · split
          · next htype => exact iff_of_false nofun (fun h => htype h.2.2.2.2)
          · next htype =>
            constructor
            · intro h
              cases h
              exact ⟨not_not.mp hm, rfl, by omega, by omega, not_not.mp htype⟩
            · rintro ⟨-, rfl, -⟩
              rfl
    · next hscan => exact iff_of_false nofun (fun h => hscan reqLen h.2.1)

theorem checkRequest_error {e : Exception} (h : checkRequest req = .error e) :
    ∃ status msg, e = .httpException status msg := by
  rw [checkRequest] at h
  split at h
  · cases h; exact ⟨_, _, rfl⟩
  · split at h
    · split at h
      · cases h; exact ⟨_, _, rfl⟩
      · split at h
        · cases h; exact ⟨_, _, rfl⟩
        · split at h
          · cases h; exact ⟨_, _, rfl⟩
          · cases h
    · cases h; exact ⟨_, _, rfl⟩

theorem handleJsonrpc_passed (server : JsonrpcServer) (h : checkRequest req = .ok reqLen)
    (h0 : 0 ≤ reqLen) (hbody : reqLen ≤ req.body.length) :
    (handleJsonrpc server req).2 = [req.body.take reqLen.toNat] := by
  have hlen : ((req.body.take reqLen.toNat).length : Int) = reqLen := by
    rw [List.length_take]
    omega
  rw [handleJsonrpc, h]
  dsimp only
  rw [if_neg (not_not.mpr hlen)]
  split <;> rfl

theorem handleJsonrpc_refused (server : JsonrpcServer)
    (h : ∀ reqLen, checkRequest req = .ok reqLen → (req.body.length : Int) < reqLen) :
    (handleJsonrpc server req).2 = [] ∧
      ∃ status msg, (handleJsonrpc server req).1 = .error (.httpException status msg) := by
  rw [handleJsonrpc]
  split
  · next e he =>
    obtain ⟨status, msg, rfl⟩ := checkRequest_error he
    exact ⟨rfl, status, msg, rfl⟩
  · next reqLen hok =>
    have hlt := h reqLen hok
    have hlen : ((req.body.take reqLen.toNat).length : Int) ≠ reqLen := by
      rw [List.length_take]
      omega
    dsimp only
    rw [if_pos hlen]
    exact ⟨rfl, _, _, rfl⟩

/-! ### Against the grammar -/

theorem passed_of_admissible (server : JsonrpcServer) {n : Nat} (h : Admissible req n) :
    (handleJsonrpc server req).2 = [req.body.take n] := by
  have hnum : Numeral req.contentLength (n : Int) [] := by
    have hdigits := numeral_digits h.digits h.length_ne
    rwa [h.length] at hdigits
  have hint : (n : Int) = longToInt n := by
    have := h.le_max
    exact (longToInt_of_lt (by omega) (by omega)).symm
  have hok : checkRequest req = .ok (n : Int) :=
    checkRequest_eq_ok_iff.mpr ⟨h.method, ⟨n, [], hnum, hint⟩, by omega,
      by have := h.le_max; omega, h.type.1⟩
  exact handleJsonrpc_passed server hok (by omega) (by have := h.body; omega)

theorem ofDigitChars_of_numeral {s rest : List Char} {v : Int} (h : Numeral s v rest)
    (hs : ∀ c ∈ s, c.isDigit = true) : s ≠ [] ∧ v = Nat.ofDigitChars 10 s 0 := by
  have hne : s ≠ [] := by
    rintro rfl
    have hread := readStream_eq_some_iff.mpr h
    cases hread
  have heq := (readStream_digits hs hne).symm.trans (readStream_eq_some_iff.mpr h)
  cases heq
  exact ⟨hne, rfl⟩

theorem admissible_of_strict (h : Strict req) (hok : checkRequest req = .ok reqLen)
    (hbody : reqLen ≤ req.body.length) : ∃ n, Admissible req n := by
  obtain ⟨hm, ⟨v, rest, hnum, rfl⟩, h0, hmax, htype⟩ := checkRequest_eq_ok_iff.mp hok
  obtain ⟨⟨hdigits, hv⟩, hjson⟩ := h v rest hm hnum h0 hmax hbody htype
  obtain ⟨hne, hval⟩ := ofDigitChars_of_numeral hnum hdigits
  have hint : longToInt v = v := longToInt_of_lt (by omega) (by omega)
  exact ⟨Nat.ofDigitChars 10 req.contentLength 0, hm, hne, hdigits, rfl, by omega, hjson, by omega⟩

/-- **A request is admitted by the grammar alone exactly when its strings are strict.** -/
theorem admits_iff (server : JsonrpcServer) (req : Params) : Admits server req ↔ Strict req := by
  constructor
  · intro h v rest hm hnum h0 hmax hbody htype
    have hok : checkRequest req = .ok (longToInt v) :=
      checkRequest_eq_ok_iff.mpr ⟨hm, ⟨v, rest, hnum, rfl⟩, h0, hmax, htype⟩
    have hpassed := handleJsonrpc_passed server hok h0 hbody
    -- the server is called, so the request is admissible
    have hex : ∃ n, Admissible req n := by
      by_contra hnone
      rw [not_exists] at hnone
      rw [(h.2 hnone).1] at hpassed
      cases hpassed
    obtain ⟨n, hn⟩ := hex
    obtain ⟨-, hval⟩ := ofDigitChars_of_numeral hnum hn.digits
    have hle := hn.le_max
    rw [← hn.length] at hle
    exact ⟨⟨hn.digits, by omega⟩, hn.type⟩
  · intro h
    refine ⟨fun n hn => passed_of_admissible server hn, fun hnone => ?_⟩
    refine handleJsonrpc_refused server (fun reqLen hok => ?_)
    by_contra hbody
    obtain ⟨n, hn⟩ := admissible_of_strict h hok (by omega)
    exact hnone n hn

/-- A request of two bytes. -/
def twoBytes (contentLength contentType : String) : Params where
  requestMethod := "POST".toList
  documentUri := "/api".toList
  contentLength := contentLength.toList
  contentType := contentType.toList
  body := "\x7b\x7d".toList
  gmtime := none

theorem not_admits {server : JsonrpcServer} (str : List Char)
    (hpassed : (handleJsonrpc server req).2 = [str]) (hnone : ∀ n, ¬ Admissible req n) :
    ¬ Admits server req := by
  intro h
  rw [(h.2 hnone).1] at hpassed
  cases hpassed

/-- A length with a tail, one that is cut down to 32 bits, and another media type. -/
theorem not_admits_twoBytes :
    ¬ Admits (fun _ => .ok none) (twoBytes "2abc" "application/json") ∧
      ¬ Admits (fun _ => .ok none) (twoBytes "4294967298" "application/json") ∧
      ¬ Admits (fun _ => .ok none) (twoBytes "2" "application/jsonx") := by
  refine ⟨not_admits "\x7b\x7d".toList rfl (fun n hn => ?_),
    not_admits "\x7b\x7d".toList rfl (fun n hn => ?_),
    not_admits "\x7b\x7d".toList rfl (fun n hn => ?_)⟩
  · exact absurd (hn.digits 'a' (by decide)) (by decide)
  · have hle := hn.le_max
    rw [← hn.length] at hle
    exact absurd hle (by decide)
  · exact absurd hn.type (by decide)

end Opaleye.Http
