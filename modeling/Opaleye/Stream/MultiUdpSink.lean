import Opaleye.Lib.TransSys
import Mathlib.Data.Finset.Basic
import Mathlib.Data.Finset.Dedup
import Mathlib.Data.Multiset.Count

/-!
# The UDP destinations of a stream

`libs/camera-pipes/pipeline/stream/multiudpsink_pipe.cpp` keeps a set of the
destinations that GStreamer's `multiudpsink` sends to.  It changes the element
through action signals and learns of the changes through `client-added` and
`client-removed`, whose handlers keep the set.

The element counts how often a destination was added: it is a multiset, and the
set should be its support.  A destination that is removed as often as it was added
is announced, so `add_client` and `remove_client` keep the two together
(`emit_add`, `emit_remove`).  `clear` announces nothing, and
`remove_all_clients` waits for a set that no handler empties.
-/

namespace Opaleye.Stream

/-- `ConnType` -/
abbrev ConnType := List Char × UInt16

/-- What a C function sees of a string. -/
def cStr (s : List Char) : List Char := s.takeWhile (fun c => c != '\x00')

/-! ### `multiudpsink` -/

inductive ClientSignal
  | clientAdded (conn : ConnType)
  | clientRemoved (conn : ConnType)

/-- The action signal `add`. -/
def Sink.add (conn : ConnType) (sink : Multiset ConnType) :
    Multiset ConnType × List ClientSignal :=
  (conn ::ₘ sink, [.clientAdded conn])

/-- The action signal `remove`: a destination is dropped with its last count. -/
def Sink.remove (conn : ConnType) (sink : Multiset ConnType) :
    Multiset ConnType × List ClientSignal :=
  (sink.erase conn, if sink.count conn = 1 then [.clientRemoved conn] else [])

/-- The action signal `clear`. -/
def Sink.clear (_ : Multiset ConnType) : Multiset ConnType × List ClientSignal := (0, [])

/-! ### `multiudpsink_pipe` -/

/-- `multiudpsink_pipe`, with the state of its element. -/
structure MultiUdpSinkPipe where
  sink : Multiset ConnType
  mActiveConn : Finset ConnType

/-- The destinations that are sent to. -/
def MultiUdpSinkPipe.destinations (p : MultiUdpSinkPipe) : Finset ConnType := p.sink.toFinset

/-- `handle_client_added` and `handle_client_removed` -/
def handleClient (active : Finset ConnType) : ClientSignal → Finset ConnType
  | .clientAdded conn => insert conn active
  | .clientRemoved conn => active.erase conn

namespace MultiUdpSinkPipe

/-- `g_signal_emit_by_name`: the element acts, and its own signals run the handlers. -/
def emit (p : MultiUdpSinkPipe)
    (act : Multiset ConnType → Multiset ConnType × List ClientSignal) : MultiUdpSinkPipe :=
  ⟨(act p.sink).1, (act p.sink).2.foldl handleClient p.mActiveConn⟩

/-- `has_connection_no_lock` -/
def hasConnection (p : MultiUdpSinkPipe) (conn : ConnType) : Bool := decide (conn ∈ p.mActiveConn)

/-- `add_client`; `wait_for` returns what its predicate is once the signals are in. -/
def addClient (p : MultiUdpSinkPipe) (host : List Char) (port : UInt16) :
    MultiUdpSinkPipe × Bool :=
  let p := p.emit (Sink.add (cStr host, port))
  (p, p.hasConnection (host, port))

/-- `remove_client` -/
def removeClient (p : MultiUdpSinkPipe) (host : List Char) (port : UInt16) :
    MultiUdpSinkPipe × Bool :=
  let p := p.emit (Sink.remove (cStr host, port))
  (p, !p.hasConnection (host, port))

/-- `remove_all_clients`, which does not use its arguments. -/
def removeAllClients (p : MultiUdpSinkPipe) (_ : List Char) (_ : UInt16) :
    MultiUdpSinkPipe × Bool :=
  let p := p.emit Sink.clear
  (p, decide (p.mActiveConn = ∅))

end MultiUdpSinkPipe

inductive ClientCall
  | addClient (host : List Char) (port : UInt16)
  | removeClient (host : List Char) (port : UInt16)
  | removeAllClients (host : List Char) (port : UInt16)

def MultiUdpSinkPipe.call (p : MultiUdpSinkPipe) : ClientCall → MultiUdpSinkPipe × Bool
  | .addClient host port => p.addClient host port
  | .removeClient host port => p.removeClient host port
  | .removeAllClients host port => p.removeAllClients host port

/-- A pipe and the last call with what it returned. -/
structure ClientRun where
  pipe : MultiUdpSinkPipe
  last : Option (ClientCall × Bool)

/-- After the constructor and `init`. -/
def freshClients : ClientRun := ⟨⟨0, ∅⟩, none⟩

def clients : TransSys ClientRun ClientCall where
  init r := r = freshClients
  step r call := some ⟨(r.pipe.call call).1, some (call, (r.pipe.call call).2)⟩

/-! ### The set and the element -/

/-- What `true` says about the destinations. -/
def ClientCall.Reports (dests : Finset ConnType) : ClientCall → Prop
  | .addClient host port => (host, port) ∈ dests
  | .removeClient host port => (host, port) ∉ dests
  | .removeAllClients _ _ => dests = ∅

/-- The set is the element's, and the last call returned what is so. -/
def Mirrors (r : ClientRun) : Prop :=
  r.pipe.mActiveConn = r.pipe.destinations ∧
    ∀ call ret, r.last = some (call, ret) → (ret = true ↔ call.Reports r.pipe.destinations)

/-- All destinations are removed only where there are none. -/
def ClearsNothing (r : ClientRun) : ClientCall → Prop
  | .removeAllClients _ _ => r.pipe.destinations = ∅
  | _ => True

section Step

variable {p : MultiUdpSinkPipe}

theorem emit_add (h : p.mActiveConn = p.destinations) (conn : ConnType) :
    (p.emit (Sink.add conn)).mActiveConn = (p.emit (Sink.add conn)).destinations := by
  show insert conn p.mActiveConn = (conn ::ₘ p.sink).toFinset
  rw [h, MultiUdpSinkPipe.destinations, Multiset.toFinset_cons]

theorem toFinset_erase (sink : Multiset ConnType) (conn : ConnType) :
    (sink.erase conn).toFinset
      = if sink.count conn = 1 then sink.toFinset.erase conn else sink.toFinset := by
  ext d
  have hmem : d ∈ sink.erase conn ↔ 0 < (sink.erase conn).count d := Multiset.count_pos.symm
  have hmem' : d ∈ sink ↔ 0 < sink.count d := Multiset.count_pos.symm
  by_cases hd : d = conn
  · subst hd
    rw [Multiset.count_erase_self] at hmem
    split
    · next hone =>
      rw [Multiset.mem_toFinset, hmem, hone]
      simp only [Nat.sub_self, lt_irrefl, Finset.mem_erase, ne_eq, not_true_eq_false, false_and]
    · rw [Multiset.mem_toFinset, Multiset.mem_toFinset, hmem, hmem']
      omega
  · rw [Multiset.count_erase_of_ne hd] at hmem
    split
    · rw [Multiset.mem_toFinset, Finset.mem_erase, Multiset.mem_toFinset, hmem, hmem']
      exact (and_iff_right hd).symm
    · rw [Multiset.mem_toFinset, Multiset.mem_toFinset, hmem, hmem']

theorem emit_remove (h : p.mActiveConn = p.destinations) (conn : ConnType) :
    (p.emit (Sink.remove conn)).mActiveConn = (p.emit (Sink.remove conn)).destinations := by
  show (Sink.remove conn p.sink).2.foldl handleClient p.mActiveConn = (p.sink.erase conn).toFinset
  rw [toFinset_erase, Sink.remove, h, MultiUdpSinkPipe.destinations]
  split <;> rfl

end Step

/-- **One call keeps the set and the element together exactly when it clears
nothing.** -/
theorem mirrors_step {r r' : ClientRun} {call : ClientCall} (hr : Mirrors r)
    (hst : clients.step r call = some r') : Mirrors r' ↔ ClearsNothing r call := by
  obtain rfl := Option.some.inj hst
  cases call with
  | addClient host port =>
    have hemit := emit_add hr.1 (cStr host, port)
    refine iff_of_true ⟨hemit, ?_⟩ trivial
    rintro _ _ ⟨⟩
    show decide (_ ∈ _) = true ↔ _
    rw [hemit, decide_eq_true_iff]
    rfl
  | removeClient host port =>
    have hemit := emit_remove hr.1 (cStr host, port)
    refine iff_of_true ⟨hemit, ?_⟩ trivial
    rintro _ _ ⟨⟩
    show (!decide (_ ∈ _)) = true ↔ _
    rw [hemit, Bool.not_eq_true', decide_eq_false_iff_not]
    rfl
  | removeAllClients host port =>
    -- the element is empty now, and the set is what it was
    have hset : (r.pipe.removeAllClients host port).1.mActiveConn = r.pipe.destinations := hr.1
    have hdest : (r.pipe.removeAllClients host port).1.destinations = ∅ := Multiset.toFinset_zero
    constructor
    · rintro ⟨hmirror, -⟩
      exact hset.symm.trans (hmirror.trans hdest)
    · intro hclear
      have hempty := hset.trans hclear
      refine ⟨hempty.trans hdest.symm, ?_⟩
      rintro _ _ ⟨⟩
      exact iff_of_true (decide_eq_true hempty) hdest

/-- **The set mirrors the element throughout a run exactly when all destinations are
only ever removed where there are none.** -/
theorem clients_mirror_iff (calls : List ClientCall) :
    clients.Always Mirrors freshClients calls ↔
      clients.Meets ClearsNothing freshClients calls := by
  apply TransSys.always_iff_meets (I := fun _ => True)
  · intro r call r' _ hr hst
    exact ⟨fun _ => trivial, mirrors_step hr hst⟩
  · intro r call _ _ hst
    cases hst
  · trivial
  · exact ⟨rfl, by rintro _ _ ⟨⟩⟩

/-- A destination is added and all are removed: it stays in the set, and
`remove_all_clients` returns `false`. -/
theorem clients_removeAll_stale :
    ∃ r, clients.run freshClients
        [.addClient "10.0.0.2".toList 5000, .removeAllClients "10.0.0.2".toList 5000] = some r ∧
      r.pipe.destinations = ∅ ∧ ("10.0.0.2".toList, 5000) ∈ r.pipe.mActiveConn ∧
      ∃ call, r.last = some (call, false) ∧ call.Reports r.pipe.destinations :=
  ⟨_, rfl, rfl, by decide, _, rfl, rfl⟩

end Opaleye.Stream
