import Opaleye.App.Process

/-!
# The routes of the process

What the workers find for a URI while `main` fills the table.  `main` registers ten URIs, in one
order and each at most once; which of them depends on the pipelines that have a thumbnail and on how
far it gets.  `pending` are those that may still come, and what is registered and what is pending
are together a sublist of `routeTable` (`routes_of_reach`).

Only `/api/v1/sensor_types/` is a directory and nothing is registered below it, so in every state a
lookup is a question of the table alone: `process_routing`.
-/

namespace Opaleye.App

open Opaleye.Http OpaleyeApp FsPath HttpFcgiSvr Opaleye.Path DirectoryTree

/-- A handler without what it points to. -/
inductive Service
  | file
  | sensors
  | jpeg (key : List Char)
  | jsonrpc
  deriving DecidableEq

def Handler.service : Handler → Service
  | .file => .file
  | .sensors => .sensors
  | .jpeg key _ => .jpeg key
  | .jsonrpc => .jsonrpc

/-- The URIs of a camera. -/
def jpegRoutes (cam : String × String) : List (Path × Service) :=
  [(⟨("/cameras/" ++ cam.2 ++ ".jpg").toList⟩, .jpeg cam.1.toList),
    (⟨("/api/v1/cameras/" ++ cam.2 ++ "/live/full").toList⟩, .jpeg cam.1.toList),
    (⟨("/api/v1/cameras/" ++ cam.2 ++ "/live/thumb").toList⟩, .jpeg cam.1.toList)]

def rpcRoutes : List (Path × Service) := [(⟨"/api/v1".toList⟩, .jsonrpc)]

def appRoutes : List (Path × Service) :=
  [("pipe0", "cam0"), ("pipe1", "cam1")].flatMap jpegRoutes ++ rpcRoutes

/-- All that `main` may register, in its order. -/
def routeTable : List (Path × Service) :=
  [(⟨"/foo".toList⟩, .file), (⟨"/api/v1/sensor_types".toList⟩, .sensors),
    (⟨"/api/v1/sensor_types/".toList⟩, .sensors)] ++ appRoutes

/-- What `main` may still register. -/
def MainPc.pending : MainPc → List (Path × Service)
  | .openSocket => appRoutes
  | .launch => appRoutes
  | .appInit => appRoutes
  | .appStart => appRoutes
  | .jpeg cams => cams.flatMap jpegRoutes ++ rpcRoutes
  | .register todo next => todo.map (fun r => (r.1, r.2.service)) ++ next.pending
  | .zmq => rpcRoutes
  | _ => []

/-- What is registered. -/
def Process.routes (s : Process) : List (Path × Service) :=
  s.regs.filterMap (fun r => r.2.map (fun h => (r.1, h.service)))

/-- What is registered and what may still be: each route once, and no null callback. -/
structure RoutesInv (s : Process) : Prop where
  sub : (s.routes ++ s.main.pending).Sublist routeTable
  callbacks : ∀ r ∈ s.regs, r.2 ≠ none

/-! ### One step -/

theorem jpegRegs_service (cam key : String) (p : Pipeline) :
    (jpegRegs cam (.jpeg key.toList p)).map (fun r => (r.1, r.2.service)) = jpegRoutes (key, cam) :=
  rfl

theorem RoutesInv.keep {s s' : Process} (h : RoutesInv s) (hregs : s'.regs = s.regs)
    (hp : s'.main.pending.Sublist s.main.pending) : RoutesInv s' := by
  refine ⟨?_, hregs ▸ h.callbacks⟩
  rw [Process.routes, hregs]
  exact ((List.Sublist.refl _).append hp).trans h.sub

theorem pending_afterCall (ret : Ret) (pc : MainPc) :
    (afterCall ret pc).pending.Sublist pc.pending := by
  rcases afterCall_cases ret pc with heq | heq | heq
  · rw [heq]
  · rw [heq]
    exact List.nil_sublist _
  · rw [heq]
    exact List.nil_sublist _

theorem RoutesInv.mainStep {n : Nat} {config : Option AppConfig} {s s' : Process}
    (h : RoutesInv s) (hs : MainStep n config s s') : RoutesInv s' := by
  cases hs with
  | opened hm => exact h.keep rfl (by rw [hm]; exact .refl _)
  | notOpened hm => exact h.keep rfl (by rw [hm]; exact .refl _)
  | launches hm hlt => exact h.keep rfl (.refl _)
  | launched hm hle => exact h.keep rfl (by rw [hm]; exact .refl _)
  | inits hm env => exact h.keep rfl (by rw [hm]; exact pending_afterCall _ _)
  | starts hm happ ret => exact h.keep rfl (by rw [hm]; exact pending_afterCall _ _)
  | jpegs hm next hnext =>
    refine h.keep rfl ?_
    rw [hm]
    show next.pending.Sublist _
    rcases hnext with ⟨rfl, rfl⟩ | rfl | ⟨cam, cams, rfl, rfl⟩ |
      ⟨app, key, p, cam, cams, rfl, -, -, -, rfl⟩
    · exact .refl _
    · exact List.nil_sublist _
    · -- a camera without a thumbnail is passed over
      rw [MainPc.pending, MainPc.pending, List.flatMap_cons, List.append_assoc]
      exact List.sublist_append_right _ _
    · rw [MainPc.pending, MainPc.pending, MainPc.pending, jpegRegs_service, List.flatMap_cons,
        List.append_assoc]
  | registered hm => exact h.keep rfl (by rw [hm]; exact .refl _)
  | throws hm => exact h.keep rfl (List.nil_sublist _)
  | @registers uri hd todo next hm =>
    have hsub := h.sub
    rw [hm] at hsub
    refine ⟨?_, fun r hr => ?_⟩
    · show ((s.regs ++ [(uri, some hd)]).filterMap _ ++ _).Sublist _
      rw [List.filterMap_append, List.append_assoc]
      exact hsub
    · rcases List.mem_append.mp hr with hr | hr
      · exact h.callbacks r hr
      · rw [List.mem_singleton.mp hr]
        exact Option.some_ne_none hd
  | zmqReady hm => exact h.keep rfl (by rw [hm]; exact .refl _)
  | masked hm => exact h.keep rfl (List.nil_sublist _)
  | returns hm => exact h.keep rfl (List.nil_sublist _)
  | waits hm => exact h.keep rfl (List.nil_sublist _)
  | sigint hm => exact h.keep rfl (List.nil_sublist _)
  | shutsDown hm => exact h.keep rfl (List.nil_sublist _)
  | interrupts hm hi => exact h.keep rfl (List.nil_sublist _)
  | interrupted hm hi => exact h.keep rfl (List.nil_sublist _)
  | closes hm => exact h.keep rfl (List.nil_sublist _)
  | joins hm hi hw hret => exact h.keep rfl (List.nil_sublist _)
  | joinsNone hm hi hw => exact h.keep rfl (List.nil_sublist _)
  | @joined i k hm hi => exact h.keep rfl (by cases k <;> exact List.nil_sublist _)
  | stops hm app next hnext =>
    exact h.keep rfl (by rcases hnext with rfl | rfl <;> exact List.nil_sublist _)
  | destroys hm next hnext =>
    exact h.keep rfl (by rcases hnext with rfl | rfl <;> exact List.nil_sublist _)
  | terminates hm => exact h.keep rfl (List.nil_sublist _)
  | exits hm hp => exact h.keep rfl (List.nil_sublist _)
  | stopsLast hm hp => exact h.keep rfl (List.nil_sublist _)

theorem RoutesInv.workStep {s s' : Process} {i : Nat} {l : WorkInput} (h : RoutesInv s)
    (hs : workStep s i l = some s') : RoutesInv s' := by
  obtain ⟨w, -, -, ⟨pc, rfl, -, -⟩ | rfl | ⟨app, call, env, -, -, rfl⟩⟩ := workStep_cases hs
  · exact h.keep rfl (.refl _)
  · exact h.keep rfl (List.nil_sublist _)
  · exact h.keep rfl (.refl _)

/-- **What is registered is a sublist of the table**, in every state. -/
theorem routes_of_reach {n : Nat} {config : Option AppConfig} {s : Process}
    (h : (process n config).Reach TransSys.Any s) : RoutesInv s := by
  refine h.invariant (fun s hs => ?_) (fun s a s' hI _ hst => ?_)
  · rw [hs]
    exact ⟨.refl _, by decide⟩
  · obtain ⟨-, ⟨l, -, hs⟩ | ⟨i, l, -, hs⟩⟩ := process_step hst
    · exact hI.mainStep (mainStep_cases hs)
    · exact hI.workStep hs

/-! ### What a lookup finds -/

theorem routeTable_nodup : (routeTable.map (fun r => r.1.elements)).Nodup := by decide

theorem routeTable_rooted : ∀ r ∈ routeTable, Rooted r.1 := by decide

theorem leafDirectories_routeTable : LeafDirectories (routeTable.map Prod.fst) := by decide

section

variable {s : Process}

theorem RoutesInv.mem_routeTable (h : RoutesInv s) {r : Path × Option Handler} (hr : r ∈ s.regs) :
    ∃ hd, r.2 = some hd ∧ (r.1, hd.service) ∈ routeTable := by
  obtain ⟨hd, hhd⟩ := Option.ne_none_iff_exists'.mp (h.callbacks r hr)
  refine ⟨hd, hhd, h.sub.subset (List.mem_append_left _ (List.mem_filterMap.mpr ⟨r, hr, ?_⟩))⟩
  rw [hhd]
  rfl

theorem RoutesInv.uris_subset (h : RoutesInv s) :
    s.regs.map Prod.fst ⊆ routeTable.map Prod.fst := by
  intro u hu
  obtain ⟨r, hr, rfl⟩ := List.mem_map.mp hu
  obtain ⟨hd, -, hmem⟩ := h.mem_routeTable hr
  exact List.mem_map.mpr ⟨_, hmem, rfl⟩

theorem RoutesInv.rooted (h : RoutesInv s) : ∀ r ∈ s.regs, Rooted r.1 := by
  intro r hr
  obtain ⟨hd, -, hmem⟩ := h.mem_routeTable hr
  exact routeTable_rooted _ hmem

theorem map_elements_routes : ∀ {regs : List (Path × Option Handler)}, (∀ r ∈ regs, r.2 ≠ none) →
    (regs.filterMap (fun r => r.2.map (fun h => (r.1, h.service)))).map (fun r => r.1.elements)
      = regs.map (fun r => r.1.elements) := by
  intro regs
  induction regs with
  | nil => intro _; rfl
  | cons r regs ih =>
    intro h
    obtain ⟨hd, hhd⟩ := Option.ne_none_iff_exists'.mp (h r List.mem_cons_self)
    simp only [List.filterMap_cons, hhd, Option.map_some, List.map_cons,
      ih (fun x hx => h x (List.mem_cons_of_mem _ hx))]

theorem RoutesInv.nodup (h : RoutesInv s) : (s.regs.map (fun r => r.1.elements)).Nodup := by
  rw [← map_elements_routes h.callbacks]
  exact routeTable_nodup.sublist
    (((List.sublist_append_left s.routes s.main.pending).trans h.sub).map _)

theorem RoutesInv.lastRegistered_iff (h : RoutesInv s) {q : Path} {hd : Handler} :
    lastRegistered s.regs q = some (some hd) ↔
      ∃ u, (u, some hd) ∈ s.regs ∧ u.elements = q.elements := by
  constructor
  · intro hlast
    obtain ⟨r, hr, hr2⟩ := Option.map_eq_some_iff.mp hlast
    obtain ⟨hmem, heq⟩ := List.mem_filter.mp (List.mem_of_getLast? hr)
    exact ⟨r.1, hr2 ▸ hmem, beq_iff_eq.mp heq⟩
  · rintro ⟨u, hu, heq⟩
    obtain ⟨cb, hcb⟩ := lastRegistered_ne_none hu h.callbacks
    rw [← lastRegistered_congr s.regs heq]
    obtain ⟨r, hr, hr2⟩ := Option.map_eq_some_iff.mp hcb
    obtain ⟨hmem, hreq⟩ := List.mem_filter.mp (List.mem_of_getLast? hr)
    have hsame : r = (u, some hd) := List.inj_on_of_nodup_map h.nodup hmem hu (beq_iff_eq.mp hreq)
    rw [hcb, ← hr2, hsame]

end

/-- **Routing in every state of the process.**  A lookup finds a handler exactly when that handler
is registered on the URI itself, in whatever spelling, or on the directory the URI is below; and
whatever is registered is the service that the table gives its URI. -/
theorem process_routing {n : Nat} {config : Option AppConfig} {s : Process}
    (h : (process n config).Reach TransSys.Any s) (q : Path) :
    (∀ hd, s.svr.getCbForDocUri q = .ok (some hd) ↔
      ∃ u, (u, some hd) ∈ s.regs ∧ (u.elements = q.elements ∨ Below u q)) ∧
    ∀ r ∈ s.regs, ∃ hd, r.2 = some hd ∧ (r.1, hd.service) ∈ routeTable := by
  have hinv := routes_of_reach h
  refine ⟨fun hd => ?_, fun r hr => hinv.mem_routeTable hr⟩
  rw [Process.svr, leaf_routing s.regs hinv.rooted
    (leafDirectories_routeTable.mono hinv.uris_subset) q hd, hinv.lastRegistered_iff]
  constructor
  · rintro (⟨u, hu, heq⟩ | ⟨u, -, hb, hlast⟩)
    · exact ⟨u, hu, .inl heq⟩
    · obtain ⟨u', hu', heq⟩ := hinv.lastRegistered_iff.mp hlast
      refine ⟨u', hu', .inr ?_⟩
      rwa [Below, trailingElementIsDir, dirOf, heq]
  · rintro ⟨u, hu, heq | hb⟩
    · exact .inl ⟨u, hu, heq⟩
    · exact .inr ⟨u, List.mem_map.mpr ⟨_, hu, rfl⟩, hb, hinv.lastRegistered_iff.mpr ⟨u, hu, rfl⟩⟩

/-- `main` up to the second of the three URIs of the first camera. -/
def toSecondUri : List ProcessAct :=
  [.main (.result true), .main .go, .main .go, .main (.init fineInit), .main (.start fun _ => true),
    .main .go, .main .go]

/-- `main` is registering, and the first URI of the first camera has its handler. -/
def Process.registersCam0 (s : Process) : Bool :=
  (match s.main with
    | .register (_ :: _) _ => true
    | _ => false) &&
  s.regs.any (fun r => r.1.elements == (FsPath.Path.mk "/cameras/cam0.jpg".toList).elements &&
    (match r.2 with
      | some (.jpeg _ _) => true
      | _ => false))

/-- While `main` registers the second URI of a camera the first one is found, also in another
spelling. -/
theorem process_routing_cam0 : ∃ s, (process 1 dualConfig).Reach TransSys.Any s ∧
    (∃ r todo next, s.main = .register (r :: todo) next) ∧
    ∃ key p, s.svr.getCbForDocUri ⟨"/cameras//cam0.jpg".toList⟩ = .ok (some (.jpeg key p)) := by
  obtain ⟨s, hs, htest⟩ := TransSys.Reach.of_trace (T := process 1 dualConfig) (C := TransSys.Any)
    (P := Process.registersCam0) toSecondUri (s := bootProcess) rfl (TransSys.meets_any _ _)
    (by decide +kernel)
  rw [Process.registersCam0, Bool.and_eq_true, List.any_eq_true] at htest
  obtain ⟨hmain, ⟨u, cb⟩, hr, hcam⟩ := htest
  rw [Bool.and_eq_true, beq_iff_eq] at hcam
  obtain ⟨hu, hcb⟩ := hcam
  refine ⟨s, hs, ?_, ?_⟩
  · split at hmain
    · next r todo next hm => exact ⟨r, todo, next, hm⟩
    · cases hmain
  · dsimp only at hu hcb
    split at hcb
    · next key p =>
      have hspell : u.elements = (FsPath.Path.mk "/cameras//cam0.jpg".toList).elements :=
        hu.trans (by decide)
      exact ⟨key, p, ((process_routing hs _).1 (.jpeg key p)).mpr ⟨u, hr, .inl hspell⟩⟩
    · cases hcb

theorem jsonrpc_uri {n : Nat} {config : Option AppConfig} {s : Process}
    (h : (process n config).Reach TransSys.Any s) {q : Path}
    (hget : s.svr.getCbForDocUri q = .ok (some .jsonrpc)) :
    q.elements = (FsPath.Path.mk "/api/v1".toList).elements := by
  have hinv := routes_of_reach h
  have htable : ∀ r ∈ routeTable, r.2 = .jsonrpc →
      r.1.elements = (FsPath.Path.mk "/api/v1".toList).elements := by decide
  rw [Process.svr, leaf_routing s.regs hinv.rooted
    (leafDirectories_routeTable.mono hinv.uris_subset) q .jsonrpc] at hget
  rcases hget with hlast | ⟨u, hu, hb, hlast⟩
  · obtain ⟨u, hu, heq⟩ := hinv.lastRegistered_iff.mp hlast
    obtain ⟨hd, hhd, hmem⟩ := hinv.mem_routeTable hu
    obtain rfl := Option.some.inj hhd
    rw [← heq, htable _ hmem rfl]
  · -- it is not registered on a directory
    obtain ⟨u', hu', heq⟩ := hinv.lastRegistered_iff.mp hlast
    obtain ⟨hd, hhd, hmem⟩ := hinv.mem_routeTable hu'
    obtain rfl := Option.some.inj hhd
    have hdir := hb.1
    rw [trailingElementIsDir, ← heq, htable _ hmem rfl] at hdir
    exact absurd hdir (by decide)

end Opaleye.App
