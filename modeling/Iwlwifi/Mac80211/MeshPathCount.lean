import Mathlib.Algebra.Order.Group.Int
import Iwlwifi.Lib.Run
import Iwlwifi.Mac80211.MeshPathtbl

/-!
# What the mesh path counters count

In every run the walk list of a table holds the entries of its hash table and the gates are
counted right (`Sound`).  The counter `mpaths`, which limits the mesh path table, counts its
paths up to a drift: what each step adds to the drift is `leak`, and the counter is exact in
every state of a run exactly when no step of it leaks.
-/

namespace Iwlwifi.MeshPathtbl

open Lib

/-- A walk list and a hash table have the same entries, each at its destination. -/
structure Agrees (heap : Ptr → MeshPath) (t : MeshTable) : Prop where
  nodup : t.walkHead.Nodup
  hashed : ∀ mpath ∈ t.walkHead, t.rhead.lookup (heap mpath).dst = some mpath
  walked : ∀ dst mpath, t.rhead.lookup dst = some mpath →
    mpath ∈ t.walkHead ∧ (heap mpath).dst = dst

structure Sound (s : Mesh) : Prop where
  agrees : ∀ tbl, Agrees s.heap (s.table tbl)
  below : ∀ tbl, ∀ mpath ∈ (s.table tbl).walkHead, mpath < s.fresh
  apart : ∀ mpath ∈ s.meshPaths.walkHead, mpath ∉ s.mppPaths.walkHead
  gates : ∀ mpath, mpath ∈ s.meshPaths.knownGates ↔
    mpath ∈ s.meshPaths.walkHead ∧ (s.heap mpath).isGate = true
  gatesNodup : s.meshPaths.knownGates.Nodup
  numGates : s.numGates = s.meshPaths.knownGates.length
  notGate : ∀ mpath ∈ s.mppPaths.walkHead, (s.heap mpath).isGate = false

/-- How far the counter is from the number of paths. -/
def drift (s : Mesh) : Int := s.mpaths - s.meshPaths.walkHead.length

variable {s : Mesh} {tbl other : Which} {mpath : Ptr} {conf : Conf} {dst : Addr}

/-! ## Tables -/

@[simp] theorem table_onTable_self (change : MeshTable → MeshTable) :
    (s.onTable tbl change).table tbl = change (s.table tbl) := by
  cases tbl <;> rfl

@[simp] theorem table_onTable_of_ne (change : MeshTable → MeshTable) (differ : other ≠ tbl) :
    (s.onTable tbl change).table other = s.table other := by
  cases tbl <;> cases other <;> first | rfl | exact absurd rfl differ

@[simp] theorem heap_onTable (change : MeshTable → MeshTable) :
    (s.onTable tbl change).heap = s.heap := by
  cases tbl <;> rfl

@[simp] theorem mpaths_onTable (change : MeshTable → MeshTable) :
    (s.onTable tbl change).mpaths = s.mpaths := by
  cases tbl <;> rfl

@[simp] theorem numGates_onTable (change : MeshTable → MeshTable) :
    (s.onTable tbl change).numGates = s.numGates := by
  cases tbl <;> rfl

@[simp] theorem fresh_onTable (change : MeshTable → MeshTable) :
    (s.onTable tbl change).fresh = s.fresh := by
  cases tbl <;> rfl

/-- The lists of a table and the destinations are all that its agreement depends on. -/
theorem Agrees.congr {heap heap' : Ptr → MeshPath} {t t' : MeshTable} (held : Agrees heap t)
    (sameWalk : t'.walkHead = t.walkHead) (sameHash : t'.rhead = t.rhead)
    (sameDst : ∀ mpath ∈ t.walkHead, (heap' mpath).dst = (heap mpath).dst) :
    Agrees heap' t' := by
  refine ⟨sameWalk ▸ held.nodup, fun mpath member => ?_, fun dst mpath found => ?_⟩
  · rw [sameWalk] at member
    rw [sameHash, sameDst mpath member]
    exact held.hashed mpath member
  · rw [sameHash] at found
    obtain ⟨member, at_dst⟩ := held.walked dst mpath found
    rw [sameWalk, sameDst mpath member]
    exact ⟨member, at_dst⟩

variable {heap : Ptr → MeshPath}

theorem Agrees.perm {t : MeshTable} (held : Agrees heap t) :
    t.walkHead.Perm (t.rhead.entries.map Sigma.snd) := by
  have entry : ∀ e ∈ t.rhead.entries, t.rhead.lookup e.1 = some e.2 := fun e member =>
    AList.mem_lookup_iff.mpr member
  have nodup : (t.rhead.entries.map Sigma.snd).Nodup := by
    refine List.Nodup.map_on (fun e first e' second same => ?_) t.rhead.nodupKeys.nodup
    have dst := (held.walked e.1 e.2 (entry e first)).2
    have dst' := (held.walked e'.1 e'.2 (entry e' second)).2
    have key : e.1 = e'.1 := by rw [← dst, ← dst', same]
    obtain ⟨k, v⟩ := e
    obtain ⟨k', v'⟩ := e'
    cases key
    cases same
    rfl
  refine (List.perm_ext_iff_of_nodup held.nodup nodup).mpr fun mpath => ?_
  constructor
  · intro member
    have found := AList.mem_lookup_iff.mp (held.hashed mpath member)
    exact List.mem_map.mpr ⟨_, found, rfl⟩
  · intro member
    obtain ⟨e, inside, rfl⟩ := List.mem_map.mp member
    exact (held.walked e.1 e.2 (entry e inside)).1

/-! ## Deleting one path -/

/-- What `__mesh_path_del` does to a path that a table has. -/
structure Deletes (s after : Mesh) (tbl : Which) (mpath : Ptr) : Prop where
  sound : Sound after
  walkHead : (after.table tbl).walkHead = (s.table tbl).walkHead.erase mpath
  others : ∀ other, other ≠ tbl → (after.table other).walkHead = (s.table other).walkHead
  heap : ∀ kept, kept ≠ mpath → after.heap kept = s.heap kept
  mpaths : after.mpaths = s.mpaths - 1

theorem agrees_erase {t : MeshTable} (held : Agrees heap t) (member : mpath ∈ t.walkHead) :
    Agrees heap
      { t with
        walkHead := t.walkHead.erase mpath
        rhead := Mesh.rhashtableRemoveFast t.rhead (heap mpath).dst mpath } := by
  have found := held.hashed mpath member
  have removed : Mesh.rhashtableRemoveFast t.rhead (heap mpath).dst mpath =
      t.rhead.erase (heap mpath).dst := if_pos found
  have away : ∀ kept ∈ t.walkHead, kept ≠ mpath → (heap kept).dst ≠ (heap mpath).dst := by
    intro kept inside differ same
    have twice := held.hashed kept inside
    rw [same, found] at twice
    exact differ (Option.some.inj twice).symm
  refine ⟨held.nodup.erase mpath, fun kept inside => ?_, fun dst kept still => ?_⟩
  · obtain ⟨differ, inside⟩ := held.nodup.mem_erase_iff.mp inside
    simp only [removed]
    rw [AList.lookup_erase_ne (away kept inside differ)]
    exact held.hashed kept inside
  · simp only [removed] at still
    have differ : dst ≠ (heap mpath).dst := by
      rintro rfl
      simp at still
    rw [AList.lookup_erase_ne differ] at still
    obtain ⟨inside, at_dst⟩ := held.walked dst kept still
    refine ⟨held.nodup.mem_erase_iff.mpr ⟨?_, inside⟩, at_dst⟩
    rintro rfl
    exact differ at_dst.symm

/-- What `mesh_path_free_rcu` changes. -/
structure Frees (s after : Mesh) (tbl : Which) (mpath : Ptr) : Prop where
  walkHead : ∀ other, (after.table other).walkHead = (s.table other).walkHead
  rhead : ∀ other, (after.table other).rhead = (s.table other).rhead
  dst : ∀ kept, (after.heap kept).dst = (s.heap kept).dst
  heap : ∀ kept, kept ≠ mpath → after.heap kept = s.heap kept
  isGate : (after.heap mpath).isGate = false
  mpaths : after.mpaths = s.mpaths - 1
  fresh : after.fresh = s.fresh
  gates : (after.table .mesh).knownGates =
    if (s.heap mpath).isGate ∧ tbl = .mesh then s.meshPaths.knownGates.erase mpath
    else s.meshPaths.knownGates
  numGates : after.numGates = if (s.heap mpath).isGate then s.numGates - 1 else s.numGates

theorem onPath_heap_of_ne (change : MeshPath → MeshPath) {kept : Ptr} (differ : kept ≠ mpath) :
    (s.onPath mpath change).heap kept = s.heap kept :=
  Function.update_of_ne differ _ s.heap

theorem onPath_dst (change : MeshPath → MeshPath) (same : ∀ path, (change path).dst = path.dst)
    (kept : Ptr) : ((s.onPath mpath change).heap kept).dst = (s.heap kept).dst := by
  by_cases here : kept = mpath
  · subst here
    simp [Mesh.onPath, same]
  · rw [onPath_heap_of_ne change here]

@[simp] theorem onPath_heap_self (change : MeshPath → MeshPath) :
    (s.onPath mpath change).heap mpath = change (s.heap mpath) :=
  Function.update_self mpath _ s.heap

theorem meshPathFreeRcu_frees (s : Mesh) (tbl : Which) (mpath : Ptr) :
    Frees s (s.meshPathFreeRcu tbl mpath) tbl mpath := by
  have opened : s.meshPathFreeRcu tbl mpath =
      Mesh.onTable
        { (s.onPath mpath fun path =>
            { path with flags := path.flags ||| (meshPathResolving ||| meshPathDeleted) }
            ).meshGateDel tbl mpath with
          mpaths := s.mpaths - 1 }
        tbl fun t => { t with entries := t.entries - 1 } := by
    by_cases gate : (s.heap mpath).isGate = true <;>
      simp [Mesh.meshPathFreeRcu, Mesh.meshGateDel, Mesh.onPath, gate]
  rw [opened]
  by_cases gate : (s.heap mpath).isGate = true
  all_goals
    simp only [Mesh.meshGateDel, onPath_heap_self, gate, if_true, if_false, Bool.false_eq_true]
    constructor
  · intro other
    cases tbl <;> cases other <;> rfl
  · intro other
    cases tbl <;> cases other <;> rfl
  · intro kept
    by_cases here : kept = mpath
    · subst here
      simp
    · simp [onPath_heap_of_ne _ here]
  · intro kept differ
    simp [onPath_heap_of_ne _ differ]
  · simp
  · simp
  · simp [Mesh.onPath]
  · cases tbl <;> simp [gate, Mesh.onTable, Mesh.table, Mesh.onPath]
  · simp [gate, Mesh.onPath]
  · intro other
    cases tbl <;> cases other <;> rfl
  · intro other
    cases tbl <;> cases other <;> rfl
  · intro kept
    by_cases here : kept = mpath
    · subst here
      simp
    · simp [onPath_heap_of_ne _ here]
  · intro kept differ
    simp [onPath_heap_of_ne _ differ]
  · simp [gate]
  · simp
  · simp [Mesh.onPath]
  · cases tbl <;> simp [gate, Mesh.onTable, Mesh.table, Mesh.onPath]
  · simp [gate, Mesh.onPath]

theorem walked_apart (held : Sound s) (member : mpath ∈ (s.table tbl).walkHead)
    (differ : other ≠ tbl) : mpath ∉ (s.table other).walkHead := by
  cases tbl with
  | mesh =>
      cases other with
      | mesh => exact absurd rfl differ
      | mpp => exact held.apart mpath member
  | mpp =>
      cases other with
      | mesh => exact fun inside => held.apart mpath inside member
      | mpp => exact absurd rfl differ

/-- A path of a table is a known gate exactly when it is marked. -/
theorem knownGate_iff (held : Sound s) (member : mpath ∈ (s.table tbl).walkHead) :
    mpath ∈ s.meshPaths.knownGates ↔ (s.heap mpath).isGate = true ∧ tbl = .mesh := by
  rw [held.gates]
  cases tbl with
  | mesh => simp [show mpath ∈ s.meshPaths.walkHead from member]
  | mpp => simp [held.notGate mpath member]

theorem deletes_del (held : Sound s) (member : mpath ∈ (s.table tbl).walkHead) :
    Deletes s (s.del tbl mpath) tbl mpath := by
  have frees := meshPathFreeRcu_frees
    (s.onTable tbl fun t =>
      { t with
        walkHead := t.walkHead.erase mpath
        rhead := Mesh.rhashtableRemoveFast t.rhead (s.heap mpath).dst mpath }) tbl mpath
  have gone : ((s.del tbl mpath).table tbl).walkHead = (s.table tbl).walkHead.erase mpath := by
    rw [Mesh.del, frees.walkHead, table_onTable_self]
  have others : ∀ other, other ≠ tbl →
      ((s.del tbl mpath).table other).walkHead = (s.table other).walkHead := by
    intro other differ
    rw [Mesh.del, frees.walkHead, table_onTable_of_ne _ differ]
  have heap : ∀ kept, kept ≠ mpath → (s.del tbl mpath).heap kept = s.heap kept := by
    intro kept differ
    rw [Mesh.del, frees.heap kept differ, heap_onTable]
  have isGate : ((s.del tbl mpath).heap mpath).isGate = false := frees.isGate
  have mpaths : (s.del tbl mpath).mpaths = s.mpaths - 1 := by
    rw [Mesh.del, frees.mpaths, mpaths_onTable]
  -- what is still walked was walked before, and is not the deleted path
  have still : ∀ other, ∀ kept ∈ ((s.del tbl mpath).table other).walkHead,
      kept ∈ (s.table other).walkHead ∧ kept ≠ mpath := by
    intro other kept inside
    by_cases here : other = tbl
    · subst here
      rw [gone] at inside
      obtain ⟨differ, inside⟩ := (held.agrees other).nodup.mem_erase_iff.mp inside
      exact ⟨inside, differ⟩
    · rw [others other here] at inside
      refine ⟨inside, ?_⟩
      rintro rfl
      exact walked_apart held member here inside
  have meshWalk : ∀ kept, kept ∈ (s.del tbl mpath).meshPaths.walkHead ↔
      kept ∈ s.meshPaths.walkHead ∧ kept ≠ mpath := by
    intro kept
    refine ⟨still .mesh kept, fun ⟨inside, differ⟩ => ?_⟩
    by_cases here : tbl = .mesh
    · subst here
      exact gone ▸ (held.agrees .mesh).nodup.mem_erase_iff.mpr ⟨differ, inside⟩
    · exact (others .mesh (Ne.symm here)).symm ▸ inside
  have agrees : ∀ other, Agrees (s.del tbl mpath).heap ((s.del tbl mpath).table other) := by
    intro other
    by_cases here : other = tbl
    · subst here
      have erased := agrees_erase (held.agrees other) member
      refine erased.congr ?_ ?_ fun kept _ => ?_
      · rw [Mesh.del, frees.walkHead, table_onTable_self]
      · rw [Mesh.del, frees.rhead, table_onTable_self]
      · rw [Mesh.del, frees.dst, heap_onTable]
    · refine (held.agrees other).congr (others other here) ?_ fun kept _ => ?_
      · rw [Mesh.del, frees.rhead, table_onTable_of_ne _ here]
      · rw [Mesh.del, frees.dst, heap_onTable]
  have gates : (s.del tbl mpath).meshPaths.knownGates = s.meshPaths.knownGates.erase mpath := by
    refine frees.gates.trans ?_
    split
    · cases tbl <;> rfl
    · rename_i plain
      have unknown : mpath ∉ s.meshPaths.knownGates := fun inside =>
        plain (by
          rw [heap_onTable]
          exact (knownGate_iff held member).mp inside)
      rw [List.erase_of_not_mem unknown]
      cases tbl <;> rfl
  refine ⟨⟨agrees, fun other kept inside => ?_, fun kept inside => ?_, fun kept => ?_, ?_, ?_,
    fun kept inside => ?_⟩, gone, others, heap, mpaths⟩
  · rw [Mesh.del, frees.fresh, fresh_onTable]
    exact held.below other kept (still other kept inside).1
  · intro both
    exact held.apart kept (still .mesh kept inside).1 (still .mpp kept both).1
  · rw [gates, held.gatesNodup.mem_erase_iff, held.gates, meshWalk]
    constructor
    · rintro ⟨differ, inside, gate⟩
      exact ⟨⟨inside, differ⟩, (congrArg MeshPath.isGate (heap kept differ)).trans gate⟩
    · rintro ⟨⟨inside, differ⟩, gate⟩
      exact ⟨differ, inside, (congrArg MeshPath.isGate (heap kept differ)).symm.trans gate⟩
  · rw [gates]
    exact held.gatesNodup.erase mpath
  · have count : (s.del tbl mpath).numGates =
        if (s.heap mpath).isGate then s.numGates - 1 else s.numGates := by
      rw [Mesh.del, frees.numGates, heap_onTable, numGates_onTable]
    rw [count, gates, List.length_erase, held.numGates]
    have known := knownGate_iff held member
    have tblOf : (s.heap mpath).isGate = true → tbl = .mesh := by
      intro gate
      cases tbl with
      | mesh => rfl
      | mpp => simp [held.notGate mpath member] at gate
    by_cases gate : (s.heap mpath).isGate = true
    · have inside := known.mpr ⟨gate, tblOf gate⟩
      have positive := List.length_pos_of_mem inside
      rw [if_pos gate, if_pos inside]
      omega
    · rw [if_neg gate, if_neg fun inside => gate (known.mp inside).1]
  · obtain ⟨inside, differ⟩ := still .mpp kept inside
    rw [heap kept differ]
    exact held.notGate kept inside

/-! ## Walks that delete -/

/-- How many of the paths are doomed. -/
def doomedOf (s : Mesh) (doomed : MeshPath → Bool) (mpaths : List Ptr) : Nat :=
  mpaths.countP fun mpath => doomed (s.heap mpath)

/-- What a walk over some paths of a table does that deletes those that are doomed. -/
structure Flushes (s after : Mesh) (tbl : Which) (doomed : MeshPath → Bool) (walk : List Ptr) :
    Prop where
  sound : Sound after
  mpaths : after.mpaths = s.mpaths - doomedOf s doomed walk
  length : (after.table tbl).walkHead.length + doomedOf s doomed walk =
    (s.table tbl).walkHead.length
  others : ∀ other, other ≠ tbl → (after.table other).walkHead = (s.table other).walkHead
  heap : ∀ kept, kept ∉ walk → after.heap kept = s.heap kept

theorem flushes_foldl (doomed : MeshPath → Bool) (walk : List Ptr) (held : Sound s)
    (within : ∀ mpath ∈ walk, mpath ∈ (s.table tbl).walkHead) (nodup : walk.Nodup) :
    Flushes s
      (walk.foldl (fun s mpath => if doomed (s.heap mpath) then s.del tbl mpath else s) s)
      tbl doomed walk := by
  induction walk generalizing s with
  | nil => exact ⟨held, by simp [doomedOf], by simp [doomedOf], fun _ _ => rfl, fun _ _ => rfl⟩
  | cons mpath rest ih =>
      obtain ⟨fresh, nodup⟩ := List.nodup_cons.mp nodup
      have member := within mpath List.mem_cons_self
      have restWithin := fun kept inside => within kept (List.mem_cons_of_mem mpath inside)
      rw [List.foldl_cons]
      by_cases dies : doomed (s.heap mpath) = true
      · rw [if_pos dies]
        have deletes := deletes_del held member
        have later := ih deletes.sound (fun kept inside => by
          rw [deletes.walkHead]
          refine (held.agrees tbl).nodup.mem_erase_iff.mpr ⟨?_, restWithin kept inside⟩
          rintro rfl
          exact fresh inside) nodup
        have same : doomedOf (s.del tbl mpath) doomed rest = doomedOf s doomed rest :=
          List.countP_congr fun kept inside => by
            rw [deletes.heap kept]
            rintro rfl
            exact fresh inside
        have count : doomedOf s doomed (mpath :: rest) = doomedOf s doomed rest + 1 :=
          List.countP_cons_of_pos dies
        have positive := List.length_pos_of_mem member
        have length := later.length
        rw [same, deletes.walkHead, List.length_erase_of_mem member] at length
        refine ⟨later.sound, ?_, by omega, fun other differ => ?_, fun kept away => ?_⟩
        · rw [later.mpaths, deletes.mpaths, same]
          omega
        · rw [later.others other differ, deletes.others other differ]
        · obtain ⟨differ, away⟩ := not_or.mp (mt List.mem_cons.mpr away)
          rw [later.heap kept away, deletes.heap kept differ]
      · rw [if_neg dies]
        have later := ih held restWithin nodup
        have count : doomedOf s doomed (mpath :: rest) = doomedOf s doomed rest :=
          List.countP_cons_of_neg dies
        refine ⟨later.sound, count ▸ later.mpaths, count ▸ later.length, later.others,
          fun kept away => later.heap kept fun inside => away (List.mem_cons_of_mem mpath inside)⟩

theorem flushes_flush (held : Sound s) (tbl : Which) (doomed : MeshPath → Bool) :
    Flushes s (s.flush tbl doomed) tbl doomed (s.table tbl).walkHead :=
  flushes_foldl doomed _ held (fun _ inside => inside) (held.agrees tbl).nodup

theorem Flushes.limited {after : Mesh} {doomed : MeshPath → Bool} {walk : List Ptr}
    (flushes : Flushes s after tbl doomed walk) (below : s.mpaths ≤ meshMaxMpaths) :
    after.mpaths ≤ meshMaxMpaths := by
  have mpaths := flushes.mpaths
  omega

theorem drift_del_mesh (held : Sound s) (member : mpath ∈ s.meshPaths.walkHead) :
    drift (s.del .mesh mpath) = drift s := by
  have deletes := @deletes_del s .mesh mpath held member
  have walk : (s.del .mesh mpath).meshPaths.walkHead = s.meshPaths.walkHead.erase mpath :=
    deletes.walkHead
  have positive := List.length_pos_of_mem member
  rw [drift, drift, deletes.mpaths, walk, List.length_erase_of_mem member]
  omega

theorem drift_flush_mesh (held : Sound s) (doomed : MeshPath → Bool) :
    drift (s.flush .mesh doomed) = drift s := by
  have flushes := flushes_flush held .mesh doomed
  have length : (s.flush .mesh doomed).meshPaths.walkHead.length +
      doomedOf s doomed s.meshPaths.walkHead = s.meshPaths.walkHead.length := flushes.length
  have mpaths : (s.flush .mesh doomed).mpaths =
      s.mpaths - doomedOf s doomed s.meshPaths.walkHead := flushes.mpaths
  rw [drift, drift, mpaths]
  omega

/-- Paths of the proxy table are taken off the counter as well. -/
theorem drift_flush_mpp (held : Sound s) (doomed : MeshPath → Bool) :
    drift (s.flush .mpp doomed) = drift s - doomedOf s doomed s.mppPaths.walkHead := by
  have flushes := flushes_flush held .mpp doomed
  have walk : (s.flush .mpp doomed).meshPaths.walkHead = s.meshPaths.walkHead :=
    flushes.others .mesh nofun
  have mpaths : (s.flush .mpp doomed).mpaths =
      s.mpaths - doomedOf s doomed s.mppPaths.walkHead := flushes.mpaths
  rw [drift, drift, mpaths, walk]
  omega

/-! ## Adding a path -/

/-- Only the destinations and gate marks of the walked paths matter. -/
theorem Sound.reheap {fresh : Ptr} (held : Sound s) (same : ∀ tbl, ∀ mpath ∈ (s.table tbl).walkHead,
      (heap mpath).dst = (s.heap mpath).dst ∧ (heap mpath).isGate = (s.heap mpath).isGate)
    (grows : s.fresh ≤ fresh) : Sound { s with heap, fresh } := by
  refine ⟨fun tbl => ?_, fun tbl mpath member => ?_, held.apart, fun mpath => ?_,
    held.gatesNodup, held.numGates, fun mpath member => ?_⟩
  · have agrees := (held.agrees tbl).congr rfl rfl fun mpath member => (same tbl mpath member).1
    cases tbl <;> exact agrees
  · refine Nat.lt_of_lt_of_le (held.below tbl mpath ?_) grows
    cases tbl <;> exact member
  · refine (held.gates mpath).trans (and_congr_right fun member => ?_)
    rw [(same .mesh mpath member).2]
  · rw [(same .mpp mpath member).2]
    exact held.notGate mpath member

theorem Sound.recount {mpaths : Int} {meshGeneration mppGeneration : UInt32} (held : Sound s) :
    Sound { s with
      mpaths, meshPathsGeneration := meshGeneration, mppPathsGeneration := mppGeneration } := by
  refine ⟨fun tbl => ?_, fun tbl => ?_, held.apart, held.gates, held.gatesNodup, held.numGates,
    held.notGate⟩
  · have agrees := held.agrees tbl
    cases tbl <;> exact agrees
  · have below := held.below tbl
    cases tbl <;> exact below

/-- Entering a new path into a table that has none for its destination. -/
theorem sound_enter {dst : Addr} (held : Sound s)
    (known : mpath < s.fresh) (loose : ∀ other, mpath ∉ (s.table other).walkHead)
    (plain : (s.heap mpath).isGate = false)
    (at_dst : (s.heap mpath).dst = dst) (absent : (s.table tbl).rhead.lookup dst = none) :
    Sound (s.onTable tbl fun t =>
      { t with rhead := t.rhead.insert dst mpath, walkHead := mpath :: t.walkHead }) := by
  subst at_dst
  have agrees : Agrees s.heap
      { s.table tbl with
        rhead := (s.table tbl).rhead.insert (s.heap mpath).dst mpath
        walkHead := mpath :: (s.table tbl).walkHead } := by
    have before := held.agrees tbl
    refine ⟨List.nodup_cons.mpr ⟨loose tbl, before.nodup⟩, fun kept inside => ?_,
      fun dst kept found => ?_⟩
    · rcases List.mem_cons.mp inside with rfl | inside
      · exact AList.lookup_insert _
      · have found := before.hashed kept inside
        have differ : (s.heap kept).dst ≠ (s.heap mpath).dst := by
          intro same
          rw [same, absent] at found
          exact nomatch found
        exact (AList.lookup_insert_ne differ).trans found
    · by_cases here : dst = (s.heap mpath).dst
      · subst here
        have same := (AList.lookup_insert (s.table tbl).rhead).symm.trans found
        cases same
        exact ⟨List.mem_cons_self, rfl⟩
      · obtain ⟨inside, at_dst⟩ :=
          before.walked dst kept ((AList.lookup_insert_ne here).symm.trans found)
        exact ⟨List.mem_cons_of_mem mpath inside, at_dst⟩
  have mem : ∀ other kept, kept ∈ ((s.onTable tbl fun t =>
      { t with
        rhead := t.rhead.insert (s.heap mpath).dst mpath
        walkHead := mpath :: t.walkHead }).table other).walkHead ↔
      kept ∈ (s.table other).walkHead ∨ other = tbl ∧ kept = mpath := by
    intro other kept
    by_cases here : other = tbl
    · subst here
      simp [or_comm]
    · rw [table_onTable_of_ne _ here]
      simp [here]
  have gates : (s.onTable tbl fun t =>
      { t with
        rhead := t.rhead.insert (s.heap mpath).dst mpath
        walkHead := mpath :: t.walkHead }).meshPaths.knownGates = s.meshPaths.knownGates := by
    cases tbl <;> rfl
  refine ⟨fun other => ?_, fun other kept inside => ?_, fun kept inside both => ?_,
    fun kept => ?_, ?_, ?_, fun kept inside => ?_⟩
  · by_cases here : other = tbl
    · subst here
      rw [table_onTable_self, heap_onTable]
      exact agrees
    · rw [table_onTable_of_ne _ here, heap_onTable]
      exact held.agrees other
  · rw [fresh_onTable]
    rcases (mem other kept).mp inside with inside | ⟨_, rfl⟩
    · exact held.below other kept inside
    · exact known
  · rcases (mem .mesh kept).mp inside with first | ⟨here, rfl⟩
    · rcases (mem .mpp kept).mp both with second | ⟨_, rfl⟩
      · exact held.apart kept first second
      · exact loose .mesh first
    · rcases (mem .mpp kept).mp both with second | ⟨there, _⟩
      · exact loose .mpp second
      · exact nomatch here.trans there.symm
  · rw [gates, held.gates, heap_onTable]
    constructor
    · exact fun ⟨inside, gate⟩ => ⟨(mem .mesh kept).mpr (.inl inside), gate⟩
    · rintro ⟨inside, gate⟩
      rcases (mem .mesh kept).mp inside with first | ⟨_, rfl⟩
      · exact ⟨first, gate⟩
      · rw [plain] at gate
        exact nomatch gate
  · rw [gates]
    exact held.gatesNodup
  · rw [numGates_onTable, gates]
    exact held.numGates
  · rw [heap_onTable]
    rcases (mem .mpp kept).mp inside with inside | ⟨_, rfl⟩
    · exact held.notGate kept inside
    · exact plain

theorem sound_meshPathNew (held : Sound s) (path : MeshPath) :
    Sound (s.meshPathNew path).1 := by
  refine held.reheap (fun tbl mpath member => ?_) (Nat.le_succ s.fresh)
  rw [Function.update_of_ne (Nat.ne_of_lt (held.below tbl mpath member))]
  exact ⟨rfl, rfl⟩

/-- What the insertion of a path just allocated does. -/
structure Inserts (s after : Mesh) (tbl : Which) (new : Bool) : Prop where
  sound : Sound after
  mpaths : after.mpaths = s.mpaths
  length : (after.table tbl).walkHead.length = (s.table tbl).walkHead.length + new.toNat
  others : ∀ other, other ≠ tbl → (after.table other).walkHead = (s.table other).walkHead

theorem inserts_insertFast (held : Sound s) (tbl : Which) (path : MeshPath)
    (plain : path.isGate = false) (insertFails : Option GrowError) :
    Inserts s ((s.meshPathNew path).1.insertFast tbl (s.meshPathNew path).2 insertFails).1 tbl
      (decide ((s.table tbl).rhead.lookup path.dst = none ∧ insertFails = none)) := by
  have fresh := sound_meshPathNew held path
  have table : ∀ other, (s.meshPathNew path).1.table other = s.table other := by
    intro other
    cases other <;> rfl
  have heap : (s.meshPathNew path).1.heap (s.meshPathNew path).2 = path :=
    Function.update_self _ _ _
  unfold Mesh.insertFast
  rw [heap, table]
  split
  · rename_i found
    refine ⟨fresh, rfl, ?_, fun other _ => congrArg _ (table other)⟩
    simp [table, found]
  · refine ⟨fresh, rfl, ?_, fun other _ => congrArg _ (table other)⟩
    simp [table]
  · rename_i absent
    refine ⟨?_, mpaths_onTable _, ?_, fun other differ => ?_⟩
    · refine sound_enter fresh (Nat.lt_succ_self _) (fun other inside => ?_)
        (by rw [heap, plain]) (by rw [heap]) (by rw [table, absent])
      rw [table] at inside
      exact Nat.lt_irrefl _ (held.below other _ inside)
    · simp [table, absent]
    · rw [table_onTable_of_ne _ differ, table]

/-! ## Steps -/

/-- `mesh_path_add` turns the destination down before it allocates anything. -/
def Refused (conf : Conf) (s : Mesh) (dst : Addr) : Prop :=
  dst = conf.addr ∨ isMulticastEtherAddr dst = true ∨ s.mpaths = meshMaxMpaths

instance : Decidable (Refused conf s dst) :=
  inferInstanceAs (Decidable (_ ∨ _ ∨ _))

/-- A path to the destination can be entered into the mesh path table. -/
def Enters (s : Mesh) (dst : Addr) (memory : Mesh.Memory) : Prop :=
  memory.kzalloc = true ∧ s.meshPaths.rhead.lookup dst = none ∧ memory.insertFails = none

instance {memory : Mesh.Memory} : Decidable (Enters s dst memory) :=
  inferInstanceAs (Decidable (_ ∧ _ ∧ _))

/-- What a step adds to the drift of the counter. -/
def leak (conf : Conf) (s : Mesh) : MeshEvent → Int
  | .meshPathAdd dst _ memory => if Refused conf s dst ∨ Enters s dst memory then 0 else 1
  | .meshPathDel addr | .flushByProxy addr =>
      -doomedOf s (fun mpath => mpath.mpp == addr) s.mppPaths.walkHead
  | .expire jiffies => -doomedOf s (MeshPath.expires conf jiffies) s.mppPaths.walkHead
  | .flushByIface => -s.mppPaths.walkHead.length
  | .mppPathAdd .. | .flushByNexthop _ | .addGate _ | .touch .. => 0

/-- What a step does to the counter. -/
structure Drifts (s after : Mesh) (leaked : Int) : Prop where
  sound : Sound after
  drift : drift after = drift s + leaked
  limited : s.mpaths ≤ meshMaxMpaths → after.mpaths ≤ meshMaxMpaths

theorem Drifts.refl (held : Sound s) : Drifts s s 0 :=
  ⟨held, (Int.add_zero _).symm, id⟩

theorem drifts_meshPathAdd (held : Sound s) (dst : Addr) (jiffies : UInt64)
    (memory : Mesh.Memory) :
    Drifts s (s.meshPathAdd conf dst jiffies memory).1
      (if Refused conf s dst ∨ Enters s dst memory then 0 else 1) := by
  unfold Mesh.meshPathAdd
  split
  · rename_i own
    rw [if_pos (.inl (.inl own))]
    exact .refl held
  split
  · rename_i multicast
    rw [if_pos (.inl (.inr (.inl multicast)))]
    exact .refl held
  split
  · rename_i full
    rw [if_pos (.inl (.inr (.inr full)))]
    exact .refl held
  rename_i own multicast full
  have taken : ¬ Refused conf s dst := by
    rintro (at_own | at_multicast | at_full)
    · exact own at_own
    · exact multicast at_multicast
    · exact full at_full
  have counted : Sound { s with mpaths := s.mpaths + 1 } := held.recount
  by_cases alloc : memory.kzalloc = false
  · have not : ¬ (Refused conf s dst ∨ Enters s dst memory) := by
      simp [taken, Enters, alloc]
    simp only [alloc, if_true]
    rw [if_neg not]
    refine ⟨counted, ?_, fun below => ?_⟩
    · simp only [drift]
      omega
    · exact Int.add_one_le_of_lt (lt_of_le_of_ne below full)
  · have inserts := inserts_insertFast counted .mesh { dst, expTime := jiffies } rfl
      memory.insertFails
    have enters : Enters s dst memory ↔
        s.meshPaths.rhead.lookup dst = none ∧ memory.insertFails = none := by
      simp [Enters, alloc]
    simp only [alloc, taken, false_or, enters]
    rw [if_neg (by decide)]
    generalize Mesh.insertFast _ _ _ _ = result at inserts ⊢
    obtain ⟨after, outcome⟩ := result
    have length : after.meshPaths.walkHead.length = s.meshPaths.walkHead.length +
        (decide (s.meshPaths.rhead.lookup dst = none ∧ memory.insertFails = none)).toNat :=
      inserts.length
    have mpaths : after.mpaths = s.mpaths + 1 := inserts.mpaths
    have drifts : drift after = drift s +
        if s.meshPaths.rhead.lookup dst = none ∧ memory.insertFails = none then 0 else 1 := by
      rw [drift, drift, mpaths, length]
      split
      · rename_i new
        simp only [new, and_self, decide_true, Bool.toNat_true]
        omega
      · rename_i old
        simp only [old, decide_false, Bool.toNat_false]
        omega
    have limited : s.mpaths ≤ meshMaxMpaths → after.mpaths ≤ meshMaxMpaths := fun below =>
      mpaths ▸ Int.add_one_le_of_lt (lt_of_le_of_ne below full)
    cases outcome with
    | failed err => exact ⟨inserts.sound, drifts, limited⟩
    | present old => exact ⟨inserts.sound.recount, drifts, limited⟩
    | new => exact ⟨inserts.sound.recount, drifts, limited⟩

theorem drifts_mppPathAdd (held : Sound s) (dst mpp : Addr) (jiffies : UInt64)
    (memory : Mesh.Memory) : Drifts s (s.mppPathAdd conf dst mpp jiffies memory).1 0 := by
  have unchanged : Drifts s s 0 := .refl held
  unfold Mesh.mppPathAdd
  split
  · exact unchanged
  split
  · exact unchanged
  split
  · exact unchanged
  have inserts := inserts_insertFast held .mpp { dst, mpp, expTime := jiffies } rfl
    memory.insertFails
  have walk := inserts.others .mesh nofun
  have mpaths := inserts.mpaths
  refine ⟨inserts.sound.recount, ?_, fun below => mpaths.trans_le below⟩
  simp only [drift, Int.add_zero]
  exact congrArg₂ (fun n l => n - Int.ofNat (List.length l)) mpaths walk

theorem drifts_flush_mesh (held : Sound s) (doomed : MeshPath → Bool) :
    Drifts s (s.flush .mesh doomed) 0 :=
  ⟨(flushes_flush held .mesh doomed).sound, by rw [drift_flush_mesh held, Int.add_zero],
    (flushes_flush held .mesh doomed).limited⟩

theorem drifts_flush_mpp (held : Sound s) (doomed : MeshPath → Bool) :
    Drifts s (s.flush .mpp doomed) (-doomedOf s doomed s.mppPaths.walkHead) :=
  ⟨(flushes_flush held .mpp doomed).sound, drift_flush_mpp held doomed,
    (flushes_flush held .mpp doomed).limited⟩

/-- A walk over both tables, where what becomes of the proxies is read off before it. -/
theorem drifts_flush_both (held : Sound s) (doomed : MeshPath → Bool) :
    Drifts s ((s.flush .mesh doomed).flush .mpp doomed)
      (-doomedOf s doomed s.mppPaths.walkHead) := by
  have first := flushes_flush held .mesh doomed
  have second := drifts_flush_mpp first.sound doomed
  have walk : (s.flush .mesh doomed).mppPaths.walkHead = s.mppPaths.walkHead :=
    first.others .mpp nofun
  have same : doomedOf (s.flush .mesh doomed) doomed s.mppPaths.walkHead =
      doomedOf s doomed s.mppPaths.walkHead :=
    List.countP_congr fun mpath member => by
      rw [first.heap mpath fun inside => held.apart mpath inside member]
  rw [walk, same] at second
  exact ⟨second.sound, by rw [second.drift, drift_flush_mesh held],
    fun below => second.limited (first.limited below)⟩

theorem drifts_meshPathDel (held : Sound s) (addr : Addr) :
    Drifts s (s.meshPathDel addr).1
      (-doomedOf s (fun mpath => mpath.mpp == addr) s.mppPaths.walkHead) := by
  have first := drifts_flush_mpp held fun mpath => mpath.mpp == addr
  unfold Mesh.meshPathDel Mesh.tablePathDel Mesh.mppFlushByProxy
  rcases found : ((s.flush .mpp fun mpath => mpath.mpp == addr).table .mesh).rhead.lookup addr
    with _ | mpath
  · exact ⟨first.sound.recount, first.drift, first.limited⟩
  · have member := ((first.sound.agrees .mesh).walked addr mpath found).1
    have deletes := @deletes_del _ .mesh mpath first.sound member
    refine ⟨deletes.sound.recount, (drift_del_mesh first.sound member).trans first.drift,
      fun below => ?_⟩
    have mpaths := deletes.mpaths
    have before := first.limited below
    exact mpaths.trans_le (Int.le_trans (Int.sub_le_self _ (by decide)) before)

theorem sound_meshPathAddGate (held : Sound s) (member : mpath ∈ s.meshPaths.walkHead) :
    Sound (s.meshPathAddGate mpath).1 := by
  unfold Mesh.meshPathAddGate
  split
  · exact held
  rename_i unmarked
  have unknown : mpath ∉ s.meshPaths.knownGates := fun known =>
    unmarked ((held.gates mpath).mp known).2
  have sameDst : ∀ kept, ((s.onPath mpath fun path => { path with isGate := true }).heap kept).dst =
      (s.heap kept).dst := onPath_dst _ fun _ => rfl
  have marked : ((s.onPath mpath fun path => { path with isGate := true }).heap mpath).isGate =
      true := by
    rw [onPath_heap_self]
  have sameMark : ∀ kept, kept ≠ mpath →
      ((s.onPath mpath fun path => { path with isGate := true }).heap kept).isGate =
        (s.heap kept).isGate := by
    intro kept differ
    rw [onPath_heap_of_ne _ differ]
  refine ⟨fun tbl => ?_, fun tbl => ?_, held.apart, fun kept => ?_, ?_, ?_, fun kept inside => ?_⟩
  · have agrees := held.agrees tbl
    cases tbl <;> exact agrees.congr rfl rfl fun kept _ => sameDst kept
  · have below := held.below tbl
    cases tbl <;> exact below
  · refine List.mem_cons.trans ?_
    by_cases here : kept = mpath
    · subst here
      exact ⟨fun _ => ⟨member, marked⟩, fun _ => .inl rfl⟩
    · refine (or_iff_right here).trans ((held.gates kept).trans (and_congr_right fun _ => ?_))
      exact (Eq.congr_left (sameMark kept here)).symm
  · exact List.nodup_cons.mpr ⟨unknown, held.gatesNodup⟩
  · exact (congrArg (· + 1) held.numGates).trans (Int.natCast_succ _).symm
  · have differ : kept ≠ mpath := by
      rintro rfl
      exact held.apart kept member inside
    exact (sameMark kept differ).trans (held.notGate kept inside)

theorem meshPathAddGate_counts (s : Mesh) (mpath : Ptr) :
    drift (s.meshPathAddGate mpath).1 = drift s ∧
      (s.meshPathAddGate mpath).1.mpaths = s.mpaths := by
  unfold Mesh.meshPathAddGate
  split <;> exact ⟨rfl, rfl⟩

/-- Every step keeps the tables sound and moves the drift by what it leaks. -/
theorem drifts_step (held : Sound s) (event : MeshEvent) :
    Drifts s (s.step conf event) (leak conf s event) := by
  cases event with
  | meshPathAdd dst jiffies memory => exact drifts_meshPathAdd held dst jiffies memory
  | mppPathAdd dst mpp jiffies memory => exact drifts_mppPathAdd held dst mpp jiffies memory
  | meshPathDel addr => exact drifts_meshPathDel held addr
  | flushByNexthop sta => exact drifts_flush_mesh held fun mpath => mpath.nextHop == some sta
  | flushByProxy proxy => exact drifts_flush_mpp held fun mpath => mpath.mpp == proxy
  | expire jiffies => exact drifts_flush_both held (MeshPath.expires conf jiffies)
  | flushByIface =>
      have both := drifts_flush_both held fun _ => true
      have all : doomedOf s (fun _ => true) s.mppPaths.walkHead = s.mppPaths.walkHead.length :=
        congrFun List.countP_true _
      rw [all] at both
      exact both
  | addGate dst =>
      simp only [Mesh.step, leak]
      rcases found : s.meshPaths.rhead.lookup dst with _ | mpath
      · exact .refl held
      · have member := ((held.agrees .mesh).walked dst mpath found).1
        have counts := meshPathAddGate_counts s mpath
        exact ⟨sound_meshPathAddGate held member, counts.1.trans (Int.add_zero _).symm,
          fun below => counts.2.trans_le below⟩
  | touch mpath mpp nextHop expTime flags =>
      refine ⟨held.reheap (fun tbl kept _ => ?_) le_rfl, (Int.add_zero _).symm, id⟩
      by_cases here : kept = mpath
      · subst here
        rw [Function.update_self]
        exact ⟨rfl, rfl⟩
      · rw [Function.update_of_ne here]
        exact ⟨rfl, rfl⟩

theorem sound_start : Sound {} := by
  refine ⟨fun tbl => ?_, fun tbl => ?_, nofun, fun _ => ?_, List.nodup_nil, rfl, nofun⟩
  · cases tbl <;> exact ⟨List.nodup_nil, nofun, nofun⟩
  · cases tbl <;> nofun
  · exact ⟨nofun, nofun⟩

/-- In every run the tables are sound, whatever the counter has come to. -/
theorem sound_run (events : List MeshEvent) : Sound (events.foldl (Mesh.step conf) {}) :=
  @run_invariant Mesh MeshEvent (Mesh.step conf) Sound {}
    (fun _ event held => (drifts_step held event).sound) sound_start events

/-! ## The limit -/

/-- The counters count what they are for, and the limit is that of the paths. -/
structure Exact (s : Mesh) : Prop where
  walk : ∀ tbl, (s.table tbl).walkHead.Nodup ∧
    (s.table tbl).walkHead.Perm ((s.table tbl).rhead.entries.map Sigma.snd)
  mpaths : s.mpaths = s.meshPaths.rhead.entries.length
  marked : s.numGates = s.meshPaths.walkHead.countP fun mpath => (s.heap mpath).isGate
  knownGates : s.numGates = s.meshPaths.knownGates.length
  nospc : ∀ conf dst jiffies memory,
    (s.meshPathAdd conf dst jiffies memory).2 = .error .enospc →
      (s.meshPaths.rhead.entries.length : Int) = meshMaxMpaths
  limited : (s.meshPaths.rhead.entries.length : Int) ≤ meshMaxMpaths

/-- The step leaves the counter where the paths are: a destination that is not turned down gets
a new path, and no path of the proxy table is deleted. -/
def Balanced (conf : Conf) (s : Mesh) : MeshEvent → Prop
  | .meshPathAdd dst _ memory => Refused conf s dst ∨ Enters s dst memory
  | .meshPathDel addr | .flushByProxy addr =>
      ∀ mpath ∈ s.mppPaths.walkHead, (s.heap mpath).mpp ≠ addr
  | .expire jiffies => ∀ mpath ∈ s.mppPaths.walkHead, (s.heap mpath).expires conf jiffies = false
  | .flushByIface => s.mppPaths.walkHead = []
  | .mppPathAdd .. | .flushByNexthop _ | .addGate _ | .touch .. => True

theorem doomedOf_eq_zero {doomed : MeshPath → Bool} {walk : List Ptr} :
    doomedOf s doomed walk = 0 ↔ ∀ mpath ∈ walk, doomed (s.heap mpath) = false := by
  simp [doomedOf, List.countP_eq_zero]

theorem leak_eq_zero_iff (event : MeshEvent) : leak conf s event = 0 ↔ Balanced conf s event := by
  cases event with
  | meshPathAdd dst jiffies memory =>
      simp only [leak, Balanced]
      split <;> simp_all
  | meshPathDel addr | flushByProxy proxy | expire jiffies =>
      simp [leak, Balanced, doomedOf_eq_zero]
  | flushByIface =>
      simp [leak, Balanced]
  | mppPathAdd | flushByNexthop | addGate | touch => simp [leak, Balanced]

theorem length_entries (held : Sound s) (tbl : Which) :
    (s.table tbl).rhead.entries.length = (s.table tbl).walkHead.length := by
  rw [(held.agrees tbl).perm.length_eq, List.length_map]

theorem ne_enospc_of_failed {insertFails : Option GrowError} {err : Errno}
    (failed : (s.insertFast tbl mpath insertFails).2 = .failed err) : err ≠ .enospc := by
  unfold Mesh.insertFast at failed
  split at failed
  · exact nomatch failed
  · rename_i grow _
    cases failed
    cases grow <;> decide
  · exact nomatch failed

/-- Only a full counter makes an addition fail for want of room. -/
theorem mpaths_of_enospc {jiffies : UInt64} {memory : Mesh.Memory}
    (fails : (s.meshPathAdd conf dst jiffies memory).2 = .error .enospc) :
    s.mpaths = meshMaxMpaths := by
  by_contra room
  unfold Mesh.meshPathAdd at fails
  split at fails
  · exact nomatch fails
  split at fails
  · exact nomatch fails
  split at fails
  · exact nomatch fails
  simp only at fails
  split at fails
  · rename_i result
    cases fails
    exact ne_enospc_of_failed (congrArg Prod.snd result) rfl
  · exact nomatch fails
  · exact nomatch fails

/-- With sound tables everything follows from a counter that has not drifted. -/
theorem exact_iff (held : Sound s) :
    Exact s ↔ drift s = 0 ∧ (s.meshPaths.walkHead.length : Int) ≤ meshMaxMpaths := by
  have length : s.meshPaths.rhead.entries.length = s.meshPaths.walkHead.length :=
    length_entries held .mesh
  constructor
  · intro exact'
    have mpaths := exact'.mpaths
    have limited := exact'.limited
    rw [length] at mpaths limited
    exact ⟨by rw [drift, mpaths, Int.sub_self], limited⟩
  · rintro ⟨steady, limited⟩
    have mpaths : s.mpaths = s.meshPaths.walkHead.length := by
      rw [drift] at steady
      omega
    have marked : s.meshPaths.knownGates.length =
        s.meshPaths.walkHead.countP fun mpath => (s.heap mpath).isGate := by
      rw [List.countP_eq_length_filter]
      refine ((List.perm_ext_iff_of_nodup held.gatesNodup
        ((held.agrees .mesh).nodup.filter _)).mpr fun mpath => ?_).length_eq
      rw [held.gates, List.mem_filter]
      rfl
    refine ⟨fun tbl => ⟨(held.agrees tbl).nodup, (held.agrees tbl).perm⟩, ?_, ?_, held.numGates,
      fun conf dst jiffies memory fails => ?_, ?_⟩
    · rw [length, mpaths]
    · rw [held.numGates, marked]
    · rw [length, ← mpaths]
      exact mpaths_of_enospc fails
    · rw [length]
      exact limited

/-- The counters of a mesh interface are exact in every state of a run exactly when every step
of the run is balanced. -/
theorem counters_exact_iff (conf : Conf) (events : List MeshEvent) :
    (∀ before, before <+: events → Exact (before.foldl (Mesh.step conf) {})) ↔
      Admissible (Mesh.step conf) (Balanced conf) {} events := by
  refine @forall_reached_iff_of_invariant Mesh MeshEvent (Mesh.step conf) (Balanced conf)
    (fun s => Sound s ∧ Exact s) {} events Exact (fun s held => held.2)
    (fun s event held balanced => ?_) (fun s event held reached => ?_)
    ⟨sound_start, (exact_iff sound_start).mpr ⟨rfl, by decide⟩⟩
  · obtain ⟨steady, limited⟩ := (exact_iff held.1).mp held.2
    have step := @drifts_step s conf held.1 event
    refine ⟨step.sound, (exact_iff step.sound).mpr ⟨?_, ?_⟩⟩
    · rw [step.drift, steady, (leak_eq_zero_iff event).mpr balanced, Int.add_zero]
    · have below := step.limited (by
        rw [drift] at steady
        omega)
      have still := step.drift
      rw [steady, (leak_eq_zero_iff event).mpr balanced, drift] at still
      omega
  · obtain ⟨steady, limited⟩ := (exact_iff held.1).mp held.2
    have step := @drifts_step s conf held.1 event
    have still := ((exact_iff step.sound).mp reached).1
    rw [step.drift, steady, Int.zero_add] at still
    exact (leak_eq_zero_iff event).mp still

/-- A proxied station is learnt and its proxy's path deleted: the counter goes below zero. -/
theorem not_counters_exact :
    ¬ ∀ conf events before, before <+: events →
      Exact (before.foldl (Mesh.step conf) {}) := by
  intro all
  have exact' := all ⟨0x020000000001, 250⟩
    [.mppPathAdd 0x020000000002 0x020000000003 0 {}, .meshPathDel 0x020000000003] _
    (List.prefix_refl _)
  exact absurd exact'.mpaths (by decide +kernel)

end Iwlwifi.MeshPathtbl
