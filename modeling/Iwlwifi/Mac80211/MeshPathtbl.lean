import Mathlib.Data.List.AList

/-!
# The mesh path tables

A mesh interface keeps two tables of paths: `meshPaths`, the paths to the stations of the mesh,
and `mppPaths`, the proxies through which stations outside of it are reached.  Each has a hash
table by destination (`rhead`), a list for walking it (`walkHead`) and a list of the paths that
lead to a gate (`knownGates`).  Paths live at pointers, and a pointer is not used again; the hash
table is a finite map from destinations to pointers.

`mpaths` is an `atomic_t` and `numGates` an `int`; both are unbounded here.  The frame queue, the
timer and the metric of a path are left out.
-/

namespace Iwlwifi.MeshPathtbl

/-- The first octet is the most significant one. -/
abbrev Addr := BitVec 48

abbrev Ptr := Nat

inductive Errno
  | enotsupp
  | enospc
  | enomem
  | eexist
  | enxio
  | e2big
  | ebusy
deriving DecidableEq, Repr

/-- Why a hash table cannot take an entry. -/
inductive GrowError
  | enomem
  | e2big
  | ebusy
deriving DecidableEq, Repr

def GrowError.errno : GrowError → Errno
  | .enomem => .enomem
  | .e2big => .e2big
  | .ebusy => .ebusy

def isMulticastEtherAddr (addr : Addr) : Bool := addr.getLsbD 40

/-- `time_after` -/
def timeAfter (a b : UInt64) : Bool := decide ((b - a).toInt64 < 0)

def meshMaxMpaths : Int := 1024

def meshPathResolving : UInt32 := 0x2
def meshPathFixed : UInt32 := 0x8
def meshPathDeleted : UInt32 := 0x40

structure Conf where
  addr : Addr
  hz : UInt64
deriving DecidableEq, Repr

def Conf.meshPathExpire (conf : Conf) : UInt64 := 600 * conf.hz

/-- `struct mesh_path`; `nextHop` is the peer that frames are forwarded to. -/
structure MeshPath where
  dst : Addr
  mpp : Addr := 0
  nextHop : Option Nat := none
  expTime : UInt64 := 0
  flags : UInt32 := 0
  isGate : Bool := false
deriving DecidableEq, Repr

def MeshPath.expires (conf : Conf) (jiffies : UInt64) (mpath : MeshPath) : Bool :=
  mpath.flags &&& meshPathResolving == 0 && mpath.flags &&& meshPathFixed == 0 &&
    timeAfter jiffies (mpath.expTime + conf.meshPathExpire)

/-- `struct mesh_table` -/
structure MeshTable where
  rhead : AList fun _ : Addr => Ptr := ∅
  walkHead : List Ptr := []
  knownGates : List Ptr := []
  entries : Int := 0

inductive Which
  | mesh
  | mpp
deriving DecidableEq, Repr

/-- Of `struct ieee80211_if_mesh`, the tables and their counters, with the paths allocated. -/
structure Mesh where
  heap : Ptr → MeshPath := fun _ => { dst := 0 }
  fresh : Ptr := 0
  meshPaths : MeshTable := {}
  mppPaths : MeshTable := {}
  mpaths : Int := 0
  numGates : Int := 0
  meshPathsGeneration : UInt32 := 0
  mppPathsGeneration : UInt32 := 0

namespace Mesh

def table (s : Mesh) : Which → MeshTable
  | .mesh => s.meshPaths
  | .mpp => s.mppPaths

def onTable (s : Mesh) (which : Which) (change : MeshTable → MeshTable) : Mesh :=
  match which with
  | .mesh => { s with meshPaths := change s.meshPaths }
  | .mpp => { s with mppPaths := change s.mppPaths }

def onPath (s : Mesh) (mpath : Ptr) (change : MeshPath → MeshPath) : Mesh :=
  { s with heap := Function.update s.heap mpath (change (s.heap mpath)) }

/-! ## Gates -/

def meshPathAddGate (s : Mesh) (mpath : Ptr) : Mesh × Except Errno Unit :=
  if (s.heap mpath).isGate then (s, .error .eexist)
  else
    let s := s.onPath mpath fun path => { path with isGate := true }
    let s := { s with numGates := s.numGates + 1 }
    (s.onTable .mesh fun tbl => { tbl with knownGates := mpath :: tbl.knownGates }, .ok ())

def meshGateDel (s : Mesh) (tbl : Which) (mpath : Ptr) : Mesh :=
  if (s.heap mpath).isGate then
    let s := s.onPath mpath fun path => { path with isGate := false }
    let s := s.onTable tbl fun t => { t with knownGates := t.knownGates.erase mpath }
    { s with numGates := s.numGates - 1 }
  else s

/-! ## Adding a path -/

def meshPathNew (s : Mesh) (path : MeshPath) : Mesh × Ptr :=
  ({ s with heap := Function.update s.heap s.fresh path, fresh := s.fresh + 1 }, s.fresh)

inductive Inserted
  | new
  | present (mpath : Ptr)
  | failed (err : Errno)
deriving DecidableEq, Repr

/-- `rhashtable_lookup_get_insert_fast`, which fails with `insertFails` where it must grow the
table and cannot, and the entry of the walk list for a new path. -/
def insertFast (s : Mesh) (tbl : Which) (mpath : Ptr) (insertFails : Option GrowError) :
    Mesh × Inserted :=
  match (s.table tbl).rhead.lookup (s.heap mpath).dst, insertFails with
  | some old, _ => (s, .present old)
  | none, some err => (s, .failed err.errno)
  | none, none =>
      (s.onTable tbl fun t =>
        { t with
          rhead := t.rhead.insert (s.heap mpath).dst mpath
          walkHead := mpath :: t.walkHead }, .new)

/-- What an allocation and the growth of a hash table come to. -/
structure Memory where
  kzalloc : Bool := true
  insertFails : Option GrowError := none
deriving DecidableEq, Repr

def meshPathAdd (s : Mesh) (conf : Conf) (dst : Addr) (jiffies : UInt64) (memory : Memory) :
    Mesh × Except Errno Ptr :=
  if dst = conf.addr then (s, .error .enotsupp)
  else if isMulticastEtherAddr dst then (s, .error .enotsupp)
  -- `atomic_add_unless`
  else if s.mpaths = meshMaxMpaths then (s, .error .enospc)
  else
    let s := { s with mpaths := s.mpaths + 1 }
    if memory.kzalloc = false then (s, .error .enomem)
    else
      let (s, newMpath) := s.meshPathNew { dst, expTime := jiffies }
      match s.insertFast .mesh newMpath memory.insertFails with
      | (s, .failed err) => (s, .error err)
      | (s, .present mpath) =>
          ({ s with meshPathsGeneration := s.meshPathsGeneration + 1 }, .ok mpath)
      | (s, .new) => ({ s with meshPathsGeneration := s.meshPathsGeneration + 1 }, .ok newMpath)

def mppPathAdd (s : Mesh) (conf : Conf) (dst mpp : Addr) (jiffies : UInt64) (memory : Memory) :
    Mesh × Except Errno Unit :=
  if dst = conf.addr then (s, .error .enotsupp)
  else if isMulticastEtherAddr dst then (s, .error .enotsupp)
  else if memory.kzalloc = false then (s, .error .enomem)
  else
    let (s, newMpath) := s.meshPathNew { dst, mpp, expTime := jiffies }
    let (s, ret) := s.insertFast .mpp newMpath memory.insertFails
    ({ s with mppPathsGeneration := s.mppPathsGeneration + 1 },
      match ret with
      | .new => .ok ()
      | .present _ => .error .eexist
      | .failed err => .error err)

/-! ## Deleting paths -/

def meshPathFreeRcu (s : Mesh) (tbl : Which) (mpath : Ptr) : Mesh :=
  let s := s.onPath mpath fun path =>
    { path with flags := path.flags ||| (meshPathResolving ||| meshPathDeleted) }
  let s := s.meshGateDel tbl mpath
  let s := { s with mpaths := s.mpaths - 1 }
  s.onTable tbl fun t => { t with entries := t.entries - 1 }

/-- `rhashtable_remove_fast`, which looks for the entry itself. -/
def rhashtableRemoveFast (rhead : AList fun _ : Addr => Ptr) (dst : Addr) (mpath : Ptr) :
    AList fun _ : Addr => Ptr :=
  if rhead.lookup dst = some mpath then rhead.erase dst else rhead

/-- `__mesh_path_del` -/
def del (s : Mesh) (tbl : Which) (mpath : Ptr) : Mesh :=
  let s := s.onTable tbl fun t =>
    { t with
      walkHead := t.walkHead.erase mpath
      rhead := rhashtableRemoveFast t.rhead (s.heap mpath).dst mpath }
  s.meshPathFreeRcu tbl mpath

/-- The walk of a table that deletes the paths that are `doomed`. -/
def flush (s : Mesh) (tbl : Which) (doomed : MeshPath → Bool) : Mesh :=
  (s.table tbl).walkHead.foldl
    (fun s mpath => if doomed (s.heap mpath) then s.del tbl mpath else s) s

def meshPathFlushByNexthop (s : Mesh) (sta : Nat) : Mesh :=
  s.flush .mesh fun mpath => mpath.nextHop == some sta

def mppFlushByProxy (s : Mesh) (proxy : Addr) : Mesh :=
  s.flush .mpp fun mpath => mpath.mpp == proxy

def tableFlushByIface (s : Mesh) (tbl : Which) : Mesh := s.flush tbl fun _ => true

def meshPathFlushByIface (s : Mesh) : Mesh :=
  (s.tableFlushByIface .mesh).tableFlushByIface .mpp

def tablePathDel (s : Mesh) (tbl : Which) (addr : Addr) : Mesh × Except Errno Unit :=
  match (s.table tbl).rhead.lookup addr with
  | none => (s, .error .enxio)
  | some mpath => (s.del tbl mpath, .ok ())

def meshPathDel (s : Mesh) (addr : Addr) : Mesh × Except Errno Unit :=
  let (s, err) := (s.mppFlushByProxy addr).tablePathDel .mesh addr
  ({ s with meshPathsGeneration := s.meshPathsGeneration + 1 }, err)

def meshPathTblExpire (s : Mesh) (conf : Conf) (jiffies : UInt64) (tbl : Which) : Mesh :=
  s.flush tbl (MeshPath.expires conf jiffies)

def meshPathExpire (s : Mesh) (conf : Conf) (jiffies : UInt64) : Mesh :=
  (s.meshPathTblExpire conf jiffies .mesh).meshPathTblExpire conf jiffies .mpp

end Mesh

/-! ## Runs -/

/-- `touch` is any change of a path other than of its destination and its gate, as path
selection makes it. -/
inductive MeshEvent
  | meshPathAdd (dst : Addr) (jiffies : UInt64) (memory : Mesh.Memory)
  | mppPathAdd (dst mpp : Addr) (jiffies : UInt64) (memory : Mesh.Memory)
  | meshPathDel (addr : Addr)
  | flushByNexthop (sta : Nat)
  | flushByProxy (proxy : Addr)
  | expire (jiffies : UInt64)
  | flushByIface
  | addGate (dst : Addr)
  | touch (mpath : Ptr) (mpp : Addr) (nextHop : Option Nat) (expTime : UInt64) (flags : UInt32)
deriving DecidableEq, Repr

def Mesh.step (conf : Conf) (s : Mesh) : MeshEvent → Mesh
  | .meshPathAdd dst jiffies memory => (s.meshPathAdd conf dst jiffies memory).1
  | .mppPathAdd dst mpp jiffies memory => (s.mppPathAdd conf dst mpp jiffies memory).1
  | .meshPathDel addr => (s.meshPathDel addr).1
  | .flushByNexthop sta => s.meshPathFlushByNexthop sta
  | .flushByProxy proxy => s.mppFlushByProxy proxy
  | .expire jiffies => s.meshPathExpire conf jiffies
  | .flushByIface => s.meshPathFlushByIface
  -- path selection marks a path that it looked up in the mesh path table
  | .addGate dst =>
      match s.meshPaths.rhead.lookup dst with
      | some mpath => (s.meshPathAddGate mpath).1
      | none => s
  | .touch mpath mpp nextHop expTime flags =>
      s.onPath mpath fun path => { path with mpp, nextHop, expTime, flags }

end Iwlwifi.MeshPathtbl
