import Iwlwifi.Lib.ThreeWay
import Iwlwifi.Wireless.Scan

/-!
# The order of scan results

Two mesh BSSes of a channel are compared by mesh id and configuration, all other entries by BSSID
and SSID.  Each of the two is an order, but the two together are none: with a mesh BSS between
others, or where they disagree about two mesh BSSes, `cmp_bss` does not lead to an entry from
everywhere.  `Before` is the order of entries on which both agree, and along such entries no
search turns back (`cmpBss_guides`).
-/

namespace Iwlwifi.Scan

open Lib

/-! ## Elements -/

def byteRank (bytes : List UInt8) : List Int := bytes.map fun byte => (byte.toNat : Int)

/-- Longer elements come first. -/
def ieRank (bytes : List UInt8) : List Int := -(bytes.length : Int) :: byteRank bytes

variable {as bs : List UInt8}

theorem byteRank_inj (same : byteRank as = byteRank bs) : as = bs := by
  refine List.map_injective_iff.mpr (fun a b eq => ?_) same
  exact UInt8.toNat_inj.mp (by exact_mod_cast eq)

theorem ieRank_inj (same : ieRank as = ieRank bs) : as = bs :=
  byteRank_inj (List.cons.inj same).2

theorem memcmp_compares (length : as.length = bs.length) :
    Compares (memcmp as bs) (byteRank as) (byteRank bs) := by
  induction as generalizing bs with
  | nil =>
    rw [List.eq_nil_of_length_eq_zero length.symm]
    exact ⟨by simp [memcmp, byteRank], by simp [memcmp, byteRank]⟩
  | cons a as ih =>
    cases bs with
    | nil => cases length
    | cons b bs =>
      have heads : (a = b) = ((a.toNat : Int) = b.toNat) := by
        rw [Int.natCast_inj, UInt8.toNat_inj]
      have whole : memcmp (a :: as) (b :: bs) =
          if (a.toNat : Int) = b.toNat then memcmp as bs else (a.toNat : Int) - b.toNat := by
        rw [memcmp]
        simp only [heads]
      rw [whole]
      exact Compares.cons fun _ => ih (Nat.succ.inj length)

theorem cmpIe_compares (as bs : List UInt8) : Compares (cmpIe as bs) (ieRank as) (ieRank bs) := by
  have whole : cmpIe as bs =
      if -(as.length : Int) = -(bs.length : Int) then memcmp as bs
      else -(as.length : Int) - -(bs.length : Int) := by
    unfold cmpIe
    split
    · next same => rw [if_pos (by rw [same])]
    · next other =>
        rw [if_neg (by omega)]
        omega
  rw [whole]
  exact Compares.cons fun same => memcmp_compares (by omega)

/-! ## The two orders -/

/-- The comparison of mesh BSSes, by mesh id and configuration. -/
def cmpMesh (a b : List UInt8 × List UInt8) : Int :=
  if cmpIe a.1 b.1 ≠ 0 then cmpIe a.1 b.1 else cmpIe a.2 b.2

def meshRank (mesh : List UInt8 × List UInt8) : List Int ×ₗ List Int :=
  toLex (ieRank mesh.1, ieRank mesh.2)

theorem cmpMesh_compares (a b : List UInt8 × List UInt8) :
    Compares (cmpMesh a b) (meshRank a) (meshRank b) := by
  have whole : cmpMesh a b = if cmpIe a.1 b.1 = 0 then cmpIe a.2 b.2 else cmpIe a.1 b.1 := by
    unfold cmpMesh
    exact ite_not ..
  rw [whole]
  exact (cmpIe_compares a.1 b.1).prod (cmpIe_compares a.2 b.2)

theorem meshRank_inj {a b : List UInt8 × List UInt8} (same : meshRank a = meshRank b) : a = b := by
  have parts := Prod.mk.inj (toLex_inj.mp same)
  exact Prod.ext (ieRank_inj parts.1) (ieRank_inj parts.2)

/-- The comparison of all other entries, by BSSID and SSID. -/
def cmpPlain (a b : BssKey) (mode : BssCompareMode) : Int :=
  if a.bssid ≠ b.bssid then (a.bssid.toNat : Int) - b.bssid.toNat
  else cmpSsid mode a.ssid b.ssid

/-- A missing SSID comes first. -/
def ssidRank : Option (List UInt8) → List Int
  | none => []
  | some ssid => ieRank ssid

def BssKey.rank (b : BssKey) : List Int := (b.bssid.toNat : Int) :: ssidRank b.ssid

theorem ssidRank_inj {a b : Option (List UInt8)} (same : ssidRank a = ssidRank b) : a = b := by
  cases a with
  | none =>
    cases b with
    | none => rfl
    | some bs => cases same
  | some as =>
    cases b with
    | none => cases same
    | some bs => rw [ieRank_inj same]

theorem cmpSsid_compares (a b : Option (List UInt8)) :
    Compares (cmpSsid .regular a b) (ssidRank a) (ssidRank b) := by
  cases a with
  | none =>
    cases b with
    | none => exact ⟨by simp [cmpSsid], by simp [cmpSsid]⟩
    | some bs => exact ⟨by simp [cmpSsid, ssidRank, ieRank], by simp [cmpSsid, ssidRank, ieRank]⟩
  | some as =>
    cases b with
    | none => exact ⟨by simp [cmpSsid, ssidRank], by simp [cmpSsid, ssidRank, ieRank]⟩
    | some bs => exact cmpIe_compares as bs

theorem bssid_toNat_inj {a b : BitVec 48} : (a.toNat : Int) = b.toNat ↔ a = b := by
  rw [Int.natCast_inj, BitVec.toNat_inj]

theorem cmpPlain_compares (a b : BssKey) : Compares (cmpPlain a b .regular) a.rank b.rank := by
  have whole : cmpPlain a b .regular =
      if (a.bssid.toNat : Int) = b.bssid.toNat then cmpSsid .regular a.ssid b.ssid
      else (a.bssid.toNat : Int) - b.bssid.toNat := by
    unfold cmpPlain
    simp only [bssid_toNat_inj, ne_eq, ite_not]
  rw [whole]
  exact Compares.cons fun _ => cmpSsid_compares _ _

/-! ## `cmp_bss` -/

variable {a b k : BssKey} {mode : BssCompareMode}

theorem cmpBss_of_channel (differ : a.channel ≠ b.channel) :
    cmpBss a b mode = (b.channel : Int) - a.channel := if_pos differ

section

variable (same : a.channel = b.channel) (hasIes : a.ies ≠ none) (hasIes' : b.ies ≠ none)
include same hasIes hasIes'

theorem cmpBss_of_mesh {mesh mesh' : List UInt8 × List UInt8} (isMesh : a.mesh = some mesh)
    (isMesh' : b.mesh = some mesh') : cmpBss a b mode = cmpMesh mesh mesh' := by
  obtain ⟨id1, config1⟩ := mesh
  obtain ⟨id2, config2⟩ := mesh'
  rw [cmpBss, if_neg (not_not.mpr same), if_neg hasIes, if_neg hasIes', isMesh, isMesh']
  rfl

theorem cmpBss_of_plain (plain : a.mesh = none ∨ b.mesh = none) :
    cmpBss a b mode = cmpPlain a b mode := by
  rw [cmpBss, if_neg (not_not.mpr same), if_neg hasIes, if_neg hasIes']
  rcases plain with none | none
  · rw [none]
    rfl
  · rw [none]
    cases a.mesh <;> rfl

end

/-! ## Searching along the order -/

theorem ieRank_le (le : ieRank as ≤ ieRank bs) :
    bs.length < as.length ∨ as.length = bs.length ∧ byteRank as ≤ byteRank bs := by
  rcases Lib.cons_le_cons_iff.mp le with longer | ⟨same, bytes⟩
  · exact .inl (by omega)
  · exact .inr ⟨by omega, bytes⟩

theorem allZero_iff {bytes : List UInt8} : allZero bytes = true ↔ ∀ byte ∈ bytes, byte = 0 := by
  simp only [allZero, List.all_eq_true, beq_iff_eq]

theorem zero_of_byteRank_le (length : as.length = bs.length) (le : byteRank as ≤ byteRank bs)
    (zero : ∀ byte ∈ bs, byte = 0) : ∀ byte ∈ as, byte = 0 := by
  induction as generalizing bs with
  | nil => exact List.forall_mem_nil _
  | cons a as ih =>
    cases bs with
    | nil => cases length
    | cons b bs =>
      obtain ⟨first, rest⟩ := List.forall_mem_cons.mp zero
      have none : (b.toNat : Int) = 0 := by rw [first]; rfl
      rcases Lib.cons_le_cons_iff.mp le with less | ⟨same, tails⟩
      · change (a.toNat : Int) < b.toNat at less
        omega
      · change (a.toNat : Int) = b.toNat at same
        refine List.forall_mem_cons.mpr ⟨?_, ih (Nat.succ.inj length) tails rest⟩
        exact UInt8.toNat_inj.mp (by rw [UInt8.toNat_zero]; omega)

/-- Of two SSIDs behind each other the search for a hidden one of zeros does not turn back. -/
theorem cmpSsid_hideNul_guides (bytes xs ys : List UInt8)
    (le : ssidRank (some xs) ≤ ssidRank (some ys)) :
    (cmpSsid .hideNul (some bytes) (some xs) < 0 → cmpSsid .hideNul (some bytes) (some ys) < 0) ∧
      (0 < cmpSsid .hideNul (some bytes) (some ys) →
        0 < cmpSsid .hideNul (some bytes) (some xs)) := by
  simp only [cmpSsid]
  rcases ieRank_le le with longer | ⟨same, tails⟩
  · refine ⟨fun less => ?_, fun greater => ?_⟩
    · split at less
      · rw [if_neg (by omega)]
        omega
      · rw [if_neg (by omega)]
        omega
    · split at greater
      · split at greater <;> omega
      · rw [if_neg (by omega)]
        omega
  · rw [same]
    refine ⟨fun less => ?_, fun greater => ?_⟩
    · split at less
      · next own =>
          rw [if_pos own]
          split at less
          · omega
          · next shown =>
              rw [if_neg fun zero => shown <| allZero_iff.mpr <|
                zero_of_byteRank_le same tails (allZero_iff.mp zero)]
              exact less
      · next other =>
          rw [if_neg other]
          exact less
    · split at greater
      · split at greater <;> omega
      · next other =>
          rw [if_neg other]
          exact greater

/-- No comparison of SSIDs turns back. -/
theorem cmpSsid_guides {own x y : Option (List UInt8)} (searches : mode = .regular ∨ own ≠ none)
    (le : ssidRank x ≤ ssidRank y) :
    (cmpSsid mode own x < 0 → cmpSsid mode own y < 0) ∧
      (0 < cmpSsid mode own y → 0 < cmpSsid mode own x) := by
  cases mode with
  | regular =>
    have compares := cmpSsid_compares own
    refine ⟨fun less => ?_, fun greater => ?_⟩
    · exact (compares y).lt.mpr (lt_of_lt_of_le ((compares x).lt.mp less) le)
    · exact (compares x).gt.mpr (lt_of_le_of_lt le ((compares y).gt.mp greater))
  | hideZlen =>
    obtain ⟨bytes, rfl⟩ := Option.ne_none_iff_exists'.mp (searches.resolve_left (by decide))
    cases y with
    | none =>
      cases x with
      | none => exact ⟨id, id⟩
      | some xs => exact absurd le (not_le_of_gt (List.nil_lt_cons ..))
    | some ys =>
      refine ⟨fun less => ?_, fun greater => ?_⟩
      · cases x with
        | none => exact absurd (show (1 : Int) < 0 from less) (by decide)
        | some xs => exact absurd less (Int.not_lt.mpr (Int.natCast_nonneg _))
      · cases x with
        | none => exact Int.one_pos
        | some xs =>
          change 0 < (ys.length : Int) at greater
          change 0 < (xs.length : Int)
          rcases ieRank_le le with longer | ⟨same, -⟩ <;> omega
  | hideNul =>
    obtain ⟨bytes, rfl⟩ := Option.ne_none_iff_exists'.mp (searches.resolve_left (by decide))
    cases y with
    | none =>
      cases x with
      | none => exact ⟨id, id⟩
      | some xs => exact absurd le (not_le_of_gt (List.nil_lt_cons ..))
    | some ys =>
      cases x with
      | none =>
        exact ⟨fun less => absurd (show (1 : Int) < 0 from less) (by decide),
          fun _ => Int.one_pos⟩
      | some xs => exact cmpSsid_hideNul_guides bytes xs ys le

theorem cmpPlain_guides (searches : mode = .regular ∨ k.ssid ≠ none) (le : a.rank ≤ b.rank) :
    (cmpPlain k a mode < 0 → cmpPlain k b mode < 0) ∧
      (0 < cmpPlain k b mode → 0 < cmpPlain k a mode) := by
  unfold cmpPlain
  rcases Lib.cons_le_cons_iff.mp le with less | ⟨same, ssids⟩
  · have other : a.bssid ≠ b.bssid := fun same => by
      rw [same] at less
      exact lt_irrefl _ less
    by_cases first : k.bssid = a.bssid
    · rw [if_neg (not_not.mpr first), first, if_pos other]
      exact ⟨fun _ => by omega, fun greater => by omega⟩
    · rw [if_pos first]
      by_cases second : k.bssid = b.bssid
      · rw [if_neg (not_not.mpr second), second]
        exact ⟨fun _ => by omega, fun _ => by omega⟩
      · rw [if_pos second]
        exact ⟨fun _ => by omega, fun _ => by omega⟩
  · have same := bssid_toNat_inj.mp same
    rw [same]
    split
    · exact ⟨id, id⟩
    · exact cmpSsid_guides searches ssids

/-- The order of the entries: of one channel either all are mesh BSSes, for which the two orders
agree, or none is. -/
def Before (a b : BssKey) : Prop :=
  b.channel < a.channel ∨ a.channel = b.channel ∧
    (a.mesh = none ∧ b.mesh = none ∧ a.rank < b.rank ∨
      ∃ mesh mesh', a.mesh = some mesh ∧ b.mesh = some mesh' ∧ meshRank mesh < meshRank mesh' ∧
        a.rank ≤ b.rank)

/-- Two entries of a channel are no mesh BSSes, or both are and their order by mesh id and
configuration is not against that by BSSID and SSID. -/
def Agree (a b : BssKey) : Prop :=
  a.mesh = none ∧ b.mesh = none ∨
    a.mesh.isSome ∧ b.mesh.isSome ∧
      (cmpBss a b .regular < 0 → cmpPlain a b .regular ≤ 0) ∧
      (0 < cmpBss a b .regular → 0 ≤ cmpPlain a b .regular)

section

variable (hasIes : a.ies ≠ none) (hasIes' : b.ies ≠ none)
include hasIes hasIes'

/-- No search turns back. -/
theorem cmpBss_guides (wanted : k.ies ≠ none) (searches : mode = .regular ∨ k.ssid ≠ none)
    (before : Before a b) :
    (cmpBss k a mode < 0 → cmpBss k b mode < 0) ∧
      (0 < cmpBss k b mode → 0 < cmpBss k a mode) := by
  by_cases here : k.channel = a.channel
  · rcases before with less | ⟨same, both⟩
    · rw [cmpBss_of_channel (by omega : k.channel ≠ b.channel)]
      exact ⟨fun _ => by omega, fun _ => by omega⟩
    have there := here.trans same
    rcases both with ⟨none, none', less⟩ | ⟨mesh, mesh', isMesh, isMesh', less, le⟩
    · rw [cmpBss_of_plain here wanted hasIes (.inr none),
        cmpBss_of_plain there wanted hasIes' (.inr none')]
      exact cmpPlain_guides searches (le_of_lt less)
    · cases sought : k.mesh with
      | none =>
        rw [cmpBss_of_plain here wanted hasIes (.inl sought),
          cmpBss_of_plain there wanted hasIes' (.inl sought)]
        exact cmpPlain_guides searches le
      | some own =>
        rw [cmpBss_of_mesh here wanted hasIes sought isMesh,
          cmpBss_of_mesh there wanted hasIes' sought isMesh']
        have compares := cmpMesh_compares own
        refine ⟨fun before => ?_, fun behind => ?_⟩
        · exact (compares mesh').lt.mpr (lt_trans ((compares mesh).lt.mp before) less)
        · exact (compares mesh).gt.mpr (lt_trans less ((compares mesh').gt.mp behind))
  · rw [cmpBss_of_channel here]
    by_cases there : k.channel = b.channel
    · rcases before with less | ⟨same, -⟩
      · exact ⟨fun _ => by omega, fun _ => by omega⟩
      · exact absurd (there.trans same.symm) here
    · rw [cmpBss_of_channel there]
      have le : b.channel ≤ a.channel := by
        rcases before with less | ⟨same, -⟩ <;> omega
      exact ⟨fun _ => by omega, fun _ => by omega⟩

theorem Before.cmpBss_lt (before : Before a b) :
    cmpBss a b .regular < 0 ∧ 0 < cmpBss b a .regular := by
  rcases before with less | ⟨same, ⟨none, none', less⟩ | ⟨mesh, mesh', isMesh, isMesh', less, -⟩⟩
  · rw [cmpBss_of_channel (by omega), cmpBss_of_channel (by omega)]
    omega
  · rw [cmpBss_of_plain same hasIes hasIes' (.inl none),
      cmpBss_of_plain same.symm hasIes' hasIes (.inl none')]
    exact ⟨(cmpPlain_compares a b).lt.mpr less, (cmpPlain_compares b a).gt.mpr less⟩
  · rw [cmpBss_of_mesh same hasIes hasIes' isMesh isMesh',
      cmpBss_of_mesh same.symm hasIes' hasIes isMesh' isMesh]
    exact ⟨(cmpMesh_compares mesh mesh').lt.mpr less, (cmpMesh_compares mesh' mesh).gt.mpr less⟩

theorem before_of_agree (agree : a.channel = b.channel → Agree a b) :
    (cmpBss a b .regular < 0 → Before a b) ∧ (0 < cmpBss a b .regular → Before b a) := by
  by_cases same : a.channel = b.channel
  · rcases agree same with ⟨none, none'⟩ | ⟨isMesh, isMesh', less, greater⟩
    · rw [cmpBss_of_plain same hasIes hasIes' (.inl none)]
      refine ⟨fun before => .inr ⟨same, .inl ⟨none, none', ?_⟩⟩, fun behind =>
        .inr ⟨same.symm, .inl ⟨none', none, ?_⟩⟩⟩
      · exact (cmpPlain_compares a b).lt.mp before
      · exact (cmpPlain_compares a b).gt.mp behind
    · obtain ⟨mesh, isMesh⟩ := Option.isSome_iff_exists.mp isMesh
      obtain ⟨mesh', isMesh'⟩ := Option.isSome_iff_exists.mp isMesh'
      have compares := cmpMesh_compares mesh mesh'
      rw [cmpBss_of_mesh same hasIes hasIes' isMesh isMesh'] at less greater ⊢
      refine ⟨fun before => .inr ⟨same, .inr ⟨mesh, mesh', isMesh, isMesh', ?_, ?_⟩⟩, fun behind =>
        .inr ⟨same.symm, .inr ⟨mesh', mesh, isMesh', isMesh, ?_, ?_⟩⟩⟩
      · exact compares.lt.mp before
      · exact (cmpPlain_compares a b).le.mp (less before)
      · exact compares.gt.mp behind
      · exact (cmpPlain_compares a b).ge.mp (greater behind)
  · rw [cmpBss_of_channel same]
    exact ⟨fun _ => .inl (by omega), fun _ => .inl (by omega)⟩

end

end Iwlwifi.Scan
