import Mathlib.Data.List.Pairwise
import Iwlwifi.Lib.Run
import Iwlwifi.Wireless.ScanOrder

/-!
# Looking up scan results

A search finds an entry as long as the entries of the tree stay in an order along which no search
turns back.  An update of an entry changes what it is compared by while it stays where it is, and
a mesh BSS is compared with other entries of its channel in another way than with mesh BSSes; so
the order is kept by frames after which all entries of a channel agree (`Fits`).
-/

namespace Iwlwifi.Scan

open Lib

/-! ## What is wanted -/

/-- The SSID at which a search for hidden ones ends. -/
def Hides (mode : BssCompareMode) (ssid hidden : List UInt8) : Prop :=
  match mode with
  | .regular => False
  | .hideZlen => hidden = []
  | .hideNul => hidden.length = ssid.length ∧ ∀ byte ∈ hidden, byte = 0

/-- The entry is one of the channel and the BSSID of a key with this SSID, and hides the SSID. -/
structure HiddenOf (mode : BssCompareMode) (key : BssKey) (ssid : List UInt8) (b : BssKey) :
    Prop where
  channel : b.channel = key.channel
  bssid : b.bssid = key.bssid
  hidden : ∃ hidden, b.ssid = some hidden ∧ Hides mode ssid hidden

/-- `cmp_bss` is a strict order of the tree's entries, which are those of the list, and every
search finds what is there.  A search for hidden SSIDs is one for an SSID, and mesh BSSes are
not compared by theirs. -/
structure LookupComplete (s : Rdev) : Prop where
  same : s.bssTree.toList.Perm s.bssList
  equal : ∀ e ∈ s.bssList, cmpBss (s.bss e).key (s.bss e).key .regular = 0
  ordered : s.bssTree.toList.Pairwise fun x y =>
    cmpBss (s.bss x).key (s.bss y).key .regular < 0 ∧
      0 < cmpBss (s.bss y).key (s.bss x).key .regular
  distinct : s.bssList.Pairwise fun x y =>
    cmpBss (s.bss x).key (s.bss y).key .regular ≠ 0 ∧
      cmpBss (s.bss y).key (s.bss x).key .regular ≠ 0
  finds : ∀ (key : BssKey), ∀ e ∈ s.bssList, cmpBss key (s.bss e).key .regular = 0 →
    ∃ found ∈ s.bssList, s.rbFindBss key .regular = some found ∧
      cmpBss key (s.bss found).key .regular = 0
  findsHidden : ∀ (key : BssKey) (mode : BssCompareMode) (ssid : List UInt8),
    key.ssid = some ssid → ∀ e ∈ s.bssList, HiddenOf mode key ssid (s.bss e).key →
      key.mesh = none ∨ (s.bss e).key.mesh = none →
        ∃ found ∈ s.bssList, s.rbFindBss key mode = some found ∧
          HiddenOf mode key ssid (s.bss found).key

/-! ## The condition -/

/-- What an entry is compared by after an update. -/
def Rdev.updatedKey (s : Rdev) (found : Nat) (tmp : Bss) : BssKey :=
  let b := s.bss found
  let ies :=
    match tmp.proberespIes, tmp.beaconIes with
    | some ies, _ => some ies
    | none, some ies => if b.beaconIes = b.key.ies then some ies else b.key.ies
    | none, none => b.key.ies
  { b.key with capability := tmp.key.capability, ies := ies }

/-- A new entry agrees with all of its channel, and an entry that is updated with all others. -/
structure Fits (s : Rdev) (tmp : Bss) : Prop where
  added : (∀ e ∈ s.bssList, cmpBss tmp.key (s.bss e).key .regular ≠ 0) →
    ∀ e ∈ s.bssList, tmp.key.channel = (s.bss e).key.channel → Agree tmp.key (s.bss e).key
  updated : ∀ found ∈ s.bssList, cmpBss tmp.key (s.bss found).key .regular = 0 →
    ∀ e ∈ s.bssList, e ≠ found → tmp.key.channel = (s.bss e).key.channel →
      Agree (s.updatedKey found tmp) (s.bss e).key

def EventFits (s : Rdev) : ScanEvent → Prop
  | .inform frame _ => Fits s frame.tmp
  | _ => True

instance : DecidableRel Agree := fun _ _ => inferInstanceAs (Decidable (_ ∨ _))

instance (s : Rdev) (tmp : Bss) : Decidable (Fits s tmp) :=
  decidable_of_iff (_ ∧ _) ⟨fun both => ⟨both.1, both.2⟩, fun fits => ⟨fits.added, fits.updated⟩⟩

instance (s : Rdev) : DecidablePred (EventFits s)
  | .inform frame _ => inferInstanceAs (Decidable (Fits s frame.tmp))
  | .unlink _ => .isTrue trivial
  | .expire _ => .isTrue trivial
  | .hold _ _ => .isTrue trivial

/-! ## Searches -/

variable {k b : BssKey} {mode : BssCompareMode} {ssid : List UInt8}

theorem BssKey.ies_of_ssid (hasSsid : k.ssid = some ssid) : k.ies ≠ none := by
  intro none
  rw [BssKey.ssid, none] at hasSsid
  cases hasSsid

theorem cmpBss_self (hasIes : k.ies ≠ none) : cmpBss k k .regular = 0 := by
  cases sought : k.mesh with
  | none =>
      rw [cmpBss_of_plain rfl hasIes hasIes (.inl sought)]
      exact (cmpPlain_compares k k).eq.mpr rfl
  | some mesh =>
      rw [cmpBss_of_mesh rfl hasIes hasIes sought sought]
      exact (cmpMesh_compares mesh mesh).eq.mpr rfl

theorem channel_of_cmpBss (zero : cmpBss k b mode = 0) : k.channel = b.channel := by
  by_contra differ
  rw [cmpBss_of_channel differ] at zero
  omega

theorem ies_of_cmpBss (zero : cmpBss k b mode = 0) : k.ies ≠ none := by
  intro none
  rw [cmpBss, if_neg (not_not.mpr (channel_of_cmpBss zero)), if_pos none] at zero
  cases zero

theorem Before.irrefl (before : Before k k) : False := by
  rcases before with less | ⟨-, ⟨-, -, less⟩ | ⟨mesh, mesh', isMesh, isMesh', less, -⟩⟩
  · exact lt_irrefl _ less
  · exact lt_irrefl _ less
  · rw [Option.some.inj (isMesh.symm.trans isMesh')] at less
    exact lt_irrefl _ less

/-- Of one channel both entries are mesh BSSes, or none is. -/
theorem Before.mesh_none (before : Before k b) (channel : k.channel = b.channel) :
    k.mesh = none ↔ b.mesh = none := by
  rcases before with less | ⟨-, ⟨none, none', -⟩ | ⟨mesh, mesh', isMesh, isMesh', -⟩⟩
  · omega
  · rw [none, none']
  · rw [isMesh, isMesh']
    exact iff_of_false (Option.some_ne_none _) (Option.some_ne_none _)

theorem cmpSsid_eq_zero_iff {x : Option (List UInt8)} (searches : mode ≠ .regular) :
    cmpSsid mode (some ssid) x = 0 ↔ ∃ hidden, x = some hidden ∧ Hides mode ssid hidden := by
  cases x with
  | none =>
      refine iff_of_false (fun zero => ?_) fun ⟨_, absent, _⟩ => ?_
      · cases zero
      · cases absent
  | some hidden =>
      simp only [Option.some.injEq, exists_eq_left']
      cases mode with
      | regular => exact absurd rfl searches
      | hideZlen => exact Int.natCast_eq_zero.trans List.length_eq_zero_iff
      | hideNul =>
          simp only [cmpSsid, Hides]
          by_cases same : ssid.length = hidden.length
          · rw [if_pos same]
            split
            · next zero => exact iff_of_true rfl ⟨same.symm, allZero_iff.mp zero⟩
            · next shown =>
                exact iff_of_false (by decide) fun hides => shown (allZero_iff.mpr hides.2)
          · rw [if_neg same]
            exact iff_of_false (by omega) fun hides => same hides.1.symm

theorem cmpBss_eq_zero_iff (searches : mode ≠ .regular) (hasSsid : k.ssid = some ssid)
    (hasIes : b.ies ≠ none) (plain : k.mesh = none ∨ b.mesh = none) :
    cmpBss k b mode = 0 ↔ HiddenOf mode k ssid b := by
  constructor
  · intro zero
    have same := channel_of_cmpBss zero
    rw [cmpBss_of_plain same (BssKey.ies_of_ssid hasSsid) hasIes plain, cmpPlain, hasSsid] at zero
    split at zero
    · next other =>
        exact absurd (bssid_toNat_inj.mp (by omega)) other
    · next own =>
        exact ⟨same.symm, (not_not.mp own).symm, (cmpSsid_eq_zero_iff searches).mp zero⟩
  · intro hidden
    rw [cmpBss_of_plain hidden.channel.symm (BssKey.ies_of_ssid hasSsid) hasIes plain, cmpPlain,
      if_neg (not_not.mpr hidden.bssid.symm), hasSsid]
    exact (cmpSsid_eq_zero_iff searches).mpr hidden.hidden

/-! ## The invariant -/

/-- The entries of the tree are those of the list, in their order. -/
structure Sound (s : Rdev) : Prop where
  same : s.bssTree.toList.Perm s.bssList
  ordered : s.bssTree.toList.Pairwise fun x y => Before (s.bss x).key (s.bss y).key
  hasIes : ∀ e ∈ s.bssList, (s.bss e).key.ies ≠ none
  allocated : ∀ e ∈ s.bssList, e < s.allocated

namespace Sound

variable {s : Rdev} (sound : Sound s)
include sound

theorem mem {e : Nat} : e ∈ s.bssTree.toList ↔ e ∈ s.bssList := sound.same.mem_iff

theorem nodup : s.bssList.Nodup :=
  sound.same.nodup_iff.mp <| sound.ordered.imp fun before same => by
    rw [same] at before
    exact before.irrefl

theorem guides (wanted : k.ies ≠ none) (searches : mode = .regular ∨ k.ssid ≠ none) :
    Guides (s.probe k mode) s.bssTree.toList :=
  sound.ordered.imp_of_mem fun hereX hereY before =>
    cmpBss_guides (sound.hasIes _ (sound.mem.mp hereX)) (sound.hasIes _ (sound.mem.mp hereY))
      wanted searches before

theorem found {e : Nat} (found : s.rbFindBss k mode = some e) :
    e ∈ s.bssList ∧ cmpBss k (s.bss e).key mode = 0 := by
  obtain ⟨there, zero⟩ := SearchTree.find_zero found
  exact ⟨sound.mem.mp there, zero⟩

theorem exists_found {e : Nat} (wanted : k.ies ≠ none)
    (searches : mode = .regular ∨ k.ssid ≠ none) (there : e ∈ s.bssList)
    (zero : cmpBss k (s.bss e).key mode = 0) :
    ∃ found ∈ s.bssList, s.rbFindBss k mode = some found ∧
      cmpBss k (s.bss found).key mode = 0 := by
  obtain ⟨found, isFound⟩ :=
    SearchTree.exists_find (sound.guides wanted searches) (sound.mem.mpr there) zero
  obtain ⟨there, zero⟩ := sound.found isFound
  exact ⟨found, there, isFound, zero⟩

theorem before_or {x y : Nat} (hereX : x ∈ s.bssList) (hereY : y ∈ s.bssList) (differ : x ≠ y) :
    Before (s.bss x).key (s.bss y).key ∨ Before (s.bss y).key (s.bss x).key := by
  have either : s.bssTree.toList.Pairwise fun x y =>
      Before (s.bss x).key (s.bss y).key ∨ Before (s.bss y).key (s.bss x).key :=
    sound.ordered.imp Or.inl
  have : Std.Symm fun x y : Nat =>
      Before (s.bss x).key (s.bss y).key ∨ Before (s.bss y).key (s.bss x).key :=
    ⟨fun _ _ => Or.symm⟩
  exact either.forall (sound.mem.mpr hereX) (sound.mem.mpr hereY) differ

/-- The entries of a channel are all mesh BSSes, or none of them is. -/
theorem mesh_none {x y : Nat} (hereX : x ∈ s.bssList) (hereY : y ∈ s.bssList)
    (channel : (s.bss x).key.channel = (s.bss y).key.channel) :
    (s.bss x).key.mesh = none ↔ (s.bss y).key.mesh = none := by
  by_cases differ : x = y
  · rw [differ]
  · rcases sound.before_or hereX hereY differ with before | before
    · exact before.mesh_none channel
    · exact (before.mesh_none channel.symm).symm

theorem lookupComplete : LookupComplete s where
  same := sound.same
  equal := fun e there => cmpBss_self (sound.hasIes e there)
  ordered := sound.ordered.imp_of_mem fun hereX hereY before =>
    before.cmpBss_lt (sound.hasIes _ (sound.mem.mp hereX)) (sound.hasIes _ (sound.mem.mp hereY))
  distinct := by
    refine (sound.same.pairwise_iff fun differ => ⟨differ.2, differ.1⟩).mp ?_
    refine sound.ordered.imp_of_mem fun hereX hereY before => ?_
    have signs := before.cmpBss_lt (sound.hasIes _ (sound.mem.mp hereX))
      (sound.hasIes _ (sound.mem.mp hereY))
    omega
  finds := fun key e there zero => sound.exists_found (ies_of_cmpBss zero) (.inl rfl) there zero
  findsHidden := by
    intro key mode ssid hasSsid e there hidden plain
    have searches : mode ≠ .regular := by
      rintro rfl
      exact hidden.hidden.choose_spec.2
    have zero := (cmpBss_eq_zero_iff searches hasSsid (sound.hasIes e there) plain).mpr hidden
    obtain ⟨found, thereFound, isFound, zero⟩ := sound.exists_found (BssKey.ies_of_ssid hasSsid)
      (.inr (by rw [hasSsid]; exact Option.some_ne_none ssid)) there zero
    have plain : key.mesh = none ∨ (s.bss found).key.mesh = none :=
      plain.imp_right (sound.mesh_none there thereFound
        (hidden.channel.trans (channel_of_cmpBss zero))).mp
    exact ⟨found, thereFound, isFound,
      (cmpBss_eq_zero_iff searches hasSsid (sound.hasIes found thereFound) plain).mp zero⟩

end Sound

end Iwlwifi.Scan
