import Mathlib.Data.List.Perm.Basic
import Iwlwifi.Wireless.ScanLookup

/-!
# Runs of scan results

What each operation does to the order of the entries: the rings of hidden SSIDs leave it alone,
unlinking and expiry take entries out of it, a new entry is linked where the search for it ended,
and an updated entry stays where it is.
-/

namespace Iwlwifi.Scan

open Lib

variable {s s' : Rdev} {rb : Balancer Nat}

/-! ## Rings -/

/-- The keys, the list and the tree are as before. -/
structure SameStore (s s' : Rdev) : Prop where
  key : ∀ e, (s'.bss e).key = (s.bss e).key
  bssList : s'.bssList = s.bssList
  bssTree : s'.bssTree = s.bssTree
  allocated : s'.allocated = s.allocated

namespace SameStore

theorem refl : SameStore s s := ⟨fun _ => rfl, rfl, rfl, rfl⟩

theorem trans {s'' : Rdev} (first : SameStore s s') (second : SameStore s' s'') :
    SameStore s s'' where
  key := fun e => (second.key e).trans (first.key e)
  bssList := second.bssList.trans first.bssList
  bssTree := second.bssTree.trans first.bssTree
  allocated := second.allocated.trans first.allocated

theorem onBss (same : SameStore s s') (e : Nat) {change : Bss → Bss}
    (keeps : ∀ b, (change b).key = b.key) : SameStore s (s'.onBss e change) := by
  refine same.trans ⟨fun x => ?_, rfl, rfl, rfl⟩
  by_cases own : x = e
  · rw [own, Rdev.onBss]
    simp only [Function.update_self, keeps]
  · exact congrArg Bss.key (Function.update_of_ne own ..)

theorem foldl {f : Rdev → Nat → Rdev} (each : ∀ s e, SameStore s (f s e)) (same : SameStore s s')
    (entries : List Nat) : SameStore s (entries.foldl f s') :=
  run_invariant (fun s' e same => same.trans (each s' e)) same entries

theorem hiddenAdd (same : SameStore s s') (new head : Nat) :
    SameStore s (s'.hiddenAdd new head) := by
  simp only [Rdev.hiddenAdd]
  refine onBss ?_ head fun _ => rfl
  refine onBss ?_ new fun _ => rfl
  exact onBss same _ fun _ => rfl

theorem hiddenDel (same : SameStore s s') (e : Nat) : SameStore s (s'.hiddenDel e) := by
  simp only [Rdev.hiddenDel]
  refine onBss ?_ _ fun _ => rfl
  exact onBss same _ fun _ => rfl

theorem hiddenDelInit (same : SameStore s s') (e : Nat) : SameStore s (s'.hiddenDelInit e) := by
  simp only [Rdev.hiddenDelInit]
  exact onBss (same.hiddenDel e) _ fun _ => rfl

theorem combineBss (new ssidlen e : Nat) : SameStore s (s.combineBss new ssidlen e) := by
  simp only [Rdev.combineBss]
  refine iteInduction (fun _ => refl) fun _ => ?_
  refine onBss (hiddenAdd ?_ e new) e fun _ => rfl
  split
  · exact refl
  · exact refl.hiddenDel e

theorem combineBsses {new : Nat} (combined : s.cfg80211CombineBsses new = some s') :
    SameStore s s' := by
  unfold Rdev.cfg80211CombineBsses at combined
  split at combined
  · cases combined
  · split at combined
    · obtain rfl := Option.some.inj combined
      exact refl
    · next ssid _ =>
        split at combined
        · obtain rfl := Option.some.inj combined
          exact refl.foldl (fun _ => combineBss new ssid.length) _
        · obtain rfl := Option.some.inj combined
          exact refl

theorem groupBss {new : Nat} {tmp : Bss} (grouped : s.groupBss new tmp = some s') :
    SameStore s s' := by
  simp only [Rdev.groupBss] at grouped
  split at grouped
  · split at grouped
    · obtain rfl := Option.some.inj grouped
      exact refl
    · next hidden _ =>
        obtain rfl := Option.some.inj grouped
        refine onBss ?_ new fun _ => rfl
        refine hiddenAdd ?_ new hidden
        exact onBss refl new fun _ => rfl
  · exact combineBsses grouped

end SameStore

/-! ## Entries that go -/

/-- Some entries may be gone. -/
structure Sheds (s s' : Rdev) : Prop where
  sound : Sound s'
  key : ∀ e, (s'.bss e).key = (s.bss e).key
  allocated : s'.allocated = s.allocated
  subset : s'.bssList ⊆ s.bssList

theorem Sound.congr (sound : Sound s) (key : ∀ e ∈ s.bssList, (s'.bss e).key = (s.bss e).key)
    (bssList : s'.bssList = s.bssList) (bssTree : s'.bssTree = s.bssTree)
    (allocated : s.allocated ≤ s'.allocated) : Sound s' where
  same := bssTree ▸ bssList ▸ sound.same
  ordered := by
    rw [bssTree]
    refine sound.ordered.imp_of_mem fun hereX hereY before => ?_
    rwa [key _ (sound.mem.mp hereX), key _ (sound.mem.mp hereY)]
  hasIes := by
    rw [bssList]
    intro e there
    rw [key e there]
    exact sound.hasIes e there
  allocated := by
    rw [bssList]
    exact fun e there => lt_of_lt_of_le (sound.allocated e there) allocated

theorem SameStore.sheds (same : SameStore s s') (sound : Sound s) : Sheds s s' where
  sound := sound.congr (fun _ _ => same.key _) same.bssList same.bssTree
    (le_of_eq same.allocated.symm)
  key := same.key
  allocated := same.allocated
  subset := fun _ there => same.bssList ▸ there

theorem Sheds.trans {s'' : Rdev} (first : Sheds s s') (second : Sheds s' s'') : Sheds s s'' where
  sound := second.sound
  key := fun e => (second.key e).trans (first.key e)
  allocated := second.allocated.trans first.allocated
  subset := fun _ there => first.subset (second.subset there)

namespace Sound

variable {e : Nat} (sound : Sound s)
include sound

theorem erase (rb : Balancer Nat) (there : e ∈ s.bssList) :
    Sheds s { s with
      bssList := s.bssList.erase e
      bssTree := rb.erase e s.bssTree
      bssEntries := s.bssEntries - 1 } := by
  have erased := rb.toList_erase e s.bssTree (sound.mem.mpr there)
  refine ⟨⟨?_, ?_, ?_, ?_⟩, fun _ => rfl, rfl, List.erase_subset⟩
  · exact erased ▸ sound.same.erase e
  · exact erased ▸ sound.ordered.sublist List.erase_sublist
  · exact fun x member => sound.hasIes x (List.mem_of_mem_erase member)
  · exact fun x member => sound.allocated x (List.mem_of_mem_erase member)

theorem unlink (rb : Balancer Nat) (there : e ∈ s.bssList) : Sheds s (s.unlink rb e).2 := by
  simp only [Rdev.unlink]
  split
  · exact SameStore.refl.sheds sound
  · split
    · exact sound.erase rb there
    · have same : SameStore s (s.hiddenDelInit e) := SameStore.refl.hiddenDelInit e
      have kept := same.sheds sound
      exact kept.trans (kept.sound.erase rb (same.bssList ▸ there))

omit sound in
/-- Only the entry itself goes. -/
theorem mem_unlink {x : Nat} (there : x ∈ s.bssList) (other : x ≠ e) :
    x ∈ (s.unlink rb e).2.bssList := by
  simp only [Rdev.unlink]
  split
  · exact there
  · refine (List.mem_erase_of_ne other).mpr ?_
    split
    · exact there
    · exact there

omit sound in
/-- The entries that are visited are on the list when they are: before them only others went. -/
theorem foldl_expireBss (rb : Balancer Nat) (expireTime : UInt64) {entries : List Nat}
    (nodup : entries.Nodup) (sound : Sound s) (inside : entries ⊆ s.bssList) :
    Sound (entries.foldl (Rdev.expireBss rb expireTime) s) := by
  induction entries generalizing s with
  | nil => exact sound
  | cons e rest ih =>
    obtain ⟨notIn, nodup⟩ := List.nodup_cons.mp nodup
    obtain ⟨there, inside⟩ := List.cons_subset.mp inside
    refine ih nodup ?_ ?_
    · simp only [Rdev.expireBss]
      split
      · exact sound
      · split
        · exact sound
        · exact (sound.unlink rb there).sound
    · intro x member
      have other : x ≠ e := fun same => notIn (same ▸ member)
      simp only [Rdev.expireBss]
      split
      · exact inside member
      · split
        · exact inside member
        · exact mem_unlink (inside member) other

theorem expire (rb : Balancer Nat) (expireTime : UInt64) :
    Sound (s.cfg80211BssExpire rb expireTime) :=
  foldl_expireBss rb expireTime sound.nodup sound (List.Subset.refl _)

omit sound in
/-- The oldest entry is one of the list. -/
theorem mem_of_older {entries : List Nat} (inside : entries ⊆ s.bssList) {oldest : Option Nat}
    (listed : ∀ o ∈ oldest, o ∈ s.bssList) :
    ∀ o ∈ entries.foldl s.older oldest, o ∈ s.bssList := by
  induction entries generalizing oldest with
  | nil => exact listed
  | cons e rest ih =>
    obtain ⟨there, inside⟩ := List.cons_subset.mp inside
    have own : ∀ o ∈ some e, o ∈ s.bssList := fun o same => Option.some.inj same ▸ there
    refine ih inside ?_
    unfold Rdev.older
    split
    · exact listed
    · split
      · exact listed
      · cases oldest with
        | none => exact own
        | some o =>
          dsimp only
          split
          · exact listed
          · exact own

theorem expireOldest (rb : Balancer Nat) : Sheds s (s.cfg80211BssExpireOldest rb).2 := by
  unfold Rdev.cfg80211BssExpireOldest
  split
  · exact SameStore.refl.sheds sound
  · next oldest isOldest =>
      have listed := mem_of_older (List.Subset.refl s.bssList)
        (fun o absent => absurd absent (Option.not_mem_none o)) oldest isOldest
      exact sound.unlink rb listed

end Sound

/-! ## Entries that are added -/

/-- The new entry is linked between those behind which and those before which it belongs. -/
theorem Sound.insertBss {new : Nat} (sound : Sound s) (rb : Balancer Nat)
    (fresh : new < s.allocated) (hasIes : (s.bss new).key.ies ≠ none)
    (other : ∀ e ∈ s.bssList, cmpBss (s.bss new).key (s.bss e).key .regular ≠ 0)
    (agree : ∀ e ∈ s.bssList, (s.bss new).key.channel = (s.bss e).key.channel →
      Agree (s.bss new).key (s.bss e).key) : Sound (s.insertBss rb new) := by
  obtain ⟨t, before, behind, linked, here, there, positive, negative⟩ :=
    SearchTree.exists_link (sound.guides hasIes (.inl rfl))
      (fun e member => other e (sound.mem.mp member)) new
  have tree : (rb.insertColor t).toList = before ++ new :: behind := by
    rw [rb.toList_insertColor, there]
  have insertion : s.insertBss rb new =
      { s with
        bssList := s.bssList ++ [new]
        bssEntries := s.bssEntries + 1
        bssTree := rb.insertColor t } := by
    have linked : s.bssTree.link
        ({ s with bssList := s.bssList ++ [new], bssEntries := s.bssEntries + 1 }.probe
          (s.bss new).key .regular) new = some t := linked
    simp only [Rdev.insertBss, Rdev.rbInsertBss, linked]
  have others : ∀ e ∈ before ++ behind, e ∈ s.bssList := fun e member =>
    sound.mem.mp (here ▸ member)
  have own := fun e member =>
    before_of_agree hasIes (sound.hasIes e (others e member)) (agree e (others e member))
  have ordered := here ▸ sound.ordered
  obtain ⟨left, right, across⟩ := List.pairwise_append.mp ordered
  rw [insertion]
  refine ⟨?_, ?_, ?_, ?_⟩
  · have same := here ▸ sound.same
    exact tree ▸ List.perm_middle.trans
      ((same.cons new).trans (List.perm_append_singleton new s.bssList).symm)
  · refine tree ▸ List.pairwise_append.mpr ⟨left, List.pairwise_cons.mpr ⟨?_, right⟩, ?_⟩
    · exact fun e member => (own e (List.mem_append_right before member)).1 (negative e member)
    · refine fun e member => List.forall_mem_cons.mpr ⟨?_, across e member⟩
      exact (own e (List.mem_append_left behind member)).2 (positive e member)
  · exact List.forall_mem_append.mpr ⟨sound.hasIes, List.forall_mem_singleton.mpr hasIes⟩
  · exact List.forall_mem_append.mpr ⟨sound.allocated, List.forall_mem_singleton.mpr fresh⟩

/-! ## Entries that are updated -/

variable {k b y : BssKey}

theorem mesh_eq_some {mesh : List UInt8 × List UInt8} (isMesh : k.mesh = some mesh) :
    ∃ ies, k.ies = some ies ∧ cfg80211FindIe wlanEidMeshId ies = some mesh.1 ∧
      cfg80211FindIe wlanEidMeshConfig ies = some mesh.2 := by
  obtain ⟨ies, isIes, found⟩ := Option.bind_eq_some_iff.mp isMesh
  split at found
  · obtain ⟨id, isId, found⟩ := Option.bind_eq_some_iff.mp found
    obtain ⟨config, isConfig, same⟩ := Option.bind_eq_some_iff.mp found
    obtain rfl := Option.some.inj same
    exact ⟨ies, isIes, isId, isConfig⟩
  · cases found

theorem mesh_of_ies {mesh mesh' : List UInt8 × List UInt8} (same : k.ies = b.ies)
    (isMesh : k.mesh = some mesh) (isMesh' : b.mesh = some mesh') : mesh = mesh' := by
  obtain ⟨ies, isIes, id, config⟩ := mesh_eq_some isMesh
  obtain ⟨ies', isIes', id', config'⟩ := mesh_eq_some isMesh'
  obtain rfl : ies = ies' := Option.some.inj (isIes.symm.trans (same.trans isIes'))
  exact Prod.ext (Option.some.inj (id.symm.trans id')) (Option.some.inj (config.symm.trans config'))

/-- The comparison with another entry stays the same. -/
theorem cmpBss_updated (hasIes : b.ies ≠ none) (hasIes' : k.ies ≠ none) (hasIes'' : y.ies ≠ none)
    (channel : k.channel = b.channel)
    (plain : b.mesh = none → k.bssid = b.bssid ∧ k.ssid = b.ssid)
    (mesh : ∀ mesh mesh', k.mesh = some mesh → b.mesh = some mesh' → mesh = mesh')
    (kind : b.channel = y.channel → (b.mesh = none ↔ y.mesh = none))
    (agree : k.channel = y.channel → Agree k y) :
    cmpBss k y .regular = cmpBss b y .regular := by
  by_cases here : b.channel = y.channel
  · have there := channel.trans here
    rcases agree there with ⟨none, none'⟩ | ⟨isMesh, isMesh', -⟩
    · have was := (kind here).mpr none'
      rw [cmpBss_of_plain here hasIes hasIes'' (.inl was),
        cmpBss_of_plain there hasIes' hasIes'' (.inl none), cmpPlain, cmpPlain, (plain was).1,
        (plain was).2]
    · obtain ⟨own, isMesh⟩ := Option.isSome_iff_exists.mp isMesh
      obtain ⟨others, isMesh'⟩ := Option.isSome_iff_exists.mp isMesh'
      have was : b.mesh ≠ none := fun none => by
        rw [(kind here).mp none] at isMesh'
        cases isMesh'
      obtain ⟨old, wasMesh⟩ := Option.ne_none_iff_exists'.mp was
      rw [cmpBss_of_mesh here hasIes hasIes'' wasMesh isMesh',
        cmpBss_of_mesh there hasIes' hasIes'' isMesh isMesh', mesh own old isMesh wasMesh]
  · rw [cmpBss_of_channel here, cmpBss_of_channel (channel ▸ here), channel]

/-- One entry has a new key, and the rest is as before. -/
structure Updates (s : Rdev) (found : Nat) (key : BssKey) (s' : Rdev) : Prop where
  own : (s'.bss found).key = key
  others : ∀ e, e ≠ found → (s'.bss e).key = (s.bss e).key
  bssList : s'.bssList = s.bssList
  bssTree : s'.bssTree = s.bssTree
  allocated : s'.allocated = s.allocated

namespace Updates

variable {found : Nat}

theorem start : Updates s found (s.bss found).key s := ⟨rfl, fun _ _ => rfl, rfl, rfl, rfl⟩

theorem onBss (updates : Updates s found k s') (change : Bss → Bss) :
    Updates s found (change (s'.bss found)).key (s'.onBss found change) where
  own := by rw [Rdev.onBss]; simp only [Function.update_self]
  others := fun e other => by
    rw [← updates.others e other, Rdev.onBss]
    simp only [Function.update_of_ne other]
  bssList := updates.bssList
  bssTree := updates.bssTree
  allocated := updates.allocated

theorem trans {s'' : Rdev} (updates : Updates s found k s') (same : SameStore s' s'') :
    Updates s found k s'' where
  own := (same.key found).trans updates.own
  others := fun e other => (same.key e).trans (updates.others e other)
  bssList := same.bssList.trans updates.bssList
  bssTree := same.bssTree.trans updates.bssTree
  allocated := same.allocated.trans updates.allocated

theorem updateFound {tmp : Bss} (updated : s.updateFound found tmp = some s') :
    Updates s found (s.updatedKey found tmp) s' := by
  obtain ⟨between, ies, rfl⟩ := Option.map_eq_some_iff.mp updated
  suffices kept : ∃ key : BssKey, Updates s found key between ∧
      { key with capability := tmp.key.capability } = s.updatedKey found tmp by
    obtain ⟨key, updates, same⟩ := kept
    have last := updates.onBss fun b =>
      { b with key := { b.key with capability := tmp.key.capability }, ts := tmp.ts }
    rwa [updates.own, same] at last
  simp only [Rdev.updateIes] at ies
  cases probe : tmp.proberespIes with
  | some probeIes =>
    rw [probe] at ies
    obtain rfl := Option.some.inj ies
    exact ⟨_, start.onBss _, by simp only [Rdev.updatedKey, probe]⟩
  | none =>
    rw [probe] at ies
    cases beacon : tmp.beaconIes with
    | none =>
      rw [beacon] at ies
      obtain rfl := Option.some.inj ies
      exact ⟨_, start, by simp only [Rdev.updatedKey, probe, beacon]⟩
    | some beaconIes =>
      rw [beacon] at ies
      dsimp only at ies
      split at ies
      · cases ies
      · obtain rfl := Option.some.inj ies
        have updates := (start : Updates s found _ s).onBss fun b =>
          { b with
            beaconIes := some beaconIes
            key := { b.key with
              ies := if (s.bss found).beaconIes = (s.bss found).key.ies then some beaconIes
                else (s.bss found).key.ies } }
        refine ⟨_, updates.trans (SameStore.refl.foldl (fun s e => ?_) _), ?_⟩
        · exact SameStore.refl.onBss e fun _ => rfl
        · simp only [Rdev.updatedKey, probe, beacon]

end Updates

/-- An update by a frame takes over the elements of the frame or keeps those of the entry. -/
theorem updatedKey_tmp (frame : Frame) (found : Nat) :
    ∃ ies ∈ [frame.tmp.key.ies, (s.bss found).key.ies],
      s.updatedKey found frame.tmp =
        { (s.bss found).key with capability := frame.capability, ies := ies } := by
  cases isProbe : frame.probeResp with
  | true =>
    refine ⟨frame.tmp.key.ies, List.mem_cons_self, ?_⟩
    simp only [Rdev.updatedKey, Frame.tmp, isProbe, if_true]
  | false =>
    by_cases own : (s.bss found).beaconIes = (s.bss found).key.ies
    · refine ⟨frame.tmp.key.ies, List.mem_cons_self, ?_⟩
      simp only [Rdev.updatedKey, Frame.tmp, isProbe, own, if_true, Bool.false_eq_true, if_false]
    · refine ⟨(s.bss found).key.ies, List.mem_cons_of_mem _ List.mem_cons_self, ?_⟩
      simp only [Rdev.updatedKey, Frame.tmp, isProbe, own, Bool.false_eq_true, if_false]

variable {frame : Frame}

theorem ies_updatedKey {found : Nat} (hasIes : (s.bss found).key.ies ≠ none) :
    (s.updatedKey found frame.tmp).ies ≠ none := by
  obtain ⟨ies, member, same⟩ := updatedKey_tmp (s := s) frame found
  rw [same]
  have : ∀ ies ∈ [frame.tmp.key.ies, (s.bss found).key.ies], ies ≠ none :=
    List.forall_mem_cons.mpr ⟨Option.some_ne_none _, List.forall_mem_singleton.mpr hasIes⟩
  exact this ies member

/-- What an entry is compared by stays what it was, where it is compared by the same. -/
theorem updatedKey_kept {found : Nat} (hasIes : (s.bss found).key.ies ≠ none)
    (zero : cmpBss frame.tmp.key (s.bss found).key .regular = 0) :
    ((s.bss found).key.mesh = none →
        (s.updatedKey found frame.tmp).ssid = (s.bss found).key.ssid) ∧
      ∀ mesh mesh', (s.updatedKey found frame.tmp).mesh = some mesh →
        (s.bss found).key.mesh = some mesh' → mesh = mesh' := by
  have own : frame.tmp.key.ies ≠ none := Option.some_ne_none _
  have same := channel_of_cmpBss zero
  obtain ⟨ies, member, updated⟩ := updatedKey_tmp (s := s) frame found
  rw [updated]
  rcases List.mem_cons.mp member with rfl | member
  · refine ⟨fun plain => ?_, fun mesh mesh' isMesh wasMesh => ?_⟩
    · rw [cmpBss_of_plain same own hasIes (.inr plain), (cmpPlain_compares _ _).eq] at zero
      exact ssidRank_inj (List.cons.inj zero).2
    · have isMesh : frame.tmp.key.mesh = some mesh := isMesh
      rw [cmpBss_of_mesh same own hasIes isMesh wasMesh, (cmpMesh_compares _ _).eq] at zero
      exact meshRank_inj zero
  · obtain rfl := List.mem_singleton.mp member
    refine ⟨fun _ => rfl, fun mesh mesh' isMesh wasMesh => ?_⟩
    refine mesh_of_ies ?_ isMesh wasMesh
    rfl

/-- An updated entry stays where it is. -/
theorem Sound.updateFound {found : Nat} (sound : Sound s) (fits : Fits s frame.tmp)
    (there : found ∈ s.bssList) (zero : cmpBss frame.tmp.key (s.bss found).key .regular = 0)
    (updated : s.updateFound found frame.tmp = some s') : Sound s' := by
  have updates := Updates.updateFound updated
  have wasIes := sound.hasIes found there
  have hasIes : (s.updatedKey found frame.tmp).ies ≠ none := ies_updatedKey wasIes
  have channel : (s.updatedKey found frame.tmp).channel = (s.bss found).key.channel := by
    obtain ⟨ies, -, same⟩ := updatedKey_tmp (s := s) frame found
    rw [same]
  have bssid : (s.updatedKey found frame.tmp).bssid = (s.bss found).key.bssid := by
    obtain ⟨ies, -, same⟩ := updatedKey_tmp (s := s) frame found
    rw [same]
  obtain ⟨ssid, mesh⟩ := updatedKey_kept wasIes zero
  have agree : ∀ e ∈ s.bssList, e ≠ found →
      (s.updatedKey found frame.tmp).channel = (s.bss e).key.channel →
        Agree (s.updatedKey found frame.tmp) (s.bss e).key := fun e member other same =>
    fits.updated found there zero e member other
      ((channel_of_cmpBss zero).trans (channel.symm.trans same))
  have compared : ∀ e ∈ s.bssList, e ≠ found →
      cmpBss (s.updatedKey found frame.tmp) (s.bss e).key .regular =
        cmpBss (s.bss found).key (s.bss e).key .regular := fun e member other =>
    cmpBss_updated wasIes hasIes (sound.hasIes e member) channel
      (fun plain => ⟨bssid, ssid plain⟩) mesh
      (fun same => sound.mesh_none there member same) (agree e member other)
  refine ⟨?_, ?_, ?_, ?_⟩
  · rw [updates.bssTree, updates.bssList]
    exact sound.same
  · rw [updates.bssTree]
    refine sound.ordered.imp_of_mem fun {x y} hereX hereY before => ?_
    have hereX := sound.mem.mp hereX
    have hereY := sound.mem.mp hereY
    have signs := before.cmpBss_lt (sound.hasIes x hereX) (sound.hasIes y hereY)
    by_cases first : x = found
    · have other : y ≠ found := fun second => by
        rw [first, second] at before
        exact before.irrefl
      rw [first, updates.own, updates.others y other]
      refine (before_of_agree hasIes (sound.hasIes y hereY) (agree y hereY other)).1 ?_
      rw [compared y hereY other, ← first]
      exact signs.1
    · by_cases second : y = found
      · rw [second, updates.own, updates.others x first]
        refine (before_of_agree hasIes (sound.hasIes x hereX) (agree x hereX first)).2 ?_
        rw [compared x hereX first, ← second]
        exact signs.2
      · rw [updates.others x first, updates.others y second]
        exact before
  · rw [updates.bssList]
    intro e member
    by_cases own : e = found
    · rw [own, updates.own]
      exact hasIes
    · rw [updates.others e own]
      exact sound.hasIes e member
  · rw [updates.bssList, updates.allocated]
    exact sound.allocated

/-! ## Runs -/

theorem Rdev.key_allocBss (s : Rdev) (tmp : Bss) :
    ((s.allocBss tmp).bss s.allocated).key = tmp.key := by
  rw [Rdev.allocBss]
  simp only [Function.update_self]

theorem Sound.key_allocBss (sound : Sound s) (tmp : Bss) :
    ∀ e ∈ s.bssList, ((s.allocBss tmp).bss e).key = (s.bss e).key := fun e there =>
  congrArg Bss.key (Function.update_of_ne (Nat.ne_of_lt (sound.allocated e there)) ..)

/-- The entry that was allocated for a frame is inserted, whatever went in between. -/
theorem Sound.insertAlloc (sound : Sound s)
    (other : ∀ e ∈ s.bssList, cmpBss frame.tmp.key (s.bss e).key .regular ≠ 0)
    (fits : Fits s frame.tmp) (rb : Balancer Nat) (sheds : Sheds (s.allocBss frame.tmp) s') :
    Sound (s'.insertBss rb s.allocated) := by
  have new : (s'.bss s.allocated).key = frame.tmp.key :=
    (sheds.key s.allocated).trans (s.key_allocBss frame.tmp)
  have others : ∀ e ∈ s'.bssList, e ∈ s.bssList ∧ (s'.bss e).key = (s.bss e).key :=
    fun e member => by
      have there : e ∈ s.bssList := sheds.subset member
      exact ⟨there, (sheds.key e).trans (sound.key_allocBss frame.tmp e there)⟩
  refine sheds.sound.insertBss rb ?_ ?_ ?_ ?_
  · rw [sheds.allocated]
    exact Nat.lt_succ_self s.allocated
  · rw [new]
    exact Option.some_ne_none _
  · intro e member
    obtain ⟨there, same⟩ := others e member
    rw [new, same]
    exact other e there
  · intro e member
    obtain ⟨there, same⟩ := others e member
    rw [new, same]
    exact fits.added other e there

theorem Sound.inform (sound : Sound s) (frame : Frame) (fits : Fits s frame.tmp)
    (rb : Balancer Nat) (bssEntriesLimit : Nat) (memory : Bool) :
    Sound (s.cfg80211BssUpdate rb bssEntriesLimit frame.tmp memory).2 := by
  unfold Rdev.cfg80211BssUpdate
  split
  · exact sound
  · split
    · next found isFound =>
        split
        · exact sound
        · next updated =>
            obtain ⟨there, zero⟩ := sound.found isFound
            exact sound.updateFound fits there zero updated
    · next notFound =>
        split
        · exact sound
        · have other : ∀ e ∈ s.bssList,
              cmpBss frame.tmp.key (s.bss e).key .regular ≠ 0 := fun e there zero => by
            obtain ⟨found, -, isFound, -⟩ :=
              sound.exists_found (Option.some_ne_none _) (.inl rfl) there zero
            rw [notFound] at isFound
            cases isFound
          have alloc : Sound (s.allocBss frame.tmp) :=
            sound.congr (sound.key_allocBss frame.tmp) rfl rfl (Nat.le_succ _)
          dsimp only
          split
          · exact alloc
          · next isGrouped =>
              have group := (SameStore.groupBss isGrouped).sheds alloc
              split
              · have oldest := group.sound.expireOldest rb
                split
                · next dropped =>
                    rw [dropped] at oldest
                    exact oldest.sound
                · next expired =>
                    rw [expired] at oldest
                    exact sound.insertAlloc other fits rb (group.trans oldest)
              · exact sound.insertAlloc other fits rb group

theorem Sound.step (sound : Sound s) (rb : Balancer Nat) (bssEntriesLimit : Nat)
    (event : ScanEvent) (fits : EventFits s event) : Sound (step rb bssEntriesLimit s event) := by
  cases event with
  | inform frame memory => exact sound.inform frame fits rb bssEntriesLimit memory
  | unlink e =>
    simp only [Scan.step, Rdev.cfg80211UnlinkBss]
    split
    · next there => exact (sound.unlink rb there).sound
    · exact sound
  | expire expireTime => exact sound.expire rb expireTime
  | hold e hold =>
    have same : SameStore s (s.onBss e fun b => { b with hold := hold }) :=
      SameStore.refl.onBss e fun _ => rfl
    exact (same.sheds sound).sound

theorem sound_emptyRdev : Sound emptyRdev :=
  ⟨List.Perm.refl _, List.Pairwise.nil, List.forall_mem_nil _, List.forall_mem_nil _⟩

/-- In every state of a run whose frames all fit, lookup is complete. -/
theorem lookup_complete_of_fits (rb : Balancer Nat) (bssEntriesLimit : Nat)
    (events : List ScanEvent)
    (run : Admissible (step rb bssEntriesLimit) EventFits emptyRdev events) :
    ∀ before, before <+: events →
      LookupComplete (before.foldl (step rb bssEntriesLimit) emptyRdev) := by
  rintro before ⟨more, rfl⟩
  refine Sound.lookupComplete ?_
  refine (admissible_append.mp run).1.invariant ?_ sound_emptyRdev
  exact fun s event sound fits => sound.step rb bssEntriesLimit event fits

/-- Trees that are only ever linked, and whose entries stay in their order. -/
def unbalanced : Balancer Nat where
  insertColor := id
  erase := fun e t => SearchTree.ofList (t.toList.erase e)
  toList_insertColor := fun _ => rfl
  toList_erase := fun _ _ _ => SearchTree.toList_ofList _

/-- A hidden beacon, the probe response that reveals it, a mesh BSS on another channel, and the
probe response goes again. -/
def hiddenRun : List ScanEvent :=
  [.inform ⟨2412, 0, 2, 1, ⟨1, [0, 0]⟩, false, 1⟩ true,
    .inform ⟨2412, 0, 2, 1, ⟨2, [0, 1, 97]⟩, true, 2⟩ true,
    .inform ⟨2437, 0, 1, 0, ⟨3, [0, 0, 114, 1, 120, 113, 1, 1]⟩, false, 3⟩ true,
    .unlink 1]

theorem lookup_complete_hiddenRun :
    Admissible (step unbalanced 1000) EventFits emptyRdev hiddenRun ∧
      LookupComplete (hiddenRun.foldl (step unbalanced 1000) emptyRdev) := by
  have run : Admissible (step unbalanced 1000) EventFits emptyRdev hiddenRun := by decide +kernel
  exact ⟨run, lookup_complete_of_fits unbalanced 1000 hiddenRun run hiddenRun
    (List.prefix_refl hiddenRun)⟩

/-- An AP is between two stations of one mesh, by BSSID: the second of them is not compared with
the first, and gets an entry of its own. -/
theorem not_lookup_complete :
    ¬ ∀ (rb : Balancer Nat) (bssEntriesLimit : Nat) (events : List ScanEvent),
      LookupComplete (events.foldl (step rb bssEntriesLimit) emptyRdev) := by
  intro all
  have distinct := (all unbalanced 1000
    [.inform ⟨2412, 0, 2, 1, ⟨1, [0, 1, 97]⟩, false, 1⟩ true,
      .inform ⟨2412, 0, 3, 0, ⟨2, [0, 0, 114, 1, 120, 113, 1, 1]⟩, false, 2⟩ true,
      .inform ⟨2412, 0, 1, 0, ⟨3, [0, 0, 114, 1, 120, 113, 1, 1]⟩, false, 3⟩ true]).distinct
  revert distinct
  decide +kernel

end Iwlwifi.Scan
