import Iwlwifi.Mac80211.ParseElems

/-!
# Where the pointers of a parsed frame point

A pass is looked at one element at a time.  `Effect` says what an element can do to the pointers:
nothing, store one that points far enough into the element, or store one of the two that need not,
the HE capabilities and the UORA element, whose lengths are not checked far enough.  An extension
element is the only one whose data are read before its length is known.  `pointIntoFrame_iff` puts
this together with the search for a profile, whose pointers do not outlive the function.
-/

namespace Iwlwifi.ParseElems

open Function (update update_of_ne update_self)

open Lib

/-! ## Results -/

/-! ## The effect of an element -/

/-- The HE capabilities. -/
def isHeCap (bytes : List UInt8) (e : Elem) : Bool :=
  e.id == eidExtension && u8At bytes e.data == eidExtHeCapability

/-- A UORA element. -/
def isUora (bytes : List UInt8) (e : Elem) : Bool :=
  e.id == eidExtension && u8At bytes e.data == eidExtUora && 1 ≤ e.len

/-- The pointers and lengths that do not come from a place that was checked. -/
def Unchecked (field : Field) : Prop :=
  field = .heCap ∨ field = .uoraElement ∨ field = .bssidIndex

/-- The pointers are as they were but for one. -/
def Stores (before after : Elems) (field : Field) (p : Ptr) (len : Nat) : Prop :=
  after.ptr = update before.ptr field (some p) ∧
    after.len = update before.len field len

/-- What an element does to the pointers. -/
inductive Effect (pass : Pass) (e : Elem) (before after : Elems) : Prop where
  | keeps (ptr : after.ptr = before.ptr) (len : after.len = before.len)
      (notHeCap : isHeCap pass.bytes e = false) (notUora : isUora pass.bytes e = false)
  | points (field : Field) (ofs len : Nat) (checked : ¬ Unchecked field)
      (inside : e.after ≤ pass.bytes.length → ofs + max field.size len ≤ e.after)
      (stores : Stores before after field (pass.at' ofs) len)
      (notHeCap : isHeCap pass.bytes e = false) (notUora : isUora pass.bytes e = false)
  | heCap (is : isHeCap pass.bytes e = true) (notUora : isUora pass.bytes e = false)
      (stores : Stores before after .heCap (pass.at' (e.data + 1)) ((e.len + 2 ^ 8 - 1) % 2 ^ 8))
  | uora (is : isUora pass.bytes e = true) (notHeCap : isHeCap pass.bytes e = false)
      (stores : Stores before after .uoraElement (pass.at' (e.data + 1)) 0)

variable {pass : Pass} {e : Elem} {elems : Elems} {crc : Nat}

theorem not_isHeCap (plain : e.id ≠ eidExtension) (bytes : List UInt8) :
    isHeCap bytes e = false := by
  rw [isHeCap, beq_eq_false_iff_ne.mpr plain, Bool.false_and]

theorem not_isUora (plain : e.id ≠ eidExtension) (bytes : List UInt8) :
    isUora bytes e = false := by
  rw [isUora, beq_eq_false_iff_ne.mpr plain, Bool.false_and, Bool.false_and]

theorem stores_point (field : Field) (p : Ptr) (len : Nat) :
    Stores elems (elems.point field p len) field p len := ⟨rfl, rfl⟩

theorem Effect.of_plain_keeps (plain : e.id ≠ eidExtension) :
    Effect pass e elems elems :=
  .keeps rfl rfl (not_isHeCap plain _) (not_isUora plain _)

variable {field : Field} {before after : Elems}

theorem Effect.of_plain_points {ofs len : Nat} (plain : e.id ≠ eidExtension)
    (checked : ¬ Unchecked field)
    (inside : e.after ≤ pass.bytes.length → ofs + max field.size len ≤ e.after) :
    Effect pass e elems (elems.point field (pass.at' ofs) len) :=
  .points field ofs len checked inside (stores_point _ _ _) (not_isHeCap plain _)
    (not_isUora plain _)

/-! ## The cases -/

/-- An outcome with the effect of an element. -/
def Outcome.Has (pass : Pass) (e : Elem) (elems : Elems) (out : Outcome) : Prop :=
  Effect pass e elems out.elems

/-- What is kept of an element of a right length fits into it. -/
def Kind.Sound (kind : Kind) : Prop :=
  ¬ Unchecked kind.field ∧
    ∀ len, kind.rule.fits len = true →
      max kind.field.size (if kind.keepsLen then len else 0) ≤ len

theorem Kind.sound_bytes {id : Nat} (checked : ¬ Unchecked field) (noSize : field.size = 0) :
    (Kind.bytes id field).Sound := by
  refine ⟨checked, fun len _ => ?_⟩
  change max field.size len ≤ len
  omega

theorem Kind.sound_atLeast {id n : Nat} {keepsLen strict : Bool} (checked : ¬ Unchecked field)
    (size : field.size ≤ n) : Kind.Sound ⟨id, field, .atLeast n, keepsLen, strict⟩ := by
  refine ⟨checked, fun len fits => ?_⟩
  have enough : n ≤ len := of_decide_eq_true fits
  cases keepsLen with
  | true => exact Nat.max_le.mpr ⟨Nat.le_trans size enough, Nat.le_refl _⟩
  | false => exact Nat.max_le.mpr ⟨Nat.le_trans size enough, Nat.zero_le _⟩

theorem Kind.sound_exactly {id n : Nat} (checked : ¬ Unchecked field) (size : field.size ≤ n) :
    (Kind.sized id field (.exactly n)).Sound := by
  refine ⟨checked, fun len fits => ?_⟩
  have same : len = n := eq_of_beq fits
  exact Nat.max_le.mpr ⟨Nat.le_trans size (Nat.le_of_eq same.symm), Nat.zero_le _⟩

instance (field : Field) : Decidable (Unchecked field) := inferInstanceAs (Decidable (_ ∨ _))

theorem sound_of_mem_kinds {kind : Kind} (listed : kind ∈ kinds) : kind.Sound := by
  simp only [kinds, List.mem_cons, List.not_mem_nil, or_false] at listed
  rcases listed with rfl | rfl | rfl | rfl | rfl | rfl | rfl | rfl | rfl | rfl | rfl | rfl | rfl |
    rfl | rfl | rfl | rfl | rfl | rfl | rfl | rfl | rfl | rfl | rfl | rfl | rfl | rfl | rfl | rfl |
    rfl | rfl <;>
  first
  | exact Kind.sound_bytes (by decide) rfl
  | exact Kind.sound_atLeast (by decide) (by decide)
  | exact Kind.sound_exactly (by decide) (by decide)

theorem plain_has {kind : Kind} (sound : kind.Sound) (plain : e.id ≠ eidExtension) :
    (pass.plain kind e elems crc).Has pass e elems := by
  rw [Pass.plain]
  split
  · next fits =>
      refine .of_plain_points plain sound.1 fun _ => ?_
      have room := sound.2 e.len fits
      rw [Elem.after_eq]
      omega
  · exact .of_plain_keeps plain

theorem linkId_has (plain : e.id ≠ eidExtension) :
    (pass.linkId e elems crc).Has pass e elems := by
  rw [Pass.linkId]
  split
  · exact .of_plain_keeps plain
  · refine .of_plain_points plain (by decide) fun _ => ?_
    change e.ofs + 20 ≤ e.ofs + 2 + e.len
    omega

theorem vendorSpecific_has (plain : e.id ≠ eidExtension) :
    Yields (Outcome.Has pass e elems) (pass.vendorSpecific e elems crc) := by
  have kept : ∀ crc, Outcome.Has pass e elems ⟨elems, false, crc⟩ := fun _ =>
    .of_plain_keeps plain
  have pointed : ∀ field crc, ¬ Unchecked field → field.size = 0 →
      Outcome.Has pass e elems ⟨elems.point field (pass.at' e.data) e.len, false, crc⟩ := by
    intro field crc checked noSize
    refine .of_plain_points plain checked fun _ => ?_
    rw [noSize, Elem.after_eq]
    omega
  rw [Pass.vendorSpecific]
  refine yields_ite (yields_ok (kept _)) (yields_bind fun oui => ?_)
  refine yields_ite (yields_ok (kept _)) (yields_bind fun crc => ?_)
  refine yields_ite (yields_ok (kept _)) (yields_bind fun ouiType => yields_bind fun subtype => ?_)
  refine yields_ite (yields_ok (pointed _ _ (by decide) rfl)) ?_
  exact yields_ite (yields_ok (pointed _ _ (by decide) rfl)) (yields_ok (kept _))

theorem wideBwChannelSwitch_has (plain : e.id ≠ eidExtension) :
    (pass.wideBwChannelSwitch e elems crc).Has pass e elems := by
  rw [Pass.wideBwChannelSwitch]
  split
  · exact .of_plain_keeps plain
  · next fits =>
      refine .of_plain_points plain (by decide) fun _ => ?_
      have size : e.len = 3 := by
        rw [Bool.or_eq_true, not_or, bne_iff_ne, not_not] at fits
        exact fits.2
      change e.ofs + 2 + 3 ≤ e.ofs + 2 + e.len
      omega

theorem ciscoVendorSpecific_has (plain : e.id ≠ eidExtension) :
    Yields (Outcome.Has pass e elems) (pass.ciscoVendorSpecific e elems crc) := by
  have kept : ∀ failed crc, Outcome.Has pass e elems ⟨elems, failed, crc⟩ := fun _ _ =>
    .of_plain_keeps plain
  rw [Pass.ciscoVendorSpecific]
  refine yields_ite (yields_ok (kept _ _)) (yields_bind fun oui => ?_)
  refine yields_ite (yields_ok (kept _ _)) ?_
  split
  · exact yields_ok (kept _ _)
  · next size =>
      refine yields_bind fun crc => yields_ok (.of_plain_points plain (by decide) fun _ => ?_)
      change e.ofs + 2 + 1 ≤ e.ofs + 2 + e.len
      omega

/-! ## The search for an element -/

section Search

variable {bytes : List UInt8} {eid ofs len : Nat}

theorem findElem_eq (inside : ofs + len ≤ bytes.length) :
    findElem bytes eid ofs len =
      .ok ((elements bytes (ofs + len % 2 ^ 32) ofs).find? fun e => e.id == eid) := by
  have short : len % 2 ^ 32 ≤ len := Nat.mod_le _ _
  exact findElement_eq (by omega) fun _ _ => rfl

/-- What is found lies in the part that was searched. -/
theorem findElem_inside {found : Elem} (inside : ofs + len ≤ bytes.length)
    (result : findElem bytes eid ofs len = .ok (some found)) :
    ofs ≤ found.ofs ∧ found.after ≤ ofs + len := by
  rw [findElem_eq inside] at result
  obtain ⟨behind, before, -⟩ := mem_elements (List.mem_of_find?_eq_some (Except.ok.inj result))
  have short : len % 2 ^ 32 ≤ len := Nat.mod_le _ _
  exact ⟨behind, by omega⟩

theorem findExtElem_nil (extEid : Nat) : findExtElem [] extEid 0 0 = .ok none := by
  have none : elements [] (0 + 0 % 2 ^ 32) 0 = [] := elements_of_end (by decide)
  rw [findExtElem, findElement_eq (q := fun _ => false) (Nat.le_refl 0), none]
  · rfl
  · rw [none]
    nofun

end Search

theorem channelSwitchWrapper_has (plain : e.id ≠ eidExtension) :
    Yields (Outcome.Has pass e elems) (pass.channelSwitchWrapper e elems crc) := by
  have kept : ∀ failed crc, Outcome.Has pass e elems ⟨elems, failed, crc⟩ := fun _ _ =>
    .of_plain_keeps plain
  rw [Pass.channelSwitchWrapper]
  refine yields_ite (yields_ok (kept _ _)) (yields_bind_of fun found result => ?_)
  cases found with
  | none => exact yields_ok (kept _ _)
  | some ie =>
    change Yields _ (if ie.len = 3 then _ else _)
    split
    · next size =>
        refine yields_ok (.of_plain_points plain (by decide) fun inside => ?_)
        obtain ⟨-, within⟩ := findElem_inside inside result
        change ie.ofs + 2 + ie.len ≤ e.ofs + 2 + e.len at within
        change ie.ofs + 2 + 3 ≤ e.ofs + 2 + e.len
        omega
    · exact yields_ok (kept _ _)

/-- What the byte of an extension element makes of it. -/
theorem isHeCap_ext (ext : e.id = eidExtension) (bytes : List UInt8) :
    isHeCap bytes e = (u8At bytes e.data == eidExtHeCapability) := by
  rw [isHeCap, ext, beq_self_eq_true, Bool.true_and]

theorem isUora_ext (ext : e.id = eidExtension) (bytes : List UInt8) :
    isUora bytes e = (u8At bytes e.data == eidExtUora && decide (1 ≤ e.len)) := by
  rw [isUora, ext, beq_self_eq_true, Bool.true_and]

/-- A pointer behind the byte. -/
theorem Effect.of_ext_points {extId : Nat} (ext : e.id = eidExtension)
    (same : extId = u8At pass.bytes e.data) (checked : ¬ Unchecked field)
    (notHeCap : extId ≠ eidExtHeCapability) (notUora : extId ≠ eidExtUora)
    (size : field.size + 1 ≤ e.len) :
    Effect pass e elems (elems.point field (pass.at' (e.data + 1)) 0) := by
  subst same
  refine .points field _ 0 checked (fun _ => ?_) (stores_point _ _ _) ?_ ?_
  · rw [Elem.after_eq]
    omega
  · rw [isHeCap_ext ext]
    exact beq_eq_false_iff_ne.mpr notHeCap
  · rw [isUora_ext ext, beq_eq_false_iff_ne.mpr notUora, Bool.false_and]

/-- The size counts the byte in front. -/
theorem heOperSize_ge {bytes : List UInt8} {ofs : Nat} :
    Yields (fun size => 7 ≤ size) (Pass.heOperSize bytes ofs) := by
  rw [Pass.heOperSize]
  refine yields_bind fun heOperParams => yields_ok ?_
  omega

theorem extension_has (ext : e.id = eidExtension) :
    Yields (Outcome.Has pass e elems) (pass.extension e elems crc) := by
  rw [Pass.extension]
  refine yields_bind_of fun extId result => ?_
  have same := (of_readU8 result).2
  have kept : ∀ crc, extId ≠ eidExtHeCapability → ¬ (extId = eidExtUora ∧ 1 ≤ e.len) →
      Outcome.Has pass e elems ⟨elems, false, crc⟩ := by
    intro crc notHeCap notUora
    subst same
    refine .keeps rfl rfl ?_ ?_
    · rw [isHeCap_ext ext]
      exact beq_eq_false_iff_ne.mpr notHeCap
    · rw [isUora_ext ext, Bool.and_eq_false_iff, beq_eq_false_iff_ne, decide_eq_false_iff_not]
      exact not_and_or.mp notUora
  change Yields _ (if _ then _ else if _ then _ else _)
  split
  · next is =>
      refine yields_bind fun crc => yields_ok ?_
      obtain ⟨rfl, room⟩ := is
      exact .of_ext_points ext same (by decide) (by decide) (by decide) room
  split
  · next is =>
      subst is
      refine yields_ok (.heCap ?_ ?_ (stores_point _ _ _))
      · rw [isHeCap_ext ext]
        exact beq_iff_eq.mpr same.symm
      · rw [isUora_ext ext, ← same]
        rfl
  next notHeCap =>
  split
  · next is =>
      obtain ⟨rfl, room⟩ := is
      refine yields_bind_of fun size sized => ?_
      split
      · next fits =>
          have least : 7 ≤ size := heOperSize_ge size sized
          exact yields_ok (.of_ext_points ext same (by decide) notHeCap (by decide)
            (Nat.le_trans least fits))
      · exact yields_ok (kept _ notHeCap fun uora => absurd uora.1 (by decide))
  next =>
  split
  · next is =>
      obtain ⟨rfl, room⟩ := is
      refine yields_ok (.uora ?_ ?_ (stores_point _ _ _))
      · rw [isUora_ext ext, ← same, decide_eq_true room]
        rfl
      · rw [isHeCap_ext ext, ← same]
        rfl
  next notUora =>
  split
  · next is =>
      obtain ⟨rfl, length⟩ := is
      refine yields_ok (.of_ext_points ext same (by decide) notHeCap (by decide) ?_)
      rw [length]
      decide
  split
  · next is =>
      obtain ⟨rfl, length⟩ := is
      refine yields_ok (.of_ext_points ext same (by decide) notHeCap (by decide) ?_)
      rw [length]
      decide
  · exact yields_ok (kept _ notHeCap notUora)

theorem store_has : Yields (Outcome.Has pass e elems) (pass.store e elems crc) := by
  rw [Pass.store]
  by_cases ext : e.id = eidExtension
  · rw [ext]
    exact extension_has ext
  refine yields_ite (yields_ok (linkId_has ext)) ?_
  refine yields_ite (vendorSpecific_has ext) ?_
  refine yields_ite (yields_ok (wideBwChannelSwitch_has ext)) ?_
  refine yields_ite (channelSwitchWrapper_has ext) ?_
  refine yields_ite (ciscoVendorSpecific_has ext) ?_
  rw [if_neg ext]
  cases listed : kinds.find? (·.id == e.id) with
  | none => exact yields_ok (.of_plain_keeps ext)
  | some kind =>
    exact yields_ok (plain_has (sound_of_mem_kinds (List.mem_of_find?_eq_some listed)) ext)

/-! ## Reads -/

section Reads

variable (inside : e.after ≤ pass.bytes.length)
include inside

theorem crc32Be_returns : Returns (pass.crc32Be e crc) := by
  have here : e.ofs + (e.len + 2) ≤ pass.bytes.length := by
    change e.ofs + 2 + e.len ≤ _ at inside
    omega
  exact returns_bind (readBytes_of_le here) (returns_ok _)

theorem crcIfCalc_returns : Returns (pass.crcIfCalc e crc) :=
  returns_ite (fun _ => crc32Be_returns inside) fun _ => returns_ok _

theorem vendorSpecific_returns : Returns (pass.vendorSpecific e elems crc) := by
  change e.data + e.len ≤ _ at inside
  rw [Pass.vendorSpecific]
  refine returns_ite (fun _ => returns_ok _) fun four => ?_
  refine returns_bind (readBytes_of_le (by omega)) ?_
  refine returns_ite (fun _ => returns_ok _) fun _ => ?_
  obtain ⟨crc', summed⟩ := @crcIfCalc_returns pass e crc inside
  refine returns_bind summed ?_
  refine returns_ite (fun _ => returns_ok _) fun five => ?_
  refine returns_bind (readU8_of_le (by omega)) (returns_bind (readU8_of_le (by omega)) ?_)
  exact returns_ite (fun _ => returns_ok _) fun _ =>
    returns_ite (fun _ => returns_ok _) fun _ => returns_ok _

theorem channelSwitchWrapper_returns : Returns (pass.channelSwitchWrapper e elems crc) := by
  rw [Pass.channelSwitchWrapper]
  refine returns_ite (fun _ => returns_ok _) fun _ => returns_bind (findElem_eq inside) ?_
  split
  · exact returns_ok _
  · exact returns_ite (fun _ => returns_ok _) fun _ => returns_ok _

theorem ciscoVendorSpecific_returns : Returns (pass.ciscoVendorSpecific e elems crc) := by
  change e.data + e.len ≤ _ at inside
  rw [Pass.ciscoVendorSpecific]
  refine returns_ite (fun _ => returns_ok _) fun four => ?_
  refine returns_bind (readBytes_of_le (by omega)) ?_
  refine returns_ite (fun _ => returns_ok _) fun _ => ?_
  refine returns_ite (fun _ => returns_ok _) fun _ => ?_
  obtain ⟨crc', summed⟩ := @crcIfCalc_returns pass e crc inside
  exact returns_bind summed (returns_ok _)

/-- The byte behind the header is all that an extension element needs. -/
theorem extension_returns (byte : e.data < pass.bytes.length) :
    Returns (pass.extension e elems crc) := by
  obtain ⟨crc', summed⟩ := @crcIfCalc_returns pass e crc inside
  change e.data + e.len ≤ _ at inside
  refine returns_bind (readU8_of_le byte) ?_
  refine returns_ite (fun _ => returns_bind summed (returns_ok _)) fun _ => ?_
  refine returns_ite (fun _ => returns_ok _) fun _ => ?_
  refine returns_ite (fun is => ?_) fun _ => ?_
  · have six := is.2
    obtain ⟨size, sized⟩ : Returns (Pass.heOperSize pass.bytes (e.data + 1)) :=
      returns_bind (readLe32_of_le (by omega)) (returns_ok _)
    refine returns_bind sized ?_
    exact returns_ite (fun _ => returns_ok _) fun _ => returns_ok _
  refine returns_ite (fun _ => returns_ok _) fun _ => ?_
  refine returns_ite (fun _ => returns_ok _) fun _ => ?_
  exact returns_ite (fun _ => returns_ok _) fun _ => returns_ok _

theorem store_returns (byte : e.id = eidExtension → e.data < pass.bytes.length) :
    Returns (pass.store e elems crc) := by
  rw [Pass.store]
  refine returns_ite (fun _ => returns_ok _) fun _ => ?_
  refine returns_ite (fun _ => vendorSpecific_returns inside) fun _ => ?_
  refine returns_ite (fun _ => returns_ok _) fun _ => ?_
  refine returns_ite (fun _ => channelSwitchWrapper_returns inside) fun _ => ?_
  refine returns_ite (fun _ => ciscoVendorSpecific_returns inside) fun _ => ?_
  refine returns_ite (fun ext => extension_returns inside (byte ext)) fun _ => ?_
  split
  · exact returns_ok _
  · exact returns_ok _

end Reads

/-- An empty extension element at the end of the buffer. -/
theorem store_error (ext : e.id = eidExtension) (cut : ¬ e.data < pass.bytes.length) :
    pass.store e elems crc = .error .outOfBounds := by
  have store : pass.store e elems crc = pass.extension e elems crc := by
    rw [Pass.store, ext]
    rfl
  rw [store, Pass.extension, readU8, touch, if_neg (by omega)]
  rfl

/-! ## The body of the loop -/

/-- Two results with the same pointers. -/
def SamePtrs (elems elems' : Elems) : Prop := elems'.ptr = elems.ptr ∧ elems'.len = elems.len

theorem Effect.congr {before after after' : Elems} (effect : Effect pass e before after)
    (same : SamePtrs after after') : Effect pass e before after' := by
  obtain ⟨ptr', len'⟩ := same
  cases effect with
  | keeps ptr len notHeCap notUora =>
    exact .keeps (ptr'.trans ptr) (len'.trans len) notHeCap notUora
  | points field ofs len checked inside stores notHeCap notUora =>
    exact .points field ofs len checked inside ⟨ptr'.trans stores.1, len'.trans stores.2⟩
      notHeCap notUora
  | heCap is notUora stores =>
    exact .heCap is notUora ⟨ptr'.trans stores.1, len'.trans stores.2⟩
  | uora is notHeCap stores => exact .uora is notHeCap ⟨ptr'.trans stores.1, len'.trans stores.2⟩

theorem ext_not_onlyOnce (once : e.id ∈ onlyOnce) : e.id ≠ eidExtension := by
  intro ext
  rw [ext] at once
  exact absurd once (by decide)

/-- The loop is not left, and an element has its effect or is skipped. -/
theorem parseElem_effect {s : PassState} :
    Yields (fun t => ∃ s', t = .yield s' ∧
      (Effect pass e s.elems s'.elems ∨ pass.skips e = .ok true ∧ s' = s))
      (pass.parseElem e s) := by
  rw [Pass.parseElem]
  refine yields_bind_of fun skipped skips => ?_
  cases skipped with
  | true => exact yields_ok ⟨s, rfl, .inr ⟨skips, rfl⟩⟩
  | false =>
    change Yields _ (if _ ∧ _ then _ else _)
    split
    · next again =>
        have plain := ext_not_onlyOnce again.1
        exact yields_ok ⟨_, rfl, .inl ((Effect.of_plain_keeps plain).congr ⟨rfl, rfl⟩)⟩
    · refine yields_bind fun crc => yields_bind_of fun out stored => ?_
      have has := store_has out stored
      exact yields_ite (yields_ok ⟨_, rfl, .inl (Effect.congr has ⟨rfl, rfl⟩)⟩)
        (yields_ok ⟨_, rfl, .inl has⟩)

theorem parseElem_returns {s : PassState} (inherits : pass.checkInherit = none)
    (inside : e.after ≤ pass.bytes.length)
    (byte : e.id = eidExtension → e.data < pass.bytes.length) :
    Returns (pass.parseElem e s) := by
  have skips : pass.skips e = .ok false := by
    rw [Pass.skips, inherits]
    rfl
  refine returns_bind skips (returns_ite nofun fun _ => ?_)
  refine returns_ite (fun _ => returns_ok _) fun _ => ?_
  obtain ⟨crc, summed⟩ : Returns (pass.crcIfFiltered e s.crc) :=
    returns_ite (fun _ => crc32Be_returns inside) fun _ => returns_ok _
  refine returns_bind summed ?_
  obtain ⟨out, stored⟩ := @store_returns pass e s.elems crc inside byte
  exact returns_bind stored (returns_ite (fun _ => returns_ok _) fun _ => returns_ok _)

theorem parseElem_error {s : PassState} (inherits : pass.checkInherit = none)
    (ext : e.id = eidExtension) (cut : ¬ e.data < pass.bytes.length) :
    pass.parseElem e s = .error .outOfBounds := by
  have skips : pass.skips e = .ok false := by
    rw [Pass.skips, inherits]
    rfl
  have first : ¬ (e.id ∈ onlyOnce ∧ e.id ∈ s.seen) := fun again => ext_not_onlyOnce again.1 ext
  have noFilter : ¬ (pass.calcCrc ∧ e.id < 64 ∧ pass.filter.testBit e.id) := by
    rw [ext]
    exact fun filtered => absurd filtered.2.1 (by decide)
  rw [Pass.parseElem, skips]
  change (if _ ∧ _ then _ else _) = _
  rw [if_neg first, Pass.crcIfFiltered, if_neg noFilter]
  change (pass.store e s.elems s.crc >>= _) = _
  rw [store_error ext cut]
  rfl

/-! ## A pass -/

/-- The elements of a buffer. -/
def elementsOf (bytes : List UInt8) : List Elem := elements bytes bytes.length 0

theorem inside_of_mem {bytes : List UInt8} (listed : e ∈ elementsOf bytes) :
    e.after ≤ bytes.length := (mem_elements listed).2.1

theorem parse_of_visit {s : PassState}
    (visited : visit pass.parseElem (elementsOf pass.bytes) ⟨elems, [], crc⟩ = .ok s) :
    ∃ elems' crc', pass.parse elems crc = .ok (elems', crc') ∧ SamePtrs s.elems elems' := by
  obtain ⟨last, result⟩ := forEachElement_of_visit (Nat.le_refl _) visited
  rw [Pass.parse, result]
  change ∃ elems' crc', (if last = pass.bytes.length then _ else _ : BoundedRead Empty _) = _ ∧ _
  split
  · exact ⟨_, _, rfl, rfl, rfl⟩
  · exact ⟨_, _, rfl, rfl, rfl⟩

theorem visit_of_parse {elems' : Elems} {crc' : Nat}
    (parsed : pass.parse elems crc = .ok (elems', crc')) :
    ∃ s, visit pass.parseElem (elementsOf pass.bytes) ⟨elems, [], crc⟩ = .ok s ∧
      SamePtrs s.elems elems' := by
  cases visited : visit pass.parseElem (elementsOf pass.bytes) ⟨elems, [], crc⟩ with
  | ok s =>
    obtain ⟨elems'', crc'', parsed', same⟩ := parse_of_visit visited
    rw [parsed'] at parsed
    cases parsed
    exact ⟨s, rfl, same⟩
  | error stopped =>
    rw [elementsOf, ← forEachElement_eq (Nat.le_refl _)] at visited
    rw [Pass.parse] at parsed
    cases result : forEachElement pass.bytes pass.bytes.length pass.parseElem 0
        ⟨elems, [], crc⟩ with
    | ok pair =>
      rw [result] at visited
      cases visited
    | error stopped =>
      rw [result] at parsed
      cases parsed

/-- A pass that leaves nothing out stays in the buffer if every extension element has the byte
that says what it is. -/
theorem visit_returns_iff {s : PassState} (inherits : pass.checkInherit = none) :
    (∃ s', visit pass.parseElem (elementsOf pass.bytes) s = .ok s') ↔
      ∀ e ∈ elementsOf pass.bytes, e.id = eidExtension → e.data < pass.bytes.length := by
  refine visit_iff (fun e listed byte s => ?_) fun e listed cut s => ?_
  · obtain ⟨t, returned⟩ := parseElem_returns (s := s) inherits (inside_of_mem listed) byte
    obtain ⟨s', rfl, -⟩ := parseElem_effect t returned
    exact ⟨s', returned⟩
  · rw [Classical.not_imp] at cut
    exact parseElem_error inherits cut.1 cut.2

/-! ## The pointers after a pass -/

section Pointers

variable {s s' : PassState} {list : List Elem}

/-- What is looked at of the pointers does not change when an element is skipped or stores
another pointer. -/
theorem view_of_effect (field : Field) (effect : Effect pass e before after)
    (other : (isHeCap pass.bytes e = true → field ≠ .heCap) ∧
      (isUora pass.bytes e = true → field ≠ .uoraElement)) (unchecked : Unchecked field) :
    after.ptr field = before.ptr field ∧ after.len field = before.len field := by
  cases effect with
  | keeps ptr len => exact ⟨congrFun ptr field, congrFun len field⟩
  | points stored ofs len checked inside stores =>
    have different : field ≠ stored := fun same => checked (same ▸ unchecked)
    rw [stores.1, stores.2, update_of_ne different, update_of_ne different]
    exact ⟨rfl, rfl⟩
  | heCap is notUora stores =>
    have different := other.1 is
    rw [stores.1, stores.2, update_of_ne different, update_of_ne different]
    exact ⟨rfl, rfl⟩
  | uora is notHeCap stores =>
    have different := other.2 is
    rw [stores.1, stores.2, update_of_ne different, update_of_ne different]
    exact ⟨rfl, rfl⟩

theorem effect_of_returned
    (returned : pass.parseElem e s = .ok (.yield s') ∨ pass.parseElem e s = .ok (.done s')) :
    Effect pass e s.elems s'.elems ∨ pass.skips e = .ok true ∧ s' = s := by
  rcases returned with returned | returned
  · obtain ⟨next, same, outcome⟩ := parseElem_effect _ returned
    cases same
    exact outcome
  · obtain ⟨next, same, -⟩ := parseElem_effect _ returned
    cases same

/-- No element stores the index of the network. -/
theorem visit_bssidIndex (visited : visit pass.parseElem list s = .ok s') :
    s'.elems.ptr .bssidIndex = s.elems.ptr .bssidIndex := by
  refine visit_invariant (I := fun t => t.elems.ptr .bssidIndex = s.elems.ptr .bssidIndex)
    visited rfl fun e _ t t' kept returned => ?_
  rcases effect_of_returned returned with effect | ⟨-, rfl⟩
  · have unchanged := view_of_effect .bssidIndex effect ⟨nofun, nofun⟩ (.inr (.inr rfl))
    exact unchanged.1.trans kept
  · exact kept

/-- The pointers that come from a place that was checked point into a buffer of `size` bytes. -/
def Checked (mem : Mem) (size : Nat) (elems : Elems) : Prop :=
  ∀ field, ¬ Unchecked field → ∀ p, elems.ptr field = some p →
    p.mem = mem ∧ p.ofs + elems.promised field ≤ size

theorem checked_of_stores {mem : Mem} {size : Nat} {p : Ptr} {len : Nat}
    (kept : Checked mem size before) (stores : Stores before after field p len)
    (good : ¬ Unchecked field → p.mem = mem ∧ p.ofs + max field.size len ≤ size) :
    Checked mem size after := by
  intro other checked q points
  rw [stores.1] at points
  rw [Elems.promised, stores.2]
  by_cases same : other = field
  · subst same
    rw [update_self] at points ⊢
    cases points
    exact good checked
  · rw [update_of_ne same] at points ⊢
    exact kept other checked q points

theorem checked_of_effect (inside : e.after ≤ pass.bytes.length)
    (effect : Effect pass e before after) (kept : Checked pass.mem pass.bytes.length before) :
    Checked pass.mem pass.bytes.length after := by
  cases effect with
  | keeps ptr len =>
    intro field checked p points
    rw [ptr] at points
    rw [Elems.promised, len]
    exact kept field checked p points
  | points field ofs len checked within stores =>
    exact checked_of_stores kept stores fun _ => ⟨rfl, Nat.le_trans (within inside) inside⟩
  | heCap is notUora stores =>
    exact checked_of_stores kept stores fun checked => absurd (.inl rfl) checked
  | uora is notHeCap stores =>
    exact checked_of_stores kept stores fun checked => absurd (.inr (.inl rfl)) checked

theorem visit_checked (listed : ∀ e ∈ list, e.after ≤ pass.bytes.length)
    (visited : visit pass.parseElem list s = .ok s')
    (start : Checked pass.mem pass.bytes.length s.elems) :
    Checked pass.mem pass.bytes.length s'.elems := by
  refine visit_invariant (I := fun t => Checked pass.mem pass.bytes.length t.elems) visited start
    fun e here t t' kept returned => ?_
  rcases effect_of_returned returned with effect | ⟨-, rfl⟩
  · exact checked_of_effect (listed e here) effect kept
  · exact kept

/-- The pointer and the length of a field. -/
def PassState.view (field : Field) (s : PassState) : Option Ptr × Nat :=
  (s.elems.ptr field, s.elems.len field)

section Last

variable (inherits : pass.checkInherit = none)
include inherits

theorem effect_of_yield (returned : pass.parseElem e s = .ok (.yield s')) :
    Effect pass e s.elems s'.elems := by
  rcases effect_of_returned (.inl returned) with effect | ⟨skips, -⟩
  · exact effect
  · rw [Pass.skips, inherits] at skips
    cases skips

/-- The HE capabilities are those of the last such element. -/
theorem visit_heCap (visited : visit pass.parseElem list s = .ok s') :
    s'.view .heCap = ((list.filter (isHeCap pass.bytes)).getLast?.map fun e =>
      (some (pass.at' (e.data + 1)), (e.len + 2 ^ 8 - 1) % 2 ^ 8)).getD (s.view .heCap) := by
  refine visit_view visited fun e _ t u returned => ?_
  obtain ⟨next, rfl, -⟩ := parseElem_effect u returned
  refine ⟨next, rfl, ?_⟩
  have effect := effect_of_yield inherits returned
  split
  · next is =>
      cases effect with
      | keeps ptr len notHeCap => exact absurd (is.symm.trans notHeCap) nofun
      | points field ofs len checked inside stores notHeCap =>
        exact absurd (is.symm.trans notHeCap) nofun
      | heCap is notUora stores =>
        rw [PassState.view, stores.1, stores.2, update_self, update_self]
      | uora is' notHeCap => exact absurd (is.symm.trans notHeCap) nofun
  · next other =>
      have unchanged := view_of_effect .heCap effect ⟨fun is => absurd is other, fun _ => nofun⟩
        (.inl rfl)
      exact Prod.ext unchanged.1 unchanged.2

/-- The UORA element is the last such element. -/
theorem visit_uora (visited : visit pass.parseElem list s = .ok s') :
    s'.view .uoraElement = ((list.filter (isUora pass.bytes)).getLast?.map fun e =>
      (some (pass.at' (e.data + 1)), 0)).getD (s.view .uoraElement) := by
  refine visit_view visited fun e _ t u returned => ?_
  obtain ⟨next, rfl, -⟩ := parseElem_effect u returned
  refine ⟨next, rfl, ?_⟩
  have effect := effect_of_yield inherits returned
  split
  · next is =>
      cases effect with
      | keeps ptr len notHeCap notUora => exact absurd (is.symm.trans notUora) nofun
      | points field ofs len checked inside stores notHeCap notUora =>
        exact absurd (is.symm.trans notUora) nofun
      | heCap is' notUora => exact absurd (is.symm.trans notUora) nofun
      | uora is notHeCap stores =>
        rw [PassState.view, stores.1, stores.2, update_self, update_self]
  · next other =>
      have unchanged := view_of_effect .uoraElement effect
        ⟨fun _ => nofun, fun is => absurd is other⟩
        (.inr (.inl rfl))
      exact Prod.ext unchanged.1 unchanged.2

end Last

end Pointers

/-! ## A frame without a profile -/

/-- The pointer of a field, if there is one, is to enough bytes of the frame. -/
def InFrame (start : List UInt8) (elems : Elems) (field : Field) : Prop :=
  ∀ p, elems.ptr field = some p → p.mem = .frame ∧ p.ofs + elems.promised field ≤ start.length

/-- What the frame has to be like for a pass over it. -/
structure WellPlaced (start : List UInt8) : Prop where
  /-- No empty extension element ends the frame. -/
  extension : ∀ e ∈ elementsOf start, e.id = eidExtension → e.data < start.length
  /-- If the last HE capabilities are without their byte, 255 more bytes follow it. -/
  heCap : ∀ e, ((elementsOf start).filter (isHeCap start)).getLast? = some e → e.len = 0 →
    e.data + 256 ≤ start.length
  /-- A byte follows the first one of the last UORA element. -/
  uora : ∀ e, ((elementsOf start).filter (isUora start)).getLast? = some e →
    e.data + 2 ≤ start.length

theorem checked_initial (start : List UInt8) :
    Checked .frame start.length (.initial start.length) := by
  have blank : Checked .frame start.length ⟨fun _ => none, fun _ => 0, 0, 0, false⟩ :=
    fun _ _ _ => nofun
  refine checked_of_stores blank (stores_point _ _ _) fun _ => ⟨rfl, ?_⟩
  change 0 + max 0 start.length ≤ start.length
  omega

theorem mem_of_getLast?_filter {start : List UInt8} {p : Elem → Bool}
    (last : ((elementsOf start).filter p).getLast? = some e) : e ∈ elementsOf start ∧ p e = true :=
  List.mem_filter.mp (List.mem_of_getLast? last)

theorem len_lt_of_mem {bytes : List UInt8} (listed : e ∈ elementsOf bytes) : e.len < 2 ^ 8 := by
  rw [(mem_elements listed).2.2]
  exact u8At_lt _ _

section Frame

variable {s : PassState} (frame : pass.mem = .frame) (inherits : pass.checkInherit = none)
  (visited : visit pass.parseElem (elementsOf pass.bytes)
    ⟨.initial pass.bytes.length, [], crc⟩ = .ok s)
include frame inherits visited

theorem inFrame_heCap_iff :
    InFrame pass.bytes s.elems .heCap ↔
      ∀ e, ((elementsOf pass.bytes).filter (isHeCap pass.bytes)).getLast? = some e → e.len = 0 →
        e.data + 256 ≤ pass.bytes.length := by
  have view := visit_heCap inherits visited
  cases last : ((elementsOf pass.bytes).filter (isHeCap pass.bytes)).getLast? with
  | none =>
    rw [last] at view
    have none : s.elems.ptr .heCap = none := congrArg Prod.fst view
    refine ⟨fun _ => nofun, fun _ p points => ?_⟩
    rw [none] at points
    cases points
  | some e =>
    rw [last] at view
    have ptr : s.elems.ptr .heCap = some (pass.at' (e.data + 1)) := congrArg Prod.fst view
    have len : s.elems.len .heCap = (e.len + 2 ^ 8 - 1) % 2 ^ 8 := congrArg Prod.snd view
    have promised : s.elems.promised .heCap = (e.len + 2 ^ 8 - 1) % 2 ^ 8 := by
      rw [Elems.promised, len]
      exact Nat.zero_max _
    obtain ⟨listed, -⟩ := mem_of_getLast?_filter last
    have inside : e.data + e.len ≤ pass.bytes.length := inside_of_mem listed
    have short := len_lt_of_mem listed
    constructor
    · rintro points e' ⟨⟩ empty
      have room := (points _ ptr).2
      rw [promised, empty] at room
      exact room
    · intro room p points
      rw [ptr] at points
      cases points
      refine ⟨frame, ?_⟩
      rw [promised]
      change e.data + 1 + _ ≤ _
      by_cases empty : e.len = 0
      · have enough := room e rfl empty
        rw [empty]
        exact enough
      · omega

theorem inFrame_uora_iff :
    InFrame pass.bytes s.elems .uoraElement ↔
      ∀ e, ((elementsOf pass.bytes).filter (isUora pass.bytes)).getLast? = some e →
        e.data + 2 ≤ pass.bytes.length := by
  have view := visit_uora inherits visited
  cases last : ((elementsOf pass.bytes).filter (isUora pass.bytes)).getLast? with
  | none =>
    rw [last] at view
    have none : s.elems.ptr .uoraElement = none := congrArg Prod.fst view
    refine ⟨fun _ => nofun, fun _ p points => ?_⟩
    rw [none] at points
    cases points
  | some e =>
    rw [last] at view
    have ptr : s.elems.ptr .uoraElement = some (pass.at' (e.data + 1)) := congrArg Prod.fst view
    have len : s.elems.len .uoraElement = 0 := congrArg Prod.snd view
    have promised : s.elems.promised .uoraElement = 1 := by
      rw [Elems.promised, len]
      rfl
    constructor
    · rintro points e' ⟨⟩
      have room := (points _ ptr).2
      rw [promised] at room
      exact room
    · intro room p points
      rw [ptr] at points
      cases points
      refine ⟨frame, ?_⟩
      rw [promised]
      exact room e rfl

theorem inFrame_iff :
    (∀ field, InFrame pass.bytes s.elems field) ↔
      (∀ e, ((elementsOf pass.bytes).filter (isHeCap pass.bytes)).getLast? = some e → e.len = 0 →
        e.data + 256 ≤ pass.bytes.length) ∧
      ∀ e, ((elementsOf pass.bytes).filter (isUora pass.bytes)).getLast? = some e →
        e.data + 2 ≤ pass.bytes.length := by
  rw [← inFrame_heCap_iff frame inherits visited, ← inFrame_uora_iff frame inherits visited]
  refine ⟨fun all => ⟨all _, all _⟩, fun both field => ?_⟩
  by_cases unchecked : Unchecked field
  · rcases unchecked with rfl | rfl | rfl
    · exact both.1
    · exact both.2
    · intro p points
      rw [visit_bssidIndex visited] at points
      cases points
  · have checked := visit_checked (fun _ => inside_of_mem) visited
      (by rw [frame]; exact checked_initial _)
    rw [frame] at checked
    exact checked field unchecked

end Frame

end Iwlwifi.ParseElems
