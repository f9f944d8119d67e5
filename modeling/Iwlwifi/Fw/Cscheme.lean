import Iwlwifi.Fw.ParseTlv

/-!
# Cipher schemes

A cipher-scheme record is a count and that many entries of 13 bytes.  `iwl_store_cscheme` walks
the entries with one index and stores with another, and reads each entry through the storing
index: an entry with an empty cipher selector is looked at again on every later turn, so what is
stored is the front of the list up to the first such entry.  `fw->cs` has a single slot, and for
a single entry that front is everything usable.
-/

namespace Iwlwifi.Cscheme

open Lib

/-- `IWL_UCODE_MAX_CS` -/
def ucodeMaxCs : Nat := 1

/-- `struct iwl_fw_cipher_scheme` -/
structure FwCipherScheme where
  cipher : Nat
  flags : Nat
  hdrLen : Nat
  pnLen : Nat
  pnOff : Nat
  keyIdxOff : Nat
  keyIdxMask : Nat
  keyIdxShift : Nat
  micLen : Nat
  hwCipher : Nat
  deriving DecidableEq

/-- The entry whose 13 bytes start at `ofs`. -/
def schemeAt (data : List UInt8) (ofs : Nat) : FwCipherScheme where
  cipher := le32At data ofs
  flags := u8At data (ofs + 4)
  hdrLen := u8At data (ofs + 5)
  pnLen := u8At data (ofs + 6)
  pnOff := u8At data (ofs + 7)
  keyIdxOff := u8At data (ofs + 8)
  keyIdxMask := u8At data (ofs + 9)
  keyIdxShift := u8At data (ofs + 10)
  micLen := u8At data (ofs + 11)
  hwCipher := u8At data (ofs + 12)

/-- `&l->cs[j]`, as an offset. -/
def entryOfs (j : Nat) : Nat := 1 + j * 13

/-- `l->cs[j]` -/
def entry (data : List UInt8) (j : Nat) : FwCipherScheme := schemeAt data (entryOfs j)

/-- The loop of `iwl_store_cscheme` from the indices `i` and `j` on. -/
def storeFrom (maxCs : Nat) (data : List UInt8) (size i j : Nat) (cs : List FwCipherScheme) :
    FwReading (List FwCipherScheme) :=
  if i < maxCs ∧ i < size then do
    let cipher ← readLe32 data (entryOfs j)
    -- we skip schemes with zero cipher suite selector
    if cipher = 0 then storeFrom maxCs data size (i + 1) j cs
    else do
      touch data (entryOfs j) 13
      storeFrom maxCs data size (i + 1) (j + 1) (cs.set j (entry data j))
  else return cs
termination_by size - i

/-- `iwl_store_cscheme` for an array `fw->cs` of `maxCs` slots; `data` is the record, of `len`
bytes. -/
def storeCscheme (maxCs : Nat) (cs : List FwCipherScheme) (data : List UInt8) :
    FwReading (List FwCipherScheme) :=
  if data.length < 1 then .error (.ret parseEinval)
  else do
    let size ← readU8 data 0
    if data.length < 1 + size * 13 then .error (.ret parseEinval)
    else storeFrom maxCs data size 0 0 cs

/-! ## What is stored -/

/-- The entries the loop considers: the first `min(size, maxCs)`. -/
def considered (maxCs : Nat) (data : List UInt8) : List FwCipherScheme :=
  (List.range (min (u8At data 0) maxCs)).map (entry data)

/-- Those of them that can be used: their cipher selector is not zero. -/
def usable (maxCs : Nat) (data : List UInt8) : List FwCipherScheme :=
  (considered maxCs data).filter fun scheme => scheme.cipher ≠ 0

/-- The entries `j`, `j + 1`, … up to `j + n`, as far as none is empty. -/
def frontFrom (data : List UInt8) (j n : Nat) : List FwCipherScheme :=
  ((List.range' j n).map (entry data)).takeWhile fun scheme => scheme.cipher ≠ 0

variable {maxCs size i j n : Nat} {data : List UInt8} {cs cs' : List FwCipherScheme}

theorem frontFrom_of_empty (empty : (entry data j).cipher = 0) : frontFrom data j n = [] := by
  cases n with
  | zero => rfl
  | succ n =>
      rw [frontFrom, List.range'_succ, List.map_cons, List.takeWhile_cons, empty]
      rfl

theorem frontFrom_of_usable (usable : (entry data j).cipher ≠ 0) :
    frontFrom data j (n + 1) = entry data j :: frontFrom data (j + 1) n := by
  rw [frontFrom, List.range'_succ, List.map_cons, List.takeWhile_cons, decide_eq_true usable,
    if_pos rfl, frontFrom]

/-- The array after `front` has been stored from slot `j` on. -/
def stored (cs : List FwCipherScheme) (j : Nat) (front : List FwCipherScheme) :
    List FwCipherScheme :=
  cs.take j ++ front ++ cs.drop (j + front.length)

theorem stored_nil : stored cs j [] = cs := by
  rw [stored, List.append_nil, List.length_nil, Nat.add_zero, List.take_append_drop]

theorem stored_set {scheme : FwCipherScheme} {front : List FwCipherScheme}
    (room : j < cs.length) :
    stored (cs.set j scheme) (j + 1) front = stored cs j (scheme :: front) := by
  have taken : (cs.set j scheme).take (j + 1) = cs.take j ++ [scheme] := by
    rw [List.take_succ_eq_append_getElem (by rwa [List.length_set]), List.getElem_set_self,
      List.take_set_of_le (Nat.le_refl j)]
  have left : (cs.set j scheme).drop (j + 1 + front.length) =
      cs.drop (j + (front.length + 1)) := by
    rw [List.drop_set_of_lt (by omega), Nat.add_right_comm, Nat.add_assoc]
  rw [stored, stored, taken, left, List.length_cons, List.append_assoc _ [scheme] front,
    List.singleton_append]

/-- The loop stores the front of the entries from `j` on, as many as turns are left, and stays
inside the record: an empty entry holds it where it is. -/
theorem storeFrom_eq (behind : j ≤ i) (room : cs.length = maxCs)
    (complete : 1 + size * 13 ≤ data.length) :
    storeFrom maxCs data size i j cs =
      .ok (stored cs j (frontFrom data j (min size maxCs - i))) := by
  fun_induction storeFrom maxCs data size i j cs with
  | case1 i j cs more ih_empty ih_usable =>
      have here : entryOfs j + 13 ≤ data.length := by
        have last : (j + 1) * 13 ≤ size * 13 := Nat.mul_le_mul_right 13 (by omega)
        simp only [entryOfs]
        omega
      have left : min size maxCs - i = min size maxCs - (i + 1) + 1 := by omega
      rw [readLe32_of_le (by omega)]
      show (if le32At data (entryOfs j) = 0 then _ else _) = _
      by_cases empty : le32At data (entryOfs j) = 0
      · rw [if_pos empty, ih_empty (by omega) room, frontFrom_of_empty empty,
          frontFrom_of_empty empty]
      · rw [if_neg empty, touch_of_le here]
        have rest := ih_usable (by omega) (by rwa [List.length_set])
        rw [stored_set (by omega)] at rest
        rw [left, frontFrom_of_usable empty]
        exact rest
  | case2 i j cs done =>
      have none_left : min size maxCs - i = 0 := by omega
      rw [none_left]
      exact congrArg Except.ok stored_nil.symm

/-- A record with all the entries it announces is accepted. -/
theorem storeCscheme_of_complete (room : cs.length = maxCs)
    (complete : 1 + u8At data 0 * 13 ≤ data.length) :
    storeCscheme maxCs cs data =
      .ok (stored cs 0 (frontFrom data 0 (min (u8At data 0) maxCs))) := by
  rw [storeCscheme, if_neg (by omega), readU8_of_le (by omega)]
  show (if data.length < 1 + u8At data 0 * 13 then _ else _) = _
  rw [if_neg (by omega), storeFrom_eq (Nat.le_refl 0) room complete, Nat.sub_zero]

theorem complete_of_accepted (accepted : storeCscheme maxCs cs data = .ok cs') :
    1 + u8At data 0 * 13 ≤ data.length := by
  by_cases empty : data.length < 1
  · rw [storeCscheme, if_pos empty] at accepted
    cases accepted
  rw [storeCscheme, if_neg empty, readU8_of_le (by omega)] at accepted
  change (if data.length < 1 + u8At data 0 * 13 then _ else _) = _ at accepted
  by_cases short : data.length < 1 + u8At data 0 * 13
  · rw [if_pos short] at accepted
    cases accepted
  · omega

theorem takeWhile_eq_filter_of_length_le_one {α : Type} (p : α → Bool) {l : List α}
    (short : l.length ≤ 1) : l.takeWhile p = l.filter p := by
  cases l with
  | nil => rfl
  | cons a l =>
      have none : l = [] := List.eq_nil_of_length_eq_zero (by rw [List.length_cons] at short; omega)
      rw [none, List.takeWhile_cons, List.filter_cons]
      rfl

/-- A record is accepted exactly if it has all the entries it announces, and leaves in `fw->cs` the
usable entries among those considered, in their order and each once, and the other slots as they
were. -/
theorem storeCscheme_usable (room : cs.length = ucodeMaxCs) :
    storeCscheme ucodeMaxCs cs data = .ok cs' ↔
      1 + u8At data 0 * 13 ≤ data.length ∧
        cs' = usable ucodeMaxCs data ++ cs.drop (usable ucodeMaxCs data).length := by
  have one : (considered ucodeMaxCs data).length ≤ 1 := by
    rw [considered, List.length_map, List.length_range]
    exact Nat.min_le_right _ _
  have front : frontFrom data 0 (min (u8At data 0) ucodeMaxCs) = usable ucodeMaxCs data := by
    rw [frontFrom, ← List.range_eq_range']
    exact takeWhile_eq_filter_of_length_le_one _ one
  have stores (complete : 1 + u8At data 0 * 13 ≤ data.length) :
      storeCscheme ucodeMaxCs cs data =
        .ok (usable ucodeMaxCs data ++ cs.drop (usable ucodeMaxCs data).length) := by
    rw [storeCscheme_of_complete room complete, front, stored, List.take_zero, List.nil_append,
      Nat.zero_add]
  constructor
  · intro accepted
    have complete := complete_of_accepted accepted
    exact ⟨complete, Except.ok.inj (accepted.symm.trans (stores complete))⟩
  · rintro ⟨complete, rfl⟩
    exact stores complete

/-- A record of two entries, the first with the selector `00-0F-AC:4`. -/
def twoSchemes : List UInt8 :=
  [2, 0x04, 0xac, 0x0f, 0x00, 0, 8, 6, 0, 3, 0xc0, 6, 8, 2] ++ List.replicate 13 1

theorem storeCscheme_usable_twoSchemes :
    storeCscheme ucodeMaxCs [schemeAt [] 0] twoSchemes = .ok [schemeAt twoSchemes 1] :=
  have room : [schemeAt [] 0].length = ucodeMaxCs := rfl
  (storeCscheme_usable room).mpr ⟨by decide, by decide⟩

end Iwlwifi.Cscheme
