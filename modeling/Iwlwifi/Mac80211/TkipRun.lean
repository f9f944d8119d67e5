import Iwlwifi.Lib.Purge
import Iwlwifi.Mac80211.Tkip

/-!
# Runs of TKIP frames under one key

The phase-1 key is cached with the IV32 it was computed for, but whether it is computed again
is decided by the IV32 of the last frame that was stored.  The two differ once a frame with a
new IV32 has been decrypted and not stored.  As long as no frame finds the cached key of another
IV32, every frame is decrypted under its own key and the rejected ones leave no trace.
-/

namespace Iwlwifi

open Function (update update_idem update_of_ne update_self)

open Lib
/-! ## Phase 1 is injective -/

theorem tkipMixingRound_injective (tk : List UInt8) (i : Nat) :
    Function.Injective fun p1k => tkipMixingRound tk p1k i := by
  intro p q same
  simp only [tkipMixingRound, P1k.mk.injEq] at same
  obtain ⟨same0, same1, same2, same3, same4⟩ := same
  -- from the last word back, each was mixed with the new value of the one before it
  rw [same3] at same4
  have k4 : p.k4 = q.k4 := by
    simpa only [UInt16.add_left_inj] using same4
  rw [same2] at same3
  have k3 : p.k3 = q.k3 := by
    simpa only [UInt16.add_left_inj] using same3
  rw [same1] at same2
  have k2 : p.k2 = q.k2 := by
    simpa only [UInt16.add_left_inj] using same2
  rw [same0] at same1
  have k1 : p.k1 = q.k1 := by
    simpa only [UInt16.add_left_inj] using same1
  rw [k4] at same0
  have k0 : p.k0 = q.k0 := by
    simpa only [UInt16.add_left_inj] using same0
  cases p
  cases q
  simp_all only

theorem eq_of_halves {a b : UInt32} (low : a.toUInt16 = b.toUInt16)
    (high : (a >>> 16).toUInt16 = (b >>> 16).toUInt16) : a = b := by
  have lowNat := congrArg UInt16.toNat low
  have highNat := congrArg UInt16.toNat high
  simp only [UInt32.toNat_toUInt16, UInt32.toNat_shiftRight] at lowNat highNat
  apply UInt32.toNat_inj.mp
  have boundA := a.toNat_lt
  have boundB := b.toNat_lt
  simp [Nat.shiftRight_eq_div_pow] at highNat
  omega

/-- Under one key and for one transmitter, phase 1 tells the IV32s apart. -/
theorem tkipPhase1_injective (tk ta : List UInt8) : Function.Injective (tkipPhase1 tk ta) := by
  have rounds : ∀ (is : List Nat), Function.Injective fun p1k =>
      is.foldl (tkipMixingRound tk) p1k := by
    intro is
    induction is with
    | nil => exact fun p q same => same
    | cons i is ih => exact fun p q same => tkipMixingRound_injective tk i (ih same)
  intro a b same
  have start := rounds (List.range 8) same
  simp only [P1k.mk.injEq] at start
  exact eq_of_halves start.1 start.2.1

/-! ## Where phase 2 is reached -/

/-- The IV of a frame is looked at. -/
def TkipRx.Checked (rx : TkipRx) : Prop :=
  ieee80211IsData rx.skb.frameControl = true ∧ rx.unusable = false

instance (rx : TkipRx) : Decidable rx.Checked := inferInstanceAs (Decidable (_ ∧ _))

/-- A frame passes the checks, those of its IV included. -/
def TkipRx.Decrypts (conf : TkipConf) (rxCtx : TkipCtxRx) (rx : TkipRx) : Prop :=
  rx.Checked ∧ tkipCheckIv conf rxCtx rx.payload = .ok

instance (conf : TkipConf) (rxCtx : TkipCtxRx) (rx : TkipRx) : Decidable (rx.Decrypts conf rxCtx) :=
  inferInstanceAs (Decidable (_ ∧ _))

/-- If a frame is to be decrypted under the cached phase-1 key, the key is the one that was
computed for its IV32. -/
def TkipRx.FindsPhase1 (conf : TkipConf) (key : TkipKey) (rx : TkipRx) : Prop :=
  let rxCtx := key.rx rx.securityIdx
  rx.Decrypts conf rxCtx → rxCtx.ctx.state ≠ .notInit → rxCtx.iv32 = rx.iv32 →
    rxCtx.ctx.p1kIv32 = rx.iv32

instance (conf : TkipConf) (key : TkipKey) (rx : TkipRx) : Decidable (rx.FindsPhase1 conf key) :=
  inferInstanceAs (Decidable (_ → _ → _ → _))

/-- The cached key is that of its IV32. -/
def TkipCtx.Cached (conf : TkipConf) (ctx : TkipCtx) : Prop :=
  ctx.state ≠ .notInit → ctx.p1k = tkipPhase1 conf.tk conf.ta ctx.p1kIv32

section Decryption

variable {cipher : WepCipher} {conf : TkipConf} {key : TkipKey} {rxCtx other : TkipCtxRx}
  {rx : TkipRx}

theorem tkipDecrypt_kept (stops : ¬rx.Decrypts conf rxCtx) :
    (tkipDecrypt cipher conf rxCtx rx).rxCtx = rxCtx ∧
      (tkipDecrypt cipher conf rxCtx rx).p1k = none := by
  rw [tkipDecrypt]
  cases data : ieee80211IsData rx.skb.frameControl with
  | false => exact ⟨rfl, rfl⟩
  | true =>
    cases unusable : rx.unusable with
    | true => exact ⟨rfl, rfl⟩
    | false =>
      have refused : tkipCheckIv conf rxCtx rx.payload ≠ .ok := fun passes =>
        stops ⟨⟨data, unusable⟩, passes⟩
      simp [tkipDecryptData, refused]

theorem tkipDecrypt_decrypted (reaches : rx.Decrypts conf rxCtx)
    (software : rx.status.decrypted = false) :
    (tkipDecrypt cipher conf rxCtx rx).rxCtx =
        { rxCtx with ctx := tkipPhase1Ctx conf rxCtx rx.iv32 } ∧
      (tkipDecrypt cipher conf rxCtx rx).p1k = some (tkipPhase1Ctx conf rxCtx rx.iv32).p1k := by
  obtain ⟨⟨data, usable⟩, passes⟩ := reaches
  rw [tkipDecrypt]
  simp only [data, usable, software, tkipDecryptData, passes, TkipRx.iv32, ne_eq,
    not_true_eq_false, Bool.not_true, Bool.false_eq_true, if_false]
  split <;> exact ⟨rfl, rfl⟩

/-- Two contexts lead to one result. -/
structure TkipDecrypted.Same (out other : TkipDecrypted) : Prop where
  result : out.result = other.result
  skb : out.skb = other.skb
  res : out.res = other.res
  p1k : out.p1k = other.p1k

/-- Where the checks say the same and phase 2 starts from one key, so does the result. -/
theorem tkipDecrypt_same (software : rx.status.decrypted = false)
    (checks : rx.Checked → tkipCheckIv conf other rx.payload = tkipCheckIv conf rxCtx rx.payload)
    (phase1 : rx.Decrypts conf rxCtx →
      (tkipPhase1Ctx conf other rx.iv32).p1k = (tkipPhase1Ctx conf rxCtx rx.iv32).p1k) :
    (tkipDecrypt cipher conf other rx).Same (tkipDecrypt cipher conf rxCtx rx) := by
  simp only [tkipDecrypt]
  cases data : ieee80211IsData rx.skb.frameControl with
  | false =>
    simp only [Bool.not_false, if_true]
    exact ⟨rfl, rfl, rfl, rfl⟩
  | true =>
    cases unusable : rx.unusable with
    | true =>
      simp only [Bool.not_true, Bool.false_eq_true, if_false, if_true]
      exact ⟨rfl, rfl, rfl, rfl⟩
    | false =>
      have check := checks ⟨data, unusable⟩
      by_cases passes : tkipCheckIv conf rxCtx rx.payload = .ok
      · have p1k := phase1 ⟨⟨data, unusable⟩, passes⟩
        rw [TkipRx.iv32] at p1k
        simp only [tkipDecryptData, check, passes, software, p1k, ne_eq, not_true_eq_false,
          Bool.not_true, Bool.false_eq_true, if_false]
        generalize wepDecryptData cipher _ _ = plain
        obtain ⟨icv, data⟩ := plain
        cases icv with
        | true =>
          simp only [if_true, not_true_eq_false, if_false]
          exact ⟨rfl, rfl, rfl, rfl⟩
        | false =>
          simp only [Bool.false_eq_true, if_false, reduceCtorEq, not_false_eq_true, if_true]
          exact ⟨rfl, rfl, rfl, rfl⟩
      · simp only [tkipDecryptData, check, passes, ne_eq, not_false_eq_true, Bool.not_true,
          Bool.false_eq_true, if_false, if_true]
        exact ⟨rfl, rfl, rfl, rfl⟩

theorem tkipDecrypt_replay (checked : rx.Checked)
    (replay : tkipCheckIv conf rxCtx rx.payload = .replay) :
    (tkipDecrypt cipher conf rxCtx rx).res = some .replay := by
  simp [tkipDecrypt, checked.1, checked.2, tkipDecryptData, replay]

/-- The replay check needs an initialised context, so it passes more where fewer are. -/
theorem tkipCheckIv_eq (iv32 : other.iv32 = rxCtx.iv32) (iv16 : other.iv16 = rxCtx.iv16)
    (less : other.ctx.state ≠ .notInit → rxCtx.ctx.state ≠ .notInit) {payload : List UInt8}
    (counts : tkipCheckIv conf rxCtx payload ≠ .replay) :
    tkipCheckIv conf other payload = tkipCheckIv conf rxCtx payload := by
  simp only [tkipCheckIv, iv32, iv16] at counts ⊢
  split
  · rfl
  split
  · rfl
  split
  · rfl
  · next long ext idx =>
      simp only [long, ext, idx, if_false] at counts
      split at counts
      · exact absurd rfl counts
      · next fresh =>
          have passes : ¬(other.ctx.state ≠ .notInit ∧ (tkipIv32 payload < rxCtx.iv32 ∨
              (tkipIv32 payload = rxCtx.iv32 ∧ tkipIv16 payload ≤ rxCtx.iv16))) :=
            fun replay => fresh ⟨less replay.1, replay.2⟩
          rw [if_neg passes, if_neg fresh]

/-! ## Phase 1 -/

theorem tkipPhase1Ctx_init (cached : rxCtx.ctx.Cached conf) (iv32 : UInt32) :
    (tkipPhase1Ctx conf rxCtx iv32).state ≠ .notInit ∧
      (tkipPhase1Ctx conf rxCtx iv32).Cached conf := by
  simp only [tkipPhase1Ctx]
  by_cases again : rxCtx.ctx.state = .notInit ∨ rxCtx.iv32 ≠ iv32
  · simp only [again, if_true]
    split
    · exact ⟨nofun, fun _ => rfl⟩
    · exact ⟨nofun, fun _ => rfl⟩
  · have initialised : rxCtx.ctx.state ≠ .notInit := fun no => again (Or.inl no)
    simp only [again, if_false]
    split
    · exact ⟨nofun, fun _ => cached initialised⟩
    · exact ⟨initialised, cached⟩

/-- The IV32 of the key that phase 2 is given. -/
theorem tkipPhase1Ctx_p1kIv32 {iv32 : UInt32} :
    (tkipPhase1Ctx conf rxCtx iv32).p1kIv32 =
      if rxCtx.ctx.state = .notInit ∨ rxCtx.iv32 ≠ iv32 then iv32 else rxCtx.ctx.p1kIv32 := by
  simp only [tkipPhase1Ctx]
  by_cases again : rxCtx.ctx.state = .notInit ∨ rxCtx.iv32 ≠ iv32
  · simp only [again, if_true]
    split <;> rfl
  · simp only [again, if_false]
    split <;> rfl

end Decryption

/-! ## One frame -/

/-- The context after a frame: only a frame that comes to `update_iv` is stored. -/
def TkipDecrypted.after (conf : TkipConf) (rx : TkipRx) (out : TkipDecrypted) : TkipCtxRx :=
  match out.result, michaelMicVerdict conf { rx.status with decrypted := true }
      rx.michaelLinearizeFails out.skb with
  | .cont, .updateIv _ =>
    { out.rxCtx with iv32 := tkipIv32 rx.payload, iv16 := tkipIv16 rx.payload }
  | _, _ => out.rxCtx

section Receive

variable {cipher : WepCipher} {conf : TkipConf} {key other : TkipKey} {rx : TkipRx}
  {rxCtx : TkipCtxRx} {out out' : TkipDecrypted}

theorem TkipDecrypted.after_ctx : (out.after conf rx).ctx = out.rxCtx.ctx := by
  rw [TkipDecrypted.after]
  split <;> rfl

theorem TkipDecrypted.Same.after (same : out'.Same out) (iv32 : out'.rxCtx.iv32 = out.rxCtx.iv32)
    (iv16 : out'.rxCtx.iv16 = out.rxCtx.iv16) :
    (out'.after conf rx).iv32 = (out.after conf rx).iv32 ∧
      (out'.after conf rx).iv16 = (out.after conf rx).iv16 := by
  simp only [TkipDecrypted.after, same.result, same.skb]
  split
  · exact ⟨rfl, rfl⟩
  · exact ⟨iv32, iv16⟩

theorem tkipReceive_rx :
    (tkipReceive cipher conf key rx).1.rx = update key.rx rx.securityIdx
      ((tkipDecrypt cipher conf (key.rx rx.securityIdx) rx).after conf rx) := by
  rw [tkipReceive]
  generalize tkipDecrypt cipher conf (key.rx rx.securityIdx) rx = out
  obtain ⟨result, skb, rxCtx, res, p1k⟩ := out
  cases result with
  | cont =>
    simp only [michaelMicVerify, TkipDecrypted.after]
    cases michaelMicVerdict conf { rx.status with decrypted := true } rx.michaelLinearizeFails
      skb with
    | updateIv skb => exact update_idem _ _ _
    | cont => rfl
    | drop => rfl
    | micFail => rfl
    | micFailNoKey => rfl
  | dropUnusable => rfl
  | dropMonitor => rfl
  | queued => rfl

theorem tkipReceive_p1k : (tkipReceive cipher conf key rx).2.p1k =
    (tkipDecrypt cipher conf (key.rx rx.securityIdx) rx).p1k := by
  rw [tkipReceive]
  split
  · rw [michaelMicVerify]
    split <;> rfl
  · rfl

theorem tkipReceive_res : (tkipReceive cipher conf key rx).2.res =
    (tkipDecrypt cipher conf (key.rx rx.securityIdx) rx).res := by
  rw [tkipReceive]
  split
  · rw [michaelMicVerify]
    split <;> rfl
  · rfl

/-- What comes after decryption depends on its result alone. -/
theorem tkipReceive_same
    (same : (tkipDecrypt cipher conf (other.rx rx.securityIdx) rx).Same
      (tkipDecrypt cipher conf (key.rx rx.securityIdx) rx)) :
    (tkipReceive cipher conf other rx).2 = (tkipReceive cipher conf key rx).2 := by
  obtain ⟨result, skb, res, p1k⟩ := same
  simp only [tkipReceive, michaelMicVerify, result, skb, res, p1k]
  split
  · split <;> rfl
  · rfl

theorem tkipDecrypt_cont (goesOn : (tkipDecrypt cipher conf rxCtx rx).result = .cont) :
    tkipDecrypt cipher conf rxCtx rx = ⟨.cont, rx.skb, rxCtx, none, none⟩ ∧
        ieee80211IsData rx.skb.frameControl = false ∨
      (tkipDecrypt cipher conf rxCtx rx).res = some .ok ∧ rx.Decrypts conf rxCtx := by
  simp only [tkipDecrypt] at goesOn ⊢
  cases data : ieee80211IsData rx.skb.frameControl with
  | false => exact Or.inl ⟨rfl, rfl⟩
  | true =>
    right
    simp only [data, Bool.not_true, Bool.false_eq_true, if_false] at goesOn ⊢
    cases unusable : rx.unusable with
    | true => simp [unusable] at goesOn
    | false =>
      simp only [unusable, Bool.false_eq_true, if_false] at goesOn ⊢
      split at goesOn
      · cases goesOn
      · next passes =>
          have ok := not_not.mp passes
          rw [if_neg passes]
          refine ⟨congrArg some ok, ⟨data, unusable⟩, ?_⟩
          by_contra refused
          rw [tkipDecryptData, if_pos refused] at ok
          exact refused ok

/-- A frame that is not decrypted leaves the context as it is. -/
theorem TkipDecrypted.after_kept (stops : ¬rx.Decrypts conf rxCtx) :
    (tkipDecrypt cipher conf rxCtx rx).after conf rx = rxCtx := by
  have kept := (@tkipDecrypt_kept cipher conf rxCtx rx stops).1
  rw [TkipDecrypted.after]
  split
  · next goesOn verified =>
      rcases tkipDecrypt_cont goesOn with ⟨passedOn, notData⟩ | ⟨-, decrypts⟩
      · have absent : ieee80211IsDataPresent rx.skb.frameControl = false :=
          Bool.eq_false_iff.mpr fun present =>
            Bool.false_ne_true (notData.symm.trans (ieee80211IsData_of_isDataPresent present))
        rw [passedOn, michaelMicVerdict, absent] at verified
        cases verified
      · exact absurd decrypts stops
  · exact kept

/-- A rejected frame is not stored. -/
theorem TkipDecrypted.after_rejected
    (rejected : (tkipReceive cipher conf key rx).2.rejected = true) :
    (tkipDecrypt cipher conf (key.rx rx.securityIdx) rx).after conf rx =
      (tkipDecrypt cipher conf (key.rx rx.securityIdx) rx).rxCtx := by
  rw [TkipDecrypted.after]
  split
  · next goesOn verified =>
      have passed : (tkipDecrypt cipher conf (key.rx rx.securityIdx) rx).res = none ∨
          (tkipDecrypt cipher conf (key.rx rx.securityIdx) rx).res = some .ok := by
        rcases tkipDecrypt_cont goesOn with ⟨passedOn, -⟩ | ⟨ok, -⟩
        · exact Or.inl (congrArg TkipDecrypted.res passedOn)
        · exact Or.inr ok
      simp only [tkipReceive, goesOn, michaelMicVerify, verified, TkipOutcome.rejected] at rejected
      rcases passed with none | ok
      · simp [none] at rejected
      · simp [ok] at rejected
  · rfl

end Receive

/-! ## The cached keys -/

section Cached

variable {cipher : WepCipher} {conf : TkipConf} {key : TkipKey} {rx : TkipRx}

theorem tkipDecrypt_cached {rxCtx : TkipCtxRx} (software : rx.status.decrypted = false)
    (cached : rxCtx.ctx.Cached conf) :
    (tkipDecrypt cipher conf rxCtx rx).rxCtx.ctx.Cached conf := by
  by_cases reaches : rx.Decrypts conf rxCtx
  · rw [(tkipDecrypt_decrypted reaches software).1]
    exact (tkipPhase1Ctx_init cached rx.iv32).2
  · rw [(tkipDecrypt_kept reaches).1]
    exact cached

theorem tkipReceive_cached (software : rx.status.decrypted = false)
    (cached : ∀ idx, (key.rx idx).ctx.Cached conf) (idx : Nat) :
    ((tkipReceive cipher conf key rx).1.rx idx).ctx.Cached conf := by
  rw [tkipReceive_rx]
  rcases eq_or_ne idx rx.securityIdx with rfl | other
  · rw [update_self, TkipDecrypted.after_ctx]
    exact tkipDecrypt_cached software (cached rx.securityIdx)
  · rw [update_of_ne other]
    exact cached idx

/-- The key that decrypts a frame is its own exactly if it finds the one for its IV32. -/
theorem tkipReceive_p1k_iff (software : rx.status.decrypted = false)
    (cached : ∀ idx, (key.rx idx).ctx.Cached conf) :
    (∀ p1k, (tkipReceive cipher conf key rx).2.p1k = some p1k →
        p1k = tkipPhase1 conf.tk conf.ta rx.iv32) ↔ rx.FindsPhase1 conf key := by
  rw [tkipReceive_p1k]
  by_cases reaches : rx.Decrypts conf (key.rx rx.securityIdx)
  · have after := tkipPhase1Ctx_init (cached rx.securityIdx) rx.iv32
    have used := after.2 after.1
    rw [(tkipDecrypt_decrypted reaches software).2]
    simp only [Option.some.injEq, forall_eq', used, (tkipPhase1_injective conf.tk conf.ta).eq_iff,
      tkipPhase1Ctx_p1kIv32]
    constructor
    · intro own _ initialised current
      rwa [if_neg (not_or.mpr ⟨initialised, not_not.mpr current⟩)] at own
    · intro finds
      split
      · rfl
      · next reused =>
          obtain ⟨initialised, current⟩ := not_or.mp reused
          exact finds reaches initialised (not_not.mp current)
  · rw [(tkipDecrypt_kept reaches).2]
    exact ⟨fun _ decrypts => absurd decrypts reaches, fun _ => nofun⟩

end Cached

/-! ## The run without the rejected frames -/

/-- The contexts of the whole run and of the one on the frames that count.  They have stored
the same frames; where the second has run phase 1 so has the first, and if the first has the
key of the current IV32, so has the second. -/
structure TkipCtxRx.Shadows (conf : TkipConf) (rxCtx other : TkipCtxRx) : Prop where
  iv32 : other.iv32 = rxCtx.iv32
  iv16 : other.iv16 = rxCtx.iv16
  cached : rxCtx.ctx.Cached conf
  cached' : other.ctx.Cached conf
  initialised : other.ctx.state ≠ .notInit → rxCtx.ctx.state ≠ .notInit
  current : other.ctx.state ≠ .notInit → rxCtx.ctx.p1kIv32 = rxCtx.iv32 →
    other.ctx.p1kIv32 = rxCtx.iv32

namespace TkipCtxRx.Shadows

variable {cipher : WepCipher} {conf : TkipConf} {rxCtx other : TkipCtxRx} {rx : TkipRx}

/-- A frame that is not stored does not disturb the second run. -/
theorem rejected (shadows : rxCtx.Shadows conf other) (software : rx.status.decrypted = false) :
    (tkipDecrypt cipher conf rxCtx rx).rxCtx.Shadows conf other := by
  by_cases reaches : rx.Decrypts conf rxCtx
  · rw [(tkipDecrypt_decrypted reaches software).1]
    have after := tkipPhase1Ctx_init shadows.cached rx.iv32
    refine ⟨shadows.iv32, shadows.iv16, after.2, shadows.cached', fun _ => after.1, ?_⟩
    intro initialised current
    simp only [tkipPhase1Ctx_p1kIv32] at current
    split at current
    · next again =>
        rcases again with no | moved
        · exact absurd no (shadows.initialised initialised)
        · exact absurd current.symm moved
    · exact shadows.current initialised current
  · rw [(tkipDecrypt_kept reaches).1]
    exact shadows

/-- Both runs decrypt a frame that finds its key under that key. -/
theorem phase1 (shadows : rxCtx.Shadows conf other) {iv32 : UInt32}
    (finds : rxCtx.ctx.state ≠ .notInit → rxCtx.iv32 = iv32 → rxCtx.ctx.p1kIv32 = iv32) :
    (tkipPhase1Ctx conf rxCtx iv32).p1kIv32 = iv32 ∧
      (tkipPhase1Ctx conf other iv32).p1kIv32 = iv32 := by
  simp only [tkipPhase1Ctx_p1kIv32]
  constructor
  · split
    · rfl
    · next reused =>
        obtain ⟨initialised, current⟩ := not_or.mp reused
        exact finds initialised (not_not.mp current)
  · split
    · rfl
    · next reused =>
        obtain ⟨initialised, current⟩ := not_or.mp reused
        have same : rxCtx.iv32 = iv32 := shadows.iv32.symm.trans (not_not.mp current)
        have own := finds (shadows.initialised initialised) same
        exact (shadows.current initialised (own.trans same.symm)).trans same

/-- A frame that counts is decrypted alike in both runs, and afterwards the contexts agree
again. -/
theorem counted (shadows : rxCtx.Shadows conf other) (software : rx.status.decrypted = false)
    (finds : rx.Decrypts conf rxCtx → rxCtx.ctx.state ≠ .notInit → rxCtx.iv32 = rx.iv32 →
      rxCtx.ctx.p1kIv32 = rx.iv32)
    (checks : rx.Checked → tkipCheckIv conf other rx.payload = tkipCheckIv conf rxCtx rx.payload) :
    (tkipDecrypt cipher conf other rx).Same (tkipDecrypt cipher conf rxCtx rx) ∧
      ((tkipDecrypt cipher conf rxCtx rx).after conf rx).Shadows conf
        ((tkipDecrypt cipher conf other rx).after conf rx) := by
  by_cases reaches : rx.Decrypts conf rxCtx
  · have alsoReaches : rx.Decrypts conf other :=
      ⟨reaches.1, (checks reaches.1).trans reaches.2⟩
    obtain ⟨own, otherOwn⟩ := shadows.phase1 (finds reaches)
    have after := tkipPhase1Ctx_init shadows.cached rx.iv32
    have otherAfter := tkipPhase1Ctx_init shadows.cached' rx.iv32
    have p1k : (tkipPhase1Ctx conf other rx.iv32).p1k = (tkipPhase1Ctx conf rxCtx rx.iv32).p1k := by
      rw [after.2 after.1, otherAfter.2 otherAfter.1, own, otherOwn]
    have same := @tkipDecrypt_same cipher conf rxCtx other rx software checks fun _ => p1k
    have left := (@tkipDecrypt_decrypted cipher conf rxCtx rx reaches software).1
    have right := (@tkipDecrypt_decrypted cipher conf other rx alsoReaches software).1
    obtain ⟨iv32, iv16⟩ := @TkipDecrypted.Same.after conf rx _ _ same
      (by rw [left, right]; exact shadows.iv32) (by rw [left, right]; exact shadows.iv16)
    refine ⟨same, iv32, iv16, ?_, ?_, ?_, ?_⟩
    · rw [TkipDecrypted.after_ctx, left]
      exact after.2
    · rw [TkipDecrypted.after_ctx, right]
      exact otherAfter.2
    · intro _
      rw [TkipDecrypted.after_ctx, left]
      exact after.1
    · intro _ current
      rw [TkipDecrypted.after_ctx, left, own] at current
      rw [TkipDecrypted.after_ctx, right, otherOwn]
      exact current
  · have alsoStops : ¬rx.Decrypts conf other := fun also =>
      reaches ⟨also.1, (checks also.1).symm.trans also.2⟩
    refine ⟨tkipDecrypt_same software checks fun decrypts => absurd decrypts reaches, ?_⟩
    rw [TkipDecrypted.after_kept reaches, TkipDecrypted.after_kept alsoStops]
    exact shadows

end TkipCtxRx.Shadows

/-! ## Every run -/

/-- A frame that the hardware has not decrypted. -/
abbrev SoftwareTkipRx := { rx : TkipRx // rx.status.decrypted = false }

def softwareReceive (cipher : WepCipher) (conf : TkipConf) (key : TkipKey)
    (frame : SoftwareTkipRx) : TkipKey × TkipOutcome :=
  tkipReceive cipher conf key frame.val

/-- Every frame is decrypted under the phase-1 key of its own IV32, and without the rejected
frames the others come out as they did. -/
def RejectedTraceless (cipher : WepCipher) (conf : TkipConf) (key : TkipKey)
    (frames : List SoftwareTkipRx) : Prop :=
  let entries := trace (softwareReceive cipher conf) key frames
  let counting := purge (fun outcome => !outcome.rejected) entries
  (∀ entry ∈ entries, ∀ p1k, entry.2.p1k = some p1k →
      p1k = tkipPhase1 conf.tk conf.ta entry.1.val.iv32) ∧
    trace (softwareReceive cipher conf) key (counting.map Prod.fst) = counting

section Run

variable (cipher : WepCipher) (conf : TkipConf)

theorem trace_without_rejected {key : TkipKey} {frames : List SoftwareTkipRx}
    (cached : ∀ idx, (key.rx idx).ctx.Cached conf)
    (run : Admissible (fun key frame => (softwareReceive cipher conf key frame).1)
      (fun key frame => frame.val.FindsPhase1 conf key) key frames) :
    let counting := purge (fun outcome => !outcome.rejected)
      (trace (softwareReceive cipher conf) key frames)
    trace (softwareReceive cipher conf) key (counting.map Prod.fst) = counting := by
  apply @trace_purge _ _ _ _ _ _
    (fun key other : TkipKey => ∀ idx, (key.rx idx).Shadows conf (other.rx idx)) _ _ _ ?_ ?_ run
  · exact fun idx => ⟨rfl, rfl, cached idx, cached idx, id, fun _ => id⟩
  · intro key other frame shadows finds counts
    obtain ⟨rx, software⟩ := frame
    have here := shadows rx.securityIdx
    have checks : rx.Checked → tkipCheckIv conf (other.rx rx.securityIdx) rx.payload =
        tkipCheckIv conf (key.rx rx.securityIdx) rx.payload := by
      intro checked
      apply tkipCheckIv_eq here.iv32 here.iv16 here.initialised
      intro replay
      have res := (@tkipReceive_res cipher conf key rx).trans (tkipDecrypt_replay checked replay)
      simp [softwareReceive, TkipOutcome.rejected, res] at counts
    obtain ⟨same, after⟩ := @TkipCtxRx.Shadows.counted cipher _ _ _ _ here software finds checks
    refine ⟨tkipReceive_same same, fun idx => ?_⟩
    simp only [softwareReceive, tkipReceive_rx]
    rcases eq_or_ne idx rx.securityIdx with rfl | elsewhere
    · simpa only [update_self] using after
    · simpa only [update_of_ne elsewhere] using shadows idx
  · intro key other frame shadows finds rejected idx
    obtain ⟨rx, software⟩ := frame
    have dropped : (tkipReceive cipher conf key rx).2.rejected = true := by
      simpa [softwareReceive] using rejected
    simp only [softwareReceive, tkipReceive_rx, TkipDecrypted.after_rejected dropped]
    rcases eq_or_ne idx rx.securityIdx with rfl | elsewhere
    · simpa only [update_self] using (shadows rx.securityIdx).rejected software
    · simpa only [update_of_ne elsewhere] using shadows idx

/-- Exactly in the runs in which no frame finds the cached key of another IV32 is every frame
decrypted under its own phase-1 key and do the rejected frames leave no trace. -/
theorem rejectedTraceless_iff (iv32 : UInt32) (iv16 : UInt16) (frames : List SoftwareTkipRx) :
    RejectedTraceless cipher conf (.alloc iv32 iv16) frames ↔
      Admissible (fun key frame => (softwareReceive cipher conf key frame).1)
        (fun key frame => frame.val.FindsPhase1 conf key) (.alloc iv32 iv16) frames := by
  have start : ∀ idx, ((TkipKey.alloc iv32 iv16).rx idx).ctx.Cached conf :=
    fun _ initialised => absurd rfl initialised
  have own := @Admissible.forall_trace _ _ _ (softwareReceive cipher conf)
    (fun key frame => frame.val.FindsPhase1 conf key)
    (fun key => ∀ idx, (key.rx idx).ctx.Cached conf)
    (fun frame outcome => ∀ p1k, outcome.p1k = some p1k →
      p1k = tkipPhase1 conf.tk conf.ta frame.val.iv32) (.alloc iv32 iv16) frames
    (fun _ frame cached => tkipReceive_cached frame.property cached)
    (fun _ frame cached => tkipReceive_p1k_iff frame.property cached) start
  exact ⟨fun traceless => own.mp traceless.1,
    fun run => ⟨own.mpr run, trace_without_rejected cipher conf start run⟩⟩

end Run

/-! ## A forged frame before the next one -/

/-- Without IV and ICV the frame is its header and what was in between. -/
theorem tkipDecrypt_skb {cipher : WepCipher} {conf : TkipConf} {rxCtx : TkipCtxRx} {rx : TkipRx}
    (reaches : rx.Decrypts conf rxCtx) (software : rx.status.decrypted = false)
    (icv : rx.status.icvStripped = false)
    (goesOn : (tkipDecrypt cipher conf rxCtx rx).result = .cont) :
    ∃ data, data.length = rx.payload.length - 12 ∧
      (tkipDecrypt cipher conf rxCtx rx).skb = rx.skb.take rx.skb.hdrlen ++ data := by
  obtain ⟨⟨data, usable⟩, passes⟩ := reaches
  have long : 12 ≤ rx.payload.length := by
    by_contra short
    simp [TkipRx.unusable, show rx.payload.length < 12 by omega] at usable
  have header : (rx.skb.take rx.skb.hdrlen).length = rx.skb.hdrlen :=
    List.length_take_of_le rx.hdrlen_le
  have whole : rx.payload.length = rx.skb.length - rx.skb.hdrlen := List.length_drop
  simp only [tkipDecrypt, data, usable, tkipDecryptData, passes, software, icv, Bool.not_true,
    Bool.false_eq_true, ne_eq, not_true_eq_false, if_false] at goesOn ⊢
  have buffer : (wepDecryptData cipher (tkipMixingPhase2 conf.tk
      (tkipPhase1Ctx conf rxCtx (tkipIv32 rx.payload)).p1k (tkipIv16 rx.payload))
      (rx.payload.drop 8)).2.length = rx.payload.length - 8 := by
    rw [wepDecryptData]
    split
    · exact List.length_drop
    · exact (cipher.arc4_length _ _).trans List.length_drop
  generalize wepDecryptData cipher _ _ = plain at buffer goesOn ⊢
  obtain ⟨valid, plain⟩ := plain
  cases valid with
  | false => simp at goesOn
  | true =>
    simp only [if_true, not_true_eq_false, if_false]
    refine ⟨plain.take (rx.payload.length - 12), ?_, ?_⟩
    · rw [List.length_take]
      simp only at buffer
      omega
    · have iv : (rx.payload.take 8).length = 8 := List.length_take_of_le (by omega)
      have trimmed : (rx.skb.take rx.skb.hdrlen ++ (rx.payload.take 8 ++ plain)).length - 4 =
          (rx.skb.take rx.skb.hdrlen).length +
            ((rx.payload.take 8).length + (rx.payload.length - 12)) := by
        simp only [List.length_append]
        simp only at buffer
        omega
      rw [trimmed, List.take_length_add_append, List.take_length_add_append]
      congr 1
      · rw [List.take_append_of_le_length (by omega), List.take_of_length_le (by omega)]
      · rw [← List.append_assoc]
        exact List.drop_left' (by rw [List.length_append, header, iv])

/-- A data frame from the access point with the given IV and an ICV, and nothing in between. -/
def emptyTkipFrame (iv32 iv16 : UInt8) : SoftwareTkipRx :=
  ⟨{ skb := [0x08, 0x42, 0, 0, 2, 0, 0, 0, 0, 2, 2, 0, 0, 0, 0, 1, 2, 0, 0, 0, 0, 1, 0, 0] ++
        [0, 0x20, iv16, 0x20, iv32, 0, 0, 0, 0, 0, 0, 0]
     status := ⟨false, false, false, false, false⟩
     hasSta := true
     securityIdx := 0
     linearizeFails := false
     michaelLinearizeFails := false
     hdrlen_le := by
      have data : Skb.hdrlen ([0x08, 0x42, 0, 0, 2, 0, 0, 0, 0, 2, 2, 0, 0, 0, 0, 1, 2, 0, 0, 0, 0,
          1, 0, 0] ++ [0, 0x20, iv16, 0x20, iv32, 0, 0, 0, 0, 0, 0, 0]) = 24 := by
        simp only [Skb.hdrlen, Skb.frameControl, Skb.byte, List.cons_append, List.getD_cons_zero,
          List.getD_cons_succ]
        decide +kernel
      rw [data]
      simp only [List.length_append, List.length_cons, List.length_nil]
      omega }, rfl⟩

def stationTkipConf : TkipConf :=
  ⟨0, (List.range 32).map UInt8.ofNat, [2, 0, 0, 0, 0, 1], false, false⟩

/-- The first frame has the next IV32 and is too short for a MIC.  The second is decrypted with
the first one's phase-1 key, under whatever cipher. -/
theorem not_rejectedTraceless : ¬∃ cipher, RejectedTraceless cipher stationTkipConf (.alloc 0 0)
    [emptyTkipFrame 1 0, emptyTkipFrame 0 1] := by
  rintro ⟨cipher, traceless⟩
  have fresh : ∀ idx, ((TkipKey.alloc 0 0).rx idx).ctx.Cached stationTkipConf :=
    fun _ initialised => absurd rfl initialised
  have reaches : (emptyTkipFrame 1 0).val.Decrypts stationTkipConf ((TkipKey.alloc 0 0).rx 0) := by
    decide +kernel
  have forged := @tkipDecrypt_decrypted cipher _ _ _ reaches (emptyTkipFrame 1 0).property
  -- the first frame ends before the MIC, so its IV32 is not stored
  have unstored : (tkipDecrypt cipher stationTkipConf ((TkipKey.alloc 0 0).rx 0)
      (emptyTkipFrame 1 0).val).after stationTkipConf (emptyTkipFrame 1 0).val =
      ⟨tkipPhase1Ctx stationTkipConf ((TkipKey.alloc 0 0).rx 0) 1, 0, 0⟩ := by
    rw [TkipDecrypted.after]
    split
    · next goesOn verified =>
        obtain ⟨data, length, skb⟩ :=
          tkipDecrypt_skb reaches (emptyTkipFrame 1 0).property rfl goesOn
        have nothing : data = [] := List.length_eq_zero_iff.mp (length.trans (by decide +kernel))
        have tooShort : michaelMicVerdict stationTkipConf ⟨true, false, false, false, false⟩ false
            ((emptyTkipFrame 1 0).val.skb.take (emptyTkipFrame 1 0).val.skb.hdrlen ++ []) =
            .drop := by
          decide +kernel
        rw [skb, nothing] at verified
        cases tooShort.symm.trans verified
    · exact forged.1
  have after : (softwareReceive cipher stationTkipConf (.alloc 0 0) (emptyTkipFrame 1 0)).1.rx
      (emptyTkipFrame 0 1).val.securityIdx =
      ⟨tkipPhase1Ctx stationTkipConf ((TkipKey.alloc 0 0).rx 0) 1, 0, 0⟩ := by
    rw [softwareReceive, tkipReceive_rx]
    exact unstored
  have second := traceless.1 (_, _) (List.mem_cons_of_mem _ List.mem_cons_self)
  have finds := (@tkipReceive_p1k_iff cipher stationTkipConf _ _ (emptyTkipFrame 0 1).property
    (tkipReceive_cached (emptyTkipFrame 1 0).property fresh)).mp second
  have own := finds (after ▸ by decide +kernel) (after ▸ by decide +kernel)
    (after ▸ by decide +kernel)
  exact absurd ((congrArg (fun rxCtx => rxCtx.ctx.p1kIv32) after).symm.trans own)
    (by decide +kernel)

end Iwlwifi
