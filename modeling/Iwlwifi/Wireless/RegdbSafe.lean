import Iwlwifi.Wireless.Regdb

/-!
# Queries of a validated regulatory database

The validation looks at the length of a rule without asking that as many bytes are in the file,
and it ends the list of the countries with the file, whereas a query ends it only at an entry
without a collection.  A query of a validated file therefore stays in it if and only if the list
ends in the file and the rules of the country fit (`ListEnds`).
-/

namespace Iwlwifi

open Lib

/-! ## WMM rules -/

section Wmm

variable {ε : Type} {db : List UInt8}

theorem validWmmAc_of_le {ac : Nat} (inside : ac + 4 ≤ db.length) :
    (validWmmAc db ac : BoundedRead ε Bool) =
      .ok (decide (ecw2cw ((u8At db ac &&& 0xf0) >>> 4) < ecw2cw (u8At db ac &&& 0x0f)) &&
        decide (1 ≤ u8At db (ac + 1))) := by
  have ecw : ac + 1 ≤ db.length := by omega
  have aifsn : ac + 1 + 1 ≤ db.length := by omega
  rw [validWmmAc, readU8_of_le ecw, readU8_of_le aifsn]
  rfl

/-- A WMM rule in the file is validated the same in the memory around it. -/
theorem validWmmAcs_append (beyond : List UInt8) {left ac : Nat}
    (inside : ac + 4 * left ≤ db.length) :
    (validWmmAcs (db ++ beyond) left ac : BoundedRead ε Bool) = validWmmAcs db left ac := by
  induction left generalizing ac with
  | zero => rfl
  | succ left ih =>
    have first : ac + 4 ≤ db.length := by omega
    have long : ac + 4 ≤ (db ++ beyond).length := by
      rw [List.length_append]
      omega
    have rest : ac + 4 + 4 * left ≤ db.length := by omega
    rw [validWmmAcs, validWmmAcs, validWmmAc_of_le first, validWmmAc_of_le long,
      u8At_append beyond (by omega : ac < db.length),
      u8At_append beyond (by omega : ac + 1 < db.length), ih rest]

theorem validWmmAcs_ac {left ac : Nat} (inside : ac + 4 * left ≤ db.length)
    (valid : (validWmmAcs db left ac : BoundedRead ε Bool) = .ok true) (i : Nat)
    (index : i < left) :
    (validWmmAc db (ac + 4 * i) : BoundedRead ε Bool) = .ok true := by
  induction left generalizing ac i with
  | zero => omega
  | succ left ih =>
    have first : ac + 4 ≤ db.length := by omega
    rw [validWmmAcs, validWmmAc_of_le first] at valid
    simp only [bind, Except.bind] at valid
    split at valid
    · next validFirst =>
        cases i with
        | zero => rw [Nat.mul_zero, Nat.add_zero, validWmmAc_of_le first, validFirst]
        | succ i =>
          have validRest := ih (by omega) valid i (by omega)
          rwa [show ac + 4 * (i + 1) = ac + 4 + 4 * i by omega]
    · cases valid

/-- What `valid_wmm` asks of an entry, of the entry that a query makes of it. -/
def WmmAc.Valid (ac : WmmAc) : Prop := ac.cwMin < ac.cwMax ∧ 1 ≤ ac.aifsn

def WmmRule.Valid (wmm : WmmRule) : Prop := ∀ ac ∈ wmm.client ++ wmm.ap, ac.Valid

theorem ecw2cw_lt {ecw : Nat} (nibble : ecw ≤ 15) : ecw2cw ecw < 2 ^ 16 := by
  have power : 2 ^ ecw ≤ 2 ^ 15 := Nat.pow_le_pow_right (by decide) nibble
  rw [ecw2cw]
  omega

theorem readWmmAc_spec {ac : Nat} (inside : ac + 4 ≤ db.length)
    (valid : (validWmmAc db ac : BoundedRead Int Bool) = .ok true) :
    ∃ entry, readWmmAc db ac = .ok entry ∧ entry.Valid := by
  rw [validWmmAc_of_le inside] at valid
  have checks := Except.ok.inj valid
  simp only [Bool.and_eq_true, decide_eq_true_eq] at checks
  have ecw : ac + 1 ≤ db.length := by omega
  have aifsn : ac + 1 + 1 ≤ db.length := by omega
  have cot : ac + 2 + 2 ≤ db.length := by omega
  rw [readWmmAc, readU8_of_le ecw, readU8_of_le aifsn, readBe16_of_le cot]
  refine ⟨_, rfl, ?_, ?_⟩
  · have high : (u8At db ac &&& 0xf0) >>> 4 ≤ 15 := by
      have masked : u8At db ac &&& 0xf0 ≤ 0xf0 := Nat.and_le_right
      rw [Nat.shiftRight_eq_div_pow]
      omega
    have low : u8At db ac &&& 0x0f ≤ 15 := Nat.and_le_right
    rw [UInt16.lt_iff_toNat_lt, UInt16.toNat_ofNat_of_lt' (ecw2cw_lt high),
      UInt16.toNat_ofNat_of_lt' (ecw2cw_lt low)]
    exact checks.1
  · rw [UInt8.le_iff_toNat_le, UInt8.toNat_ofNat_of_lt' (u8At_lt db (ac + 1))]
    exact checks.2

theorem readWmmAcs_spec {left ac : Nat} (inside : ac + 4 * left ≤ db.length)
    (valid : ∀ i < left, (validWmmAc db (ac + 4 * i) : BoundedRead Int Bool) = .ok true) :
    ∃ entries, readWmmAcs db left ac = .ok entries ∧ ∀ entry ∈ entries, entry.Valid := by
  induction left generalizing ac with
  | zero => exact ⟨[], rfl, nofun⟩
  | succ left ih =>
    obtain ⟨first, readsFirst, validFirst⟩ :=
      @readWmmAc_spec db ac (by omega) (valid 0 (by omega))
    obtain ⟨rest, readsRest, validRest⟩ := @ih (ac + 4) (by omega) fun i index => by
      have next := valid (i + 1) (by omega)
      rwa [show ac + 4 * (i + 1) = ac + 4 + 4 * i by omega] at next
    refine ⟨first :: rest, ?_, ?_⟩
    · rw [readWmmAcs, readsFirst, readsRest]
      rfl
    · intro entry member
      rcases List.mem_cons.mp member with rfl | member
      · exact validFirst
      · exact validRest entry member

/-- A query sets a WMM rule that lies in the file and is valid. -/
theorem setWmmRule_spec {country rule : Nat} {rrule : RegRule} (inside : rule + 20 ≤ db.length)
    (wmmInside : be16At db (rule + 18) * 4 + 32 ≤ db.length)
    (valid : (validWmm db (be16At db (rule + 18) * 4) : BoundedRead Int Bool) = .ok true) :
    ∃ wmm, setWmmRule db country rule rrule = .ok { rrule with wmmRule := some wmm } ∧
      wmm.Valid := by
  have acs := validWmmAcs_ac (by omega) valid
  obtain ⟨client, readsClient, validClient⟩ :=
    @readWmmAcs_spec db 4 (be16At db (rule + 18) * 4) (by omega) fun i index =>
      acs i (by omega)
  obtain ⟨ap, readsAp, validAp⟩ :=
    @readWmmAcs_spec db 4 (be16At db (rule + 18) * 4 + 16) (by omega) fun i index => by
      have entry := acs (4 + i) (by omega)
      rwa [show be16At db (rule + 18) * 4 + 4 * (4 + i) =
        be16At db (rule + 18) * 4 + 16 + 4 * i by omega] at entry
  refine ⟨⟨client, ap⟩, ?_, ?_⟩
  · have ptr : rule + 18 + 2 ≤ db.length := by omega
    rw [setWmmRule, readBe16_of_le ptr]
    simp only [bind, Except.bind, valid, readsClient, readsAp]
    rfl
  · intro ac member
    rcases List.mem_append.mp member with member | member
    · exact validClient ac member
    · exact validAp ac member

end Wmm

/-! ## The rules of a country -/

section Country

variable {db beyond : List UInt8} {country rule : Nat}

/-- How many bytes of a rule its length says are read. -/
def ruleEnd (len : Nat) : Nat := if len < 18 then 16 else if len < 20 then 18 else 20

/-- The rule lies in the file. -/
def RuleFits (db : List UInt8) (rule : Nat) : Prop :=
  rule + ruleEnd (u8At db rule) ≤ db.length

instance : Decidable (RuleFits db rule) := inferInstanceAs (Decidable (_ ≤ _))

/-- What the validation of a rule leaves. -/
structure RuleChecked (db : List UInt8) (rule : Nat) : Prop where
  length : rule + 1 ≤ db.length
  mandatory : 16 ≤ u8At db rule
  wmm : rule + 20 ≤ db.length → 20 ≤ u8At db rule →
    be16At db (rule + 18) * 4 + 32 ≤ db.length ∧
      (validWmm db (be16At db (rule + 18) * 4) : BoundedRead Int Bool) = .ok true

theorem ruleChecked_of_validRule {rulePtr : Nat}
    (valid : (validRule (db ++ beyond) db.length rulePtr : BoundedRead Int Bool) = .ok true) :
    RuleChecked db (rulePtr * 4) := by
  rw [validRule] at valid
  split at valid
  · cases valid
  · next here =>
      have length : rulePtr * 4 + 1 ≤ db.length := by omega
      have inMemory : rulePtr * 4 + 1 ≤ (db ++ beyond).length := by
        rw [List.length_append]
        omega
      rw [readU8_of_le inMemory, u8At_append beyond (by omega)] at valid
      simp only [bind, Except.bind] at valid
      split at valid
      · cases valid
      · next long =>
          refine ⟨length, by omega, fun fits hasWmm => ?_⟩
          have ptr : rulePtr * 4 + 18 + 2 ≤ (db ++ beyond).length := by
            rw [List.length_append]
            omega
          rw [if_pos hasWmm, readBe16_of_le ptr, be16At_append beyond (by omega)] at valid
          simp only at valid
          split at valid
          · cases valid
          · next inside =>
              refine ⟨by omega, ?_⟩
              rwa [validWmm, validWmmAcs_append beyond (by omega)] at valid

/-- A query of a rule stays in the file only if the rule lies there. -/
theorem regdbQueryRule_fits (inBounds : InBounds (regdbQueryRule db country rule)) :
    RuleFits db rule := by
  rw [regdbQueryRule] at inBounds
  simp only [inBounds_readBe32_bind, inBounds_readBe16_bind, inBounds_readU8_bind] at inBounds
  obtain ⟨-, -, mandatory, -, -, -, optional⟩ := inBounds
  rw [RuleFits, ruleEnd]
  split
  · omega
  · next long =>
      rw [if_pos (by omega), inBounds_readBe16_bind] at optional
      obtain ⟨cac, sets⟩ := optional
      split
      · omega
      · next longer =>
          rw [if_pos (by omega), setWmmRule, inBounds_readBe16_bind] at sets
          omega

theorem regdbQueryRule_spec (checked : RuleChecked db rule) (fits : RuleFits db rule) :
    ∃ rrule, regdbQueryRule db country rule = .ok rrule ∧
      ∀ wmm, rrule.wmmRule = some wmm → wmm.Valid := by
  have mandatory := checked.mandatory
  rw [RuleFits, ruleEnd] at fits
  have start : rule + 4 + 4 ≤ db.length := by split_ifs at fits <;> omega
  have stop : rule + 8 + 4 ≤ db.length := by split_ifs at fits <;> omega
  have maxBw : rule + 12 + 4 ≤ db.length := by split_ifs at fits <;> omega
  have maxEirp : rule + 2 + 2 ≤ db.length := by omega
  have flags : rule + 1 + 1 ≤ db.length := by omega
  rw [regdbQueryRule, readBe32_of_le start, readBe32_of_le stop, readBe32_of_le maxBw,
    readBe16_of_le maxEirp, readU8_of_le flags, readU8_of_le checked.length]
  simp only [bind, Except.bind]
  by_cases cac : 18 ≤ u8At db rule
  · have cacInside : rule + 16 + 2 ≤ db.length := by split_ifs at fits <;> omega
    rw [if_pos cac, readBe16_of_le cacInside]
    simp only
    split
    · next hasWmm =>
        have whole : rule + 20 ≤ db.length := by split_ifs at fits <;> omega
        obtain ⟨wmmInside, valid⟩ := checked.wmm whole hasWmm
        obtain ⟨wmm, sets, validWmm⟩ := setWmmRule_spec whole wmmInside valid
        rw [sets]
        refine ⟨_, rfl, fun other same => ?_⟩
        cases same
        exact validWmm
    · exact ⟨_, rfl, fun wmm none => nomatch none⟩
  · rw [if_neg cac]
    simp only [pure, Except.pure]
    rw [if_neg (by omega)]
    exact ⟨_, rfl, fun wmm none => nomatch none⟩

/-- The rule that entry `i` of the rule pointers points to. -/
def ruleAt (db : List UInt8) (rulesPtr i : Nat) : Nat := be16At db (rulesPtr + 2 * i) * 4

theorem ruleAt_succ (rulesPtr i : Nat) :
    ruleAt db rulesPtr (i + 1) = ruleAt db (rulesPtr + 2) i := by
  rw [ruleAt, ruleAt, show rulesPtr + 2 * (i + 1) = rulesPtr + 2 + 2 * i by omega]

theorem rulesChecked_of_validRules {left rulesPtr : Nat}
    (inside : rulesPtr + 2 * left ≤ db.length)
    (valid : (validRules (db ++ beyond) db.length left rulesPtr : BoundedRead Int Bool) = .ok true)
    (i : Nat) (index : i < left) : RuleChecked db (ruleAt db rulesPtr i) := by
  induction left generalizing rulesPtr i with
  | zero => omega
  | succ left ih =>
    have ptr : rulesPtr + 2 ≤ (db ++ beyond).length := by
      rw [List.length_append]
      omega
    rw [validRules, readBe16_of_le ptr, be16At_append beyond (by omega)] at valid
    simp only [bind, Except.bind] at valid
    split at valid
    · cases valid
    · next answer validFirst =>
        split at valid
        · next isValid =>
            subst isValid
            cases i with
            | zero => exact ruleChecked_of_validRule validFirst
            | succ i =>
              rw [ruleAt_succ]
              exact ih (by omega) valid i (by omega)
        · cases valid

section Rules

variable {left rulesPtr : Nat} (inside : rulesPtr + 2 * left ≤ db.length)
  (checked : ∀ i < left, RuleChecked db (ruleAt db rulesPtr i))
include inside checked

theorem regdbQueryRules_spec (fits : ∀ i < left, RuleFits db (ruleAt db rulesPtr i)) :
    ∃ rules, regdbQueryRules db country left rulesPtr = .ok rules ∧
      ∀ rule ∈ rules, ∀ wmm, rule.wmmRule = some wmm → wmm.Valid := by
  induction left generalizing rulesPtr with
  | zero => exact ⟨[], rfl, nofun⟩
  | succ left ih =>
    obtain ⟨first, queriesFirst, validFirst⟩ :=
      @regdbQueryRule_spec db country _ (checked 0 (by omega)) (fits 0 (by omega))
    obtain ⟨rest, queriesRest, validRest⟩ := @ih (rulesPtr + 2) (by omega)
      (fun i index => by
        rw [← ruleAt_succ]
        exact checked (i + 1) (by omega))
      (fun i index => by
        rw [← ruleAt_succ]
        exact fits (i + 1) (by omega))
    have ptr : rulesPtr + 2 ≤ db.length := by omega
    refine ⟨first :: rest, ?_, ?_⟩
    · rw [ruleAt, Nat.mul_zero, Nat.add_zero] at queriesFirst
      rw [regdbQueryRules, readBe16_of_le ptr]
      simp only [bind, Except.bind, queriesFirst, queriesRest]
      rfl
    · intro rule member
      rcases List.mem_cons.mp member with rfl | member
      · exact validFirst
      · exact validRest rule member

theorem regdbQueryRules_fits (inBounds : InBounds (regdbQueryRules db country left rulesPtr))
    (i : Nat) (index : i < left) : RuleFits db (ruleAt db rulesPtr i) := by
  induction left generalizing rulesPtr i with
  | zero => omega
  | succ left ih =>
    rw [regdbQueryRules, inBounds_readBe16_bind, inBounds_bind] at inBounds
    obtain ⟨-, inBoundsFirst, goesOn⟩ := inBounds
    have checkedFirst := checked 0 (by omega)
    rw [ruleAt, Nat.mul_zero, Nat.add_zero] at checkedFirst
    have fitsFirst := regdbQueryRule_fits inBoundsFirst
    cases i with
    | zero => exact fitsFirst
    | succ i =>
      obtain ⟨first, queriesFirst, -⟩ :=
        @regdbQueryRule_spec db country _ checkedFirst fitsFirst
      have inBoundsRest := (inBounds_bind.mp (goesOn first queriesFirst)).1
      rw [ruleAt_succ]
      exact ih (by omega) (fun i index => by
        rw [← ruleAt_succ]
        exact checked (i + 1) (by omega)) inBoundsRest i (by omega)

/-- The rule that is set has a valid WMM rule. -/
theorem regdbQueryWmmFrom_spec (fits : ∀ i < left, RuleFits db (ruleAt db rulesPtr i))
    (freq : Int) (rrule : RegRule) :
    InBounds (regdbQueryWmmFrom db country freq rrule left rulesPtr) ∧
      ∀ result, regdbQueryWmmFrom db country freq rrule left rulesPtr = .ok result →
        ∃ wmm, result = { rrule with wmmRule := some wmm } ∧ wmm.Valid := by
  induction left generalizing rulesPtr with
  | zero => exact ⟨inBounds_ret _, nofun⟩
  | succ left ih =>
    have next := @ih (rulesPtr + 2) (by omega)
      (fun i index => by
        rw [← ruleAt_succ]
        exact checked (i + 1) (by omega))
      (fun i index => by
        rw [← ruleAt_succ]
        exact fits (i + 1) (by omega))
    have checkedFirst := checked 0 (by omega)
    have fitsFirst := fits 0 (by omega)
    rw [ruleAt, Nat.mul_zero, Nat.add_zero] at checkedFirst fitsFirst
    rw [RuleFits, ruleEnd] at fitsFirst
    have ptr : rulesPtr + 2 ≤ db.length := by omega
    rw [regdbQueryWmmFrom, readBe16_of_le ptr]
    simp only [bind, Except.bind, readU8_of_le checkedFirst.length]
    split
    · exact next
    · next hasWmm =>
        have whole : be16At db rulesPtr * 4 + 20 ≤ db.length := by
          split_ifs at fitsFirst <;> omega
        have start : be16At db rulesPtr * 4 + 4 + 4 ≤ db.length := by omega
        have stop : be16At db rulesPtr * 4 + 8 + 4 ≤ db.length := by omega
        rw [readBe32_of_le start]
        simp only
        split
        · exact next
        · rw [readBe32_of_le stop]
          simp only
          split
          · exact next
          · obtain ⟨wmmInside, valid⟩ := checkedFirst.wmm whole (by omega)
            obtain ⟨wmm, sets, validWmm⟩ :=
              @setWmmRule_spec db country _ rrule whole wmmInside valid
            rw [sets]
            refine ⟨inBounds_ok _, fun result same => ⟨wmm, ?_, validWmm⟩⟩
            exact (Except.ok.inj same).symm

end Rules

/-! ## A country -/

/-- The collection of a country. -/
def collAt (db : List UInt8) (country : Nat) : Nat := be16At db (country + 2) * 4

/-- The number of its rules. -/
def nRulesAt (db : List UInt8) (country : Nat) : Nat := u8At db (collAt db country + 1)

/-- Its rule pointers. -/
def rulesAt (db : List UInt8) (country : Nat) : Nat :=
  collAt db country + align2 (u8At db (collAt db country))

/-- What the validation of a country leaves. -/
structure CountryChecked (db : List UInt8) (country : Nat) : Prop where
  inside : country + 4 ≤ db.length
  header : collAt db country + 4 ≤ db.length
  pointers : rulesAt db country + 2 * nRulesAt db country ≤ db.length
  rules : ∀ i < nRulesAt db country, RuleChecked db (ruleAt db (rulesAt db country) i)

/-- All rules of a country lie in the file. -/
def RulesFit (db : List UInt8) (country : Nat) : Prop :=
  ∀ i < nRulesAt db country, RuleFits db (ruleAt db (rulesAt db country) i)

theorem countryChecked_of_validCountry (inside : country + 4 ≤ db.length)
    (valid : (validCountry (db ++ beyond) db.length country : BoundedRead Int Bool) = .ok true) :
    CountryChecked db country := by
  have ptr : country + 2 + 2 ≤ (db ++ beyond).length := by
    rw [List.length_append]
    omega
  have coll : be16At db (country + 2) * 4 = collAt db country := rfl
  rw [validCountry, readBe16_of_le ptr, be16At_append beyond (by omega)] at valid
  simp only [bind, Except.bind, coll] at valid
  split at valid
  · cases valid
  · next here =>
      have len : collAt db country + 1 ≤ (db ++ beyond).length := by
        rw [List.length_append]
        omega
      have nRules : collAt db country + 1 + 1 ≤ (db ++ beyond).length := by
        rw [List.length_append]
        omega
      rw [readU8_of_le len, u8At_append beyond (by omega)] at valid
      simp only at valid
      rw [readU8_of_le nRules, u8At_append beyond (by omega)] at valid
      simp only at valid
      split at valid
      · cases valid
      · next fits =>
          split at valid
          · cases valid
          · next long =>
              have pointers : rulesAt db country + 2 * nRulesAt db country ≤ db.length := by
                rw [rulesAt, nRulesAt]
                omega
              have header : collAt db country + 4 ≤ rulesAt db country := by
                rw [rulesAt, align2]
                omega
              exact ⟨inside, by omega, pointers, rulesChecked_of_validRules pointers valid⟩

theorem countryChecked_of_validCountries {room country : Nat}
    (valid : (validCountries (db ++ beyond) db.length room country : BoundedRead Int Bool) =
      .ok true)
    {k : Nat} (index : k < room)
    (listed : ∀ j ≤ k, country + 4 * j + 4 ≤ db.length ∧
      be16At db (country + 4 * j + 2) ≠ 0) :
    CountryChecked db (country + 4 * k) := by
  induction room generalizing country k with
  | zero => omega
  | succ room ih =>
    obtain ⟨inside, nonzero⟩ := listed 0 (by omega)
    rw [Nat.mul_zero, Nat.add_zero] at inside nonzero
    have ptr : country + 2 + 2 ≤ (db ++ beyond).length := by
      rw [List.length_append]
      omega
    rw [validCountries, if_neg (by omega), readBe16_of_le ptr,
      be16At_append beyond (by omega)] at valid
    simp only [bind, Except.bind, if_neg nonzero] at valid
    split at valid
    · cases valid
    · next answer validFirst =>
        split at valid
        · next isValid =>
            subst isValid
            cases k with
            | zero => exact countryChecked_of_validCountry inside validFirst
            | succ k =>
              have next := @ih (country + 4) valid k (by omega) fun j le => by
                have entry := listed (j + 1) (by omega)
                rwa [show country + 4 * (j + 1) = country + 4 + 4 * j by omega] at entry
              rwa [show country + 4 * (k + 1) = country + 4 + 4 * k by omega]
        · cases valid

section Checked

variable (checked : CountryChecked db country)
include checked

theorem regdbQueryCountry_fits (inBounds : InBounds (regdbQueryCountry db true country)) :
    RulesFit db country := by
  rw [regdbQueryCountry] at inBounds
  simp only [inBounds_readBe16_bind, inBounds_readU8_bind, Bool.not_true, Bool.false_eq_true,
    if_false] at inBounds
  obtain ⟨-, -, -, -, -, -, rules⟩ := inBounds
  exact regdbQueryRules_fits checked.pointers checked.rules (inBounds_bind.mp rules).1

theorem regdbQueryCountry_spec (fit : RulesFit db country) (allocated : Bool) :
    InBounds (regdbQueryCountry db allocated country) ∧
      Yields (fun rd => ∀ rule ∈ rd.regRules, ∀ wmm, rule.wmmRule = some wmm → wmm.Valid)
        (regdbQueryCountry db allocated country) := by
  obtain ⟨inside, header, pointers, rules⟩ := checked
  have coll : be16At db (country + 2) * 4 = collAt db country := rfl
  have nRules : u8At db (collAt db country + 1) = nRulesAt db country := rfl
  have ptr : country + 2 + 2 ≤ db.length := by omega
  have count : collAt db country + 1 + 1 ≤ db.length := by omega
  rw [regdbQueryCountry, readBe16_of_le ptr]
  simp only [bind, Except.bind, coll]
  rw [readU8_of_le count, nRules]
  cases allocated with
  | false => exact ⟨inBounds_ret _, yields_error _⟩
  | true =>
    have first : country + 1 ≤ db.length := by omega
    have second : country + 1 + 1 ≤ db.length := by omega
    have dfsRegion : collAt db country + 2 + 1 ≤ db.length := by omega
    have len : collAt db country + 1 ≤ db.length := by omega
    obtain ⟨regRules, queries, valid⟩ := regdbQueryRules_spec pointers rules fit
    simp only [Bool.not_true, Bool.false_eq_true, if_false, readU8_of_le first,
      readU8_of_le second, readU8_of_le dfsRegion, readU8_of_le len]
    rw [← rulesAt, queries]
    exact ⟨inBounds_ok _, yields_ok valid⟩

theorem regdbQueryWmm_spec (fit : RulesFit db country) (freq : Int) (rrule : RegRule) :
    InBounds (regdbQueryWmm db freq rrule country) ∧
      Yields (fun result => ∃ wmm, result = { rrule with wmmRule := some wmm } ∧ wmm.Valid)
        (regdbQueryWmm db freq rrule country) := by
  obtain ⟨inside, header, pointers, rules⟩ := checked
  have coll : be16At db (country + 2) * 4 = collAt db country := rfl
  have nRules : u8At db (collAt db country + 1) = nRulesAt db country := rfl
  have ptr : country + 2 + 2 ≤ db.length := by omega
  have count : collAt db country + 1 + 1 ≤ db.length := by omega
  have len : collAt db country + 1 ≤ db.length := by omega
  rw [regdbQueryWmm, readBe16_of_le ptr]
  simp only [bind, Except.bind, coll, readU8_of_le count, readU8_of_le len, nRules]
  exact regdbQueryWmmFrom_spec pointers rules fit freq rrule

end Checked

end Country

/-! ## The list of the countries -/

section Countries

variable {db : List UInt8} {alpha2 : Nat × Nat} {α : Type} {query : Nat → BoundedRead Int α}
  {country : Nat}

/-- The code of an entry. -/
def codeAt (db : List UInt8) (country : Nat) : Nat × Nat :=
  (u8At db country, u8At db (country + 1))

/-- An entry of the list that is another country. -/
structure PassedOver (db : List UInt8) (alpha2 : Nat × Nat) (country : Nat) : Prop where
  inside : country + 4 ≤ db.length
  listed : be16At db (country + 2) ≠ 0
  other : alpha2Equal alpha2 (codeAt db country) = false

/-- An entry of the list that is the country. -/
structure IsFound (db : List UInt8) (alpha2 : Nat × Nat) (country : Nat) : Prop where
  inside : country + 4 ≤ db.length
  listed : be16At db (country + 2) ≠ 0
  same : alpha2Equal alpha2 (codeAt db country) = true

/-- The end of the list. -/
structure IsEnd (db : List UInt8) (country : Nat) : Prop where
  inside : country + 4 ≤ db.length
  unlisted : be16At db (country + 2) = 0

/-- From an entry on, the file holds the end of the list or, before it, the country, for which
`P` holds. -/
def ListEnds (db : List UInt8) (alpha2 : Nat × Nat) (P : Nat → Prop) (country : Nat) : Prop :=
  ∃ k, (∀ j < k, PassedOver db alpha2 (country + 4 * j)) ∧
    (IsEnd db (country + 4 * k) ∨ IsFound db alpha2 (country + 4 * k) ∧ P (country + 4 * k))

theorem isCountry_of_le (inside : country + 4 ≤ db.length) :
    isCountry db alpha2 country =
      if be16At db (country + 2) = 0 then .error (.ret enodata)
      else .ok (alpha2Equal alpha2 (codeAt db country)) := by
  have ptr : country + 2 + 2 ≤ db.length := by omega
  have first : country + 1 ≤ db.length := by omega
  have second : country + 1 + 1 ≤ db.length := by omega
  rw [isCountry, readBe16_of_le ptr]
  simp only [bind, Except.bind, readU8_of_le first, readU8_of_le second]
  rfl

theorem isCountry_of_gt (outside : ¬country + 4 ≤ db.length) :
    isCountry db alpha2 country = .error .outOfBounds := by
  have ptr : ¬country + 2 + 2 ≤ db.length := by omega
  rw [isCountry, readBe16, touch, if_neg ptr]
  rfl

theorem ListEnds.cons {P : Nat → Prop} (passed : PassedOver db alpha2 country)
    (rest : ListEnds db alpha2 P (country + 4)) : ListEnds db alpha2 P country := by
  obtain ⟨k, before, ends⟩ := rest
  refine ⟨k + 1, ?_, ?_⟩
  · intro j index
    cases j with
    | zero => exact passed
    | succ j =>
      have entry := before j (by omega)
      rwa [show country + 4 * (j + 1) = country + 4 + 4 * j by omega]
  · rwa [show country + 4 * (k + 1) = country + 4 + 4 * k by omega]

/-- A query returns `Good` if and only if it finds the end of the list or the country, for which
it is so. -/
theorem forCountry_iff {Good : BoundedRead Int α → Prop} (ends : Good (.error (.ret enodata)))
    (leaves : ¬Good (.error .outOfBounds)) :
    (∃ fuel result, forCountry db alpha2 query fuel country = some result ∧ Good result) ↔
      ListEnds db alpha2 (fun found => Good (query found)) country := by
  constructor
  · rintro ⟨fuel, result, returns, good⟩
    induction fuel generalizing country with
    | zero => cases returns
    | succ fuel ih =>
      by_cases inside : country + 4 ≤ db.length
      · rw [forCountry, isCountry_of_le inside] at returns
        by_cases unlisted : be16At db (country + 2) = 0
        · exact ⟨0, nofun, Or.inl ⟨inside, unlisted⟩⟩
        · rw [if_neg unlisted] at returns
          cases same : alpha2Equal alpha2 (codeAt db country) with
          | true =>
            rw [same] at returns
            have answers : query country = result := Option.some.inj returns
            exact ⟨0, nofun, Or.inr ⟨⟨inside, unlisted, same⟩, by rwa [← answers] at good⟩⟩
          | false =>
            rw [same] at returns
            exact .cons ⟨inside, unlisted, same⟩ (ih returns)
      · rw [forCountry, isCountry_of_gt inside] at returns
        cases returns
        exact absurd good leaves
  · rintro ⟨k, before, found⟩
    induction k generalizing country with
    | zero =>
      rw [Nat.mul_zero, Nat.add_zero] at found
      rcases found with ⟨inside, unlisted⟩ | ⟨⟨inside, listed, same⟩, good⟩
      · refine ⟨1, .error (.ret enodata), ?_, ends⟩
        rw [forCountry, isCountry_of_le inside, if_pos unlisted]
      · refine ⟨1, query country, ?_, good⟩
        rw [forCountry, isCountry_of_le inside, if_neg listed, same]
    | succ k ih =>
      obtain ⟨inside, listed, other⟩ := before 0 (by omega)
      rw [Nat.mul_zero, Nat.add_zero] at inside listed other
      obtain ⟨fuel, result, returns, good⟩ := @ih (country + 4)
        (fun j index => by
          have entry := before (j + 1) (by omega)
          rwa [show country + 4 * (j + 1) = country + 4 + 4 * j by omega] at entry)
        (by rwa [show country + 4 * (k + 1) = country + 4 + 4 * k by omega] at found)
      refine ⟨fuel + 1, result, ?_, good⟩
      rw [forCountry, isCountry_of_le inside, if_neg listed, other]
      exact returns

end Countries

/-! ## The queries -/

/-- A query returns, stays in the file and gives only what `P` holds for. -/
def Answers {α : Type} (P : α → Prop) (query : Nat → Option (BoundedRead Int α)) : Prop :=
  ∃ fuel result, query fuel = some result ∧ InBounds result ∧ Yields P result

/-- A WMM rule that a query of the country may use. -/
def UsesWmm (db : List UInt8) (alpha2 : Nat × Nat) (wmm : Nat) : Prop :=
  ∃ k, (∀ j < k, PassedOver db alpha2 (8 + 4 * j)) ∧ IsFound db alpha2 (8 + 4 * k) ∧
    ∃ i < nRulesAt db (8 + 4 * k),
      let rule := ruleAt db (rulesAt db (8 + 4 * k)) i
      20 ≤ u8At db rule ∧ wmm = be16At db (rule + 18) * 4

/-- The two queries of a country are safe. -/
structure RegdbSafe (db : List UInt8) (alpha2 : Nat × Nat) : Prop where
  country : ∀ allocated, Answers
    (fun rd => ∀ rule ∈ rd.regRules, ∀ wmm, rule.wmmRule = some wmm → wmm.Valid)
    (queryRegdb (.loaded db) alpha2 allocated)
  wmm : ∀ freq rrule, Answers
    (fun result => ∃ wmm, result = { rrule with wmmRule := some wmm } ∧ wmm.Valid)
    (regQueryRegdbWmm (.loaded db) alpha2 freq rrule)
  used : ∀ wmm, UsesWmm db alpha2 wmm → (validWmm db wmm : BoundedRead Int Bool) = .ok true

theorem validCountries_of_validRegdb {data : List UInt8} {size : Nat}
    (accepted : (validRegdb data size true : BoundedRead Int Bool) = .ok true) :
    (validCountries data size size 8 : BoundedRead Int Bool) = .ok true := by
  rw [validRegdb] at accepted
  split at accepted
  · cases accepted
  · simp only [bind, Except.bind] at accepted
    split at accepted
    · cases accepted
    split at accepted
    · cases accepted
    split at accepted
    · cases accepted
    split at accepted
    · cases accepted
    exact accepted

section Accepted

variable {db beyond : List UInt8} {alpha2 : Nat × Nat}
  (accepted : (validRegdb (db ++ beyond) db.length true : BoundedRead Int Bool) = .ok true)
include accepted

/-- Every country that a query comes to has been validated. -/
theorem countryChecked_of_found {k : Nat} (before : ∀ j < k, PassedOver db alpha2 (8 + 4 * j))
    (found : IsFound db alpha2 (8 + 4 * k)) : CountryChecked db (8 + 4 * k) := by
  have inside := found.inside
  refine countryChecked_of_validCountries (validCountries_of_validRegdb accepted)
    (by omega) fun j le => ?_
  rcases Nat.lt_or_eq_of_le le with earlier | rfl
  · exact ⟨(before j earlier).inside, (before j earlier).listed⟩
  · exact ⟨found.inside, found.listed⟩

/-- A query of the list stays in the file if it does so for the country. -/
theorem answers_of_listEnds {α : Type} {P : α → Prop} {query : Nat → BoundedRead Int α}
    (ends : ListEnds db alpha2 (RulesFit db) 8)
    (spec : ∀ country, CountryChecked db country → RulesFit db country →
      InBounds (query country) ∧ Yields P (query country)) :
    Answers P fun fuel => forCountry db alpha2 query fuel 8 := by
  refine (@forCountry_iff db alpha2 α query 8 (fun result => InBounds result ∧ Yields P result)
    ⟨inBounds_ret _, yields_error _⟩ fun good => good.1 rfl).mpr ?_
  obtain ⟨k, before, last | ⟨found, fit⟩⟩ := ends
  · exact ⟨k, before, Or.inl last⟩
  · exact ⟨k, before, Or.inr ⟨found, spec _ (countryChecked_of_found accepted before found) fit⟩⟩

theorem listEnds_of_answers {P : Regdomain → Prop}
    (answers : Answers P (queryRegdb (.loaded db) alpha2 true)) :
    ListEnds db alpha2 (RulesFit db) 8 := by
  obtain ⟨k, before, last | ⟨found, inBounds, -⟩⟩ :=
    (@forCountry_iff db alpha2 Regdomain (regdbQueryCountry db true) 8
      (fun result => InBounds result ∧ Yields P result) ⟨inBounds_ret _, yields_error _⟩
      fun good => good.1 rfl).mp answers
  · exact ⟨k, before, Or.inl last⟩
  · have checked := countryChecked_of_found accepted before found
    exact ⟨k, before, Or.inr ⟨found, regdbQueryCountry_fits checked inBounds⟩⟩

/-- A country is found at most once, so it is the one whose rules fit. -/
theorem validWmm_of_uses (ends : ListEnds db alpha2 (RulesFit db) 8) {wmm : Nat}
    (uses : UsesWmm db alpha2 wmm) : (validWmm db wmm : BoundedRead Int Bool) = .ok true := by
  obtain ⟨k, before, found, i, index, hasWmm, rfl⟩ := uses
  have checked := countryChecked_of_found accepted before found
  have fits : RuleFits db (ruleAt db (rulesAt db (8 + 4 * k)) i) := by
    obtain ⟨k', before', ends'⟩ := ends
    rcases Nat.lt_trichotomy k k' with less | rfl | greater
    · have other := (before' k less).other
      rw [found.same] at other
      cases other
    · rcases ends' with last | ⟨-, fit⟩
      · exact absurd last.unlisted found.listed
      · exact fit i index
    · rcases ends' with last | ⟨found', -⟩
      · exact absurd last.unlisted (before k' greater).listed
      · have other := (before k' greater).other
        rw [found'.same] at other
        cases other
  rw [RuleFits, ruleEnd, if_neg (by omega), if_neg (by omega)] at fits
  exact ((checked.rules i index).wmm fits hasWmm).2

end Accepted

/-- `beyond` is the memory behind the file that the validation read. -/
theorem regdbSafe_iff (db beyond : List UInt8) (alpha2 : Nat × Nat)
    (accepted : (validRegdb (db ++ beyond) db.length true : BoundedRead Int Bool) = .ok true) :
    RegdbSafe db alpha2 ↔ ListEnds db alpha2 (RulesFit db) 8 := by
  constructor
  · intro safe
    exact listEnds_of_answers accepted (safe.country true)
  · intro ends
    refine ⟨fun allocated => ?_, fun freq rrule => ?_, fun wmm uses => ?_⟩
    · exact answers_of_listEnds accepted ends fun country checked fit =>
        regdbQueryCountry_spec checked fit allocated
    · exact answers_of_listEnds accepted ends fun country checked fit =>
        regdbQueryWmm_spec checked fit freq rrule
    · exact validWmm_of_uses accepted ends uses

/-- A database with one country that has one rule, with a WMM rule. -/
def smallRegdb : List UInt8 :=
  [0x52, 0x47, 0x44, 0x42, 0, 0, 0, 20, 68, 69, 0, 4, 0, 0, 0, 0, 3, 1, 1, 0, 0, 6, 0, 0,
    20, 0, 7, 208, 0, 36, 159, 0, 0, 37, 230, 220, 0, 0, 156, 64, 0, 0, 0, 11] ++
  (List.replicate 8 [0x37, 2, 0, 0]).flatten

theorem regdbSafe_iff_smallRegdb :
    RegdbSafe smallRegdb (68, 69) ↔ ListEnds smallRegdb (68, 69) (RulesFit smallRegdb) 8 :=
  regdbSafe_iff smallRegdb [] (68, 69) (by decide +kernel)

/-- The header alone is accepted, since the list of the countries may end with the file, but
every query reads the first country. -/
theorem not_regdbSafe :
    ¬∀ (db beyond : List UInt8) (alpha2 : Nat × Nat),
      (validRegdb (db ++ beyond) db.length true : BoundedRead Int Bool) = .ok true →
        RegdbSafe db alpha2 := by
  intro safe
  obtain ⟨fuel, result, returns, inBounds, -⟩ :=
    (safe (smallRegdb.take 8) [] (68, 69) (by decide +kernel)).country true
  cases fuel with
  | zero => cases returns
  | succ fuel =>
    have leaves : some (.error .outOfBounds) = some result := returns
    cases leaves
    exact inBounds rfl

end Iwlwifi
