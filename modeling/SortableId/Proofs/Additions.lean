import Mathlib
import SortableId.Proofs.EntropyValue

/-!
# Chains of additions

Numbers of 64 bits are added to an entropy value one after another. With wrapping additions the
start and all the addends together are the value at the end plus `2 ^ 80` for every flag: one addend
is too small to wrap twice, so the flags count the quotient and the value is the remainder. With
checked additions the value is the start plus the addends that were not refused, so it never passes
80 bits, and only an addend that does not fit is refused.
-/

namespace SortableId.UInt80

/-- The sum of 64-bit numbers, which may need more bits. -/
def total (addends : List UInt64) : Nat := (addends.map UInt64.toNat).sum

/-- No numbers come to nothing. -/
@[simp] theorem total_nil : total [] = 0 := rfl

/-- A number in front of others is added to their sum. -/
@[simp] theorem total_cons (addend : UInt64) (rest : List UInt64) :
    total (addend :: rest) = addend.toNat + total rest := by
  simp [total]

/-- Additions of one kind, each made on the value that the one before it left: what they show, and
the value at the end. -/
def chain {β : Type} (step : UInt80 → UInt64 → β × UInt80) (value : UInt80) :
    List UInt64 → List β × UInt80
  | [] => ([], value)
  | addend :: rest =>
    let made := step value addend
    let (shown, last) := chain step made.2 rest
    (made.1 :: shown, last)

/-- The flags of overflowing additions, each made on the wrapped sum of those before it, and the
value at the end. -/
def overflowAll (value : UInt80) (addends : List UInt64) : List Bool × UInt80 :=
  chain (fun sum addend => (sum.overflowingAdd addend).swap) value addends

/-- The addends of a run that were not refused. -/
def accepted (steps : List (Option UInt80)) (addends : List UInt64) : List UInt64 :=
  ((steps.zip addends).filter fun step => step.1.isSome).map Prod.snd

/-- The number of an entropy value is its high word in front of its low one. -/
theorem toNat_eq_or (value : UInt80) :
    value.toNat = value.hi.toNat <<< 64 ||| value.lo.toNat := by
  have low := value.lo.toNat_lt
  rw [← Nat.shiftLeft_add_eq_or_of_lt low, Nat.shiftLeft_eq]
  rfl

/-! ## Chains -/

section Chains

variable {β : Type} (step : UInt80 → UInt64 → β × UInt80) (value : UInt80)

/-- A chain goes on where the additions before ended. -/
theorem chain_append (before after : List UInt64) :
    chain step value (before ++ after) =
      ((chain step value before).1 ++ (chain step (chain step value before).2 after).1,
        (chain step (chain step value before).2 after).2) := by
  induction before generalizing value with
  | nil => rfl
  | cons addend rest ih => simp only [List.cons_append, chain, ih]

/-- Every addition of a chain shows something. -/
theorem length_chain (addends : List UInt64) :
    (chain step value addends).1.length = addends.length := by
  induction addends generalizing value with
  | nil => rfl
  | cons addend rest ih => simp only [chain, List.length_cons, ih]

/-- A chain folds its additions. -/
theorem chain_eq_foldl (addends : List UInt64) :
    (chain step value addends).2 =
      addends.foldl (fun sum addend => (step sum addend).2) value := by
  induction addends generalizing value with
  | nil => rfl
  | cons addend rest ih => exact ih (step value addend).2

/-- What is shown at a place of a chain is that of one addition on the value before it. -/
theorem getElem?_chain (before after : List UInt64) (addend : UInt64) :
    (chain step value (before ++ addend :: after)).1[before.length]? =
      some (step (chain step value before).2 addend).1 := by
  have place := length_chain step value before
  rw [chain_append, List.getElem?_append_right (by omega), place, Nat.sub_self]
  rfl

/-- A run of checked additions is a chain in which a refused one keeps the value. -/
theorem addAll_eq_chain (addends : List UInt64) :
    value.addAll addends =
      chain (fun sum addend => (sum.checkedAdd addend, (sum.checkedAdd addend).getD sum)) value
        addends := by
  induction addends generalizing value with
  | nil => rfl
  | cons addend rest ih => simp only [addAll, chain, ih]

end Chains

/-! ## Wrapping additions -/

/-- The start and the addends together are the value at the end and `2 ^ 80` for each flag. -/
theorem overflowAll_parts (value : UInt80) (addends : List UInt64) :
    value.toNat + total addends =
      (overflowAll value addends).1.count true * 2 ^ 80 + (overflowAll value addends).2.toNat := by
  induction addends generalizing value with
  | nil => simp [overflowAll, chain]
  | cons addend rest ih =>
    have first := overflowingAdd_parts value addend
    have later := ih (value.overflowingAdd addend).1
    have flags : (overflowAll value (addend :: rest)).1.count true =
        (value.overflowingAdd addend).2.toNat +
          (overflowAll (value.overflowingAdd addend).1 rest).1.count true := by
      cases raised : (value.overflowingAdd addend).2 <;>
        simp [overflowAll, chain, raised, Nat.add_comm]
    have last : (overflowAll value (addend :: rest)).2 =
        (overflowAll (value.overflowingAdd addend).1 rest).2 := rfl
    rw [total_cons, flags, last]
    omega

/-- The value at the end is the remainder, and the flags count the quotient. -/
theorem overflowAll_divMod (value : UInt80) (addends : List UInt64) :
    (overflowAll value addends).2.toNat = (value.toNat + total addends) % 2 ^ 80 ∧
      (overflowAll value addends).1.count true = (value.toNat + total addends) / 2 ^ 80 := by
  have parts := overflowAll_parts value addends
  have small := toNat_lt (overflowAll value addends).2
  omega

/-- The flag of an addition in a chain is raised when that addition passes the largest value. -/
theorem getElem?_overflowAll (value : UInt80) (before after : List UInt64) (addend : UInt64) :
    (overflowAll value (before ++ addend :: after)).1[before.length]? =
      some (decide (2 ^ 80 - 1 < (overflowAll value before).2.toNat + addend.toNat)) := by
  have flag := overflowingAdd_flag (overflowAll value before).2 addend
  have shown : (overflowAll value (before ++ addend :: after)).1[before.length]? =
      some ((overflowAll value before).2.overflowingAdd addend).2 :=
    getElem?_chain _ value before after addend
  rw [shown, flag, Option.some.injEq, decide_eq_decide]
  omega

/-! ## Checked additions -/

/-- What comes after an addend does not change which addends before it were refused. -/
theorem accepted_append (steps later : List (Option UInt80)) (addends : List UInt64)
    (length : steps.length = addends.length) :
    accepted (steps ++ later) addends = accepted steps addends := by
  have kept : (steps ++ later).zip (addends ++ []) = steps.zip addends ++ later.zip [] :=
    List.zip_append length
  simp only [List.append_nil, List.zip_nil_right] at kept
  rw [accepted, accepted, kept]

/-- The value after a run of checked additions is the start plus the addends accepted. -/
theorem toNat_addAll (value : UInt80) (addends : List UInt64) :
    (value.addAll addends).2.toNat =
      value.toNat + total (accepted (value.addAll addends).1 addends) := by
  induction addends generalizing value with
  | nil => simp [addAll, accepted]
  | cons addend rest ih =>
    cases added : value.checkedAdd addend with
    | none =>
      have later := ih value
      simpa [addAll, added, accepted] using later
    | some sum =>
      have first := (checkedAdd_eq_some_iff value sum addend).mp added
      have later := ih sum
      simp only [addAll, added, Option.getD_some, accepted, List.zip_cons_cons,
        Option.isSome_some, List.filter_cons_of_pos, List.map_cons, total_cons] at later ⊢
      omega

/-- A step of a run shows the value after it, or a refusal when its addend does not fit. -/
theorem getElem?_addAll (value : UInt80) (before after : List UInt64) (addend : UInt64) :
    (value.addAll (before ++ addend :: after)).1[before.length]? =
      some (if (value.addAll before).2.toNat + addend.toNat < 2 ^ 80
        then some (value.addAll (before ++ [addend])).2 else none) := by
  have shown := getElem?_chain
    (fun sum addend => (sum.checkedAdd addend, (sum.checkedAdd addend).getD sum)) value before after
    addend
  have next : (value.addAll (before ++ [addend])).2 =
      ((value.addAll before).2.checkedAdd addend).getD (value.addAll before).2 := by
    simp only [addAll_eq_chain, chain_append]
    rfl
  simp only [← addAll_eq_chain] at shown
  rw [shown, next]
  cases added : (value.addAll before).2.checkedAdd addend with
  | none =>
    have large := (checkedAdd_eq_none_iff _ addend).mp added
    rw [if_neg (by omega)]
  | some sum =>
    have exactSum := (checkedAdd_eq_some_iff _ sum addend).mp added
    have fits := toNat_lt sum
    rw [if_pos (by omega), Option.getD_some]

/-- Additions are exact along any chain. Wrapping ones end at the remainder of the whole sum by
`2 ^ 80`, raise the flag as often as its quotient says, and each raises it exactly when it passes
the largest value. Checked ones are at the start plus the accepted addends after every prefix of the
chain, which is below `2 ^ 80`, and each is refused exactly when its addend does not fit. The number
of a value is what its two words and its ten bytes denote. -/
theorem additions_exact (value : UInt80) :
    (∀ addends,
      (overflowAll value addends).2 =
        addends.foldl (fun sum addend => (sum.overflowingAdd addend).1) value ∧
      (overflowAll value addends).2.toNat = (value.toNat + total addends) % 2 ^ 80 ∧
      (overflowAll value addends).1.count true = (value.toNat + total addends) / 2 ^ 80) ∧
    (∀ before addend after,
      (overflowAll value (before ++ addend :: after)).1[before.length]? =
        some (decide (2 ^ 80 - 1 < (overflowAll value before).2.toNat + addend.toNat))) ∧
    (∀ before after,
      (value.addAll before).2 =
        before.foldl (fun sum addend => (sum.checkedAdd addend).getD sum) value ∧
      (value.addAll before).2.toNat =
        value.toNat + total (accepted (value.addAll (before ++ after)).1 before) ∧
      (value.addAll before).2.toNat < 2 ^ 80) ∧
    (∀ before addend after,
      (value.addAll (before ++ addend :: after)).1[before.length]? =
        some (if (value.addAll before).2.toNat + addend.toNat < 2 ^ 80
          then some (value.addAll (before ++ [addend])).2 else none)) ∧
    value.toNat = value.hi.toNat <<< 64 ||| value.lo.toNat ∧
    Bytes.toNat value.toBytes.toList = value.toNat ∧
    ∀ bytes, (ofBytes bytes).toNat = Bytes.toNat bytes.toList := by
  refine ⟨fun addends => ⟨chain_eq_foldl _ value addends, overflowAll_divMod value addends⟩,
    fun before addend after => getElem?_overflowAll value before after addend,
    fun before after => ⟨?_, ?_, toNat_lt _⟩,
    fun before addend after => getElem?_addAll value before after addend,
    toNat_eq_or value, toNat_toBytes value, toNat_ofBytes⟩
  · rw [addAll_eq_chain]
    exact chain_eq_foldl _ value before
  · have exactSum := toNat_addAll value before
    rw [addAll_eq_chain] at exactSum ⊢
    rw [addAll_eq_chain, chain_append, accepted_append _ _ _ (length_chain _ value before)]
    exact exactSum

end SortableId.UInt80
