import Mathlib.Tactic.Ring

/-!
# Limits of a running box

The weight that `build_cgroup_commands` of `runtime/src/resize.rs` writes for a box that runs, and the one that
`shares_to_weight` of `guest/init/src/cgroup.rs` computes for a container that is created, with numbers of 64 bits.
`weight_iff`: they are the same, and grow with the shares, exactly for at most 262170 shares.
-/

namespace A3sBox.Resize

/-- `cpu.weight` in `build_cgroup_commands` -/
def cpuWeight (shares : ℕ) : ℕ :=
  if shares ≤ 2 then 1 else 1 + min ((shares - 2) * 9999 % 2 ^ 64 / 262142) 10000

/-- `shares_to_weight` -/
def sharesToWeight (shares : ℕ) : ℕ :=
  let shares := max 2 (min shares 262144)
  max 1 (min (1 + (shares - 2) * 9999 % 2 ^ 64 / 262142) 10000)

theorem cpuWeight_eq {shares} (h : shares ≤ 262170) : cpuWeight shares = 1 + (shares - 2) * 9999 / 262142 := by
  rw [cpuWeight, Nat.mod_eq_of_lt (by omega)]
  split_ifs <;> omega

/-- **The weight of a box that runs** is that of a container that is created, is between 1 and 10000, is not less than
that of fewer shares, and no product overflows, exactly if there are at most 262170 shares. -/
theorem weight_iff (shares : ℕ) : (cpuWeight shares = sharesToWeight shares ∧
      (1 ≤ cpuWeight shares ∧ cpuWeight shares ≤ 10000) ∧ (∀ fewer ≤ shares, cpuWeight fewer ≤ cpuWeight shares) ∧
      (shares - 2) * 9999 < 2 ^ 64 ∧ (max 2 (min shares 262144) - 2) * 9999 < 2 ^ 64) ↔ shares ≤ 262170 := by
  constructor
  · rintro ⟨-, ⟨-, hle⟩, -, hfits, -⟩
    by_contra hmore
    rw [cpuWeight, if_neg (by omega), Nat.mod_eq_of_lt hfits] at hle
    omega
  · intro h
    have hweight := cpuWeight_eq h
    refine ⟨?_, by omega, fun fewer hfewer => ?_, by omega, by omega⟩
    · simp only [hweight, sharesToWeight]
      rw [Nat.mod_eq_of_lt (by omega)]
      omega
    · rw [hweight, cpuWeight_eq (Nat.le_trans hfewer h)]
      omega

theorem weight_above : cpuWeight 262171 = 10001 ∧ sharesToWeight 262171 = 10000 := by decide

end A3sBox.Resize
