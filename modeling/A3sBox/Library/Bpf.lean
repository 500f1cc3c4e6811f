import Mathlib.Data.List.Basic
import Mathlib.Data.Nat.Notation

/-!
# Filter programs

Programs of the classic packet filter, as system call filters need them: load a word, compare and jump forward,
return. A run is a recursion on the program that carries the number of instructions to skip. `denyTable` is a deny
list: one comparison for each entry, with a jump to the answer behind them. Jumps are bytes, so only the last 255
entries reach it (`run_denyTable`).
-/

namespace Bpf

open List

/-- An instruction. -/
inductive Insn where
  | load (offset : ℕ)
  /-- Compare the loaded word with a constant, and skip as many instructions as the byte of the outcome says. -/
  | jeq (k jt jf : ℕ)
  | ret (k : ℕ)
  deriving DecidableEq, Repr

/-- Run a program from behind the instructions to skip; a program that runs off its end returns nothing. -/
def run (input : ℕ → ℕ) : List Insn → ℕ → ℕ → Option ℕ
  | [], _, _ => none
  | _ :: rest, skip + 1, acc => run input rest skip acc
  | .load offset :: rest, 0, _ => run input rest 0 (input offset)
  | .jeq k jt jf :: rest, 0, acc => run input rest (if acc = k then jt else jf) acc
  | .ret k :: _, 0, _ => some k

/-- Every jump stays inside the program. -/
def jumpsInside : List Insn → Bool
  | [] => true
  | .jeq _ jt jf :: rest => jt < rest.length && jf < rest.length && jumpsInside rest
  | .load _ :: rest | .ret _ :: rest => jumpsInside rest

/-- The last instruction returns. -/
def endsInRet (program : List Insn) : Bool :=
  match program.getLast? with
  | some (.ret _) => true
  | _ => false

/-- The check of the kernel before it takes a program. -/
def check (program : List Insn) : Bool := program.length ≤ 4096 && jumpsInside program && endsInRet program

variable (input : ℕ → ℕ)

theorem run_drop (program : List Insn) (skip acc : ℕ) :
    run input program skip acc = run input (program.drop skip) 0 acc := by
  induction skip generalizing program with
  | zero => rfl
  | succ _ ih =>
    cases program with
    | nil => rfl
    | cons => rw [run, ih, drop_succ_cons]

theorem run_skip_append (front back : List Insn) (skip acc : ℕ) :
    run input (front ++ back) (front.length + skip) acc = run input back skip acc := by
  rw [run_drop, drop_append, run_drop input back, drop_eq_nil_of_le (by omega), nil_append]
  congr 2
  omega

/-- One comparison for each entry: one that is met jumps over the rest of the table and an instruction more. -/
def denyTable : List ℕ → List Insn
  | [] => []
  | k :: rest => .jeq k ((rest.length + 1) % 256) 0 :: denyTable rest

variable (table : List ℕ)

@[simp] theorem denyTable_length : (denyTable table).length = table.length := by
  induction table with
  | nil => rfl
  | cons _ _ ih => rw [denyTable, length_cons, length_cons, ih]

theorem ret_not_mem_denyTable (k : ℕ) : .ret k ∉ denyTable table := by
  induction table with
  | nil => exact not_mem_nil
  | cons _ _ ih =>
    rw [denyTable, mem_cons]
    rintro (h | h)
    · cases h
    · exact ih h

theorem exists_ret_of_endsInRet {program} (h : endsInRet program = true) : ∃ k, .ret k ∈ program := by
  rw [endsInRet] at h
  split at h
  · next k hlast => exact ⟨k, mem_of_getLast? hlast⟩
  · cases h

/-- The jumps of a table stay inside if two instructions follow it. -/
theorem jumpsInside_denyTable {rest} (hrest : jumpsInside rest = true)
    (hlen : 2 ≤ rest.length) : jumpsInside (denyTable table ++ rest) = true := by
  induction table with
  | nil => exact hrest
  | cons _ others ih =>
    simp only [denyTable, cons_append, jumpsInside, length_append, denyTable_length, Bool.and_eq_true,
      decide_eq_true_eq, ih, and_true]
    omega

theorem denyTable_drop (n : ℕ) : (denyTable table).drop n = denyTable (table.drop n) := by
  induction n generalizing table with
  | zero => rfl
  | succ _ ih =>
    cases table with
    | nil => rfl
    | cons => rw [denyTable, drop_succ_cons, drop_succ_cons, ih]

/-- The entries from which the byte of a jump reaches behind the table. -/
def reaching (table : List ℕ) : List ℕ := table.drop (table.length - 255)

variable {table : List ℕ}

theorem reaching_of_le (h : table.length ≤ 255) : reaching table = table := by
  rw [reaching, Nat.sub_eq_zero_of_le h, drop_zero]

theorem reaching_cons {k} (h : 255 ≤ table.length) : reaching (k :: table) = reaching table := by
  have hfrom : table.length + 1 - 255 = table.length - 255 + 1 := by omega
  rw [reaching, reaching, length_cons, hfrom, drop_succ_cons]

theorem reaching_drop {n} (h : n + 255 ≤ table.length) : reaching (table.drop n) = reaching table := by
  have hfrom : n + (table.length - n - 255) = table.length - 255 := by omega
  rw [reaching, reaching, drop_drop, length_drop, hfrom]

/-- **A table is left for its answer exactly by the entries that reach it**; every other word falls through. -/
theorem run_denyTable (table : List ℕ) (allow deny acc : ℕ) (rest : List Insn) :
    run input (denyTable table ++ .ret allow :: .ret deny :: rest) 0 acc =
      some (if acc ∈ reaching table then deny else allow) := by
  -- by induction on the length: a jump that is too long by whole bytes lands in the table again
  induction hn : table.length using Nat.strongRecOn generalizing table with
  | ind n ih =>
    cases table with
    | nil => rfl
    | cons k others =>
      have hlen : others.length + 1 = n := hn
      rw [denyTable, cons_append, run]
      by_cases hk : acc = k
      · rw [if_pos hk]
        by_cases hshort : others.length + 1 ≤ 255
        · have hmod : (others.length + 1) % 256 = (denyTable others).length + 1 := by
            rw [denyTable_length]
            omega
          have hmem : acc ∈ reaching (k :: others) := by
            rw [reaching_of_le (by rwa [length_cons]), hk]
            exact mem_cons_self
          rw [hmod, run_skip_append, if_pos hmem]
          rfl
        · have hland : (others.length + 1) % 256 + 255 ≤ others.length := by omega
          rw [run_drop, drop_append, denyTable_drop, denyTable_length, Nat.sub_eq_zero_of_le (by omega), drop_zero]
          rw [ih (others.drop ((others.length + 1) % 256)).length (by rw [length_drop]; omega) _ rfl]
          rw [reaching_drop hland, reaching_cons (by omega)]
      · rw [if_neg hk, ih others.length (by omega) others rfl]
        by_cases hshort : others.length + 1 ≤ 255
        · rw [reaching_of_le (by rwa [length_cons] : (k :: others).length ≤ 255), reaching_of_le (by omega)]
          simp [hk]
        · rw [reaching_cons (by omega)]

end Bpf
