import Mathlib.Algebra.Ring.Nat
import SettlementOps.Random.Tape

/-!
# The pseudo-random source of the generator

A word of the tape stands for the 32 bits that `next` divides by `2 ^ 32`.

* `Rng.int`, `Rng.bool`, `Rng.pick`, `Rng.shuffle` — what is drawn from it.
* `createRng` — the tape of a seed.
-/

namespace SettlementOps.Generator

open Random

/-- A program that draws from the source. -/
abbrev Rng := Draws UInt32

/-- Uniform integer in `[min, max]`.  The product with the width of such a range is exact in a
double, so `next() * width` is rounded nowhere before it is floored. -/
def Rng.int (min max : Nat) : Rng Nat := do
  let k ← word
  return min + k.toNat * (max - min + 1) / 2 ^ 32

/-- `next() < probability`, for a probability that is a number of units of `2 ^ -53`. -/
def Rng.bool (probability : Nat) : Rng Bool := do
  let k ← word
  return decide (k.toNat * 2 ^ 21 < probability)

/-- The doubles `0.25`, `0.4` and `0.5`, in units of `2 ^ -53`. -/
def quarter : Nat := 2 ^ 51
def twoFifths : Nat := 3_602_879_701_896_397
def half : Nat := 2 ^ 52

/-- The source throws on an empty list, so a caller has to bring the evidence. -/
def Rng.pick {α : Type} (items : List α) (h : items ≠ []) : Rng α := do
  let i ← Rng.int 0 (items.length - 1)
  return items[i]?.getD (items.head h)

def swap {α : Type} (copy : List α) (i j : Nat) : List α :=
  match copy[i]?, copy[j]? with
  | some a, some b => (copy.set i b).set j a
  | _, _ => copy

/-- The loop of the shuffle, from index `i` down to `1`. -/
def shuffleFrom {α : Type} : Nat → List α → Rng (List α)
  | 0, copy => pure copy
  | i + 1, copy => do
      let j ← Rng.int 0 (i + 1)
      shuffleFrom i (swap copy (i + 1) j)

/-- Fisher-Yates, returning a new list. -/
def Rng.shuffle {α : Type} (items : List α) : Rng (List α) := shuffleFrom (items.length - 1) items

/-- One output of mulberry32. -/
def mulberry32 (state : UInt32) : UInt32 :=
  let t := (state ^^^ (state >>> 15)) * (state ||| 1)
  let t := t ^^^ (t + (t ^^^ (t >>> 7)) * (t ||| 61))
  t ^^^ (t >>> 14)

/-- The state after a number of steps. -/
def rngState (seed : UInt32) : Nat → UInt32
  | 0 => seed
  | n + 1 => rngState seed n + 0x6d2b79f5

def createRng (seed : UInt32) : Tape UInt32 := fun n => mulberry32 (rngState seed (n + 1))

/-! ## What is drawn -/

theorem Rng.int_bounds (min max : Nat) :
    Always (Rng.int min max) fun n => min ≤ n ∧ n ≤ min + (max - min) := by
  intro tape
  have hk : (tape 0).toNat < 2 ^ 32 := (tape 0).toNat_lt
  change min ≤ min + (tape 0).toNat * (max - min + 1) / 2 ^ 32 ∧
    min + (tape 0).toNat * (max - min + 1) / 2 ^ 32 ≤ min + (max - min)
  have hlt : (tape 0).toNat * (max - min + 1) / 2 ^ 32 < max - min + 1 := by
    rw [Nat.div_lt_iff_lt_mul (by decide), Nat.mul_comm]
    exact Nat.mul_lt_mul_of_pos_left hk (by omega)
  omega

theorem Rng.pick_mem {α : Type} (items : List α) (h : items ≠ []) :
    Always (Rng.pick items h) (· ∈ items) := by
  refine (Rng.int_bounds 0 (items.length - 1)).bind fun i _ => Always.pure ?_
  cases hi : items[i]? with
  | none => exact List.head_mem h
  | some a => exact List.mem_of_getElem? hi

end SettlementOps.Generator
