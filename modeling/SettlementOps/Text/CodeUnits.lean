import Mathlib.Tactic.Common

/-!
# Strings by code units

A string of the program is a sequence of 16-bit code units, and it is by these that `slice` counts.

* `Utf16`, `codeUnits`, `units` — the code units of a text.
* `slice` — the start of a text.  The half of a surrogate pair that a cut leaves is written
  `U+FFFD`, as it is when the text is encoded.
* `length_units_slice`, `slice_eq_self` — how long the start is, and when it is all.
-/

namespace SettlementOps
namespace Text

/-- A string of the program: 16-bit code units, paired surrogates or not. -/
abbrev Utf16 := List UInt16

def codeUnits (c : Char) : Utf16 :=
  if c.val < 0x10000 then [c.val.toUInt16]
  else
    [(0xD800 + (c.val - 0x10000) / 0x400).toUInt16, (0xDC00 + (c.val - 0x10000) % 0x400).toUInt16]

def units (s : String) : Utf16 := s.toList.flatMap codeUnits

def REPLACEMENT : Char := Char.ofNat 0xFFFD

def sliceChars : Nat → List Char → List Char
  | 0, _ => []
  | _, [] => []
  | n + 1, c :: cs =>
      if c.val < 0x10000 then c :: sliceChars n cs
      else
        match n with
        -- the first half of a pair
        | 0 => [REPLACEMENT]
        | n + 1 => c :: sliceChars n cs

/-- `text.slice(0, n)`. -/
def slice (text : String) (n : Nat) : String := String.ofList (sliceChars n text.toList)

section Slice

variable {n : Nat} {c : Char}

theorem length_codeUnits (c : Char) :
    (codeUnits c).length = if c.val < 0x10000 then 1 else 2 := by
  unfold codeUnits
  split <;> rfl

theorem sliceChars_unit (h : c.val < 0x10000) (cs : List Char) :
    sliceChars (n + 1) (c :: cs) = c :: sliceChars n cs := by
  cases n <;> exact if_pos h

theorem sliceChars_half (h : ¬ c.val < 0x10000) (cs : List Char) :
    sliceChars 1 (c :: cs) = [REPLACEMENT] := if_neg h

theorem sliceChars_pair (h : ¬ c.val < 0x10000) (cs : List Char) :
    sliceChars (n + 2) (c :: cs) = c :: sliceChars n cs := if_neg h

theorem length_flatMap_sliceChars (cs : List Char) : ∀ n,
    ((sliceChars n cs).flatMap codeUnits).length = min n (cs.flatMap codeUnits).length := by
  induction cs with
  | nil =>
      intro n
      cases n <;> rfl
  | cons c cs ih =>
      intro n
      have hlength : ∀ cs : List Char, ((c :: cs).flatMap codeUnits).length =
          (if c.val < 0x10000 then 1 else 2) + (cs.flatMap codeUnits).length := fun cs => by
        rw [List.flatMap_cons, List.length_append, length_codeUnits]
      by_cases h : c.val < 0x10000
      · cases n with
        | zero => exact (Nat.zero_min _).symm
        | succ n =>
            rw [sliceChars_unit h, hlength, hlength, if_pos h, ih]
            omega
      · match n with
        | 0 => exact (Nat.zero_min _).symm
        | 1 =>
            have hone : ([REPLACEMENT].flatMap codeUnits).length = 1 := rfl
            rw [sliceChars_half h, hone, hlength, if_neg h]
            omega
        | n + 2 =>
            rw [sliceChars_pair h, hlength, hlength, if_neg h, ih]
            omega

theorem sliceChars_eq_self (cs : List Char) : ∀ n, (cs.flatMap codeUnits).length ≤ n →
    sliceChars n cs = cs := by
  induction cs with
  | nil =>
      intro n _
      cases n <;> rfl
  | cons c cs ih =>
      intro n hn
      rw [List.flatMap_cons, List.length_append, length_codeUnits] at hn
      by_cases h : c.val < 0x10000
      · rw [if_pos h] at hn
        obtain ⟨n, rfl⟩ : ∃ k, n = k + 1 := ⟨n - 1, by omega⟩
        rw [sliceChars_unit h, ih n (by omega)]
      · rw [if_neg h] at hn
        obtain ⟨n, rfl⟩ : ∃ k, n = k + 2 := ⟨n - 2, by omega⟩
        rw [sliceChars_pair h, ih n (by omega)]

end Slice

/-- The start of a text has as many code units as asked for, if there are as many. -/
theorem length_units_slice (text : String) (n : Nat) :
    (units (slice text n)).length = min n (units text).length := by
  rw [units, slice, String.toList_ofList]
  exact length_flatMap_sliceChars _ n

/-- A text that is not longer stays as it is. -/
theorem slice_eq_self {text : String} {n : Nat} (h : (units text).length ≤ n) :
    slice text n = text := by
  rw [slice, sliceChars_eq_self _ _ h, String.ofList_toList]

end Text
end SettlementOps
