/-!
# Addresses

Sizes and offsets are natural numbers. A file can only address what lies below `Address.limit`,
so arithmetic on numbers taken from a file either stays below it or says that it does not.
-/

namespace TiffStrip.Address

/-- Every size and every offset is below this number: they have 64 bits. -/
def limit : Nat := 0x10000000000000000

def top : Nat := limit - 1

/-- The sum, if it can be addressed. -/
def add? (a b : Nat) : Option Nat :=
  if a + b < limit then some (a + b) else none

def mul? (a b : Nat) : Option Nat :=
  if a * b < limit then some (a * b) else none

/-- The product, or `top` in place of anything larger. -/
def mulCapped (a b : Nat) : Nat :=
  min (a * b) top

/-- An address moved by a signed distance, if the result is an address. -/
def shift? (a : Nat) (distance : Int) : Option Nat :=
  let moved := (a : Int) + distance
  if 0 ≤ moved ∧ moved < limit then some moved.toNat else none

theorem add?_eq_some {a b c : Nat} : add? a b = some c ↔ a + b = c ∧ c < limit := by
  unfold add?
  split <;> simp <;> omega

theorem mul?_eq_some {a b c : Nat} : mul? a b = some c ↔ a * b = c ∧ c < limit := by
  unfold mul?
  split
  · rename_i h
    simp only [Option.some.injEq]
    exact ⟨fun e => ⟨e, e ▸ h⟩, fun e => e.1⟩
  · rename_i h
    simp only [reduceCtorEq, false_iff, not_and]
    exact fun e => e ▸ h

end TiffStrip.Address
