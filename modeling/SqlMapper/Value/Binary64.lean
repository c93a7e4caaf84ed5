namespace SqlMapper

namespace Binary64

/-- The fractions that share an exponent: they have 52 bits. -/
def fractionCount : Nat := 0x10000000000000

def exponentOf (bits : UInt64) : Nat := bits.toNat / fractionCount % 2048

def fractionOf (bits : UInt64) : Nat := bits.toNat % fractionCount

def signBit : Nat := 0x8000000000000000

def quietNaN : UInt64 := 0x7ff8000000000000

end Binary64

open Binary64 in
/-- A binary64 datum. There is one NaN, so two data are the same exactly when their bits are. -/
structure Binary64 where
  bits : UInt64
  canonical : exponentOf bits = 2047 ∧ fractionOf bits ≠ 0 → bits = quietNaN

namespace Binary64

@[ext] theorem ext {a b : Binary64} (h : a.bits = b.bits) : a = b := by
  cases a; cases b; simp_all

instance : DecidableEq Binary64 := fun a b =>
  if h : a.bits = b.bits then .isTrue (ext h) else .isFalse fun e => h (e ▸ rfl)

/-- The datum with these bits; every NaN is the one NaN. -/
def ofBits (bits : UInt64) : Binary64 :=
  if h : exponentOf bits = 2047 ∧ fractionOf bits ≠ 0 then ⟨quietNaN, fun _ => rfl⟩
  else ⟨bits, fun h' => absurd h' h⟩

def isNaN (x : Binary64) : Bool := x.bits == quietNaN

def isFinite (x : Binary64) : Bool := exponentOf x.bits != 2047

/-- The data that are numbers. -/
abbrev Finite := { x : Binary64 // x.isFinite }

def isZero (x : Binary64) : Bool := exponentOf x.bits == 0 && fractionOf x.bits == 0

/-- Numeric equality: NaN equals nothing, and the two zeros are equal. -/
def equals (x y : Binary64) : Bool :=
  !x.isNaN && !y.isNaN && (x.bits == y.bits || x.isZero && y.isZero)

/-- The integer nearest `num / den`, an even one when two are. -/
def roundQuotient (num den : Nat) : Nat :=
  let q := num / den
  let r := num % den
  if 2 * r < den ∨ (2 * r = den ∧ q % 2 = 0) then q else q + 1

def leadingExponent (num den : Nat) : Int :=
  let k : Int := num.log2 - den.log2
  if num <<< (-k).toNat < den <<< k.toNat then k - 1 else k

/-- The datum nearest `num / den`; of two the one with even significand. Too large a quotient is infinite. -/
def ofRatio (negative : Bool) (num den : Nat) : Binary64 :=
  let sign := if negative then signBit else 0
  if num = 0 then ofBits (.ofNat sign) else
  let unit : Int := max (leadingExponent num den - 52) (-1074)
  let significand := roundQuotient (num <<< (-unit).toNat) (den <<< unit.toNat)
  let magnitude := if significand < fractionCount then significand else
    min ((unit + 1074).toNat * fractionCount + significand) (2047 * fractionCount)
  ofBits (.ofNat (sign + magnitude))

/-- The datum nearest `n * 10 ^ e`. Where the exponent is cut the datum is infinite or zero anyway. -/
def ofDecimal (negative : Bool) (n : Nat) (e : Int) : Binary64 :=
  let e : Int := max (-400 - n.log2) (min e 400)
  ofRatio negative (n * Nat.pow 10 e.toNat) (Nat.pow 10 (-e).toNat)

def ofInt (n : Int) : Binary64 :=
  ofRatio (n < 0) n.natAbs 1

theorem equals_comm (x y : Binary64) : x.equals y = y.equals x := by
  rw [Bool.eq_iff_iff]
  simp only [equals, Bool.and_eq_true, Bool.or_eq_true, Bool.not_eq_true', beq_iff_eq]
  constructor <;> rintro ⟨⟨hx, hy⟩, h⟩ <;> exact ⟨⟨hy, hx⟩, h.imp Eq.symm And.symm⟩

theorem equals_self_iff (x : Binary64) : x.equals x = true ↔ x.isNaN = false := by
  simp [equals]

end Binary64

end SqlMapper
