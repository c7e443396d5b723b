import Mathlib
import OrientLock.Lib.Int32Arith

set_option autoImplicit false

namespace OrientLock

/-- `struct dev_orientation` of `include/linux/orientation.h`. -/
structure DevOrientation where
  azimuth : Int32
  pitch : Int32
  roll : Int32
  deriving DecidableEq, Repr, Inhabited

/-- `struct orientation_range`: a basis orientation and an unsigned half-width per axis. -/
structure OrientationRange where
  orient : DevOrientation
  azimuthRange : UInt32
  pitchRange : UInt32
  rollRange : UInt32
  deriving DecidableEq, Repr, Inhabited

def orientEquals (one two : DevOrientation) : Bool :=
  one.azimuth == two.azimuth && one.pitch == two.pitch && one.roll == two.roll

def rangeEquals (range target : OrientationRange) : Bool :=
  range.azimuthRange == target.azimuthRange && range.pitchRange == target.pitchRange &&
    range.rollRange == target.rollRange && orientEquals range.orient target.orient

@[simp] theorem orientEquals_iff (one two : DevOrientation) :
    orientEquals one two = true ↔ one = two := by
  cases one
  cases two
  simp [orientEquals, and_assoc]

@[simp] theorem rangeEquals_iff (range target : OrientationRange) :
    rangeEquals range target = true ↔ range = target := by
  cases range
  cases target
  simp only [rangeEquals, orientEquals_iff, Bool.and_eq_true, beq_iff_eq,
    OrientationRange.mk.injEq]
  tauto

theorem rangeEquals_comm (range target : OrientationRange) :
    rangeEquals range target = rangeEquals target range := by
  rw [Bool.eq_iff_iff, rangeEquals_iff, rangeEquals_iff]
  exact eq_comm

/-- `in_range`. Each unsigned width is cast to `int` and the bounds are computed in 32-bit
arithmetic, which wraps: the kernel is built with `-fno-strict-overflow`. Azimuth is tested
by two statements, pitch and roll by one each, as in the source. -/
def inRange (range : OrientationRange) (orient : DevOrientation) : Bool :=
  let basis := range.orient
  let rangeAzimuth := range.azimuthRange.toInt32
  let rangePitch := range.pitchRange.toInt32
  let rangeRoll := range.rollRange.toInt32
  if orient.azimuth > basis.azimuth + rangeAzimuth && rangeAzimuth != 0 then false
  else if orient.azimuth < basis.azimuth - rangeAzimuth && rangeAzimuth != 0 then false
  else if (orient.pitch > basis.pitch + rangePitch || orient.pitch < basis.pitch - rangePitch) &&
      rangePitch != 0 then false
  else if (orient.roll > basis.roll + rangeRoll || orient.roll < basis.roll - rangeRoll) &&
      rangeRoll != 0 then false
  else true

/-- One axis of `in_range`: accepted when the cast width is zero or the value lies between
the wrapped bounds. -/
def axisAccepts (value basis width : Int32) : Bool :=
  width == 0 || (decide (basis - width ≤ value) && decide (value ≤ basis + width))

theorem inRange_eq_axes (range : OrientationRange) (orient : DevOrientation) :
    inRange range orient =
      (axisAccepts orient.azimuth range.orient.azimuth range.azimuthRange.toInt32 &&
        axisAccepts orient.pitch range.orient.pitch range.pitchRange.toInt32 &&
        axisAccepts orient.roll range.orient.roll range.rollRange.toInt32) := by
  simp only [inRange, axisAccepts]
  by_cases zeroAzimuth : range.azimuthRange.toInt32 = 0 <;>
    by_cases zeroPitch : range.pitchRange.toInt32 = 0 <;>
    by_cases zeroRoll : range.rollRange.toInt32 = 0 <;>
    simp [zeroAzimuth, zeroPitch, zeroRoll] <;> grind

/-- The mathematical reading of one axis: an unconstrained axis when the width is zero,
else `basis - width ≤ value ≤ basis + width` over the integers. -/
def AxisWithin (value basis : Int32) (width : UInt32) : Prop :=
  width ≠ 0 → basis.toInt - width.toNat ≤ value.toInt ∧ value.toInt ≤ basis.toInt + width.toNat

instance (value basis : Int32) (width : UInt32) : Decidable (AxisWithin value basis width) :=
  inferInstanceAs (Decidable (_ → _))

/-- `o` lies in `R` axis by axis over the integers. -/
def WithinRange (range : OrientationRange) (orient : DevOrientation) : Prop :=
  AxisWithin orient.azimuth range.orient.azimuth range.azimuthRange ∧
    AxisWithin orient.pitch range.orient.pitch range.pitchRange ∧
    AxisWithin orient.roll range.orient.roll range.rollRange

instance (range : OrientationRange) (orient : DevOrientation) :
    Decidable (WithinRange range orient) :=
  inferInstanceAs (Decidable (_ ∧ _ ∧ _))

/-- Neither bound of an axis wraps: the width is a nonnegative `int` and `basis ± width`
is representable. -/
def AxisFits (basis : Int32) (width : UInt32) : Prop :=
  width.toNat < 2 ^ 31 ∧ -2 ^ 31 ≤ basis.toInt - width.toNat ∧ basis.toInt + width.toNat < 2 ^ 31

instance (basis : Int32) (width : UInt32) : Decidable (AxisFits basis width) :=
  inferInstanceAs (Decidable (_ ∧ _ ∧ _))

/-- No axis bound of `in_range` wraps. -/
def RangeFits (range : OrientationRange) : Prop :=
  AxisFits range.orient.azimuth range.azimuthRange ∧
    AxisFits range.orient.pitch range.pitchRange ∧ AxisFits range.orient.roll range.rollRange

instance (range : OrientationRange) : Decidable (RangeFits range) :=
  inferInstanceAs (Decidable (_ ∧ _ ∧ _))

theorem axisAccepts_iff {value basis : Int32} {width : UInt32} (fits : AxisFits basis width) :
    axisAccepts value basis width.toInt32 = true ↔ AxisWithin value basis width := by
  obtain ⟨small, lower, upper⟩ := fits
  have cast := Int32Arith.toInt_toInt32_of_lt width small
  have sum : (basis + width.toInt32).toInt = basis.toInt + width.toNat := by
    rw [Int32Arith.toInt_add_of_bounds _ _ (by omega) (by omega), cast]
  have difference : (basis - width.toInt32).toInt = basis.toInt - width.toNat := by
    rw [Int32Arith.toInt_sub_of_bounds _ _ (by omega) (by omega), cast]
  simp only [axisAccepts, AxisWithin, Bool.or_eq_true, beq_iff_eq,
    Int32Arith.toInt32_eq_zero_iff, Bool.and_eq_true, decide_eq_true_eq,
    Int32.le_iff_toInt_le, sum, difference]
  tauto

theorem inRange_iff_withinRange {range : OrientationRange} (orient : DevOrientation)
    (fits : RangeFits range) : inRange range orient = true ↔ WithinRange range orient := by
  obtain ⟨azimuth, pitch, roll⟩ := fits
  rw [inRange_eq_axes, WithinRange, Bool.and_eq_true, Bool.and_eq_true, axisAccepts_iff azimuth,
    axisAccepts_iff pitch, axisAccepts_iff roll, and_assoc]

end OrientLock
