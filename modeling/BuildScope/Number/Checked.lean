/-!
# Checked Arithmetic

Addition and subtraction of signed 64 bit numbers that stop where the result has no such number.

* `Checked.sub_eq_ok_iff`, `Checked.add_eq_ok_iff`: a step succeeds exactly if the exact result
  fits, and then it is the result.
-/

namespace BuildScope.Number

/-- A step of arithmetic whose result does not fit. -/
inductive Overflow where
  /-- An addition. -/
  | add
  /-- A subtraction. -/
  | sub
  deriving DecidableEq, Repr

/-- What is reported of a step that overflows. -/
def Overflow.message : Overflow → String
  | .add => "attempt to add with overflow"
  | .sub => "attempt to subtract with overflow"

/-- Whether an integer is a signed number of 64 bits. -/
def FitsInt64 (n : Int) : Prop :=
  -0x8000000000000000 ≤ n ∧ n < 0x8000000000000000

instance (n : Int) : Decidable (FitsInt64 n) :=
  inferInstanceAs (Decidable (_ ∧ _))

/-- Every signed number of 64 bits fits. -/
theorem fitsInt64_toInt (a : Int64) : FitsInt64 a.toInt :=
  ⟨a.le_toInt, a.toInt_lt⟩

/-- An integer that fits is the value of its word. -/
theorem toInt_ofInt {n : Int} (h : FitsInt64 n) : (Int64.ofInt n).toInt = n :=
  Int64.toInt_ofInt_of_le h.1 h.2

namespace Checked

/-- The word of an exact result, or the overflow. -/
def ofInt (overflow : Overflow) (n : Int) : Except Overflow Int64 :=
  if FitsInt64 n then .ok (.ofInt n) else .error overflow

/-- The sum of two numbers. -/
def add (a b : Int64) : Except Overflow Int64 :=
  ofInt .add (a.toInt + b.toInt)

/-- The difference of two numbers. -/
def sub (a b : Int64) : Except Overflow Int64 :=
  ofInt .sub (a.toInt - b.toInt)

/-- An exact result is returned exactly if it fits. -/
theorem ofInt_eq_ok_iff {overflow : Overflow} {n : Int} {a : Int64} :
    ofInt overflow n = .ok a ↔ a.toInt = n := by
  unfold ofInt
  split
  · rename_i h
    constructor
    · intro heq
      cases heq
      exact toInt_ofInt h
    · intro heq
      rw [← heq, Int64.ofInt_toInt]
  · rename_i h
    constructor
    · intro heq
      cases heq
    · intro heq
      exact absurd (heq ▸ fitsInt64_toInt a) h

/-- A sum is returned exactly if it fits. -/
theorem add_eq_ok_iff {a b c : Int64} : add a b = .ok c ↔ c.toInt = a.toInt + b.toInt :=
  ofInt_eq_ok_iff

/-- A difference is returned exactly if it fits. -/
theorem sub_eq_ok_iff {a b c : Int64} : sub a b = .ok c ↔ c.toInt = a.toInt - b.toInt :=
  ofInt_eq_ok_iff

/-- A sum that fits is returned. -/
theorem exists_add_eq_ok {a b : Int64} (h : FitsInt64 (a.toInt + b.toInt)) :
    ∃ c, add a b = .ok c :=
  ⟨_, if_pos h⟩

/-- A difference that fits is returned. -/
theorem exists_sub_eq_ok {a b : Int64} (h : FitsInt64 (a.toInt - b.toInt)) :
    ∃ c, sub a b = .ok c :=
  ⟨_, if_pos h⟩

end Checked

end BuildScope.Number
