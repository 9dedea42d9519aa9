/-!
# Decimal numerals

A numeral is a row of the ten ASCII digits. `value` is its value, `numeral` writes a number,
and `quotientToEven` rounds a ratio to the nearest integer, a half going to the even
neighbour, which is what a number with a fixed count of decimal places is written from.
-/

namespace LoadHarness.Text

/-- The value of an ASCII digit. -/
def digitValue (c : Char) : Nat :=
  c.toNat - '0'.toNat

/-- The value of a row of digits, most significant first. -/
def value (ds : List Char) : Nat :=
  ds.foldl (fun n d => 10 * n + digitValue d) 0

/-- The digits at the front of a text and what follows them. -/
def splitDigits (cs : List Char) : List Char × List Char :=
  (cs.takeWhile Char.isDigit, cs.dropWhile Char.isDigit)

/-- The numeral of a number, without leading zeros. -/
def numeral (n : Nat) : String :=
  Nat.repr n

/-- The integer nearest to `num / den`; a half goes to the even neighbour. -/
def quotientToEven (num den : Nat) : Nat :=
  let q := num / den
  let r := num % den
  if 2 * r < den then q
  else if den < 2 * r then q + 1
  else if q % 2 = 0 then q else q + 1

/-- A count of hundredths written with two decimal places. -/
def hundredths (n : Nat) : String :=
  numeral (n / 100) ++ "." ++ numeral (n / 10 % 10) ++ numeral (n % 10)

theorem splitDigits_append (cs : List Char) :
    (splitDigits cs).1 ++ (splitDigits cs).2 = cs :=
  List.takeWhile_append_dropWhile

theorem splitDigits_fst_digits (cs : List Char) : ∀ c ∈ (splitDigits cs).1, c.isDigit = true :=
  List.all_eq_true.1 List.all_takeWhile

/-- The rounded quotient is within half a unit of the ratio. -/
theorem quotientToEven_near (num den : Nat) (h : 0 < den) :
    2 * num ≤ (2 * quotientToEven num den + 1) * den ∧
      2 * quotientToEven num den * den ≤ 2 * num + den := by
  have hd := Nat.div_add_mod num den
  have hm := Nat.mod_lt num h
  simp only [quotientToEven]
  generalize hq : num / den = q at *
  generalize hr : num % den = r at *
  have e : q * den = den * q := Nat.mul_comm _ _
  split
  · constructor <;> simp only [Nat.add_mul, Nat.mul_assoc, e] <;> omega
  · split
    · constructor <;> simp only [Nat.add_mul, Nat.mul_add, Nat.mul_assoc, e] <;> omega
    · split <;> constructor <;> simp only [Nat.add_mul, Nat.mul_add, Nat.mul_assoc, e] <;> omega

end LoadHarness.Text
