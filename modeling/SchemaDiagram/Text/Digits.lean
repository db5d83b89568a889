/-
# SchemaDiagram.Text.Digits -- numbers in digits
-/

namespace SchemaDiagram.Text

set_option autoImplicit false

def digitValue (c : Char) : Nat :=
  if c.isDigit then c.toNat - '0'.toNat
  else if 'a'.toNat ≤ c.toNat then c.toNat - 'a'.toNat + 10
  else c.toNat - 'A'.toNat + 10

def isHexDigit (c : Char) : Bool :=
  c.isDigit || ('a' ≤ c && c ≤ 'f') || ('A' ≤ c && c ≤ 'F')

/-- The number that the digits write in base `base`. -/
def ofDigits (base : Nat) (ds : List Char) : Nat :=
  ds.foldl (fun n d => n * base + digitValue d) 0

/-- At least `width` hexadecimal digits, small letters. -/
def hexDigits (width n : Nat) : List Char :=
  let ds := Nat.toDigits 16 n
  List.replicate (width - ds.length) '0' ++ ds

def upperHexDigits (width n : Nat) : List Char :=
  (hexDigits width n).map Char.toUpper

def decimal (n : Nat) : String :=
  String.ofList (Nat.toDigits 10 n)

theorem isDigit_of_mem_decimal {n : Nat} {c : Char} (member : c ∈ (decimal n).toList) :
    c.isDigit = true := by
  rw [decimal, String.toList_ofList] at member
  exact Nat.isDigit_of_mem_toDigits (by decide) (by decide) member

/-- A number is told by its digits. -/
theorem decimal_inj {n k : Nat} : decimal n = decimal k ↔ n = k := by
  refine ⟨fun same => ?_, congrArg decimal⟩
  have digits : Nat.toDigits 10 n = Nat.toDigits 10 k := String.ofList_injective same
  calc n = Nat.ofDigitChars 10 (Nat.toDigits 10 n) 0 := Nat.ofDigitChars_ten_toDigits.symm
    _ = Nat.ofDigitChars 10 (Nat.toDigits 10 k) 0 := by rw [digits]
    _ = k := Nat.ofDigitChars_ten_toDigits

def decimalInt (n : Int) : String :=
  if n < 0 then "-" ++ decimal n.natAbs else decimal n.natAbs

end SchemaDiagram.Text
