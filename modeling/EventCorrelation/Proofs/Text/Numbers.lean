/-!
# Characters of numbers

Where the digits of a number stand among the characters, and what else stands in an integer.
-/

namespace EventCorrelation.Text

variable {symbol : Char}

theorem toNat_of_isDigit (isDigit : symbol.isDigit = true) :
    0x30 ≤ symbol.toNat ∧ symbol.toNat ≤ 0x39 := by
  simpa [Char.isDigit, UInt32.le_iff_toNat_le] using isDigit

theorem toNat_of_mem_toDigits {number : Nat} (isMember : symbol ∈ Nat.toDigits 10 number) :
    0x30 ≤ symbol.toNat ∧ symbol.toNat ≤ 0x39 :=
  toNat_of_isDigit (Nat.isDigit_of_mem_toDigits (by decide) (by decide) isMember)

theorem toList_natural (number : Nat) : (toString number).toList = Nat.toDigits 10 number := by
  rw [Nat.toString_eq_repr, Nat.toList_repr]

/-- An integer is written with digits and a minus sign. -/
theorem mem_integer {number : Int} (isMember : symbol ∈ (toString number).toList) :
    symbol = '-' ∨ 0x30 ≤ symbol.toNat ∧ symbol.toNat ≤ 0x39 := by
  cases number with
  | ofNat magnitude =>
    change symbol ∈ (toString magnitude).toList at isMember
    rw [toList_natural] at isMember
    exact .inr (toNat_of_mem_toDigits isMember)
  | negSucc less =>
    change symbol ∈ ("-" ++ toString (less + 1)).toList at isMember
    rw [String.toList_append, List.mem_append, toList_natural] at isMember
    rcases isMember with isSign | isDigit
    · exact .inl (List.mem_singleton.mp isSign)
    · exact .inr (toNat_of_mem_toDigits isDigit)

end EventCorrelation.Text
