import EventCorrelation.Json.Printer
import EventCorrelation.Proofs.Text.Numbers

/-!
# Characters of printed values

The compact text of any value is one line: no control character stands in it, whatever its strings
hold.
-/

namespace EventCorrelation

namespace Text

variable {symbol : Char} {front back rest : List Char}

/-- No control character of ASCII is among them. -/
def Printable (symbols : List Char) : Prop := ∀ symbol ∈ symbols, 0x20 ≤ symbol.toNat

@[simp]
theorem printable_append : Printable (front ++ back) ↔ Printable front ∧ Printable back :=
  List.forall_mem_append

@[simp]
theorem printable_cons : Printable (symbol :: rest) ↔ 0x20 ≤ symbol.toNat ∧ Printable rest :=
  List.forall_mem_cons

@[simp]
theorem printable_nil : Printable [] := nofun

theorem printable_replicate {count : Nat} (printable : 0x20 ≤ symbol.toNat) :
    Printable (List.replicate count symbol) := fun _ isMember => by
  rwa [List.eq_of_mem_replicate isMember]

theorem Printable.take {symbols : List Char} (printable : Printable symbols) (count : Nat) :
    Printable (symbols.take count) := fun _ isMember => printable _ (List.mem_of_mem_take isMember)

theorem Printable.drop {symbols : List Char} (printable : Printable symbols) (count : Nat) :
    Printable (symbols.drop count) := fun _ isMember => printable _ (List.mem_of_mem_drop isMember)

theorem printable_digits (number : Nat) : Printable (Nat.toDigits 10 number) :=
  fun _ isMember => Nat.le_trans (by decide) (toNat_of_mem_toDigits isMember).1

end Text

namespace Json

open Text

theorem printable_hexDigit (index : Nat) : 0x20 ≤ (hexDigits.getD index '0').toNat := by
  have all : Printable hexDigits := by simp [hexDigits]
  rw [List.getD_eq_getElem?_getD]
  cases found : hexDigits[index]? with
  | none => decide
  | some digit => exact all digit (List.mem_of_getElem? found)

theorem printable_escape (symbol : Char) : Printable (escape symbol) := by
  unfold escape
  repeat' split
  · simp
  · simp
  · simp
  · simp
  · simp
  · simp
  · simp
  · simp only [printable_cons, printable_hexDigit, printable_nil, and_true]
    decide
  · next printable => simpa using printable

theorem printable_quote (text : String) : Printable (quote text) := by
  have escaped : Printable (text.toList.flatMap escape) := by
    intro symbol isMember
    obtain ⟨original, -, isEscape⟩ := List.mem_flatMap.mp isMember
    exact printable_escape original symbol isEscape
  simp [quote, escaped]

theorem printable_write (layout : Decimal.Layout) (number : Binary64) :
    Printable (Decimal.write layout number) := by
  unfold Decimal.write
  extract_lets scaled digits exponent zeros sign fraction exponentSign
  have printableDigits : Printable digits := printable_digits scaled.digits
  have printableZeros (count : Int) : Printable (zeros count) := printable_replicate (by decide)
  have printableSign : Printable sign := by
    unfold sign
    split <;> simp
  have printableFraction : Printable fraction := by
    have others := printableDigits.drop 1
    unfold fraction
    split
    · exact printable_nil
    · simpa using others
  have printableExponentSign : Printable exponentSign := by
    unfold exponentSign
    repeat' split
    · simp
    · simp
    · simp
  split
  · simp [printableSign]
  split
  · split
    · simp [printableSign, printableDigits, printableZeros]
    split
    · simp [printableSign, printableDigits.take, printableDigits.drop]
    · simp [printableSign, printableDigits, printableZeros]
  · simp [printableSign, printableDigits.take, printableFraction, printableExponentSign,
      printable_digits]

theorem printable_number (number : JsonNumber) : Printable (printNumber number) := by
  cases number with
  | binary value => exact printable_write floatLayout value
  | integer value =>
    intro symbol isMember
    rcases mem_integer isMember with rfl | bounds
    · decide
    · exact Nat.le_trans (by decide) bounds.1

mutual

theorem printable_print : (value : Json) → Printable value.print
  | .null => by simp [print]
  | .bool true | .bool false => by simp [print, printBool]
  | .number value => printable_number value
  | .string text => printable_quote text
  | .array items => by simp [print, printable_printItems items]
  | .object members => by simp [print, printable_printMembers members]
termination_by structural value => value

theorem printable_printItems : (items : List Json) → Printable (printItems items)
  | [] => printable_nil
  | item :: rest => printable_append.mpr ⟨printable_print item, printable_printMoreItems rest⟩
termination_by structural items => items

theorem printable_printMoreItems : (items : List Json) → Printable (printMoreItems items)
  | [] => printable_nil
  | item :: rest => by simp [printMoreItems, printable_print item, printable_printMoreItems rest]
termination_by structural items => items

theorem printable_printMembers : (members : List (String × Json)) → Printable (printMembers members)
  | [] => printable_nil
  | (name, value) :: rest => by
    simp [printMembers, printable_quote, printable_print value, printable_printMoreMembers rest]
termination_by structural members => members

theorem printable_printMoreMembers : (members : List (String × Json)) →
    Printable (printMoreMembers members)
  | [] => printable_nil
  | (name, value) :: rest => by
    simp [printMoreMembers, printable_quote, printable_print value, printable_printMoreMembers rest]
termination_by structural members => members

end

theorem printable_compact (value : Json) : Printable value.compact.toList := by
  rw [compact, String.toList_ofList]
  exact printable_print value

end Json

end EventCorrelation
