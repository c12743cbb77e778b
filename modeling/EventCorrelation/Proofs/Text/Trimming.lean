import EventCorrelation.Text.Blank
import Mathlib.Data.List.TakeWhile

/-!
# Trimming

Trimming takes the blanks off both ends of a text and nothing else: what is left stands in the text
between blanks and has none at its ends, and nothing else does. Only a blank text leaves nothing.
-/

namespace EventCorrelation.Text

variable {symbols before behind : List Char}

/-- No blank stands at either end. -/
structure Trimmed (symbols : List Char) : Prop where
  first : ∀ symbol ∈ symbols.head?, isBlank symbol = false
  last : ∀ symbol ∈ symbols.getLast?, isBlank symbol = false

/-- The first text is the second between blanks, and the second has none at its ends. -/
structure TrimsTo (text trimmed : String) : Prop where
  surrounded : ∃ before behind : List Char, (∀ symbol ∈ before ++ behind, isBlank symbol = true) ∧
    text.toList = before ++ trimmed.toList ++ behind
  bare : Trimmed trimmed.toList

section Front

theorem first_dropBlanks (symbols : List Char) :
    ∀ symbol ∈ (dropBlanks symbols).head?, isBlank symbol = false := by
  intro symbol isFirst
  have head := List.head?_dropWhile_not isBlank symbols
  rw [dropBlanks] at isFirst
  rw [Option.mem_def.mp isFirst] at head
  simpa using head

theorem exists_dropBlanks (symbols : List Char) :
    ∃ blanks, (∀ symbol ∈ blanks, isBlank symbol = true) ∧ symbols = blanks ++ dropBlanks symbols :=
  ⟨symbols.takeWhile isBlank, fun _ => List.mem_takeWhile_imp,
    List.takeWhile_append_dropWhile.symm⟩

theorem dropBlanks_of_first (first : ∀ symbol ∈ symbols.head?, isBlank symbol = false) :
    dropBlanks symbols = symbols := by
  cases symbols with
  | nil => rfl
  | cons symbol rest => exact List.dropWhile_cons_of_neg (by simp [first symbol rfl])

theorem dropBlanks_append (blank : ∀ symbol ∈ before, isBlank symbol = true)
    (symbols : List Char) : dropBlanks (before ++ symbols) = dropBlanks symbols :=
  List.dropWhile_append_of_pos blank

end Front

/-- What is left once the front is clean begins with what is left at last. -/
theorem exists_trimBlanks_append (symbols : List Char) :
    ∃ blanks, (∀ symbol ∈ blanks, isBlank symbol = true) ∧
      dropBlanks symbols = trimBlanks symbols ++ blanks := by
  obtain ⟨blanks, blank, splits⟩ := exists_dropBlanks (dropBlanks symbols).reverse
  refine ⟨blanks.reverse, fun symbol isMember => blank symbol (List.mem_reverse.mp isMember), ?_⟩
  rw [trimBlanks, ← List.reverse_append, ← splits, List.reverse_reverse]

/-- What is left stands between blanks. -/
theorem exists_trimBlanks (symbols : List Char) :
    ∃ before behind, (∀ symbol ∈ before ++ behind, isBlank symbol = true) ∧
      symbols = before ++ trimBlanks symbols ++ behind := by
  obtain ⟨before, blankBefore, front⟩ := exists_dropBlanks symbols
  obtain ⟨behind, blankBehind, back⟩ := exists_trimBlanks_append symbols
  refine ⟨before, behind, List.forall_mem_append.mpr ⟨blankBefore, blankBehind⟩, ?_⟩
  rw [List.append_assoc, ← back, ← front]

theorem trimmed_trimBlanks (symbols : List Char) : Trimmed (trimBlanks symbols) where
  first := by
    intro symbol isFirst
    obtain ⟨blanks, -, splits⟩ := exists_trimBlanks_append symbols
    refine first_dropBlanks symbols symbol ?_
    rw [splits, List.head?_append, Option.mem_def.mp isFirst]
    rfl
  last := by
    intro symbol isLast
    rw [trimBlanks, List.getLast?_reverse] at isLast
    exact first_dropBlanks _ symbol isLast

theorem trimBlanks_eq_nil_iff :
    trimBlanks symbols = [] ↔ ∀ symbol ∈ symbols, isBlank symbol = true := by
  constructor
  · intro nothing
    obtain ⟨before, behind, blank, splits⟩ := exists_trimBlanks symbols
    rw [nothing, List.append_nil] at splits
    rwa [splits]
  · intro blank
    have nothing : dropBlanks symbols = [] := List.dropWhile_eq_nil_iff.mpr blank
    rw [trimBlanks, nothing]
    rfl

/-- A text without blanks at its ends is what is left of it between blanks. -/
theorem trimBlanks_surrounded (trimmed : Trimmed symbols)
    (blank : ∀ symbol ∈ before ++ behind, isBlank symbol = true) :
    trimBlanks (before ++ symbols ++ behind) = symbols := by
  obtain ⟨blankBefore, blankBehind⟩ := List.forall_mem_append.mp blank
  cases symbols with
  | nil =>
    rw [List.append_nil]
    exact trimBlanks_eq_nil_iff.mpr blank
  | cons symbol rest =>
    have first : ∀ other ∈ (symbol :: rest ++ behind).head?, isBlank other = false := by
      rintro other ⟨⟩
      exact trimmed.first symbol rfl
    have front : dropBlanks (before ++ (symbol :: rest ++ behind)) = symbol :: rest ++ behind := by
      rw [dropBlanks_append blankBefore, dropBlanks_of_first first]
    have back : dropBlanks (behind.reverse ++ (symbol :: rest).reverse) = (symbol :: rest).reverse := by
      rw [dropBlanks_append fun other isMember => blankBehind other (List.mem_reverse.mp isMember)]
      refine dropBlanks_of_first ?_
      rw [List.head?_reverse]
      exact trimmed.last
    rw [trimBlanks, List.append_assoc, front, List.reverse_append, back, List.reverse_reverse]

theorem trimBlanks_of_trimmed (trimmed : Trimmed symbols) : trimBlanks symbols = symbols := by
  have nothingAround : ∀ symbol ∈ ([] : List Char) ++ [], isBlank symbol = true := nofun
  simpa using trimBlanks_surrounded trimmed nothingAround

/-- Trimming brings in no symbol. -/
theorem mem_of_mem_trimBlanks {symbol : Char} (isMember : symbol ∈ trimBlanks symbols) :
    symbol ∈ symbols := by
  obtain ⟨before, behind, -, splits⟩ := exists_trimBlanks symbols
  rw [splits]
  exact List.mem_append_left _ (List.mem_append_right _ isMember)

theorem trimsTo_iff {text trimmed : String} : TrimsTo text trimmed ↔ trim text = trimmed := by
  constructor
  · rintro ⟨⟨before, behind, blank, splits⟩, bare⟩
    rw [trim, splits, trimBlanks_surrounded bare blank, String.ofList_toList]
  · rintro rfl
    have letters : (trim text).toList = trimBlanks text.toList := String.toList_ofList
    refine ⟨?_, ?_⟩
    · rw [letters]
      exact exists_trimBlanks text.toList
    · rw [letters]
      exact trimmed_trimBlanks text.toList

end EventCorrelation.Text
