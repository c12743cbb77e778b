import EventCorrelation.Proofs.Json.Nesting

/-!
# Numbers that are read

A value that is read holds numbers of its text only, and every integer of a text fits 64 bits: larger
ones are floating point numbers. So all that can keep a value that was read from being carried without
loss is a floating point number in it.
-/

namespace EventCorrelation

namespace JsonNumber

/-- An integer fits 64 bits, with or without a sign. -/
def Fits : JsonNumber → Prop
  | .integer value => -9223372036854775808 ≤ value ∧ value < 18446744073709551616
  | .binary _ => True

def IsInteger : JsonNumber → Prop
  | .integer _ => True
  | .binary _ => False

end JsonNumber

namespace Json

section Values

mutual

/-- The numbers that occur in a value. -/
def numbers : Json → List JsonNumber
  | .number value => [value]
  | .array items => numbersOfItems items
  | .object members => numbersOfMembers members
  | _ => []
termination_by structural value => value

def numbersOfItems : List Json → List JsonNumber
  | [] => []
  | item :: rest => item.numbers ++ numbersOfItems rest
termination_by structural items => items

def numbersOfMembers : List (String × Json) → List JsonNumber
  | [] => []
  | (_, value) :: rest => value.numbers ++ numbersOfMembers rest
termination_by structural members => members

end

mutual

theorem floatFree_iff : (value : Json) →
    (value.FloatFree ↔ ∀ number ∈ value.numbers, number.IsInteger ∧ number.Fits)
  | .null | .bool _ | .string _ => ⟨fun _ => List.forall_mem_nil _, fun _ => trivial⟩
  | .number (.integer _) =>
    ⟨fun fits => List.forall_mem_singleton.mpr ⟨trivial, fits⟩,
      fun whole => (List.forall_mem_singleton.mp whole).2⟩
  | .number (.binary _) => ⟨False.elim, fun whole => (List.forall_mem_singleton.mp whole).1⟩
  | .array items => floatFreeItems_iff items
  | .object members => floatFreeMembers_iff members
termination_by structural value => value

theorem floatFreeItems_iff : (items : List Json) →
    (FloatFreeItems items ↔ ∀ number ∈ numbersOfItems items, number.IsInteger ∧ number.Fits)
  | [] => ⟨fun _ => List.forall_mem_nil _, fun _ => trivial⟩
  | item :: rest =>
    (and_congr (floatFree_iff item) (floatFreeItems_iff rest)).trans List.forall_mem_append.symm
termination_by structural items => items

theorem floatFreeMembers_iff : (members : List (String × Json)) →
    (FloatFreeMembers members ↔ ∀ number ∈ numbersOfMembers members, number.IsInteger ∧ number.Fits)
  | [] => ⟨fun _ => List.forall_mem_nil _, fun _ => trivial⟩
  | (_, value) :: rest =>
    (and_congr (floatFree_iff value) (floatFreeMembers_iff rest)).trans List.forall_mem_append.symm
termination_by structural members => members

end

variable {members : List (String × Json)}

theorem mem_numbersOfMembers {number : JsonNumber} :
    number ∈ numbersOfMembers members ↔ ∃ member ∈ members, number ∈ member.2.numbers := by
  induction members with
  | nil => simp [numbersOfMembers]
  | cons member rest ih =>
    obtain ⟨name, value⟩ := member
    simp [numbersOfMembers, ih]

theorem depthMembers_le_iff {bound : Nat} :
    depthMembers members ≤ bound ↔ ∀ member ∈ members, member.2.depth ≤ bound := by
  induction members with
  | nil => simp [depthMembers]
  | cons member rest ih =>
    obtain ⟨name, value⟩ := member
    rw [depthMembers, Nat.max_le, ih, List.forall_mem_cons]

end Values

section Trees

mutual

/-- The numbers that occur in a tree and are in range. -/
def Tree.numbers : Tree → List JsonNumber
  | .number (.ok value) => [value]
  | .array items _ => numbersOfItems items
  | .object members _ => numbersOfMembers members
  | _ => []
termination_by structural tree => tree

def Tree.numbersOfItems : List Tree → List JsonNumber
  | [] => []
  | item :: rest => item.numbers ++ numbersOfItems rest
termination_by structural items => items

def Tree.numbersOfMembers : List (Except Fault String × Tree) → List JsonNumber
  | [] => []
  | (_, value) :: rest => value.numbers ++ numbersOfMembers rest
termination_by structural members => members

end

/-- All integers in the tree fit 64 bits. -/
def Tree.Fits (tree : Tree) : Prop := ∀ number ∈ tree.numbers, number.Fits

theorem Tree.mem_numbersOfItems {number : JsonNumber} {items : List Tree} :
    number ∈ numbersOfItems items ↔ ∃ item ∈ items, number ∈ item.numbers := by
  induction items with
  | nil => simp [numbersOfItems]
  | cons item rest ih => simp [numbersOfItems, ih]

theorem Tree.mem_numbersOfMembers {number : JsonNumber}
    {members : List (Except Fault String × Tree)} :
    number ∈ numbersOfMembers members ↔ ∃ member ∈ members, number ∈ member.2.numbers := by
  induction members with
  | nil => simp [numbersOfMembers]
  | cons member rest ih =>
    obtain ⟨name, value⟩ := member
    simp [numbersOfMembers, ih]

theorem Tree.fits_array {items : List Tree} {stop : Stop} :
    (Tree.array items stop).Fits ↔ ∀ item ∈ items, item.Fits := by
  simp only [Fits, numbers, mem_numbersOfItems]
  exact ⟨fun fits item isItem number isNumber => fits number ⟨item, isItem, isNumber⟩,
    fun fits number ⟨item, isItem, isNumber⟩ => fits item isItem number isNumber⟩

theorem Tree.fits_object {members : List (Except Fault String × Tree)} {stop : Stop} :
    (Tree.object members stop).Fits ↔ ∀ member ∈ members, member.2.Fits := by
  simp only [Fits, numbers, mem_numbersOfMembers]
  exact ⟨fun fits member isMember number isNumber => fits number ⟨member, isMember, isNumber⟩,
    fun fits number ⟨member, isMember, isNumber⟩ => fits member isMember number isNumber⟩

theorem Tree.hereditary_fits : Hereditary Tree.Fits :=
  ⟨fits_array.mp, fits_object.mp⟩

/-- A broken tree holds no numbers. -/
theorem Tree.fits_broken (start : BrokenStart) (faults : FaultPair) : (Tree.broken start faults).Fits :=
  List.forall_mem_nil _

end Trees

section Scanning

open Literal

theorem takeWhole_lt {significand : Nat} (fits : significand < wordLimit) (exponent : Int)
    (digits : List Nat) : (takeWhole significand exponent digits).1 < wordLimit := by
  induction digits generalizing significand with
  | nil => exact fits
  | cons digit rest ih =>
    unfold takeWhole
    split
    · next small => exact ih small
    · exact fits

/-- What does not fit 64 bits is a floating point number. -/
theorem fits_of_value {literal : Literal} {number : JsonNumber}
    (read : literal.value = .ok number) : number.Fits := by
  have small : (takeWhole 0 0 literal.whole).1 < wordLimit := takeWhole_lt (by decide) 0 literal.whole
  have limit : wordLimit = 18446744073709551616 := rfl
  have power : Nat.pow 2 63 = 9223372036854775808 := rfl
  unfold Literal.value at read
  generalize takeWhole 0 0 literal.whole = taken at small read
  obtain ⟨significand, exponent⟩ := taken
  dsimp only at small read
  split at read
  · obtain ⟨binary, -, rfl⟩ := exists_of_map read
    trivial
  split at read
  · cases read
    exact ⟨by omega, by omega⟩
  split at read
  · obtain ⟨binary, -, rfl⟩ := exists_of_map read
    trivial
  · next inRange =>
    cases read
    exact ⟨by omega, by omega⟩

theorem fits_number {value : Except Fault JsonNumber}
    (each : ∀ {number}, value = .ok number → number.Fits) : (Tree.number value).Fits := by
  cases value with
  | error fault => exact List.forall_mem_nil _
  | ok number => exact List.forall_mem_singleton.mpr (each rfl)

theorem fits_scanConstant {tree : Tree} (noNumbers : tree.numbers = []) (letters text : List UInt8) :
    (scanConstant tree letters text).1.Fits := by
  unfold scanConstant
  split
  · exact Tree.fits_broken _ _
  · change ∀ number ∈ tree.numbers, number.Fits
    rw [noNumbers]
    exact List.forall_mem_nil _

/-- Whatever text is scanned, all integers in its tree fit 64 bits. -/
theorem fits_scan (fuel : Nat) :
    (∀ text, (scan fuel text).1.Fits) ∧
      (∀ place text, ∀ item ∈ (scanItems fuel place text).1, item.Fits) ∧
      ∀ place text, ∀ member ∈ (scanMembers fuel place text).1, member.2.Fits := by
  induction fuel with
  | zero =>
    exact ⟨fun _ => List.forall_mem_nil _, fun _ _ => List.forall_mem_nil _,
      fun _ _ => List.forall_mem_nil _⟩
  | succ fuel ih =>
    obtain ⟨value, items, members⟩ := ih
    refine ⟨fun text => ?_, fun place text => ?_, fun place text => ?_⟩
    · unfold scan
      split
      · exact Tree.fits_broken _ _
      · exact fits_scanConstant (by rfl) _ _
      · exact fits_scanConstant (by rfl) _ _
      · exact fits_scanConstant (by rfl) _ _
      · split
        · exact Tree.fits_broken _ _
        · exact List.forall_mem_nil _
      · exact Tree.fits_array.mpr (items _ _)
      · exact Tree.fits_object.mpr (members _ _)
      · split
        · split
          · exact Tree.fits_broken _ _
          · next literal rest read => exact fits_number fits_of_value
        · exact Tree.fits_broken _ _
    · unfold scanItems
      split
      · exact List.forall_mem_nil _
      · next text _ =>
        have first := value text
        split
        · next item scanned =>
          rw [scanned] at first
          exact List.forall_mem_singleton.mpr first
        · next item rest scanned =>
          rw [scanned] at first
          exact List.forall_mem_cons.mpr ⟨first, items .later rest⟩
    · unfold scanMembers
      split
      · exact List.forall_mem_nil _
      · split
        · exact List.forall_mem_nil _
        · split
          · exact List.forall_mem_singleton.mpr (Tree.fits_broken _ _)
          · next rest _ =>
            have first := value rest
            split
            · next other scanned =>
              rw [scanned] at first
              exact List.forall_mem_singleton.mpr first
            · next other rest scanned =>
              rw [scanned] at first
              exact List.forall_mem_cons.mpr ⟨first, members .later rest⟩

end Scanning

section Reading

/-- A value as it comes out of a text with so many levels to open: with its members sorted, no deeper
than that, and without integers beyond 64 bits. -/
structure Legible (levels : Nat) (value : Json) : Prop where
  sorted : value.Sorted
  fits : ∀ number ∈ value.numbers, number.Fits
  shallow : value.depth ≤ levels

theorem Legible.floatFree {levels : Nat} {value : Json} (legible : value.Legible levels)
    (whole : ∀ number ∈ value.numbers, number.IsInteger) : value.FloatFree :=
  (floatFree_iff value).mpr fun number isNumber =>
    ⟨whole number isNumber, legible.fits number isNumber⟩

mutual

/-- A value that is read nests no deeper than its text may and has no numbers of its own. -/
theorem within_of_decodeJson : (tree : Tree) → (levels : Nat) → {value : Json} →
    decodeJson ⟨.text, levels⟩ tree = .ok value →
    value.depth ≤ levels ∧ value.numbers ⊆ tree.numbers
  | .null, levels, _, decoded | .bool _, levels, _, decoded => by
    cases decoded
    exact ⟨Nat.zero_le levels, List.nil_subset _⟩
  | .number (.ok _), levels, _, decoded | .string (.ok _), levels, _, decoded => by
    cases decoded
    exact ⟨Nat.zero_le levels, List.Subset.refl _⟩
  | .number (.error _), _, _, decoded | .string (.error _), _, _, decoded => by cases decoded
  | .array items stop, levels, _, decoded => by
    rw [decodeJson] at decoded
    obtain ⟨inner, entered, decoded⟩ := exists_of_bind decoded
    obtain ⟨values, decodedItems, decoded⟩ := exists_of_bind decoded
    obtain ⟨_, -, decoded⟩ := exists_of_bind decoded
    cases decoded
    obtain ⟨fewer, rfl, rfl⟩ := levels_of_enter entered
    obtain ⟨shallow, drawn⟩ := within_of_decodeJsonItems items fewer decodedItems
    exact ⟨Nat.succ_le_succ shallow, drawn⟩
  | .object members stop, levels, _, decoded => by
    rw [decodeJson] at decoded
    obtain ⟨inner, entered, decoded⟩ := exists_of_bind decoded
    obtain ⟨values, decodedMembers, decoded⟩ := exists_of_bind decoded
    obtain ⟨_, -, decoded⟩ := exists_of_bind decoded
    cases decoded
    obtain ⟨fewer, rfl, rfl⟩ := levels_of_enter entered
    obtain ⟨shallow, drawn⟩ := within_of_decodeJsonMembers members fewer decodedMembers
    refine ⟨Nat.succ_le_succ (depthMembers_le_iff.mpr fun member isMember => ?_), fun number => ?_⟩
    · exact depthMembers_le_iff.mp shallow member (sortMembers_subset values isMember)
    · intro isNumber
      obtain ⟨member, isMember, inMember⟩ := mem_numbersOfMembers.mp isNumber
      exact drawn (mem_numbersOfMembers.mpr ⟨member, sortMembers_subset values isMember, inMember⟩)
  | .broken _ _, _, _, decoded => by cases decoded
termination_by structural tree => tree

theorem within_of_decodeJsonItems : (items : List Tree) → (levels : Nat) →
    {values : List Json} → decodeJsonItems ⟨.text, levels⟩ items = .ok values →
    depthItems values ≤ levels ∧ numbersOfItems values ⊆ Tree.numbersOfItems items
  | [], levels, _, decoded => by
    cases decoded
    exact ⟨Nat.zero_le levels, List.nil_subset _⟩
  | item :: rest, levels, _, decoded => by
    rw [decodeJsonItems] at decoded
    obtain ⟨first, decodedFirst, decoded⟩ := exists_of_bind decoded
    obtain ⟨others, decodedRest, decoded⟩ := exists_of_bind decoded
    cases decoded
    obtain ⟨shallowFirst, drawnFirst⟩ := within_of_decodeJson item levels decodedFirst
    obtain ⟨shallowRest, drawnRest⟩ := within_of_decodeJsonItems rest levels decodedRest
    exact ⟨Nat.max_le.mpr ⟨shallowFirst, shallowRest⟩,
      List.append_subset.mpr ⟨List.subset_append_of_subset_left _ drawnFirst,
        List.subset_append_of_subset_right _ drawnRest⟩⟩
termination_by structural items => items

theorem within_of_decodeJsonMembers : (members : List (Except Fault String × Tree)) →
    (levels : Nat) → {values : List (String × Json)} →
    decodeJsonMembers ⟨.text, levels⟩ members = .ok values →
    depthMembers values ≤ levels ∧ numbersOfMembers values ⊆ Tree.numbersOfMembers members
  | [], levels, _, decoded => by
    cases decoded
    exact ⟨Nat.zero_le levels, List.nil_subset _⟩
  | (name, value) :: rest, levels, _, decoded => by
    rw [decodeJsonMembers] at decoded
    obtain ⟨_, -, decoded⟩ := exists_of_bind decoded
    obtain ⟨first, decodedFirst, decoded⟩ := exists_of_bind decoded
    obtain ⟨others, decodedRest, decoded⟩ := exists_of_bind decoded
    cases decoded
    obtain ⟨shallowFirst, drawnFirst⟩ := within_of_decodeJson value levels decodedFirst
    obtain ⟨shallowRest, drawnRest⟩ := within_of_decodeJsonMembers rest levels decodedRest
    exact ⟨Nat.max_le.mpr ⟨shallowFirst, shallowRest⟩,
      List.append_subset.mpr ⟨List.subset_append_of_subset_left _ drawnFirst,
        List.subset_append_of_subset_right _ drawnRest⟩⟩
termination_by structural members => members

end

theorem gives_legible (levels : Nat) :
    Gives Tree.Fits ⟨.text, levels⟩ decodeJson (Legible levels) := by
  intro tree value fits decoded
  obtain ⟨shallow, drawn⟩ := within_of_decodeJson tree levels decoded
  exact ⟨sorted_of_decodeJson tree _ decoded, fun number isNumber => fits number (drawn isNumber),
    shallow⟩

/-- Whatever a decoder gives for trees of texts it gives for the text. -/
theorem Gives.decode {α : Type} {decoder : Decoder α} {property : α → Prop} {text : List UInt8}
    {value : α} (given : Gives Tree.Fits ⟨.text, nestingLimit⟩ decoder property)
    (decoded : Json.decode decoder text = .ok value) : property value := by
  have fits : (Tree.ofText text).1.Fits := (fits_scan _).1 text
  unfold Json.decode at decoded
  generalize Tree.ofText text = scanned at fits decoded
  obtain ⟨tree, rest⟩ := scanned
  obtain ⟨read, decodedTree, decoded⟩ := exists_of_bind decoded
  have same : read = value := by
    split at decoded
    · cases decoded
    · split at decoded
      · cases decoded
        rfl
      · cases decoded
  rw [← same]
  exact given tree read fits decodedTree

end Reading

end Json

end EventCorrelation
