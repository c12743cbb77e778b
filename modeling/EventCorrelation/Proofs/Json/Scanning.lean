import EventCorrelation.Proofs.Json.Integers
import EventCorrelation.Proofs.Json.Strings

/-!
# Scanning spellings

The tree of a text that spells a value is the tree of the value. Twice the length of the text is
fuel enough, since a value takes a byte at least, and its fuel is spent once for the value and once
in front of it.
-/

namespace EventCorrelation.Json

variable {value : Json} {text space rest : List UInt8} {place : Place} {byte : UInt8}

theorem skipSpace_append (isSpace : IsSpace space) (text : List UInt8) :
    skipSpace (space ++ text) = skipSpace text := by
  induction space with
  | nil => rfl
  | cons byte space ih =>
    have isSpaceRest : IsSpace space := fun other member => isSpace other (List.mem_cons_of_mem _ member)
    rw [List.cons_append, skipSpace, if_pos (isSpace byte (List.mem_cons_self ..)), ih isSpaceRest]

theorem scan_append (isSpace : IsSpace space) (fuel : Nat) (text : List UInt8) :
    scan fuel (space ++ text) = scan fuel text := by
  cases fuel with
  | zero => rfl
  | succ fuel => rw [scan, scan, skipSpace_append isSpace]

/-- A byte that is neither white space nor the end of an array, as every first byte of a value. -/
structure StartsValue (byte : UInt8) : Prop where
  notSpace : ¬ (byte = 0x20 ∨ byte = 0x0A ∨ byte = 0x09 ∨ byte = 0x0D)
  notClosing : byte ≠ 0x5D

theorem StartsValue.skipSpace (starts : StartsValue byte) (rest : List UInt8) :
    skipSpace (byte :: rest) = byte :: rest := by
  rw [Json.skipSpace, if_neg starts.notSpace]

theorem toNat_of_digit (isDigit : (Literal.digit? byte).isSome = true) :
    0x30 ≤ byte.toNat ∧ byte.toNat ≤ 0x39 := by
  unfold Literal.digit? at isDigit
  split at isDigit
  · next bounds => exact ⟨UInt8.le_iff_toNat_le.mp bounds.1, UInt8.le_iff_toNat_le.mp bounds.2⟩
  · cases isDigit

theorem startsValue_of_digit (isDigit : (Literal.digit? byte).isSome = true) : StartsValue byte := by
  have bounds := toNat_of_digit isDigit
  refine ⟨?_, ?_⟩
  · rintro (rfl | rfl | rfl | rfl) <;> exact absurd bounds (by decide)
  · rintro rfl
    exact absurd bounds (by decide)

/-- A spelling is never empty. -/
theorem Spells.eq_cons (spelled : Spells value text) :
    ∃ first more, text = first :: more ∧ StartsValue first := by
  cases spelled with
  | integer least greatest =>
    obtain ⟨first, more, bytes, isNumber⟩ := integerBytes_eq_cons _
    refine ⟨first, more, bytes, ?_⟩
    rcases isNumber with rfl | isDigit
    · exact ⟨by decide, by decide⟩
    · exact startsValue_of_digit isDigit
  | null | true | false => exact ⟨_, _, rfl, by decide, by decide⟩
  | string | array | object => exact ⟨_, _, rfl, by decide, by decide⟩

theorem Spells.length_pos (spelled : Spells value text) : 0 < text.length := by
  obtain ⟨first, more, rfl, -⟩ := spelled.eq_cons
  exact Nat.succ_pos _

/-- Behind white space that nothing but a comma or a bracket follows, no number goes on. -/
theorem endsNumber_of_space (isSpace : IsSpace space) (ends : EndsNumber rest) :
    EndsNumber (space ++ rest) := by
  cases space with
  | nil => exact ends
  | cons byte space =>
    intro first isFirst
    cases isFirst
    rcases isSpace byte (List.mem_cons_self ..) with rfl | rfl | rfl | rfl <;> decide

theorem endsNumber_cons (ends : Literal.digit? byte = none ∧ byte ≠ 0x2E ∧ byte ≠ 0x65 ∧ byte ≠ 0x45)
    (rest : List UInt8) : EndsNumber (byte :: rest) := by
  intro first isFirst
  cases isFirst
  exact ends

theorem endsNumber_nil : EndsNumber [] :=
  fun _ isFirst => nomatch isFirst

theorem Separates.endsNumber {between : List UInt8} (separates : Separates .later between)
    (rest : List UInt8) : EndsNumber (between ++ rest) := by
  cases separates with
  | later isSpaceBefore isSpaceBehind =>
    rw [List.append_assoc]
    exact endsNumber_of_space isSpaceBefore (endsNumber_cons (by decide) _)

theorem SpellsItems.endsNumber {items : List Json} (spelled : SpellsItems .later items text)
    (rest : List UInt8) : EndsNumber (text ++ 0x5D :: rest) := by
  cases spelled with
  | nil isSpace => exact endsNumber_of_space isSpace (endsNumber_cons (by decide) _)
  | cons separates head tail =>
    rw [List.append_assoc, List.append_assoc]
    exact separates.endsNumber _

theorem SpellsMembers.endsNumber {members : List (String × Json)}
    (spelled : SpellsMembers .later members text) (rest : List UInt8) :
    EndsNumber (text ++ 0x7D :: rest) := by
  cases spelled with
  | nil isSpace => exact endsNumber_of_space isSpace (endsNumber_cons (by decide) _)
  | cons separates spelled isSpaceBefore isSpaceBehind head tail =>
    simp only [List.append_assoc]
    exact separates.endsNumber _

theorem nextItem_of_separates {between : List UInt8} (separates : Separates place between)
    (starts : StartsValue byte) (rest : List UInt8) :
    nextItem place (between ++ byte :: rest) = .ok (byte :: rest) := by
  cases separates with
  | first isSpace =>
    rw [nextItem.eq_def, skipSpace_append isSpace, starts.skipSpace]
    split
    · contradiction
    · next same => exact absurd (List.cons.inj same).1 starts.notClosing
    · rfl
    · contradiction
    · contradiction
  | later isSpaceBefore isSpaceBehind =>
    have comma (text : List UInt8) : skipSpace (0x2C :: text) = 0x2C :: text := rfl
    rw [nextItem.eq_def, List.append_assoc, skipSpace_append isSpaceBefore, List.cons_append, comma]
    simp only [skipSpace_append isSpaceBehind, starts.skipSpace]
    split
    · contradiction
    · next same => exact absurd (List.cons.inj same).1 starts.notClosing
    · rfl

theorem nextItem_of_closed (isSpace : IsSpace space) (place : Place) (rest : List UInt8) :
    nextItem place (space ++ 0x5D :: rest) = .error (.closed, some rest) := by
  rw [nextItem.eq_def, skipSpace_append isSpace]
  rfl

theorem nextMember_of_separates {between : List UInt8} (separates : Separates place between)
    (rest : List UInt8) : nextMember place (between ++ 0x22 :: rest) = .ok rest := by
  have quote (text : List UInt8) : skipSpace (0x22 :: text) = 0x22 :: text := rfl
  cases separates with
  | first isSpace =>
    rw [nextMember.eq_def, skipSpace_append isSpace, quote]
    rfl
  | later isSpaceBefore isSpaceBehind =>
    have comma (text : List UInt8) : skipSpace (0x2C :: text) = 0x2C :: text := rfl
    rw [nextMember.eq_def, List.append_assoc, skipSpace_append isSpaceBefore, List.cons_append, comma]
    simp only [skipSpace_append isSpaceBehind, quote]

theorem nextMember_of_closed (isSpace : IsSpace space) (place : Place) (rest : List UInt8) :
    nextMember place (space ++ 0x7D :: rest) = .error (.closed, some rest) := by
  rw [nextMember.eq_def, skipSpace_append isSpace]
  rfl

theorem scanColon_of_space (isSpace : IsSpace space) (rest : List UInt8) :
    scanColon (space ++ 0x3A :: rest) = .ok rest := by
  rw [scanColon, skipSpace_append isSpace]
  rfl

/-- A value that starts with a digit or a minus sign is a number. -/
theorem scan_number (isNumber : byte = 0x2D ∨ (Literal.digit? byte).isSome = true) (fuel : Nat)
    {literal : Literal} {rest behind : List UInt8}
    (read : Literal.read (byte :: rest) = .ok (literal, behind)) :
    scan (fuel + 1) (byte :: rest) = (.number literal.value, some behind) := by
  have starts : StartsValue byte := by
    rcases isNumber with rfl | isDigit
    · exact ⟨by decide, by decide⟩
    · exact startsValue_of_digit isDigit
  have bounds : 0x2D ≤ byte.toNat ∧ byte.toNat ≤ 0x39 := by
    rcases isNumber with rfl | isDigit
    · decide
    · have digits := toNat_of_digit isDigit
      omega
  have other {letter : UInt8} {behind : List UInt8} (same : byte :: rest = letter :: behind) :
      0x2D ≤ letter.toNat ∧ letter.toNat ≤ 0x39 := by
    rwa [← (List.cons.inj same).1]
  rw [scan, starts.skipSpace]
  -- no constant, string, array or object starts with such a byte
  split
  · contradiction
  iterate 6 exact absurd (other ‹_›) (by decide)
  · next same =>
    cases same
    rw [if_pos isNumber, read]

/-- With fuel for its length, the text is scanned to the tree of the value, and the rest is left. -/
def ScansTo (value : Json) (text : List UInt8) : Prop :=
  ∀ (fuel : Nat) (rest : List UInt8), 2 * text.length ≤ fuel → EndsNumber rest →
    scan fuel (text ++ rest) = (.ofJson value, some rest)

def ScansToItems (place : Place) (items : List Json) (text : List UInt8) : Prop :=
  ∀ (fuel : Nat) (rest : List UInt8), 2 * text.length < fuel →
    scanItems fuel place (text ++ 0x5D :: rest) = (Tree.ofItems items, .closed, some rest)

def ScansToMembers (place : Place) (members : List (String × Json)) (text : List UInt8) : Prop :=
  ∀ (fuel : Nat) (rest : List UInt8), 2 * text.length < fuel →
    scanMembers fuel place (text ++ 0x7D :: rest) = (Tree.ofMembers members, .closed, some rest)

/-- A value that takes one unit of fuel. -/
theorem scansTo_word (positive : 0 < text.length)
    (scanned : ∀ fuel rest, scan (fuel + 1) (text ++ rest) = (.ofJson value, some rest)) :
    ScansTo value text := by
  intro fuel rest enough ends
  cases fuel with
  | zero => omega
  | succ fuel => exact scanned fuel rest

theorem scansTo_integer {value : Int} (least : -9223372036854775808 ≤ value)
    (greatest : value < 18446744073709551616) :
    ScansTo (.number (.integer value)) (integerBytes value) := by
  intro fuel rest enough ends
  obtain ⟨first, more, bytes, isNumber⟩ := integerBytes_eq_cons value
  obtain ⟨literal, read, valueEq⟩ := read_integerBytes least greatest ends
  rw [bytes] at enough
  rw [bytes, List.cons_append] at read ⊢
  obtain ⟨fuel, rfl⟩ : ∃ fewer, fuel = fewer + 1 :=
    Nat.exists_eq_add_one.mpr (by simp at enough; omega)
  rw [scan_number isNumber fuel read, valueEq]
  rfl

theorem scansTo_string {symbols : List Char} (spelled : SpellsText symbols text) :
    ScansTo (.string (String.ofList symbols)) (0x22 :: text ++ [0x22]) := by
  intro fuel rest enough ends
  cases fuel with
  | zero => simp at enough
  | succ fuel =>
    have opened : skipSpace (0x22 :: (text ++ 0x22 :: rest)) = 0x22 :: (text ++ 0x22 :: rest) := rfl
    simp only [List.cons_append, List.append_assoc, List.nil_append, scan, opened,
      scanString_text spelled rest]
    rfl

theorem scansTo_array {items : List Json} (scanned : ScansToItems .first items text) :
    ScansTo (.array items) (0x5B :: text ++ [0x5D]) := by
  intro fuel rest enough ends
  cases fuel with
  | zero => simp at enough
  | succ fuel =>
    have inner := scanned fuel rest (by simp at enough; omega)
    simp only [List.cons_append, List.append_assoc, List.nil_append]
    change (Tree.array (scanItems fuel .first (text ++ 0x5D :: rest)).1 _, _) = _
    rw [inner]
    rfl

theorem scansTo_object {members : List (String × Json)}
    (scanned : ScansToMembers .first members text) :
    ScansTo (.object members) (0x7B :: text ++ [0x7D]) := by
  intro fuel rest enough ends
  cases fuel with
  | zero => simp at enough
  | succ fuel =>
    have inner := scanned fuel rest (by simp at enough; omega)
    simp only [List.cons_append, List.append_assoc, List.nil_append]
    change (Tree.object (scanMembers fuel .first (text ++ 0x7D :: rest)).1 _, _) = _
    rw [inner]
    rfl

theorem scansToItems_nil (isSpace : IsSpace space) (place : Place) : ScansToItems place [] space := by
  intro fuel rest enough
  cases fuel with
  | zero => simp at enough
  | succ fuel =>
    rw [scanItems, nextItem_of_closed isSpace]
    rfl

theorem scansToItems_cons {item : Json} {items : List Json} {between front back : List UInt8}
    (separates : Separates place between) (spelled : Spells item front) (head : ScansTo item front)
    (follows : SpellsItems .later items back) (tail : ScansToItems .later items back) :
    ScansToItems place (item :: items) (between ++ front ++ back) := by
  intro fuel rest enough
  have positive := spelled.length_pos
  simp only [List.length_append] at enough
  cases fuel with
  | zero => omega
  | succ fuel =>
    have next : nextItem place (between ++ front ++ back ++ 0x5D :: rest) =
        .ok (front ++ (back ++ 0x5D :: rest)) := by
      obtain ⟨first, more, rfl, starts⟩ := spelled.eq_cons
      simpa only [List.append_assoc, List.cons_append] using
        nextItem_of_separates separates starts (more ++ (back ++ 0x5D :: rest))
    have scannedHead := head fuel (back ++ 0x5D :: rest) (by omega) (follows.endsNumber rest)
    have scannedTail := tail fuel rest (by omega)
    rw [scanItems, next]
    simp only [scannedHead, scannedTail]
    rfl

theorem scansToMembers_nil (isSpace : IsSpace space) (place : Place) :
    ScansToMembers place [] space := by
  intro fuel rest enough
  cases fuel with
  | zero => simp at enough
  | succ fuel =>
    rw [scanMembers, nextMember_of_closed isSpace]
    rfl

theorem scansToMembers_cons {name : List Char} {value : Json} {members : List (String × Json)}
    {between quoted before behind front back : List UInt8} (separates : Separates place between)
    (spelledName : SpellsText name quoted) (isSpaceBefore : IsSpace before)
    (isSpaceBehind : IsSpace behind) (head : ScansTo value front)
    (follows : SpellsMembers .later members back) (tail : ScansToMembers .later members back) :
    ScansToMembers place ((String.ofList name, value) :: members)
      (between ++ 0x22 :: quoted ++ 0x22 :: before ++ 0x3A :: behind ++ front ++ back) := by
  intro fuel rest enough
  simp only [List.length_append, List.length_cons] at enough
  cases fuel with
  | zero => omega
  | succ fuel =>
    have next := nextMember_of_separates separates
      (quoted ++ 0x22 :: (before ++ 0x3A :: (behind ++ (front ++ (back ++ 0x7D :: rest)))))
    have scannedHead := head fuel (back ++ 0x7D :: rest) (by omega) (follows.endsNumber rest)
    have scannedTail := tail fuel rest (by omega)
    simp only [List.append_assoc, List.cons_append]
    rw [scanMembers, next]
    simp only [scanString_text spelledName, scanColon_of_space isSpaceBefore,
      scan_append isSpaceBehind, scannedHead, scannedTail]
    rfl

mutual

/-- The tree of a spelling is the tree of the value. -/
theorem Spells.scansTo : {value : Json} → {text : List UInt8} → Spells value text →
    ScansTo value text
  | _, _, .null => scansTo_word (Nat.succ_pos _) fun _ _ => rfl
  | _, _, .true => scansTo_word (Nat.succ_pos _) fun _ _ => rfl
  | _, _, .false => scansTo_word (Nat.succ_pos _) fun _ _ => rfl
  | _, _, .integer least greatest => scansTo_integer least greatest
  | _, _, .string spelled => scansTo_string spelled
  | _, _, .array spelled => scansTo_array spelled.scansTo
  | _, _, .object spelled => scansTo_object spelled.scansTo

theorem SpellsItems.scansTo : {place : Place} → {items : List Json} → {text : List UInt8} →
    SpellsItems place items text → ScansToItems place items text
  | _, _, _, .nil isSpace => scansToItems_nil isSpace _
  | _, _, _, .cons separates head tail =>
    scansToItems_cons separates head head.scansTo tail tail.scansTo

theorem SpellsMembers.scansTo : {place : Place} → {members : List (String × Json)} →
    {text : List UInt8} → SpellsMembers place members text → ScansToMembers place members text
  | _, _, _, .nil isSpace => scansToMembers_nil isSpace _
  | _, _, _, .cons separates spelled isSpaceBefore isSpaceBehind head tail =>
    scansToMembers_cons separates spelled isSpaceBefore isSpaceBehind head.scansTo tail tail.scansTo

end

/-- A text that spells a value between white space has the tree of the value, and behind it white
space is left. -/
theorem ofText_of_spells {behind : List UInt8} (isSpaceBefore : IsSpace space)
    (spelled : Spells value text) (isSpaceBehind : IsSpace behind) :
    Tree.ofText (space ++ text ++ behind) = (.ofJson value, some behind) := by
  have ends : EndsNumber behind := by
    have ends := endsNumber_of_space isSpaceBehind endsNumber_nil
    rwa [List.append_nil] at ends
  rw [Tree.ofText, List.append_assoc, scan_append isSpaceBefore]
  refine spelled.scansTo _ behind ?_ ends
  simp only [List.length_append]
  omega

end EventCorrelation.Json
