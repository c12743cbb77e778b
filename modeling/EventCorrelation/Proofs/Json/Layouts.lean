import EventCorrelation.Json.Printer
import EventCorrelation.Proofs.Json.Scanning

/-!
# Layouts

The compact and the indented text of a value without floating point numbers both spell it.
-/

namespace EventCorrelation.Json

open Text

theorem hexUnit?_control : ∀ point < 0x20,
    hexUnit? 0x30 0x30 (UInt8.ofNat (hexDigits.getD (point / 16) '0').toNat)
      (UInt8.ofNat (hexDigits.getD (point % 16) '0').toNat) = some point ∧
    isLowSurrogate point = false ∧ isHighSurrogate point = false := by
  decide

theorem hexDigits_ascii (index : Nat) : (hexDigits.getD index '0').toNat < 0x80 := by
  have all : ∀ symbol ∈ hexDigits, symbol.toNat < 0x80 := by simp [hexDigits]
  rw [List.getD_eq_getElem?_getD]
  cases found : hexDigits[index]? with
  | none => decide
  | some symbol => exact all symbol (List.mem_of_getElem? found)

theorem spellsSymbol_control {symbol : Char} (control : symbol.toNat < 0x20) :
    SpellsSymbol symbol
      (encode ['\\', 'u', '0', '0', hexDigits.getD (symbol.toNat / 16) '0',
        hexDigits.getD (symbol.toNat % 16) '0']) := by
  obtain ⟨hex, notLow, notHigh⟩ := hexUnit?_control symbol.toNat control
  have spelled := SpellsSymbol.unit hex notLow notHigh
  rw [Char.ofNat_toNat] at spelled
  have ascii : ∀ other ∈ [hexDigits.getD (symbol.toNat / 16) '0',
      hexDigits.getD (symbol.toNat % 16) '0'], other.toNat < 0x80 := by
    intro other member
    simp only [List.mem_cons, List.not_mem_nil, or_false] at member
    rcases member with rfl | rfl <;> exact hexDigits_ascii _
  change SpellsSymbol symbol (0x5C :: 0x75 :: 0x30 :: 0x30 :: encode [_, _])
  rw [encode_of_ascii ascii]
  exact spelled

/-- A printed character spells itself. -/
theorem spellsSymbol_escape (symbol : Char) : SpellsSymbol symbol (encode (escape symbol)) := by
  unfold escape
  split
  · next same => rw [same]; exact @SpellsSymbol.letter 0x22 0x22 rfl
  split
  · next same => rw [same]; exact @SpellsSymbol.letter 0x5C 0x5C rfl
  split
  · next same => rw [same]; exact @SpellsSymbol.letter 0x62 0x08 rfl
  split
  · next same => rw [same]; exact @SpellsSymbol.letter 0x66 0x0C rfl
  split
  · next same => rw [same]; exact @SpellsSymbol.letter 0x6E 0x0A rfl
  split
  · next same => rw [same]; exact @SpellsSymbol.letter 0x72 0x0D rfl
  split
  · next same => rw [same]; exact @SpellsSymbol.letter 0x74 0x09 rfl
  split
  · next control => exact spellsSymbol_control control
  · next notQuote notBackslash _ _ _ _ _ printable =>
    have spelled := SpellsSymbol.plain (Nat.not_lt.mp printable) notQuote notBackslash
    rwa [encode_cons, encode_nil, List.append_nil]

theorem spellsText_escape (symbols : List Char) :
    SpellsText symbols (encode (symbols.flatMap escape)) := by
  induction symbols with
  | nil => exact .nil
  | cons symbol symbols ih =>
    rw [List.flatMap_cons, encode_append]
    exact .cons (spellsSymbol_escape symbol) ih

/-- A quoted string, as it stands in front of more text. -/
theorem encode_quote (text : String) :
    encode (quote text) = 0x22 :: encode (text.toList.flatMap escape) ++ [0x22] := by
  change 0x22 :: encode (text.toList.flatMap escape ++ ['"']) = _
  rw [encode_append]
  rfl

theorem spells_quote (text : String) : Spells (.string text) (encode (quote text)) := by
  have spelled := Spells.string (spellsText_escape text.toList)
  rwa [String.ofList_toList, ← encode_quote] at spelled

theorem spells_integer {value : Int} (least : -9223372036854775808 ≤ value)
    (greatest : value < 18446744073709551616) :
    Spells (.number (.integer value)) (encode (printNumber (.integer value))) := by
  have spelled := Spells.integer least greatest
  rwa [integerBytes, bytes_eq_encode] at spelled

theorem isSpace_nil : IsSpace (encode []) :=
  fun _ member => nomatch member

theorem isSpace_blank : IsSpace (encode [' ']) :=
  fun _ member => .inl (List.mem_singleton.mp member)

theorem isSpace_newline (level : Nat) : IsSpace (encode (newline level)) := by
  have ascii : ∀ symbol ∈ newline level, symbol.toNat < 0x80 ∧ (symbol = '\n' ∨ symbol = ' ') := by
    intro symbol member
    rcases List.mem_cons.mp member with rfl | member
    · decide
    · rw [List.eq_of_mem_replicate member]
      decide
  rw [encode_of_ascii fun symbol member => (ascii symbol member).1]
  intro byte member
  obtain ⟨symbol, symbolMember, rfl⟩ := List.mem_map.mp member
  rcases (ascii symbol symbolMember).2 with rfl | rfl <;> decide

/-- A comma may stand between items, with white space behind it. -/
theorem separates_comma {space : List Char} (isSpace : IsSpace (encode space)) :
    Separates .later (encode (',' :: space)) :=
  .later isSpace_nil isSpace

theorem separates_first {space : List Char} (isSpace : IsSpace (encode space)) :
    Separates .first (encode space) :=
  .first isSpace

theorem spells_array {items : List Json} {text : List Char}
    (spelled : SpellsItems .first items (encode text)) :
    Spells (.array items) (encode ('[' :: text ++ [']'])) := by
  have bytes : encode ('[' :: text ++ [']']) = 0x5B :: encode text ++ [0x5D] := by
    rw [encode_append]
    rfl
  rw [bytes]
  exact .array spelled

theorem spells_object {members : List (String × Json)} {text : List Char}
    (spelled : SpellsMembers .first members (encode text)) :
    Spells (.object members) (encode ('{' :: text ++ ['}'])) := by
  have bytes : encode ('{' :: text ++ ['}']) = 0x7B :: encode text ++ [0x7D] := by
    rw [encode_append]
    rfl
  rw [bytes]
  exact .object spelled

theorem spellsItems_cons {place : Place} {item : Json} {items : List Json}
    {between front back : List Char} (separates : Separates place (encode between))
    (head : Spells item (encode front)) (tail : SpellsItems .later items (encode back)) :
    SpellsItems place (item :: items) (encode (between ++ front ++ back)) := by
  rw [encode_append, encode_append]
  exact .cons separates head tail

theorem spellsMembers_cons (name : String) {place : Place} {value : Json}
    {members : List (String × Json)} {between gap front back : List Char}
    (separates : Separates place (encode between)) (isSpace : IsSpace (encode gap))
    (head : Spells value (encode front)) (tail : SpellsMembers .later members (encode back)) :
    SpellsMembers place ((name, value) :: members)
      (encode (between ++ quote name ++ ':' :: gap ++ front ++ back)) := by
  have spelled := SpellsMembers.cons separates (spellsText_escape name.toList) isSpace_nil isSpace
    head tail
  have colon : encode (':' :: gap) = 0x3A :: encode gap := rfl
  rw [String.ofList_toList] at spelled
  rw [encode_append, encode_append, encode_append, encode_append, encode_quote, colon]
  simpa only [List.append_assoc, List.cons_append, List.nil_append, encode_nil] using spelled

mutual

/-- The compact text spells its value. -/
theorem spells_print : (value : Json) → value.FloatFree → Spells value (encode value.print)
  | .null, _ => .null
  | .bool true, _ => .true
  | .bool false, _ => .false
  | .number (.integer _), fits => spells_integer fits.1 fits.2
  | .number (.binary _), floatFree => floatFree.elim
  | .string text, _ => spells_quote text
  | .array items, floatFree => spells_array (spellsItems_print items floatFree)
  | .object members, floatFree => spells_object (spellsMembers_print members floatFree)
termination_by structural value => value

theorem spellsItems_print : (items : List Json) → FloatFreeItems items →
    SpellsItems .first items (encode (printItems items))
  | [], _ => .nil isSpace_nil
  | item :: rest, floatFree =>
    spellsItems_cons (separates_first isSpace_nil) (spells_print item floatFree.1)
      (spellsMoreItems_print rest floatFree.2)
termination_by structural items => items

theorem spellsMoreItems_print : (items : List Json) → FloatFreeItems items →
    SpellsItems .later items (encode (printMoreItems items))
  | [], _ => .nil isSpace_nil
  | item :: rest, floatFree =>
    spellsItems_cons (separates_comma isSpace_nil) (spells_print item floatFree.1)
      (spellsMoreItems_print rest floatFree.2)
termination_by structural items => items

theorem spellsMembers_print : (members : List (String × Json)) → FloatFreeMembers members →
    SpellsMembers .first members (encode (printMembers members))
  | [], _ => .nil isSpace_nil
  | (name, value) :: rest, floatFree => by
    have spelled := spellsMembers_cons name (separates_first isSpace_nil) isSpace_nil
      (spells_print value floatFree.1) (spellsMoreMembers_print rest floatFree.2)
    simpa only [printMembers, List.append_assoc, List.cons_append, List.nil_append] using spelled
termination_by structural members => members

theorem spellsMoreMembers_print : (members : List (String × Json)) → FloatFreeMembers members →
    SpellsMembers .later members (encode (printMoreMembers members))
  | [], _ => .nil isSpace_nil
  | (name, value) :: rest, floatFree => by
    have spelled := spellsMembers_cons name (separates_comma isSpace_nil) isSpace_nil
      (spells_print value floatFree.1) (spellsMoreMembers_print rest floatFree.2)
    simpa only [printMoreMembers, List.append_assoc, List.cons_append, List.nil_append]
      using spelled
termination_by structural members => members

end

mutual

/-- The indented text spells its value. -/
theorem spells_printIndented (level : Nat) : (value : Json) → value.FloatFree →
    Spells value (encode (value.printIndented level))
  | .null, _ => .null
  | .bool true, _ => .true
  | .bool false, _ => .false
  | .number (.integer _), fits => spells_integer fits.1 fits.2
  | .number (.binary _), floatFree => floatFree.elim
  | .string text, _ => spells_quote text
  | .array [], _ => spells_array (.nil isSpace_nil)
  | .array (item :: rest), floatFree => by
    have spelled := spells_array <| spellsItems_cons (separates_first (isSpace_newline (level + 1)))
      (spells_printIndented (level + 1) item floatFree.1)
      (spellsMoreItems_indented (level + 1) level rest floatFree.2)
    simpa only [printIndented, List.append_assoc, List.cons_append] using spelled
  | .object [], _ => spells_object (.nil isSpace_nil)
  | .object ((name, value) :: rest), floatFree => by
    have spelled := spells_object <|
      spellsMembers_cons name (separates_first (isSpace_newline (level + 1))) isSpace_blank
        (spells_printIndented (level + 1) value floatFree.1)
        (spellsMoreMembers_indented (level + 1) level rest floatFree.2)
    simpa only [printIndented, List.append_assoc, List.cons_append, List.nil_append] using spelled
termination_by structural value => value

theorem spellsMoreItems_indented (level outer : Nat) : (items : List Json) →
    FloatFreeItems items →
    SpellsItems .later items (encode (indentMoreItems level items ++ newline outer))
  | [], _ => .nil (isSpace_newline outer)
  | item :: rest, floatFree => by
    have spelled := spellsItems_cons (separates_comma (isSpace_newline level))
      (spells_printIndented level item floatFree.1)
      (spellsMoreItems_indented level outer rest floatFree.2)
    simpa only [indentMoreItems, List.append_assoc, List.cons_append] using spelled
termination_by structural items => items

theorem spellsMoreMembers_indented (level outer : Nat) : (members : List (String × Json)) →
    FloatFreeMembers members →
    SpellsMembers .later members (encode (indentMoreMembers level members ++ newline outer))
  | [], _ => .nil (isSpace_newline outer)
  | (name, value) :: rest, floatFree => by
    have spelled := spellsMembers_cons name (separates_comma (isSpace_newline level)) isSpace_blank
      (spells_printIndented level value floatFree.1)
      (spellsMoreMembers_indented level outer rest floatFree.2)
    simpa only [indentMoreMembers, List.append_assoc, List.cons_append, List.nil_append]
      using spelled
termination_by structural members => members

end

/-- Both layouts spell the value. -/
theorem spells_compact {value : Json} (floatFree : value.FloatFree) :
    Spells value (bytes value.compact) := by
  rw [compact, bytes_ofList]
  exact spells_print value floatFree

theorem spells_indented {value : Json} (floatFree : value.FloatFree) :
    Spells value (bytes value.indented) := by
  rw [indented, bytes_ofList]
  exact spells_printIndented 0 value floatFree

end EventCorrelation.Json
