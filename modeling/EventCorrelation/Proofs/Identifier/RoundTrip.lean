import EventCorrelation.Identifier.Basic
import EventCorrelation.Proofs.Text.Encoding
import Mathlib.Algebra.Group.Nat.Defs

/-!
# Reading identifiers back

The text of an identifier is read back as the identifier. All 128 bits of its number fit the 26
digits, so nothing is dropped on the way.
-/

namespace EventCorrelation

namespace Base32

/-- Only as much of a number is read back as the width of the numeral holds. -/
theorem decode?_encode (width value : Nat) :
    decode? (encode width value) = some (value % 32 ^ width) := by
  induction width generalizing value with
  | zero => rw [Nat.pow_zero, Nat.mod_one]; rfl
  | succ width ih =>
    have last := digitValue?_digit (value % 32) (Nat.mod_lt _ (by decide))
    have joined : value % 32 ^ (width + 1) = value / 32 % 32 ^ width * 32 + value % 32 := by
      rw [Nat.pow_succ', Nat.mod_mul]
      omega
    have front : decode? (encode width (value / 32)) = _ := ih (value / 32)
    rw [decode?] at front
    rw [encode, decode?, List.foldlM_append, front, joined]
    simp [last]

theorem digit_ascii (value : Nat) : (digit value).toNat < 0x80 := by
  have all : ∀ symbol ∈ alphabet, symbol.toNat < 0x80 := by simp [alphabet]
  rw [digit, List.getD_eq_getElem?_getD]
  cases found : alphabet[value]? with
  | none => decide
  | some symbol => exact all symbol (List.mem_of_getElem? found)

theorem ascii_of_mem_encode {width value : Nat} {symbol : Char}
    (member : symbol ∈ encode width value) : symbol.toNat < 0x80 := by
  induction width generalizing value with
  | zero => cases member
  | succ width ih =>
    rcases List.mem_append.mp member with front | last
    · exact ih front
    · rw [List.mem_singleton.mp last]
      exact digit_ascii _

end Base32

namespace Identifier

variable {kind : EntityKind}

theorem underscore_not_mem_tag (kind : EntityKind) : '_' ∉ kind.tag.toList := by
  cases kind <;> simp [EntityKind.tag]

theorem ne_underscore_of_not_mem {symbols : List Char} (absent : '_' ∉ symbols) :
    ∀ symbol ∈ symbols, (symbol != '_') = true := by
  intro symbol member
  refine bne_iff_ne.mpr ?_
  rintro rfl
  exact absent member

theorem toList_tagged (tag numeral : String) :
    (tag ++ "_" ++ numeral).toList = tag.toList ++ '_' :: numeral.toList := by
  rw [String.toList_append, String.toList_append, List.append_assoc]
  rfl

/-- The first underscore ends the tag. -/
theorem parse_tagged {tag : String} (first : '_' ∉ tag.toList) (numeral : String) :
    parse kind (tag ++ "_" ++ numeral) =
      if tag ≠ kind.tag then .error (.foreignTag kind tag) else ofNumeral numeral := by
  have differ := ne_underscore_of_not_mem first
  have front : (tag ++ "_" ++ numeral).toList.takeWhile (· != '_') = tag.toList := by
    rw [toList_tagged, List.takeWhile_append_of_pos differ]
    simp
  have back : (tag ++ "_" ++ numeral).toList.dropWhile (· != '_') = '_' :: numeral.toList := by
    rw [toList_tagged, List.dropWhile_append_of_pos differ]
    simp
  have nonempty : ¬ (tag ++ "_" ++ numeral).isEmpty = true := by
    intro empty
    have nothing := congrArg String.toList (String.isEmpty_iff.mp empty)
    rw [toList_tagged] at nothing
    exact List.append_ne_nil_of_right_ne_nil _ (List.cons_ne_nil _ _) nothing
  rw [parse, if_neg nonempty, front, back]
  simp only [String.ofList_toList]

theorem parse_ownTag (kind : EntityKind) (numeral : String) :
    parse kind (kind.tag ++ "_" ++ numeral) = ofNumeral numeral := by
  rw [parse_tagged (underscore_not_mem_tag kind), if_neg (not_not_intro rfl)]

/-- The numeral of an identifier is read back as its number. -/
theorem ofNumeral_encode (id : Identifier kind) :
    ofNumeral (String.ofList (Base32.encode numeralWidth id.value.toNat)) = .ok id := by
  have width : (String.ofList (Base32.encode numeralWidth id.value.toNat)).utf8ByteSize =
      numeralWidth := by
    rw [Text.utf8ByteSize_eq_length_encode, String.toList_ofList,
      Text.encode_of_ascii fun symbol => Base32.ascii_of_mem_encode, List.length_map,
      Base32.length_encode]
  have fits : id.value.toNat < 32 ^ numeralWidth :=
    Nat.lt_of_lt_of_le id.value.isLt (by decide)
  rw [ofNumeral, if_neg (not_not_intro width), String.toList_ofList, Base32.decode?_encode,
    Nat.mod_eq_of_lt fits]
  simp only [BitVec.ofNat_toNat, BitVec.setWidth_eq]

/-- The text of an identifier is read back as the identifier. -/
theorem parse_text (id : Identifier kind) : parse kind id.text = .ok id := by
  rw [text, parse_ownTag, ofNumeral_encode]

theorem text_inj {id other : Identifier kind} : id.text = other.text ↔ id = other := by
  refine ⟨fun same => ?_, congrArg text⟩
  have read := parse_text id
  rw [same, parse_text] at read
  exact (Except.ok.inj read).symm

/-- The tag of a text tells the kind of what it names. -/
theorem text_ne_of_tag_ne {otherKind : EntityKind} (differ : kind.tag ≠ otherKind.tag)
    (id : Identifier kind) (other : Identifier otherKind) : id.text ≠ other.text := by
  intro same
  have read := parse_text other
  rw [← same, text, parse_tagged (underscore_not_mem_tag kind), if_pos differ] at read
  cases read

end Identifier

end EventCorrelation
