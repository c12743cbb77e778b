import EventCorrelation.Text.Pieces

/-!
# Joining and cutting

Cutting a text at a separator undoes joining the pieces, and texts joined by a separator have the
pieces of all of them. So a joined text determines the texts that it was joined from once it is
known how many separators each of them holds.
-/

namespace EventCorrelation.Text

variable {separator : Char}

theorem exists_pieces_eq_cons (separator : Char) (text : List Char) :
    ∃ piece more, pieces separator text = piece :: more := by
  cases cut : pieces separator text with
  | nil => exact absurd cut (pieces_ne_nil separator text)
  | cons piece more => exact ⟨piece, more, rfl⟩

/-- A separator ends a piece. -/
theorem pieces_append (separator : Char) (front back : List Char) :
    pieces separator (front ++ separator :: back) =
      pieces separator front ++ pieces separator back := by
  induction front with
  | nil => simp [pieces]
  | cons symbol front ih =>
    rw [List.cons_append, pieces, pieces, ih]
    split
    · rfl
    · obtain ⟨piece, more, cut⟩ := exists_pieces_eq_cons separator front
      rw [cut]
      rfl

/-- The pieces of texts joined by the separator are the pieces of the texts. -/
theorem pieces_intercalate (separator : Char) {texts : List (List Char)} (nonempty : texts ≠ []) :
    pieces separator ([separator].intercalate texts) = texts.flatMap (pieces separator) := by
  induction texts with
  | nil => exact absurd rfl nonempty
  | cons text rest ih =>
    cases rest with
    | nil => simp
    | cons next rest =>
      rw [List.flatMap_cons, List.intercalate_cons_cons, List.append_assoc, List.singleton_append,
        pieces_append, ih (List.cons_ne_nil next rest)]

theorem intercalate_pieces (separator : Char) (text : List Char) :
    [separator].intercalate (pieces separator text) = text := by
  induction text with
  | nil => rfl
  | cons symbol rest ih =>
    obtain ⟨piece, more, cut⟩ := exists_pieces_eq_cons separator rest
    rw [pieces]
    rw [cut] at ih ⊢
    split
    · next same =>
      rw [List.intercalate_cons_cons, ih, same]
      rfl
    · cases more with
      | nil => simpa using ih
      | cons next more =>
        rw [List.intercalate_cons_cons] at ih ⊢
        rw [← ih]
        rfl

theorem pieces_inj (separator : Char) {text other : List Char} :
    pieces separator text = pieces separator other ↔ text = other := by
  refine ⟨fun same => ?_, congrArg _⟩
  rw [← intercalate_pieces separator text, same, intercalate_pieces]

theorem length_pieces (separator : Char) (text : List Char) :
    (pieces separator text).length = text.count separator + 1 := by
  induction text with
  | nil => rfl
  | cons symbol rest ih =>
    obtain ⟨piece, more, cut⟩ := exists_pieces_eq_cons separator rest
    rw [pieces]
    split
    · next same =>
      rw [List.length_cons, ih, same, List.count_cons_self]
    · next differs =>
      rw [cut] at ih ⊢
      rw [List.count_cons_of_ne differs]
      exact ih

theorem pieces_of_not_mem {text : List Char} (absent : separator ∉ text) :
    pieces separator text = [text] := by
  induction text with
  | nil => rfl
  | cons symbol rest ih =>
    simp only [List.mem_cons, not_or] at absent
    rw [pieces, if_neg (Ne.symm absent.1), ih absent.2]

/-- Texts are determined by all their pieces and the numbers of separators in each of them. -/
theorem eq_iff_flatMap_pieces (separator : Char) (texts others : List (List Char)) :
    texts = others ↔ texts.flatMap (pieces separator) = others.flatMap (pieces separator) ∧
      texts.map (·.count separator) = others.map (·.count separator) := by
  refine ⟨fun same => by rw [same]; exact ⟨rfl, rfl⟩, fun ⟨samePieces, sameCounts⟩ => ?_⟩
  -- the counts say how many of all the pieces belong to each text
  have sameLengths : (texts.map (pieces separator)).map List.length =
      (others.map (pieces separator)).map List.length := by
    have counts := congrArg (List.map (· + 1)) sameCounts
    simpa only [List.map_map, Function.comp_def, length_pieces] using counts
  have sameCuts := List.eq_iff_flatten_eq.mpr ⟨samePieces, sameLengths⟩
  exact (List.map_inj_right fun _ _ => (pieces_inj separator).mp).mp sameCuts

theorem not_mem_of_mem_pieces {text piece : List Char} (isPiece : piece ∈ pieces separator text) :
    separator ∉ piece := by
  induction text generalizing piece with
  | nil =>
    rw [List.mem_singleton.mp isPiece]
    exact List.not_mem_nil
  | cons symbol rest ih =>
    obtain ⟨front, more, cut⟩ := exists_pieces_eq_cons separator rest
    rw [cut] at ih
    rw [pieces, cut] at isPiece
    split at isPiece
    · rcases List.mem_cons.mp isPiece with rfl | isLater
      · exact List.not_mem_nil
      · exact ih isLater
    · next differs =>
      rcases List.mem_cons.mp isPiece with rfl | isLater
      · rw [List.mem_cons, not_or]
        exact ⟨Ne.symm differs, ih (List.mem_cons_self ..)⟩
      · exact ih (List.mem_cons_of_mem _ isLater)

/-- The texts hold no separator, and joined by separators they are the text. -/
structure Cut (separator : Char) (text : String) (cut : List String) : Prop where
  nonempty : cut ≠ []
  separate : ∀ piece ∈ cut, separator ∉ piece.toList
  joined : (String.singleton separator).intercalate cut = text

/-- There is one way to cut a text. -/
theorem cut_iff {text : String} {cut : List String} :
    Cut separator text cut ↔ (pieces separator text.toList).map String.ofList = cut := by
  have separators : (String.singleton separator).toList = [separator] := String.toList_singleton ..
  constructor
  · rintro ⟨nonempty, separate, rfl⟩
    have single : ∀ piece ∈ cut, pieces separator piece.toList = [piece.toList] :=
      fun piece isPiece => pieces_of_not_mem (separate piece isPiece)
    have nonemptyLists : cut.map String.toList ≠ [] := by simpa using nonempty
    rw [String.toList_intercalate, separators, pieces_intercalate separator nonemptyLists,
      List.flatMap_map, List.flatMap_def, List.map_congr_left single, ← List.flatMap_def,
      ← List.map_eq_flatMap, List.map_map]
    simp [Function.comp_def]
  · rintro rfl
    refine ⟨by simpa using pieces_ne_nil separator text.toList, fun piece isPiece => ?_, ?_⟩
    · obtain ⟨symbols, isCut, rfl⟩ := List.mem_map.mp isPiece
      rw [String.toList_ofList]
      exact not_mem_of_mem_pieces isCut
    · rw [← String.toList_inj, String.toList_intercalate, separators, List.map_map]
      simpa [Function.comp_def] using intercalate_pieces separator text.toList

end EventCorrelation.Text
