import EventCorrelation.Proofs.Text.Encoding
import EventCorrelation.Proofs.Text.Pieces
import EventCorrelation.Receiver

/-!
# Words of fingerprints

The line that a fingerprint digests joins its fields by single spaces, which the fields may hold as
well. So the line determines the words of the seed, that is, the pieces of its fields between single
spaces, but not which words belong to which field. Two seeds have one line exactly if they have the
same words, and a seed is determined by its line and the number of spaces in each of its fields.
-/

namespace EventCorrelation.FingerprintSeed

variable {first second : FingerprintSeed}

/-- The fields in the order in which they are joined. -/
def fields (seed : FingerprintSeed) : List String :=
  [seed.action, seed.description, seed.name] ++ seed.tags ++ [seed.version]

/-- The words of all fields, one field after the other. -/
def words (seed : FingerprintSeed) : List (List Char) :=
  seed.fields.flatMap fun field => Text.pieces ' ' field.toList

/-- The number of spaces in each field. -/
def spaces (seed : FingerprintSeed) : List Nat :=
  seed.fields.map fun field => field.toList.count ' '

theorem fields_inj : first.fields = second.fields ↔ first = second := by
  refine ⟨fun same => ?_, congrArg fields⟩
  cases first with
  | mk action description name tags version =>
    cases second with
    | mk action' description' name' tags' version' =>
      simp only [fields, List.cons_append, List.nil_append, List.cons.injEq] at same
      obtain ⟨rfl, rfl, rfl, sameRest⟩ := same
      obtain ⟨rfl, sameVersion⟩ := List.append_inj' sameRest rfl
      cases sameVersion
      rfl

/-- The words of the digested line: the word in front, and those of the fields. -/
theorem pieces_line (seed : FingerprintSeed) :
    Text.pieces ' ' (" ".intercalate seed.parts).toList = versionWord.toList :: seed.words := by
  have version : Text.pieces ' ' versionWord.toList = [versionWord.toList] := by decide
  have parts : seed.parts = versionWord :: seed.fields := rfl
  rw [String.toList_intercalate, parts, List.map_cons]
  change Text.pieces ' ' ([' '].intercalate _) = _
  rw [Text.pieces_intercalate ' ' (List.cons_ne_nil _ _), List.flatMap_cons, version,
    List.flatMap_map]
  rfl

theorem digestInput_eq_iff_words :
    first.digestInput = second.digestInput ↔ first.words = second.words := by
  rw [digestInput, digestInput, Text.bytes_inj, ← String.toList_inj,
    ← Text.pieces_inj ' ', pieces_line, pieces_line, List.cons.injEq]
  exact and_iff_right rfl

theorem eq_iff_words_spaces :
    first = second ↔ first.words = second.words ∧ first.spaces = second.spaces := by
  have texts := Text.eq_iff_flatMap_pieces ' ' (first.fields.map String.toList)
    (second.fields.map String.toList)
  rw [List.map_inj_right fun _ _ => String.toList_inj.mp, fields_inj, List.flatMap_map,
    List.flatMap_map, List.map_map, List.map_map] at texts
  exact texts

theorem words_of_noSpace {seed : FingerprintSeed}
    (noSpace : ∀ field ∈ seed.fields, ' ' ∉ field.toList) :
    seed.words = seed.fields.map String.toList := by
  have single : ∀ field ∈ seed.fields, Text.pieces ' ' field.toList = [field.toList] :=
    fun field isField => Text.pieces_of_not_mem (noSpace field isField)
  rw [words, List.flatMap_def, List.map_congr_left single, ← List.flatMap_def,
    ← List.map_eq_flatMap]

theorem words_ne_of_field {front back : List String} {field other : String}
    (fieldsFirst : first.fields = front ++ field :: back)
    (fieldsSecond : second.fields = front ++ other :: back) (differ : field ≠ other) :
    first.words ≠ second.words := by
  intro same
  rw [words, words, fieldsFirst, fieldsSecond] at same
  simp only [List.flatMap_append, List.flatMap_cons, List.append_cancel_left_eq,
    List.append_cancel_right_eq, Text.pieces_inj, String.toList_inj] at same
  exact differ same

theorem fingerprint_eq_iff_digest :
    first.fingerprint = second.fingerprint ↔
      Sha256.digest first.digestInput = Sha256.digest second.digestInput := by
  rw [fingerprint, fingerprint, String.ofList_inj, Text.hex_inj]

/-- The digested line determines the words of a seed and nothing else. So different seeds have
different lines if each of their fields holds as many spaces as its counterpart, if they have no
spaces at all, or if they differ in one field only; and then an equal fingerprint is a collision of
the digest. -/
theorem digestInput_determines_words (first second : FingerprintSeed) :
    (first.digestInput = second.digestInput ↔ first.words = second.words) ∧
    (first.spaces = second.spaces → first ≠ second → first.digestInput ≠ second.digestInput) ∧
    ((∀ field ∈ first.fields ++ second.fields, ' ' ∉ field.toList) → first ≠ second →
      first.digestInput ≠ second.digestInput) ∧
    (∀ (front : List String) (field other : String) (back : List String),
      first.fields = front ++ field :: back → second.fields = front ++ other :: back →
      field ≠ other → first.digestInput ≠ second.digestInput) ∧
    (first.fingerprint = second.fingerprint ↔
      Sha256.digest first.digestInput = Sha256.digest second.digestInput) := by
  refine ⟨digestInput_eq_iff_words, ?_, ?_, ?_, fingerprint_eq_iff_digest⟩
  · intro sameSpaces differ sameInput
    exact differ (eq_iff_words_spaces.mpr ⟨digestInput_eq_iff_words.mp sameInput, sameSpaces⟩)
  · intro noSpace differ sameInput
    rw [List.forall_mem_append] at noSpace
    have sameWords := digestInput_eq_iff_words.mp sameInput
    rw [words_of_noSpace noSpace.1, words_of_noSpace noSpace.2,
      List.map_inj_right fun _ _ => String.toList_inj.mp] at sameWords
    exact differ (fields_inj.mp sameWords)
  · intro front field other back fieldsFirst fieldsSecond differ sameInput
    exact words_ne_of_field fieldsFirst fieldsSecond differ
      (digestInput_eq_iff_words.mp sameInput)

/-- A seed with a space in its description. -/
def sampleSeed : FingerprintSeed := ⟨"create", "build results", "build", ["a", "b"], "1.0.0"⟩

/-- Another action, other tags where there are no spaces, and another last tag. -/
theorem sampleSeed_changes :
    sampleSeed.digestInput ≠ { sampleSeed with action := "delete" }.digestInput ∧
    { sampleSeed with description := "" }.digestInput ≠
      { sampleSeed with description := "", tags := ["ab"] }.digestInput ∧
    sampleSeed.digestInput ≠ { sampleSeed with tags := ["a", "b c"] }.digestInput := by
  obtain ⟨-, bySpaces, -⟩ :=
    digestInput_determines_words sampleSeed { sampleSeed with action := "delete" }
  obtain ⟨-, -, byWords, -⟩ :=
    digestInput_determines_words { sampleSeed with description := "" }
      { sampleSeed with description := "", tags := ["ab"] }
  obtain ⟨-, -, -, byField, -⟩ :=
    digestInput_determines_words sampleSeed { sampleSeed with tags := ["a", "b c"] }
  exact ⟨bySpaces (by decide) (by decide), byWords (by decide) (by decide),
    byField ["create", "build results", "build", "a"] "b" "b c" ["1.0.0"] rfl rfl (by decide)⟩

/-- Two receivers whose descriptions and names share their words. -/
def nightlyResults : NewReceiver := ⟨"results", "ci", "1", "nightly build", .null⟩

def nightlyBuildResults : NewReceiver := ⟨"build results", "ci", "1", "nightly", .null⟩

/-- A word that moves from the description to the name leaves the line as it was. -/
theorem moved_word_keeps_line :
    nightlyResults.seed.description ≠ nightlyBuildResults.seed.description ∧
      nightlyResults.seed.name ≠ nightlyBuildResults.seed.name ∧
      nightlyResults.seed.digestInput = nightlyBuildResults.seed.digestInput ∧
      nightlyResults.seed.fingerprint = nightlyBuildResults.seed.fingerprint := by
  have sameInput : nightlyResults.seed.digestInput = nightlyBuildResults.seed.digestInput := by
    decide
  exact ⟨by decide, by decide, sameInput, fingerprint_eq_iff_digest.mpr (by rw [sameInput])⟩

end EventCorrelation.FingerprintSeed
