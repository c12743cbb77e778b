import EventCorrelation.Fingerprint

/-!
# Digits of fingerprints

Every fingerprint has the 64 small hexadecimal digits of a digest of 32 bytes.
-/

namespace EventCorrelation

namespace Sha256

theorem length_bigEndian (count value : Nat) : (bigEndian count value).length = count := by
  induction count generalizing value with
  | zero => rfl
  | succ count ih => rw [bigEndian, List.length_append, ih, List.length_singleton]

theorem length_digest (text : List UInt8) : (digest text).length = 32 := by
  simp [digest, State.bytes, length_bigEndian]

end Sha256

namespace Text

theorem length_hex (bytes : List UInt8) : (hex bytes).length = 2 * bytes.length := by
  induction bytes with
  | nil => rfl
  | cons byte rest ih =>
    change (hex rest).length + 2 = 2 * (rest.length + 1)
    omega

theorem mem_hexDigits_of_mem_hex {bytes : List UInt8} {symbol : Char}
    (isMember : symbol ∈ hex bytes) : symbol ∈ Json.hexDigits := by
  have digits : ∀ value < 16, Nat.digitChar value ∈ Json.hexDigits := by decide
  obtain ⟨byte, -, isDigit⟩ := List.mem_flatMap.mp isMember
  have small := byte.toNat_lt
  simp only [List.mem_cons, List.not_mem_nil, or_false] at isDigit
  rcases isDigit with rfl | rfl
  · exact digits _ (by omega)
  · exact digits _ (by omega)

end Text

namespace FingerprintSeed

theorem length_fingerprint (seed : FingerprintSeed) : seed.fingerprint.toList.length = 64 := by
  rw [fingerprint, String.toList_ofList, Text.length_hex, Sha256.length_digest]

theorem mem_hexDigits_of_mem_fingerprint {seed : FingerprintSeed} {symbol : Char}
    (isMember : symbol ∈ seed.fingerprint.toList) : symbol ∈ Json.hexDigits := by
  rw [fingerprint, String.toList_ofList] at isMember
  exact Text.mem_hexDigits_of_mem_hex isMember

end FingerprintSeed

end EventCorrelation
