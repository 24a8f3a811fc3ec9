import Mathlib.Data.List.Lex
import Mathlib.Data.Char

namespace SpringSkeleton.Text

def bytes (text : String) : List UInt8 := text.toUTF8.data.toList

theorem bytes_eq (text : String) : bytes text = text.toList.flatMap String.utf8EncodeChar := by
  have whole : text.toUTF8 = text.toList.utf8Encode := String.utf8Encode_toList.symm
  rw [bytes, whole, List.utf8Encode, List.toList_data_toByteArray]

-- Of two characters the smaller one has fewer bytes and a smaller first byte, or as many bytes and a
-- smaller byte where they first differ; what follows does not matter.
theorem encode_lt {a b : Char} (less : a < b) (front back : List UInt8) :
    String.utf8EncodeChar a ++ front < String.utf8EncodeChar b ++ back := by
  have small : a.val.toNat < b.val.toNat := less
  have bound : b.val.toNat < 0x110000 := by
    rcases b.valid with low | high
    · exact Nat.lt_trans low (by decide)
    · exact high.2
  unfold String.utf8EncodeChar
  generalize a.val.toNat = v at *
  generalize b.val.toNat = w at *
  simp only
  -- Four lengths on each side; every byte is below 256, so the digits compare as numbers.
  split_ifs <;>
    simp (disch := omega) only [List.cons_append, List.nil_append, List.cons_lt_cons_iff,
      UInt8.lt_iff_toNat_lt, ← UInt8.toNat_inj, UInt8.toNat_ofNat', Nat.reducePow, Nat.mod_eq_of_lt] <;>
    omega

theorem flatMap_encode_lt {first second : List Char} (less : first < second) :
    first.flatMap String.utf8EncodeChar < second.flatMap String.utf8EncodeChar := by
  induction first generalizing second with
  | nil =>
    cases second with
    | nil => simp at less
    | cons b back =>
      obtain ⟨byte, rest, encoded⟩ := List.exists_cons_of_ne_nil (String.utf8EncodeChar_ne_nil (c := b))
      simp [encoded]
  | cons a front ih =>
    cases second with
    | nil => simp at less
    | cons b back =>
      rw [List.flatMap_cons, List.flatMap_cons]
      rcases List.cons_lt_cons_iff.mp less with smaller | ⟨rfl, rest⟩
      · exact encode_lt smaller _ _
      · exact List.append_left_lt (ih rest)

theorem lt_iff_bytes {first second : String} : first < second ↔ bytes first < bytes second := by
  have mono : ∀ {one two : String}, one < two → bytes one < bytes two := fun less => by
    rw [bytes_eq, bytes_eq]
    exact flatMap_encode_lt (String.lt_iff.mp less)
  refine ⟨mono, fun less => ?_⟩
  by_contra notLess
  by_cases more : second < first
  · exact List.lt_asymm less (mono more)
  · rw [String.le_antisymm (String.not_lt.mp more) (String.not_lt.mp notLess)] at less
    exact List.lt_irrefl _ less

theorem bytes_injective : Function.Injective bytes := fun _ _ same =>
  String.toByteArray_inj.mp (ByteArray.ext (Array.toList_inj.mp same))

end SpringSkeleton.Text
