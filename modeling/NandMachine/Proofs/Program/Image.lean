/-
# NandMachine.Proofs.Program.Image -- images and programs are one to one

The bytes of a word are told by numbers here: its quotient by 256, and then its remainder
(`Program.bigEndian`).  An image spells a program when it is the bytes of the words, one word
after the other (`Program.Spelled`); how a bus is sliced does not enter.

An image of an odd number of bytes spells nothing, and it is refused as such however long it
is.  Any other image spells one program, and that is the one which is read from it
(`Program.spelled_iff`); it is refused only when it is too long.  As every program has an image,
reading is one to one between the images of an even number of bytes, up to 65536 of them, and the
programs that fit (`Program.imageEquiv`).
-/
import Mathlib.Logic.Equiv.Defs
import NandMachine.Proofs.Program.RoundTrip

namespace NandMachine

set_option autoImplicit false

namespace Program

/-! ## What an image spells -/

/-- The two bytes of a word, the more significant one first. -/
def bigEndian (w : Word) : List UInt8 := [.ofNat (w.toNat / 256), .ofNat (w.toNat % 256)]

/-- The bytes are those of the words of a program, one word after the other. -/
def Spelled (bytes : Array UInt8) (program : Array Word) : Prop :=
  bytes.toList = program.toList.flatMap bigEndian

theorem slices_eq_bigEndian (w : Word) :
    [⟨Bus.slice w 8 8⟩, ⟨Bus.slice w 0 8⟩] = bigEndian w := by
  have high : (⟨Bus.slice w 8 8⟩ : UInt8) = .ofNat (w.toNat / 256) := by
    show UInt8.ofNat (w.toNat >>> 8) = _
    rw [Nat.shiftRight_eq_div_pow]
  have low : (⟨Bus.slice w 0 8⟩ : UInt8) = .ofNat (w.toNat % 256) := by
    show UInt8.ofNat w.toNat = _
    apply UInt8.toNat.inj
    rw [UInt8.toNat_ofNat', UInt8.toNat_ofNat', Nat.mod_mod_of_dvd _ (Nat.dvd_refl 256)]
  rw [bigEndian, high, low]

theorem spelled_iff_toImage (bytes : Array UInt8) (program : Array Word) :
    Spelled bytes program ↔ toImage program = bytes := by
  have image : (toImage program).toList = program.toList.flatMap bigEndian := by
    rw [toList_toImage]
    exact congrArg program.toList.flatMap (funext slices_eq_bigEndian)
  rw [Spelled, ← image, Array.toList_inj, eq_comm]

theorem slices_wordOfBytes (high low : UInt8) :
    (⟨Bus.slice (wordOfBytes high low) 8 8⟩ : UInt8) = high ∧
      (⟨Bus.slice (wordOfBytes high low) 0 8⟩ : UInt8) = low := by
  constructor
  · apply UInt8.toBitVec_inj.mp
    exact BitVec.extractLsb'_append_eq_left
  · apply UInt8.toBitVec_inj.mp
    exact BitVec.extractLsb'_append_eq_right

theorem size_wordsOfBytes (bytes : Array UInt8) : (wordsOfBytes bytes).size = bytes.size / 2 :=
  Array.size_ofFn

/-- The image of the words read from bytes has the bytes themselves at the places of a pair. -/
theorem getElem?_toImage_wordsOfBytes {bytes : Array UInt8} {k : Nat} (pair : k < bytes.size / 2) :
    (toImage (wordsOfBytes bytes))[2 * k]? = bytes[2 * k]? ∧
      (toImage (wordsOfBytes bytes))[2 * k + 1]? = bytes[2 * k + 1]? := by
  have place : k < (wordsOfBytes bytes).size := (size_wordsOfBytes bytes).symm ▸ pair
  have word : (wordsOfBytes bytes)[k] = wordOfBytes bytes[2 * k] bytes[2 * k + 1] :=
    Array.getElem_ofFn place
  obtain ⟨high, low⟩ := getElem?_toImage place
  rw [high, low, word, (slices_wordOfBytes _ _).1, (slices_wordOfBytes _ _).2]
  constructor
  · exact (Array.getElem?_eq_getElem _).symm
  · exact (Array.getElem?_eq_getElem _).symm

/-- An image of an even number of bytes is the image of the words read from it. -/
theorem toImage_wordsOfBytes {bytes : Array UInt8} (even : bytes.size % 2 = 0) :
    toImage (wordsOfBytes bytes) = bytes := by
  have size : (toImage (wordsOfBytes bytes)).size = bytes.size := by
    rw [size_toImage, size_wordsOfBytes]
    omega
  apply Array.ext_getElem?
  intro i
  by_cases inside : i < bytes.size
  · obtain ⟨k, rfl | rfl⟩ : ∃ k, i = 2 * k ∨ i = 2 * k + 1 := ⟨i / 2, by omega⟩
    · exact (getElem?_toImage_wordsOfBytes (by omega)).1
    · exact (getElem?_toImage_wordsOfBytes (by omega)).2
  · rw [Array.getElem?_eq_none (by omega), Array.getElem?_eq_none (by omega)]

/-- Only an image of an even number of bytes spells a program, and only the one read from it. -/
theorem spelled_iff (bytes : Array UInt8) (program : Array Word) :
    Spelled bytes program ↔ bytes.size % 2 = 0 ∧ wordsOfBytes bytes = program := by
  rw [spelled_iff_toImage]
  constructor
  · rintro rfl
    exact ⟨by rw [size_toImage, Nat.mul_mod_right], wordsOfBytes_toImage program⟩
  · rintro ⟨even, rfl⟩
    exact toImage_wordsOfBytes even

/-! ## Reading -/

theorem parseImage?_eq (bytes : Array UInt8) :
    parseImage? bytes =
      if bytes.size % 2 = 1 then .error (.oddLength bytes.size)
      else if 32768 < bytes.size / 2 then .error (.tooLarge (bytes.size / 2))
      else .ok (wordsOfBytes bytes) := by
  rw [parseImage?, fitting, size_wordsOfBytes, limit]
  rcases Nat.mod_two_eq_zero_or_one bytes.size with even | odd
  · rw [if_neg (not_not.mpr even), if_neg (by omega : ¬ bytes.size % 2 = 1)]
    simp only [← Nat.not_lt, ite_not]
  · rw [if_pos (by omega : bytes.size % 2 ≠ 0), if_pos odd]

/-- What is read from an image.  An odd number of bytes is reported before anything else, then
too many words; any other image is read, and the words are those that it spells. -/
structure ReadExactly (bytes : Array UInt8) : Prop where
  odd : ∀ n, parseImage? bytes = .error (.oddLength n) ↔ bytes.size % 2 = 1 ∧ n = bytes.size
  large : ∀ n, parseImage? bytes = .error (.tooLarge n) ↔
    bytes.size % 2 = 0 ∧ 32768 < bytes.size / 2 ∧ n = bytes.size / 2
  total : bytes.size % 2 = 0 → bytes.size / 2 ≤ 32768 → ∃ program, parseImage? bytes = .ok program
  words : ∀ program, parseImage? bytes = .ok program ↔
    Spelled bytes program ∧ program.size ≤ 32768

theorem readExactly (bytes : Array UInt8) : ReadExactly bytes := by
  constructor
  case odd =>
    intro n
    rw [parseImage?_eq]
    grind
  case large =>
    intro n
    rw [parseImage?_eq]
    grind
  case total =>
    intro even fits
    exact ⟨wordsOfBytes bytes, by rw [parseImage?_eq, if_neg (by omega), if_neg (by omega)]⟩
  case words =>
    intro program
    rw [parseImage?_eq, spelled_iff]
    grind [size_wordsOfBytes]

/-! ## Images and programs -/

/-- Bytes that are an image of a program that fits. -/
abbrev EvenImage := { bytes : Array UInt8 // bytes.size % 2 = 0 ∧ bytes.size ≤ 65536 }

/-- A program that fits the instruction store. -/
abbrev FittingProgram := { program : Array Word // program.size ≤ 32768 }

def imageEquiv : EvenImage ≃ FittingProgram where
  toFun image := ⟨wordsOfBytes image.val, by
    have bound := image.property.2
    rw [size_wordsOfBytes]
    omega⟩
  invFun program := ⟨toImage program.val, by
    have bound := program.property
    rw [size_toImage]
    omega⟩
  left_inv image := Subtype.ext (toImage_wordsOfBytes image.property.1)
  right_inv program := Subtype.ext (wordsOfBytes_toImage program.val)

theorem parseImage?_equiv (image : EvenImage) :
    parseImage? image.val = .ok (imageEquiv image).val :=
  ((readExactly image.val).words _).mpr
    ⟨(spelled_iff _ _).mpr ⟨image.property.1, rfl⟩, (imageEquiv image).property⟩

end Program

/-- **Images decode exactly.**  What is wrong with an image is reported by its number of bytes
alone, an odd number first; every other image is read as the program that it spells.  So reading
is a bijection between the images of an even number of bytes, up to 65536, and the programs of up
to 32768 words. -/
theorem images_decode_exactly :
    (∀ bytes : Array UInt8, Program.ReadExactly bytes) ∧
      ∃ decode : Program.EvenImage ≃ Program.FittingProgram,
        (∀ image, Program.parseImage? image.val = .ok (decode image).val) ∧
          ∀ program, Program.Spelled (decode.symm program).val program.val := by
  refine ⟨Program.readExactly, Program.imageEquiv, Program.parseImage?_equiv, fun program => ?_⟩
  rw [Program.spelled_iff_toImage]
  rfl

/-- Two words, and an image that ends within its second word. -/
example :
    (Program.parseImage? #[0x12, 0x34, 0xFF, 0xFE]).toOption = some #[0x1234#16, 0xFFFE#16] ∧
      (Program.parseImage? #[1, 2, 3]).toOption = none := by
  decide

end NandMachine
