import Mathlib.Data.List.Basic
import WorkflowRuns.Text.Digits
import WorkflowRuns.Url.Encoded

/-!
Percent-encoding can be read back from texts that have no percent sign themselves.
-/

namespace WorkflowRuns

def percentChar (safe : Char → Bool) (c : Char) : List Char :=
  if safe c then [c] else (String.singleton c).toUTF8.toList.flatMap percentByte

theorem percentEncode_toList (safe : Char → Bool) (chars : List Char) :
    (percentEncode safe (String.ofList chars)).toList = chars.flatMap (percentChar safe) := by
  rw [percentEncode, String.toList_ofList, String.toList_ofList]
  rfl

theorem toList_loop (bytes : ByteArray) (i : Nat) (done : List UInt8) :
    ByteArray.toList.loop bytes i done = done.reverse ++ bytes.data.toList.drop i := by
  induction i, done using ByteArray.toList.loop.induct bytes with
  | case1 i done inside ih =>
      have size : i < bytes.data.toList.length := inside
      rw [ByteArray.toList.loop, if_pos inside, ih, List.drop_eq_getElem_cons size, List.reverse_cons,
        List.append_assoc, List.singleton_append]
      congr 2
      simp [ByteArray.get!, inside]
  | case2 i done outside =>
      have size : bytes.data.toList.length ≤ i := Nat.le_of_not_lt outside
      rw [ByteArray.toList.loop, if_neg outside, List.drop_of_length_le size, List.append_nil]

theorem toUTF8_singleton (c : Char) : (String.singleton c).toUTF8.toList = String.utf8EncodeChar c := by
  rw [ByteArray.toList, toList_loop, String.toUTF8, String.toByteArray_singleton, List.utf8Encode_singleton]
  simp

def escapeDigits : List Char := "0123456789ABCDEF".toList

theorem upperHexDigit_mod (n : Nat) : upperHexDigit n = upperHexDigit (n % 16) := by
  rw [upperHexDigit, upperHexDigit, Nat.mod_mod]

theorem upperHexDigit_mem (n : Nat) : upperHexDigit n ∈ escapeDigits := by
  have all : ∀ k < 16, upperHexDigit k ∈ escapeDigits := by decide
  rw [upperHexDigit_mod]
  exact all _ (Nat.mod_lt n (by decide))

theorem mem_percentByte {mark : Char} {b : UInt8} (member : mark ∈ percentByte b) : mark = '%' ∨ mark ∈ escapeDigits := by
  rcases List.mem_cons.mp member with percent | digits
  · exact Or.inl percent
  · right
    rcases List.mem_cons.mp digits with rfl | last
    · exact upperHexDigit_mem _
    · rw [List.mem_singleton.mp last]
      exact upperHexDigit_mem _

theorem not_mem_percentChar {safe : Char → Bool} {mark : Char} (excluded : safe mark = false)
    (foreign : mark ≠ '%' ∧ mark ∉ escapeDigits) (c : Char) : mark ∉ percentChar safe c := by
  intro member
  unfold percentChar at member
  split at member
  next kept =>
    rw [List.mem_singleton.mp member, kept] at excluded
    cases excluded
  next =>
    obtain ⟨b, _, inside⟩ := List.mem_flatMap.mp member
    rcases mem_percentByte inside with percent | digit
    · exact foreign.1 percent
    · exact foreign.2 digit

def hexValue (c : Char) : Nat := if Text.isAsciiDigit c then c.toNat - '0'.toNat else c.toNat - 'A'.toNat + 10

theorem hexValue_upperHexDigit (n : Nat) : hexValue (upperHexDigit n) = n % 16 := by
  have all : ∀ k < 16, hexValue (upperHexDigit k) = k := by decide
  rw [upperHexDigit_mod]
  exact all _ (Nat.mod_lt n (by decide))

def percentDecode : List Char → List UInt8
  | '%' :: high :: low :: rest => UInt8.ofNat (16 * hexValue high + hexValue low) :: percentDecode rest
  | c :: rest => String.utf8EncodeChar c ++ percentDecode rest
  | [] => []

theorem percentDecode_byte (b : UInt8) (rest : List Char) :
    percentDecode (percentByte b ++ rest) = b :: percentDecode rest := by
  have small : b.toNat < 256 := b.toNat_lt
  simp only [percentByte, List.cons_append, List.nil_append, percentDecode, hexValue_upperHexDigit]
  congr 1
  have value : 16 * (b.toNat / 16 % 16) + b.toNat % 16 = b.toNat := by omega
  rw [value, UInt8.ofNat_toNat]

theorem percentDecode_bytes (bytes : List UInt8) (rest : List Char) :
    percentDecode (bytes.flatMap percentByte ++ rest) = bytes ++ percentDecode rest := by
  induction bytes with
  | nil => rfl
  | cons b bytes ih => rw [List.flatMap_cons, List.append_assoc, percentDecode_byte, ih, List.cons_append]

theorem percentDecode_plain {c : Char} (plain : c ≠ '%') (rest : List Char) :
    percentDecode (c :: rest) = String.utf8EncodeChar c ++ percentDecode rest := by
  rw [percentDecode]
  exact fun _ _ _ percent _ => plain percent

theorem percentDecode_encode (safe : Char → Bool) {chars : List Char} (plain : ∀ c ∈ chars, c ≠ '%') :
    percentDecode (chars.flatMap (percentChar safe)) = chars.flatMap String.utf8EncodeChar := by
  induction chars with
  | nil => rfl
  | cons c chars ih =>
      rw [List.forall_mem_cons] at plain
      rw [List.flatMap_cons, List.flatMap_cons, ← ih plain.2]
      unfold percentChar
      split
      · exact percentDecode_plain plain.1 _
      · rw [percentDecode_bytes, toUTF8_singleton]

theorem percentEncode_injective (safe : Char → Bool) {first second : List Char} (plain : ∀ c ∈ first, c ≠ '%')
    (plain' : ∀ c ∈ second, c ≠ '%')
    (same : first.flatMap (percentChar safe) = second.flatMap (percentChar safe)) : first = second := by
  have bytes : first.flatMap String.utf8EncodeChar = second.flatMap String.utf8EncodeChar := by
    rw [← percentDecode_encode safe plain, ← percentDecode_encode safe plain', same]
  apply String.ofList_inj.mp
  apply String.toByteArray_inj.mp
  rw [String.toByteArray_ofList, String.toByteArray_ofList, List.utf8Encode, List.utf8Encode, bytes]

end WorkflowRuns
