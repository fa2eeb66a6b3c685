import Mathlib.Tactic.IntervalCases
import SuiteSync.Fetch.Host

set_option autoImplicit false

namespace SuiteSync.Text

def unmarked : List Char → List Char
  | '\uFEFF' :: rest => rest
  | text => text

def firstLow (n : Nat) : Nat := if n = 0xE0 then 0xA0 else if n = 0xF0 then 0x90 else 0x80

def firstHigh (n : Nat) : Nat := if n = 0xED then 0x9F else if n = 0xF4 then 0x8F else 0xBF

theorem start_lead (base more n : Nat)
    (lead : base = 0xC0 ∧ more = 1 ∧ 0xC2 ≤ n ∧ n ≤ 0xDF ∨ base = 0xE0 ∧ more = 2 ∧ 0xE0 ≤ n ∧ n ≤ 0xEF ∨
      base = 0xF0 ∧ more = 3 ∧ 0xF0 ≤ n ∧ n ≤ 0xF4) :
    startByte n = (some ⟨n - base, more, firstLow n, firstHigh n⟩, []) := by
  rcases lead with ⟨rfl, rfl, low, high⟩ | ⟨rfl, rfl, low, high⟩ | ⟨rfl, rfl, low, high⟩
  all_goals
    interval_cases n <;> rfl

theorem decode_start (n : Nat) (rest : List UInt8) (byte : n < 256) :
    decodeUtf8From none (UInt8.ofNat n :: rest) = (startByte n).2 ++ decodeUtf8From (startByte n).1 rest := by
  rw [decodeUtf8From, takeByte, UInt8.toNat_ofNat_of_lt' byte]

theorem decode_more (bits missing low high n : Nat) (rest : List UInt8) (byte : n < 256) (inside : low ≤ n ∧ n ≤ high)
    (more : 1 < missing) :
    decodeUtf8From (some ⟨bits, missing, low, high⟩) (UInt8.ofNat n :: rest) =
      decodeUtf8From (some ⟨bits * 0x40 + (n - 0x80), missing - 1, 0x80, 0xBF⟩) rest := by
  rw [decodeUtf8From, takeByte, UInt8.toNat_ofNat_of_lt' byte]
  simp only [if_pos inside, if_neg (Nat.not_le.mpr more), List.nil_append]

theorem decode_last (bits low high n : Nat) (rest : List UInt8) (byte : n < 256) (inside : low ≤ n ∧ n ≤ high) :
    decodeUtf8From (some ⟨bits, 1, low, high⟩) (UInt8.ofNat n :: rest) =
      Char.ofNat (bits * 0x40 + (n - 0x80)) :: decodeUtf8From none rest := by
  rw [decodeUtf8From, takeByte, UInt8.toNat_ofNat_of_lt' byte]
  simp only [if_pos inside, Nat.le_refl, if_true, List.singleton_append]

theorem char_range (c : Char) : c.toNat < 0xD800 ∨ 0xDFFF < c.toNat ∧ c.toNat < 0x110000 := c.valid

theorem decode_char (c : Char) (rest : List UInt8) :
    decodeUtf8From none (String.utf8EncodeChar c ++ rest) = c :: decodeUtf8From none rest := by
  have valid := char_range c
  have value : c.val.toNat = c.toNat := rfl
  rw [String.utf8EncodeChar, value]
  generalize same : c.toNat = v at valid
  have whole : Char.ofNat v = c := same ▸ Char.ofNat_toNat c
  split
  · rename_i one
    rw [List.singleton_append, decode_start v _ (by omega), startByte, if_pos (by omega), whole]
    rfl
  · split
    · rename_i two
      rw [List.cons_append, List.singleton_append, decode_start _ _ (by omega), start_lead 0xC0 1 _ (by omega),
        List.nil_append, decode_last _ _ _ _ _ (by omega) ?_]
      · have bits : (v / 64 % 32 + 192 - 0xC0) * 0x40 + (v % 64 + 128 - 0x80) = v := by omega
        rw [bits, whole]
      · rw [firstLow, firstHigh]
        repeat' split
        all_goals omega
    · split
      · rename_i three
        rw [List.cons_append, List.cons_append, List.singleton_append, decode_start _ _ (by omega),
          start_lead 0xE0 2 _ (by omega), List.nil_append, decode_more _ _ _ _ _ _ (by omega) ?_ (by omega),
          decode_last _ _ _ _ _ (by omega) (by omega)]
        · have bits : ((v / 4096 % 16 + 224 - 0xE0) * 0x40 + (v / 64 % 64 + 128 - 0x80)) * 0x40 + (v % 64 + 128 - 0x80) = v := by
            omega
          rw [bits, whole]
        · rw [firstLow, firstHigh]
          repeat' split
          all_goals omega
      · rename_i four
        rw [List.cons_append, List.cons_append, List.cons_append, List.singleton_append, decode_start _ _ (by omega),
          start_lead 0xF0 3 _ (by omega), List.nil_append, decode_more _ _ _ _ _ _ (by omega) ?_ (by omega),
          decode_more _ _ _ _ _ _ (by omega) (by omega) (by omega), decode_last _ _ _ _ _ (by omega) (by omega)]
        · have bits : (((v / 262144 % 8 + 240 - 0xF0) * 0x40 + (v / 4096 % 64 + 128 - 0x80)) * 0x40 +
              (v / 64 % 64 + 128 - 0x80)) * 0x40 + (v % 64 + 128 - 0x80) = v := by omega
          rw [bits, whole]
        · rw [firstLow, firstHigh]
          repeat' split
          all_goals omega

theorem decode_encoded (text : List Char) : decodeUtf8 (text.flatMap String.utf8EncodeChar) = text := by
  rw [decodeUtf8]
  induction text with
  | nil => rfl
  | cons c rest ih => rw [List.flatMap_cons, decode_char, ih]

theorem encoded_byte (c : Char) : ∀ b ∈ String.utf8EncodeChar c, b.toNat < 0xF8 := by
  have byte : ∀ n : Nat, n < 0xF8 → (UInt8.ofNat n).toNat < 0xF8 := fun n small => by
    rwa [UInt8.toNat_ofNat_of_lt' (Nat.lt_trans small (by decide))]
  rw [String.utf8EncodeChar]
  split
  · exact List.forall_mem_singleton.mpr (byte _ (by omega))
  · split
    · simp only [List.forall_mem_cons]
      exact ⟨byte _ (by omega), byte _ (by omega), List.forall_mem_nil _⟩
    · split
      · simp only [List.forall_mem_cons]
        exact ⟨byte _ (by omega), byte _ (by omega), byte _ (by omega), List.forall_mem_nil _⟩
      · simp only [List.forall_mem_cons]
        exact ⟨byte _ (by omega), byte _ (by omega), byte _ (by omega), byte _ (by omega), List.forall_mem_nil _⟩

theorem decode_unmarked (text : List Char) : decode .utf8 (text.flatMap String.utf8EncodeChar) = unmarked text := by
  have whole := decode_encoded text
  have small : ∀ b ∈ text.flatMap String.utf8EncodeChar, b.toNat < 0xF8 := fun b member => by
    obtain ⟨c, _, inside⟩ := List.mem_flatMap.mp member
    exact encoded_byte c b inside
  generalize encoded : text.flatMap String.utf8EncodeChar = bytes at whole small
  unfold decode
  split
  · rename_i rest
    have mark : decodeUtf8 (0xEF :: 0xBB :: 0xBF :: rest) = '\uFEFF' :: decodeUtf8 rest := decode_char '\uFEFF' rest
    rw [← whole, mark]
    rfl
  · exact absurd (small 0xFF List.mem_cons_self) (by decide)
  · exact absurd (small 0xFE List.mem_cons_self) (by decide)
  · rename_i noMark _ _
    dsimp only
    rw [whole]
    unfold unmarked
    split
    · rename_i rest
      have mark : String.utf8EncodeChar '\uFEFF' = [0xEF, 0xBB, 0xBF] := by decide
      rw [List.flatMap_cons, mark] at encoded
      exact absurd encoded.symm (noMark _)
    · rfl

theorem utf8_bytes (text : String) : text.toUTF8.data.toList = text.toList.flatMap String.utf8EncodeChar := by
  rw [String.toUTF8_eq_toByteArray, ← String.utf8Encode_toList, List.utf8Encode, List.data_toByteArray, List.toList_toArray]

theorem body_text_unmarked (contentType : Option String) (source : String) (declared : Reply.charset contentType = .utf8) :
    Reply.bodyText contentType source.toUTF8 = String.ofList (unmarked source.toList) := by
  rw [Reply.bodyText, declared, utf8_bytes, decode_unmarked]

end SuiteSync.Text
