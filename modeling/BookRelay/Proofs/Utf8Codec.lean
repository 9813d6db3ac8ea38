import BookRelay.Text.Utf8

/-!
# Decoding what was encoded

The strict UTF-8 reading gives back every string from its bytes: each character's encoding,
of one to four bytes, is one well-formed sequence that `steps` reads as that character. The
byte ranges a lead byte admits for its second byte (`E0` and `ED`, `F0` and `F4` narrower
than the rest) are met because a character is never a surrogate and stays below `0x110000`.
-/

namespace BookRelay.Text.Utf8

/-! ## Lead bytes -/

theorem leadShape_nat (b : UInt8) : leadShape b =
    if 0xC2 ≤ b.toNat ∧ b.toNat ≤ 0xDF then some (0x80, 0xBF, 2)
    else if b.toNat = 0xE0 then some (0xA0, 0xBF, 3)
    else if b.toNat = 0xED then some (0x80, 0x9F, 3)
    else if 0xE1 ≤ b.toNat ∧ b.toNat ≤ 0xEF then some (0x80, 0xBF, 3)
    else if b.toNat = 0xF0 then some (0x90, 0xBF, 4)
    else if b.toNat = 0xF4 then some (0x80, 0x8F, 4)
    else if 0xF1 ≤ b.toNat ∧ b.toNat ≤ 0xF3 then some (0x80, 0xBF, 4)
    else none := by
  simp only [leadShape, UInt8.le_iff_toNat_le, Bool.and_eq_true, decide_eq_true_eq, beq_iff_eq,
    ← UInt8.toNat_inj]
  rfl

/-! ## One character -/

theorem steps_two {b0 b1 : UInt8} (rest : List UInt8) (h0 : 0xC2 ≤ b0.toNat ∧ b0.toNat ≤ 0xDF)
    (h1 : 0x80 ≤ b1.toNat ∧ b1.toNat ≤ 0xBF) :
    steps (b0 :: b1 :: rest) = some (Char.ofNat ((b0.toNat % 32) * 64 + payload b1)) :: steps rest := by
  have hlead : leadShape b0 = some (0x80, 0xBF, 2) := by rw [leadShape_nat, if_pos h0]
  rw [steps.eq_def]
  simp only [hlead, UInt8.lt_iff_toNat_lt, UInt8.le_iff_toNat_le]
  simp [show ¬ b0.toNat < 128 by omega, h1.1, h1.2]

theorem steps_three {b0 b1 b2 : UInt8} (rest : List UInt8) {lo hi : UInt8} (h0 : 0x80 ≤ b0.toNat)
    (hlead : leadShape b0 = some (lo, hi, 3)) (h1 : lo ≤ b1 ∧ b1 ≤ hi) (h2 : isCont b2 = true) :
    steps (b0 :: b1 :: b2 :: rest) =
      some (Char.ofNat ((b0.toNat % 16) * 4096 + payload b1 * 64 + payload b2)) :: steps rest := by
  rw [steps.eq_def]
  simp only [hlead, UInt8.lt_iff_toNat_lt]
  simp [show ¬ b0.toNat < 128 by omega, h1.1, h1.2, h2]

theorem steps_four {b0 b1 b2 b3 : UInt8} (rest : List UInt8) {lo hi : UInt8} (h0 : 0x80 ≤ b0.toNat)
    (hlead : leadShape b0 = some (lo, hi, 4)) (h1 : lo ≤ b1 ∧ b1 ≤ hi) (h2 : isCont b2 = true)
    (h3 : isCont b3 = true) :
    steps (b0 :: b1 :: b2 :: b3 :: rest) =
      some (Char.ofNat ((b0.toNat % 8) * 262144 + payload b1 * 4096 + payload b2 * 64 + payload b3))
        :: steps rest := by
  rw [steps.eq_def]
  simp only [hlead, UInt8.lt_iff_toNat_lt]
  simp [show ¬ b0.toNat < 128 by omega, h1.1, h1.2, h2, h3]

theorem toNat_byte {x : Nat} (h : x < 256) : (UInt8.ofNat x).toNat = x := by
  simp [Nat.mod_eq_of_lt h]

/-- The lead byte of a three-byte sequence, and the range it allows the second byte. -/
theorem lead_three {v : Nat} (hlo : 2048 ≤ v) (hhi : v ≤ 65535) (hs : v < 0xD800 ∨ 0xDFFF < v) :
    ∃ lo hi, leadShape (UInt8.ofNat (v / 4096 % 16 + 224)) = some (lo, hi, 3) ∧
      lo ≤ UInt8.ofNat (v / 64 % 64 + 128) ∧ UInt8.ofNat (v / 64 % 64 + 128) ≤ hi := by
  have hb0 : (UInt8.ofNat (v / 4096 % 16 + 224)).toNat = v / 4096 + 224 := by
    rw [toNat_byte (by omega)]; omega
  have hb1 : (UInt8.ofNat (v / 64 % 64 + 128)).toNat = v / 64 % 64 + 128 := toNat_byte (by omega)
  simp only [UInt8.le_iff_toNat_le, leadShape_nat, hb0, hb1]
  -- the lead byte is E0, ED, or another of E1 to EF, and the second byte is in its range
  by_cases he0 : v < 4096
  · refine ⟨0xA0, 0xBF, ?_, show 160 ≤ _ by omega, show _ ≤ 191 by omega⟩
    rw [if_neg (by omega), if_pos (by omega)]
  by_cases hed : 0xD000 ≤ v ∧ v < 0xE000
  · refine ⟨0x80, 0x9F, ?_, show 128 ≤ _ by omega, show _ ≤ 159 by omega⟩
    rw [if_neg (by omega), if_neg (by omega), if_pos (by omega)]
  · refine ⟨0x80, 0xBF, ?_, show 128 ≤ _ by omega, show _ ≤ 191 by omega⟩
    rw [if_neg (by omega), if_neg (by omega), if_neg (by omega), if_pos (by omega)]

/-- The lead byte of a four-byte sequence, and the range it allows the second byte. -/
theorem lead_four {v : Nat} (hlo : 65536 ≤ v) (hhi : v < 0x110000) :
    ∃ lo hi, leadShape (UInt8.ofNat (v / 262144 % 8 + 240)) = some (lo, hi, 4) ∧
      lo ≤ UInt8.ofNat (v / 4096 % 64 + 128) ∧ UInt8.ofNat (v / 4096 % 64 + 128) ≤ hi := by
  have hb0 : (UInt8.ofNat (v / 262144 % 8 + 240)).toNat = v / 262144 + 240 := by
    rw [toNat_byte (by omega)]; omega
  have hb1 : (UInt8.ofNat (v / 4096 % 64 + 128)).toNat = v / 4096 % 64 + 128 := toNat_byte (by omega)
  simp only [UInt8.le_iff_toNat_le, leadShape_nat, hb0, hb1]
  -- the lead byte is F0, F4, or one of F1 to F3, and the second byte is in its range
  by_cases hf0 : v < 0x40000
  · refine ⟨0x90, 0xBF, ?_, show 144 ≤ _ by omega, show _ ≤ 191 by omega⟩
    rw [if_neg (by omega), if_neg (by omega), if_neg (by omega), if_neg (by omega), if_pos (by omega)]
  by_cases hf4 : 0x100000 ≤ v
  · refine ⟨0x80, 0x8F, ?_, show 128 ≤ _ by omega, show _ ≤ 143 by omega⟩
    rw [if_neg (by omega), if_neg (by omega), if_neg (by omega), if_neg (by omega), if_neg (by omega),
      if_pos (by omega)]
  · refine ⟨0x80, 0xBF, ?_, show 128 ≤ _ by omega, show _ ≤ 191 by omega⟩
    rw [if_neg (by omega), if_neg (by omega), if_neg (by omega), if_neg (by omega), if_neg (by omega),
      if_neg (by omega), if_pos (by omega)]

/-- A character below 128 is the one byte of its code. -/
theorem utf8EncodeChar_ascii {c : Char} (h : c.toNat < 128) :
    String.utf8EncodeChar c = [UInt8.ofNat c.toNat] := by
  have hv : c.val.toNat = c.toNat := rfl
  simp [String.utf8EncodeChar, hv, show c.toNat ≤ 127 by omega]

/-- Every byte of a character from 128 up is from 128 up. -/
theorem le_of_mem_utf8EncodeChar {c : Char} (h : 128 ≤ c.toNat) {b : UInt8}
    (hb : b ∈ String.utf8EncodeChar c) : 128 ≤ b.toNat := by
  have hv : c.val.toNat = c.toNat := rfl
  have hvalid : c.toNat < 0x110000 := by have := c.valid; omega
  simp only [String.utf8EncodeChar, hv, if_neg (show ¬ c.toNat ≤ 127 by omega)] at hb
  split at hb
  · simp only [List.mem_cons, List.not_mem_nil, or_false] at hb
    rcases hb with rfl | rfl <;> rw [toNat_byte (by omega)] <;> omega
  split at hb
  · simp only [List.mem_cons, List.not_mem_nil, or_false] at hb
    rcases hb with rfl | rfl | rfl <;> rw [toNat_byte (by omega)] <;> omega
  · simp only [List.mem_cons, List.not_mem_nil, or_false] at hb
    rcases hb with rfl | rfl | rfl | rfl <;> rw [toNat_byte (by omega)] <;> omega

theorem ofNat_eq_of_toNat {c : Char} {n : Nat} (h : n = c.toNat) : Char.ofNat n = c :=
  h ▸ Char.ofNat_toNat c

theorem isCont_byte (x : Nat) : isCont (UInt8.ofNat (x % 64 + 128)) = true := by
  simp only [isCont, UInt8.le_iff_toNat_le, UInt8.lt_iff_toNat_lt, toNat_byte (show x % 64 + 128 < 256 by omega),
    Bool.and_eq_true, decide_eq_true_eq]
  exact ⟨show 128 ≤ _ by omega, show _ < 192 by omega⟩

theorem payload_byte (x : Nat) : payload (UInt8.ofNat (x % 64 + 128)) = x % 64 := by
  rw [payload, toNat_byte (by omega)]
  omega

/-- Decoding reads a character's bytes back as the character. -/
theorem steps_utf8EncodeChar (c : Char) (rest : List UInt8) :
    steps (String.utf8EncodeChar c ++ rest) = some c :: steps rest := by
  have hvalid : c.toNat < 0xD800 ∨ (0xDFFF < c.toNat ∧ c.toNat < 0x110000) := c.valid
  have hv : c.val.toNat = c.toNat := rfl
  simp only [String.utf8EncodeChar, hv]
  by_cases h1 : c.toNat ≤ 127
  · rw [if_pos h1, List.singleton_append, steps_ascii _ (by simp [UInt8.lt_iff_toNat_lt]; omega),
      toNat_byte (by omega), Char.ofNat_toNat]
  rw [if_neg h1]
  by_cases h2 : c.toNat ≤ 2047
  · rw [if_pos h2, List.cons_append, List.cons_append, List.nil_append]
    have hb1 : c.toNat % 64 + 128 = (c.toNat % 64) % 64 + 128 := by omega
    rw [steps_two rest (by rw [toNat_byte (by omega)]; omega) (by rw [toNat_byte (by omega)]; omega),
      hb1, payload_byte, toNat_byte (by omega)]
    congr 2
    exact ofNat_eq_of_toNat (by omega)
  rw [if_neg h2]
  by_cases h3 : c.toNat ≤ 65535
  · rw [if_pos h3]
    obtain ⟨lo, hi, hlead, hr⟩ := lead_three (v := c.toNat) (by omega) h3 (by omega)
    rw [List.cons_append, List.cons_append, List.cons_append, List.nil_append,
      steps_three rest (by rw [toNat_byte (by omega)]; omega) hlead hr (isCont_byte _),
      payload_byte, payload_byte, toNat_byte (by omega)]
    congr 2
    exact ofNat_eq_of_toNat (by omega)
  rw [if_neg h3]
  obtain ⟨lo, hi, hlead, hr⟩ := lead_four (v := c.toNat) (by omega) (by omega)
  rw [List.cons_append, List.cons_append, List.cons_append, List.cons_append, List.nil_append,
    steps_four rest (by rw [toNat_byte (by omega)]; omega) hlead hr (isCont_byte _) (isCont_byte _),
    payload_byte, payload_byte, payload_byte, toNat_byte (by omega)]
  congr 2
  exact ofNat_eq_of_toNat (by omega)

/-! ## Whole strings -/

theorem toList_loop (bs : ByteArray) (i : Nat) (r : List UInt8) :
    ByteArray.toList.loop bs i r = r.reverse ++ bs.data.toList.drop i := by
  fun_induction ByteArray.toList.loop bs i r with
  | case1 i r hi ih =>
    have hget : bs.get! i = bs.data[i] := by
      rcases bs with ⟨data⟩
      exact getElem!_pos data i hi
    rw [ih, List.drop_eq_getElem_cons (show i < bs.data.toList.length by simpa using hi)]
    simp [hget]
  | case2 i r hi =>
    rw [List.drop_eq_nil_of_le (by simpa using Nat.le_of_not_lt hi)]
    simp

/-- The bytes of a string are the UTF-8 bytes of its characters. -/
theorem encode_eq_flatMap (s : String) : encode s = s.toList.flatMap String.utf8EncodeChar := by
  rw [encode, String.toUTF8_eq_toByteArray, ← String.utf8Encode_toList, List.utf8Encode,
    ByteArray.toList, toList_loop]
  simp

@[simp] theorem encode_append (s t : String) : encode (s ++ t) = encode s ++ encode t := by
  simp [encode_eq_flatMap, String.toList_append]

@[simp] theorem encode_ofList (cs : List Char) :
    encode (String.ofList cs) = cs.flatMap String.utf8EncodeChar := by
  simp [encode_eq_flatMap]

theorem steps_flatMap (cs : List Char) :
    steps (cs.flatMap String.utf8EncodeChar) = cs.map some := by
  induction cs with
  | nil => exact steps_nil
  | cons c cs ih => rw [List.flatMap_cons, steps_utf8EncodeChar, ih, List.map_cons]

theorem decode?_flatMap (cs : List Char) :
    decode? (cs.flatMap String.utf8EncodeChar) = some (String.ofList cs) := by
  have hsome : cs.mapM some = some cs := by
    simpa using List.mapM_pure (m := Option) (f := fun x : Char => x) (l := cs)
  simp [decode?, steps_flatMap, hsome]

/-- Decoding the bytes of a string gives the string back. -/
theorem decode?_encode (s : String) : decode? (encode s) = some s := by
  rw [encode_eq_flatMap, decode?_flatMap, String.ofList_toList]

end BookRelay.Text.Utf8
