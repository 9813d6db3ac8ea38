import BookRelay.Json.Printer
import BookRelay.Json.Reader
import BookRelay.Proofs.Utf8Codec

/-!
# Reading the text of scalars

How the reader takes in what the printer writes for a literal, an integer and a string. Each
lemma starts the reader at the first byte of the printed text, followed by any `rest`, and
says where it stops: right after the text, with the value it read. Integers need `rest` not to
go on with a digit, a point or an exponent, which holds where compact text goes on after a
value (`Delimited`).
-/

namespace BookRelay.Json

open BookRelay.Text

/-! ## Cursors -/

namespace Cursor

@[simp] theorem bump_cons (b : UInt8) (rest : List UInt8) (i : Nat) :
    bump ⟨b :: rest, i⟩ = ⟨rest, i + 1⟩ := rfl

@[simp] theorem peekOffset_cons (b : UInt8) (rest : List UInt8) (i : Nat) :
    peekOffset ⟨b :: rest, i⟩ = i + 1 := rfl

/-- A byte above the blanks stops `skipBlanks` at once. -/
theorem skipBlanks_of_le {b : UInt8} (h : 33 ≤ b.toNat) (rest : List UInt8) (i : Nat) :
    skipBlanks ⟨b :: rest, i⟩ = ⟨b :: rest, i⟩ := by
  have h32 : b ≠ 32 := fun e => by subst e; simp at h
  have h9 : b ≠ 9 := fun e => by subst e; simp at h
  have h10 : b ≠ 10 := fun e => by subst e; simp at h
  have h13 : b ≠ 13 := fun e => by subst e; simp at h
  simp [skipBlanks, h32, h9, h10, h13]

end Cursor

/-- What may follow a value in compact text: the end, a comma, or a closing bracket or brace. -/
def Delimited (rest : List UInt8) : Prop := ∀ b ∈ rest.head?, b = 44 ∨ b = 93 ∨ b = 125

theorem Delimited.nil : Delimited [] := by simp [Delimited]

theorem Delimited.cons {b : UInt8} (h : b = 44 ∨ b = 93 ∨ b = 125) (rest : List UInt8) :
    Delimited (b :: rest) := by
  simpa [Delimited] using h

/-- After a value, the reader sees neither a digit, nor a point, nor an exponent mark. -/
theorem Delimited.ends {rest : List UInt8} (h : Delimited rest) :
    isDigit (rest.headD 0) = false ∧ rest.headD 0 ≠ 46 ∧ rest.headD 0 ≠ 101 ∧ rest.headD 0 ≠ 69 := by
  cases rest with
  | nil => decide
  | cons b rest =>
    simp only [List.headD_cons]
    rcases h b rfl with rfl | rfl | rfl <;> decide

/-! ## The bytes of punctuation and literal words -/

@[simp] theorem encode_comma : Utf8.encode "," = [44] := by rw [Utf8.encode_eq_flatMap]; decide

@[simp] theorem encode_colon : Utf8.encode ":" = [58] := by rw [Utf8.encode_eq_flatMap]; decide

@[simp] theorem encode_minus : Utf8.encode "-" = [45] := by rw [Utf8.encode_eq_flatMap]; decide

@[simp] theorem encode_openBracket : Utf8.encode "[" = [91] := by
  rw [Utf8.encode_eq_flatMap]; decide

@[simp] theorem encode_closeBracket : Utf8.encode "]" = [93] := by
  rw [Utf8.encode_eq_flatMap]; decide

@[simp] theorem encode_openBrace : Utf8.encode "\x7b" = [123] := by
  rw [Utf8.encode_eq_flatMap]; decide

@[simp] theorem encode_closeBrace : Utf8.encode "\x7d" = [125] := by
  rw [Utf8.encode_eq_flatMap]; decide

theorem encode_render_null : Utf8.encode (Value.render .null) = [110, 117, 108, 108] := by
  rw [render_null, Utf8.encode_eq_flatMap]; decide

theorem encode_render_true : Utf8.encode (Value.render (.bool true)) = [116, 114, 117, 101] := by
  simp only [Value.render]; rw [Utf8.encode_eq_flatMap]; decide

theorem encode_render_false :
    Utf8.encode (Value.render (.bool false)) = [102, 97, 108, 115, 101] := by
  simp only [Value.render]; rw [Utf8.encode_eq_flatMap]; decide

/-! ## The first byte of a value

`readValue` looks at the first byte after the blanks and goes on by what it is. -/

section Heads

variable (d f : Nat) (rest : List UInt8) (i : Nat)

theorem readValue_null_head :
    readValue d (f + 1) ⟨110 :: rest, i⟩ =
      (readWord [117, 108, 108] ⟨rest, i + 1⟩).map fun c => (.null, c) := by
  simp +decide [readValue, Cursor.skipBlanks]

theorem readValue_true_head :
    readValue d (f + 1) ⟨116 :: rest, i⟩ =
      (readWord [114, 117, 101] ⟨rest, i + 1⟩).map fun c => (.bool true, c) := by
  simp +decide [readValue, Cursor.skipBlanks]

theorem readValue_false_head :
    readValue d (f + 1) ⟨102 :: rest, i⟩ =
      (readWord [97, 108, 115, 101] ⟨rest, i + 1⟩).map fun c => (.bool false, c) := by
  simp +decide [readValue, Cursor.skipBlanks]

theorem readValue_minus_head :
    readValue d (f + 1) ⟨45 :: rest, i⟩ =
      (readNumber false ⟨rest, i + 1⟩).map fun (n, c) => (.number n, c) := by
  simp +decide [readValue, Cursor.skipBlanks]

theorem readValue_digit_head {b : UInt8} (hb : isDigit b = true) :
    readValue d (f + 1) ⟨b :: rest, i⟩ =
      (readNumber true ⟨b :: rest, i⟩).map fun (n, c) => (.number n, c) := by
  have hrange : 48 ≤ b.toNat ∧ b.toNat ≤ 57 := by
    simpa [isDigit, UInt8.le_iff_toNat_le] using hb
  have h110 : b ≠ 110 := fun h => by subst h; simp at hrange
  have h116 : b ≠ 116 := fun h => by subst h; simp at hrange
  have h102 : b ≠ 102 := fun h => by subst h; simp at hrange
  have h45 : b ≠ 45 := fun h => by subst h; simp at hrange
  simp [readValue, Cursor.skipBlanks_of_le (show 33 ≤ b.toNat by omega), h110, h116, h102, h45, hb]

theorem readValue_quote_head :
    readValue d (f + 1) ⟨34 :: rest, i⟩ =
      (readString ⟨rest, i + 1⟩).map fun (s, c) => (.string s, c) := by
  simp +decide [readValue, Cursor.skipBlanks]

theorem readValue_bracket_head :
    readValue d (f + 1) ⟨91 :: rest, i⟩ =
      if d ≤ 1 then failAt .recursionLimit (i + 1) else readItems (d - 1) f true [] ⟨rest, i + 1⟩ := by
  simp +decide [readValue, Cursor.skipBlanks]

theorem readValue_brace_head :
    readValue d (f + 1) ⟨123 :: rest, i⟩ =
      if d ≤ 1 then failAt .recursionLimit (i + 1)
      else readMembers (d - 1) f true [] ⟨rest, i + 1⟩ := by
  simp +decide [readValue, Cursor.skipBlanks]

end Heads

/-! ## Literals -/

theorem readWord_append (ws rest : List UInt8) (i : Nat) :
    readWord ws ⟨ws ++ rest, i⟩ = .ok ⟨rest, i + ws.length⟩ := by
  induction ws generalizing i with
  | nil => rfl
  | cons w ws ih =>
    simp only [readWord, List.cons_append, beq_self_eq_true, if_true]
    rw [ih]
    simp only [List.length_cons, Nat.add_assoc, Nat.add_comm 1]

theorem readValue_null (d f : Nat) (rest : List UInt8) (i : Nat) :
    readValue d (f + 1) ⟨Utf8.encode (Value.render .null) ++ rest, i⟩ =
      .ok (.null, ⟨rest, i + (Utf8.encode (Value.render .null)).length⟩) := by
  rw [encode_render_null, List.cons_append, readValue_null_head, readWord_append]
  rfl

theorem readValue_bool (b : Bool) (d f : Nat) (rest : List UInt8) (i : Nat) :
    readValue d (f + 1) ⟨Utf8.encode (Value.render (.bool b)) ++ rest, i⟩ =
      .ok (.bool b, ⟨rest, i + (Utf8.encode (Value.render (.bool b))).length⟩) := by
  cases b with
  | true =>
    rw [encode_render_true, List.cons_append, readValue_true_head, readWord_append]
    rfl
  | false =>
    rw [encode_render_false, List.cons_append, readValue_false_head, readWord_append]
    rfl

/-! ## Integers -/

/-- The value of a decimal digit byte. -/
theorem digit_byte {c : Char} (h : c.isDigit = true) :
    String.utf8EncodeChar c = [UInt8.ofNat c.toNat] ∧ isDigit (UInt8.ofNat c.toNat) = true ∧
      (UInt8.ofNat c.toNat).toNat = c.toNat := by
  have hc := Char.isDigit_iff_toNat.mp h
  simp only [Char.reduceToNat] at hc
  have hbyte : (UInt8.ofNat c.toNat).toNat = c.toNat := Utf8.toNat_byte (by omega)
  refine ⟨Utf8.utf8EncodeChar_ascii (by omega), ?_, hbyte⟩
  simp only [isDigit, UInt8.le_iff_toNat_le, hbyte, Bool.and_eq_true, decide_eq_true_eq]
  exact ⟨show 48 ≤ c.toNat by omega, show c.toNat ≤ 57 by omega⟩

/-- `overflows` says whether one more digit passes the limit. -/
theorem overflows_iff (acc d limit : Nat) (hd : d < 10) :
    overflows acc d limit = true ↔ limit < acc * 10 + d := by
  simp only [overflows, Bool.and_eq_true, Bool.or_eq_true, decide_eq_true_eq]
  omega

/-- Digits after a prefix only make the value larger. -/
theorem le_ofDigitChars (cs : List Char) (init : Nat) : init ≤ Nat.ofDigitChars 10 cs init := by
  induction cs generalizing init with
  | nil => simp
  | cons c cs ih =>
    rw [Nat.ofDigitChars_cons]
    exact Nat.le_trans (by omega) (ih _)

/-- Reading digits while the value stays within 64 bits. -/
theorem integerDigits_digits (positive : Bool) (cs : List Char) (hcs : ∀ c ∈ cs, c.isDigit = true)
    (acc : Nat) (rest : List UInt8) (i : Nat) (hrest : isDigit (rest.headD 0) = false)
    (hfit : Nat.ofDigitChars 10 cs acc ≤ u64Max) :
    integerDigits positive acc ⟨cs.flatMap String.utf8EncodeChar ++ rest, i⟩ =
      finishNumber positive (Nat.ofDigitChars 10 cs acc) ⟨rest, i + cs.length⟩ := by
  induction cs generalizing acc i with
  | nil => cases rest <;> simp_all [integerDigits]
  | cons c cs ih =>
    obtain ⟨henc, hdig, hval⟩ := digit_byte (hcs c (by simp))
    have hc := Char.isDigit_iff_toNat.mp (hcs c (by simp))
    simp only [Char.reduceToNat] at hc
    -- the digit fits: every partial value is at most the whole one
    have hstep : Nat.ofDigitChars 10 cs (10 * acc + (c.toNat - 48)) ≤ u64Max := by
      simpa [Nat.ofDigitChars_cons] using hfit
    have hle : 10 * acc + (c.toNat - 48) ≤ u64Max :=
      Nat.le_trans (le_ofDigitChars cs _) hstep
    have hno : overflows acc (c.toNat - 48) u64Max = false := by
      rw [Bool.eq_false_iff, ne_eq, overflows_iff _ _ _ (by omega)]
      omega
    rw [List.flatMap_cons, henc, List.singleton_append, List.cons_append]
    simp only [integerDigits, hdig, if_true, hval, hno, Bool.false_eq_true, if_false]
    rw [show acc * 10 + (c.toNat - 48) = 10 * acc + (c.toNat - 48) by omega,
      ih (fun c h => hcs c (by simp [h])) _ _ hstep, Nat.ofDigitChars_cons]
    simp only [Char.reduceToNat, List.length_cons, Nat.add_assoc, Nat.add_comm 1]

/-- The first digit of a positive number is not `0`. -/
theorem toDigits_head_ne_zero (n : Nat) (hn : 0 < n) :
    ∃ c cs, Nat.toDigits 10 n = c :: cs ∧ c ≠ '0' := by
  induction n using Nat.strongRecOn with
  | ind n ih =>
    by_cases h : n < 10
    · have hdigit : ∀ m < 10, 0 < m → m.digitChar ≠ '0' := by decide
      exact ⟨n.digitChar, [], Nat.toDigits_of_lt_base h, hdigit n h hn⟩
    · obtain ⟨c, cs, hcs, hc⟩ := ih (n / 10) (by omega) (by omega)
      refine ⟨c, cs ++ [Nat.digitChar (n % 10)], ?_, hc⟩
      rw [Nat.toDigits_of_base_le (by decide) (by omega), hcs, List.cons_append]

/-- Decimal digits are one byte each. -/
theorem flatMap_digits (cs : List Char) (hcs : ∀ c ∈ cs, c.isDigit = true) :
    cs.flatMap String.utf8EncodeChar = cs.map fun c => UInt8.ofNat c.toNat := by
  induction cs with
  | nil => rfl
  | cons c cs ih =>
    rw [List.flatMap_cons, (digit_byte (hcs c (by simp))).1, ih (fun c h => hcs c (by simp [h]))]
    rfl

theorem length_encode_toString (n : Nat) :
    (Utf8.encode (toString n)).length = (Nat.toDigits 10 n).length := by
  rw [Nat.toString_eq_ofList_toDigits, Utf8.encode_ofList,
    flatMap_digits _ fun c hc => Nat.isDigit_of_mem_toDigits (by decide) (by decide) hc,
    List.length_map]

/-- The printed digits of an integer within 64 bits read as that integer. -/
theorem readNumber_digits (positive : Bool) {n : Nat} (hn : n ≤ u64Max) (rest : List UInt8)
    (hrest : isDigit (rest.headD 0) = false) (i : Nat) :
    readNumber positive ⟨Utf8.encode (toString n) ++ rest, i⟩ =
      finishNumber positive n ⟨rest, i + (Utf8.encode (toString n)).length⟩ := by
  rw [length_encode_toString]
  have hall : ∀ c ∈ Nat.toDigits 10 n, c.isDigit = true :=
    fun c hc => Nat.isDigit_of_mem_toDigits (by decide) (by decide) hc
  rw [Nat.toString_eq_ofList_toDigits, Utf8.encode_ofList]
  by_cases h0 : n = 0
  · subst h0
    have h48 : String.utf8EncodeChar '0' = [48] := by decide
    simp_all [Nat.toDigits_zero, readNumber, Cursor.peekOrNull]
  obtain ⟨c, cs, hcs, hc⟩ := toDigits_head_ne_zero n (by omega)
  rw [hcs] at hall ⊢
  obtain ⟨henc, hdig, hval⟩ := digit_byte (hall c (by simp))
  -- a leading digit other than `0` is a byte other than `0`
  have hne : UInt8.ofNat c.toNat ≠ 48 := by
    intro h
    have h48 : 48 = c.toNat := by rw [← hval, h]; rfl
    exact hc (Utf8.ofNat_eq_of_toNat h48).symm
  have hvalue : Nat.ofDigitChars 10 cs (c.toNat - 48) = n := by
    have := Nat.ofDigitChars_ten_toDigits (n := n)
    rw [hcs, Nat.ofDigitChars_cons] at this
    simpa using this
  rw [List.flatMap_cons, henc, List.singleton_append, List.cons_append]
  simp only [readNumber, beq_iff_eq, hne, if_false, hdig, if_true, hval]
  rw [integerDigits_digits positive cs (fun c h => hall c (by simp [h])) _ rest _ hrest
    (by rw [hvalue]; exact hn), hvalue]
  simp only [List.length_cons, Nat.add_assoc, Nat.add_comm 1]

theorem finishNumber_nat (n : Nat) {rest : List UInt8} (hrest : Delimited rest) (i : Nat) :
    finishNumber true n ⟨rest, i⟩ = .ok (.nat n, ⟨rest, i⟩) := by
  obtain ⟨-, h46, h101, h69⟩ := hrest.ends
  simp only [finishNumber, Cursor.peekOrNull, Bool.or_eq_true, beq_iff_eq, h46, h101, h69, if_false, or_self,
    if_true]

theorem finishNumber_negative {n : Nat} (h0 : 0 < n) (hn : n ≤ Nat.pow 2 63) {rest : List UInt8}
    (hrest : Delimited rest) (i : Nat) :
    finishNumber false n ⟨rest, i⟩ = .ok (.negative (-(n : Int)), ⟨rest, i⟩) := by
  obtain ⟨-, h46, h101, h69⟩ := hrest.ends
  simp only [finishNumber, Cursor.peekOrNull, Bool.or_eq_true, beq_iff_eq, h46, h101, h69, if_false, or_self,
    Bool.false_eq_true, Nat.pos_iff_ne_zero.mp h0, hn, if_true]

/-- A number the reader gives back as it is: an integer within the 64 bits it keeps exact.
A double is not, since its text is rounded; nor is `-0`, which reads as a double. -/
def Number.exact : Number → Bool
  | .nat n => decide (n ≤ u64Max)
  | .negative i => decide (-(Nat.pow 2 63 : Int) ≤ i ∧ i < 0)
  | .float _ => false

/-- The text of a negative integer is a minus sign and the digits of its size. -/
theorem toString_of_neg {j : Int} (h : j < 0) : toString j = "-" ++ toString j.natAbs := by
  cases j with
  | ofNat m => rw [Int.ofNat_eq_natCast] at h; omega
  | negSucc m => rfl

/-- The first byte of an integer's digits is a digit. -/
theorem encode_toString_nat (n : Nat) :
    ∃ b tl, Utf8.encode (toString n) = b :: tl ∧ isDigit b = true ∧ 48 ≤ b.toNat ∧ b.toNat ≤ 57 := by
  rw [Nat.toString_eq_ofList_toDigits, Utf8.encode_ofList]
  obtain ⟨c, cs, hcs⟩ := List.exists_cons_of_ne_nil (Nat.toDigits_ne_nil (n := n) (b := 10))
  have hc : c.isDigit = true :=
    Nat.isDigit_of_mem_toDigits (b := 10) (by decide) (by decide) (by rw [hcs]; simp)
  obtain ⟨henc, hdig, hval⟩ := digit_byte hc
  have hrange := Char.isDigit_iff_toNat.mp hc
  simp only [Char.reduceToNat] at hrange
  refine ⟨UInt8.ofNat c.toNat, cs.flatMap String.utf8EncodeChar, ?_, hdig, by omega, by omega⟩
  rw [hcs, List.flatMap_cons, henc, List.singleton_append]

/-- An exact number reads back as itself. -/
theorem readValue_number {n : Number} (hn : n.exact = true) (d f : Nat) {rest : List UInt8}
    (hrest : Delimited rest) (i : Nat) :
    readValue d (f + 1) ⟨Utf8.encode (Value.render (.number n)) ++ rest, i⟩ =
      .ok (.number n, ⟨rest, i + (Utf8.encode (Value.render (.number n))).length⟩) := by
  cases n with
  | nat m =>
    have hm : m ≤ u64Max := by simpa [Number.exact] using hn
    have hread := readNumber_digits true hm rest hrest.ends.1 i
    obtain ⟨b, tl, hbytes, hdig, hlo, hhi⟩ := encode_toString_nat m
    simp only [Value.render, Number.text] at hread ⊢
    rw [hbytes, List.cons_append] at hread ⊢
    rw [readValue_digit_head d f _ i hdig, hread, finishNumber_nat _ hrest]
    rfl
  | negative j =>
    have hj : -(Nat.pow 2 63 : Int) ≤ j ∧ j < 0 := by simpa [Number.exact] using hn
    have h63 : (Nat.pow 2 63 : Int) = 9223372036854775808 := by decide
    have habs : j.natAbs ≤ Nat.pow 2 63 := by omega
    have hread := readNumber_digits false (Nat.le_trans habs (by decide)) rest hrest.ends.1 (i + 1)
    simp only [Value.render, Number.text, toString_of_neg hj.2, Utf8.encode_append, encode_minus,
      List.cons_append, List.nil_append]
    rw [readValue_minus_head, hread, finishNumber_negative (show 0 < j.natAbs by omega) habs hrest]
    have hsign : -(j.natAbs : Int) = j := by omega
    simp only [Except.map, hsign, List.length_cons, Nat.add_assoc, Nat.add_comm 1]
  | float x => simp [Number.exact] at hn

/-! ## Strings -/

/-- The bytes a character takes inside a JSON string. -/
def escapedBytes (c : Char) : List UInt8 := (escapeChar c).flatMap String.utf8EncodeChar

theorem encode_quote (s : String) :
    Utf8.encode (quote s) = 34 :: (s.toList.flatMap escapedBytes ++ [34]) := by
  have hq : String.utf8EncodeChar '"' = [34] := by decide
  rw [quote, Utf8.encode_ofList, List.flatMap_cons, List.flatMap_append, List.flatMap_assoc, hq]
  simp only [List.flatMap_cons, List.flatMap_nil, hq, List.append_nil, List.singleton_append]
  rfl

/-- Bytes that are neither a quote, nor a backslash, nor a control byte are kept as they are. -/
theorem stringBytes_plain (bs : List UInt8) (hbs : ∀ b ∈ bs, b ≠ 34 ∧ b ≠ 92 ∧ 32 ≤ b.toNat)
    (f : Nat) (acc r : List UInt8) (i : Nat) :
    stringBytes (f + bs.length) acc ⟨bs ++ r, i⟩ =
      stringBytes f (bs.reverse ++ acc) ⟨r, i + bs.length⟩ := by
  induction bs generalizing acc i with
  | nil => rfl
  | cons b bs ih =>
    obtain ⟨h34, h92, h32⟩ := hbs b (by simp)
    have hlt : ¬ b < 32 := by rw [UInt8.lt_iff_toNat_lt]; simp only [UInt8.toNat_ofNat]; omega
    rw [List.length_cons, ← Nat.add_assoc, List.cons_append]
    simp only [stringBytes, beq_iff_eq, h34, h92, hlt, if_false]
    rw [ih (fun b h => hbs b (by simp [h]))]
    simp only [List.reverse_cons, List.append_assoc, List.singleton_append, Nat.add_assoc,
      Nat.add_comm 1]

/-- A backslash hands the escape to `readEscape`, and the bytes it gives are kept. -/
theorem stringBytes_escape {tail r out : List UInt8} {i : Nat}
    (hread : readEscape ⟨tail ++ r, i + 1⟩ = .ok (out, ⟨r, i + 1 + tail.length⟩))
    (f : Nat) (acc : List UInt8) :
    stringBytes (f + 1) acc ⟨92 :: (tail ++ r), i⟩ =
      stringBytes f (out.reverse ++ acc) ⟨r, i + 1 + tail.length⟩ := by
  simp +decide only [stringBytes, if_false, if_true, hread]

/-- The byte of a hexadecimal digit, which `hexValue` reads back. -/
theorem hexValue_hexDigit {n : Nat} (h : n < 16) :
    (hexDigit n).toNat < 128 ∧ hexValue (UInt8.ofNat (hexDigit n).toNat) = some n := by
  have hall : ∀ m < 16, (hexDigit m).toNat < 128 ∧ hexValue (UInt8.ofNat (hexDigit m).toNat) = some m := by
    decide
  exact hall n h

/-- A control character without a short escape is written `\u00` and two hexadecimal digits,
which `readEscape` reads back as the character. -/
theorem readEscape_unicode {c : Char} (hlt : c.toNat < 32) (r : List UInt8) (i : Nat) :
    readEscape ⟨[117, 48, 48, UInt8.ofNat (hexDigit (c.toNat / 16)).toNat,
        UInt8.ofNat (hexDigit (c.toNat % 16)).toNat] ++ r, i⟩ =
      .ok (String.utf8EncodeChar c, ⟨r, i + 5⟩) := by
  obtain ⟨-, hhi⟩ := hexValue_hexDigit (show c.toNat / 16 < 16 by omega)
  obtain ⟨-, hlo⟩ := hexValue_hexDigit (show c.toNat % 16 < 16 by omega)
  have hcode : 0 * 4096 + 0 * 256 + c.toNat / 16 * 16 + c.toNat % 16 = c.toNat := by omega
  have hbytes : codePointBytes c.toNat = String.utf8EncodeChar c := by
    rw [codePointBytes, Char.ofNat_toNat, String.singleton_eq_ofList, Utf8.encode_ofList,
      List.flatMap_singleton]
  have hzero : hexValue 48 = some 0 := by decide
  simp +decide only [readEscape, readUnicodeEscape, readHex4, List.cons_append, List.nil_append,
    if_false, if_true, hhi, hlo, hzero, hcode]
  simp [show ¬ 56320 ≤ c.toNat by omega, show c.toNat < 55296 by omega, hbytes]

/-- A character with no escape is written as its own bytes, none of which is a quote, a
backslash or a control byte. -/
theorem escapedBytes_plain {c : Char} (hq : c ≠ '"') (hb : c ≠ '\\') (hplain : 32 ≤ c.toNat) :
    escapedBytes c = String.utf8EncodeChar c ∧
      ∀ b ∈ String.utf8EncodeChar c, b ≠ 34 ∧ b ≠ 92 ∧ 32 ≤ b.toNat := by
  refine ⟨by simp [escapedBytes, escapeChar_plain c hq hb hplain], fun b hbyte => ?_⟩
  by_cases hascii : c.toNat < 128
  · -- the one byte of the character is its code, which is neither 34 nor 92
    rw [Utf8.utf8EncodeChar_ascii hascii, List.mem_singleton] at hbyte
    subst hbyte
    have hcode := Utf8.toNat_byte (show c.toNat < 256 by omega)
    refine ⟨fun h => hq ?_, fun h => hb ?_, by omega⟩
    · exact Char.toNat_inj.mp (by rw [← hcode, h]; rfl)
    · exact Char.toNat_inj.mp (by rw [← hcode, h]; rfl)
  · have := Utf8.le_of_mem_utf8EncodeChar (by omega) hbyte
    refine ⟨fun h => ?_, fun h => ?_, by omega⟩ <;> subst h <;> simp at this

/-- A control character is written as a backslash and an escape that `readEscape` turns back into
the character: a short escape where there is one, else `\u00` and two hexadecimal digits. -/
theorem escapedBytes_control {c : Char} (hlt : c.toNat < 32) :
    ∃ tail, escapedBytes c = 92 :: tail ∧
      ∀ r i, readEscape ⟨tail ++ r, i⟩ = .ok (String.utf8EncodeChar c, ⟨r, i + tail.length⟩) := by
  have hcontrol : ∀ k, c.toNat = k → c = Char.ofNat k := fun k h =>
    (Utf8.ofNat_eq_of_toNat h.symm).symm
  by_cases h8 : c.toNat = 8
  · obtain rfl := hcontrol 8 h8
    exact ⟨[98], by decide, fun r i => by simp +decide [readEscape]⟩
  by_cases h9 : c.toNat = 9
  · obtain rfl := hcontrol 9 h9
    exact ⟨[116], by decide, fun r i => by simp +decide [readEscape]⟩
  by_cases h10 : c.toNat = 10
  · obtain rfl := hcontrol 10 h10
    exact ⟨[110], by decide, fun r i => by simp +decide [readEscape]⟩
  by_cases h12 : c.toNat = 12
  · obtain rfl := hcontrol 12 h12
    exact ⟨[102], by decide, fun r i => by simp +decide [readEscape]⟩
  by_cases h13 : c.toNat = 13
  · obtain rfl := hcontrol 13 h13
    exact ⟨[114], by decide, fun r i => by simp +decide [readEscape]⟩
  obtain ⟨hhi, -⟩ := hexValue_hexDigit (show c.toNat / 16 < 16 by omega)
  obtain ⟨hlo, -⟩ := hexValue_hexDigit (show c.toNat % 16 < 16 by omega)
  have hq : c ≠ '"' := fun h => by rw [h] at hlt; exact absurd hlt (by decide)
  have hb : c ≠ '\\' := fun h => by rw [h] at hlt; exact absurd hlt (by decide)
  have hn : c ≠ '\n' := fun h => h10 (by rw [h]; rfl)
  have hr : c ≠ '\r' := fun h => h13 (by rw [h]; rfl)
  have ht : c ≠ '\t' := fun h => h9 (by rw [h]; rfl)
  have hesc : escapeChar c = ['\\', 'u', '0', '0', hexDigit (c.toNat / 16), hexDigit (c.toNat % 16)] := by
    simp [escapeChar, hq, hb, hn, hr, ht, h8, h12, hlt]
  refine ⟨[117, 48, 48, UInt8.ofNat (hexDigit (c.toNat / 16)).toNat,
    UInt8.ofNat (hexDigit (c.toNat % 16)).toNat], ?_, fun r i => readEscape_unicode hlt r i⟩
  have hfixed : ['\\', 'u', '0', '0'].flatMap String.utf8EncodeChar = [92, 117, 48, 48] := by decide
  rw [escapedBytes, hesc, show ['\\', 'u', '0', '0', hexDigit (c.toNat / 16), hexDigit (c.toNat % 16)] =
    ['\\', 'u', '0', '0'] ++ [hexDigit (c.toNat / 16), hexDigit (c.toNat % 16)] from rfl,
    List.flatMap_append, hfixed]
  simp [Utf8.utf8EncodeChar_ascii hhi, Utf8.utf8EncodeChar_ascii hlo]

/-- How a character is written inside a string: as its own bytes, none of which is a quote, a
backslash or a control byte; or as a backslash and an escape that `readEscape` turns back into
the character's bytes. -/
theorem escapedBytes_cases (c : Char) :
    (escapedBytes c = String.utf8EncodeChar c ∧
      ∀ b ∈ String.utf8EncodeChar c, b ≠ 34 ∧ b ≠ 92 ∧ 32 ≤ b.toNat) ∨
    ∃ tail, escapedBytes c = 92 :: tail ∧
      ∀ r i, readEscape ⟨tail ++ r, i⟩ = .ok (String.utf8EncodeChar c, ⟨r, i + tail.length⟩) := by
  by_cases hq : c = '"'
  · subst hq
    exact .inr ⟨[34], by decide, fun r i => by simp +decide [readEscape]⟩
  by_cases hb : c = '\\'
  · subst hb
    exact .inr ⟨[92], by decide, fun r i => by simp +decide [readEscape]⟩
  by_cases hplain : 32 ≤ c.toNat
  · exact .inl (escapedBytes_plain hq hb hplain)
  · exact .inr (escapedBytes_control (by omega))

/-- One character of a string body is read in no more steps than it has bytes. -/
theorem stringBytes_char (c : Char) {f n : Nat} (hf : (escapedBytes c).length + n < f)
    (acc r : List UInt8) (i : Nat) :
    ∃ f', n < f' ∧ stringBytes f acc ⟨escapedBytes c ++ r, i⟩ =
      stringBytes f' ((String.utf8EncodeChar c).reverse ++ acc) ⟨r, i + (escapedBytes c).length⟩ := by
  rcases escapedBytes_cases c with ⟨henc, hplain⟩ | ⟨tail, henc, hread⟩
  · rw [henc] at hf ⊢
    refine ⟨f - (String.utf8EncodeChar c).length, by omega, ?_⟩
    rw [← stringBytes_plain _ hplain, Nat.sub_add_cancel (by omega)]
  · rw [henc] at hf ⊢
    refine ⟨f - 1, by simp at hf; omega, ?_⟩
    obtain ⟨g, rfl⟩ : ∃ g, f = g + 1 := ⟨f - 1, by omega⟩
    rw [List.cons_append, stringBytes_escape (hread r (i + 1)), List.length_cons, Nat.add_sub_cancel]
    simp only [Nat.add_assoc, Nat.add_comm 1]

/-- A string body, up to its closing quote, reads as the bytes of its characters. The fuel is
one more than the body's length, as `readString` gives it. -/
theorem stringBytes_body (cs : List Char) {f : Nat} (hf : (cs.flatMap escapedBytes).length < f)
    (acc rest : List UInt8) (i : Nat) :
    stringBytes f acc ⟨cs.flatMap escapedBytes ++ 34 :: rest, i⟩ =
      .ok ((cs.flatMap String.utf8EncodeChar).reverse ++ acc,
        ⟨rest, i + (cs.flatMap escapedBytes).length + 1⟩) := by
  induction cs generalizing f acc i with
  | nil =>
    obtain ⟨g, rfl⟩ : ∃ g, f = g + 1 := ⟨f - 1, by simp at hf; omega⟩
    simp +decide [stringBytes]
  | cons c cs ih =>
    rw [List.flatMap_cons, List.length_append] at hf
    obtain ⟨f', hf', hstep⟩ := stringBytes_char c hf acc (cs.flatMap escapedBytes ++ 34 :: rest) i
    rw [List.flatMap_cons, List.append_assoc, hstep, ih hf', List.flatMap_cons, List.reverse_append,
      List.append_assoc, List.length_append, Nat.add_assoc i]

/-- A string's body and closing quote read back as the string. -/
theorem readString_body (s : String) (rest : List UInt8) (i : Nat) :
    readString ⟨s.toList.flatMap escapedBytes ++ 34 :: rest, i⟩ =
      .ok (s, ⟨rest, i + (s.toList.flatMap escapedBytes).length + 1⟩) := by
  have hfuel : (s.toList.flatMap escapedBytes).length <
      (s.toList.flatMap escapedBytes ++ 34 :: rest).length + 1 := by
    simp only [List.length_append, List.length_cons]; omega
  have hdecode : Utf8.decode? ((s.toList.flatMap String.utf8EncodeChar).reverse ++ []).reverse = some s := by
    rw [List.append_nil, List.reverse_reverse, ← Utf8.encode_eq_flatMap, Utf8.decode?_encode]
  simp only [readString, stringBytes_body s.toList hfuel, hdecode]

/-- A string value reads back as itself. -/
theorem readValue_string (s : String) (d f : Nat) (rest : List UInt8) (i : Nat) :
    readValue d (f + 1) ⟨Utf8.encode (Value.render (.string s)) ++ rest, i⟩ =
      .ok (.string s, ⟨rest, i + (Utf8.encode (Value.render (.string s))).length⟩) := by
  simp only [Value.render, encode_quote, List.cons_append, List.append_assoc]
  rw [readValue_quote_head, readString_body]
  simp [Except.map]
  omega

end BookRelay.Json
