import BookRelay.Proofs.Utf8Codec

/-!
# Cutting a text at a character boundary

A log line shows at most `n` bytes of a text. `clip` searches down from offset `n` with the byte
test of `str::is_char_boundary` and slices there. Each character's bytes are one byte that
continues nothing followed by continuation bytes only, so the byte test marks exactly the offsets
where a prefix of the text ends (`isCharBoundary_iff_append`). Hence the search never steps below
offset zero, the slice never falls inside a character, and what is kept is the longest prefix of
the text within `n` bytes, which `Utf8.takeBytes` also finds scanning forward
(`clip_cuts_at_last_boundary`). Since a character takes at most four bytes, the cut lies at most
three bytes short of `n` (`LongestCut.near`).
-/

namespace BookRelay.Text.Utf8

/-! ## The bytes of a character -/

theorem isCont_iff (b : UInt8) : isCont b = true ↔ 128 ≤ b.toNat ∧ b.toNat < 192 := by
  simp [isCont, UInt8.le_iff_toNat_le, UInt8.lt_iff_toNat_lt]

theorem isCont_lead {x : Nat} (h : x < 128 ∨ 192 ≤ x) (hx : x < 256) :
    isCont (UInt8.ofNat x) = false := by
  rw [Bool.eq_false_iff, ne_eq, isCont_iff, toNat_byte hx]
  omega

/-- A character's bytes are a lead byte that continues nothing, then continuation bytes. -/
theorem utf8EncodeChar_shape (c : Char) : ∃ b rest, String.utf8EncodeChar c = b :: rest ∧
    isCont b = false ∧ ∀ x ∈ rest, isCont x = true := by
  have hvalid : c.toNat < 0xD800 ∨ (0xDFFF < c.toNat ∧ c.toNat < 0x110000) := c.valid
  have hv : c.val.toNat = c.toNat := rfl
  simp only [String.utf8EncodeChar, hv]
  by_cases h1 : c.toNat ≤ 127
  · rw [if_pos h1]
    exact ⟨_, [], rfl, isCont_lead (by omega) (by omega), by simp⟩
  rw [if_neg h1]
  by_cases h2 : c.toNat ≤ 2047
  · rw [if_pos h2]
    refine ⟨_, _, rfl, isCont_lead (by omega) (by omega), ?_⟩
    intro x hx
    simp only [List.mem_cons, List.not_mem_nil, or_false] at hx
    rw [hx]
    exact isCont_byte _
  rw [if_neg h2]
  by_cases h3 : c.toNat ≤ 65535
  · rw [if_pos h3]
    refine ⟨_, _, rfl, isCont_lead (by omega) (by omega), ?_⟩
    intro x hx
    simp only [List.mem_cons, List.not_mem_nil, or_false] at hx
    rcases hx with rfl | rfl <;> exact isCont_byte _
  rw [if_neg h3]
  refine ⟨_, _, rfl, isCont_lead (by omega) (by omega), ?_⟩
  intro x hx
  simp only [List.mem_cons, List.not_mem_nil, or_false] at hx
  rcases hx with rfl | rfl | rfl <;> exact isCont_byte _

theorem charWidth_eq_utf8Size (c : Char) : charWidth c = c.utf8Size := by
  have hv : c.val.toNat = c.toNat := rfl
  simp only [charWidth, Char.utf8Size, UInt32.le_iff_toNat_le, hv, UInt32.toNat_ofNatLT]
  -- the same three thresholds, read once with `<` and once with `≤`
  grind

/-! ## Texts as bytes -/

theorem length_encode (s : String) : (encode s).length = s.utf8ByteSize := by
  rw [encode, ByteArray.toList, toList_loop, String.toUTF8_eq_toByteArray,
    ← String.size_toByteArray, List.reverse_nil, List.nil_append, List.drop_zero,
    Array.length_toList]
  rfl

theorem utf8ByteSize_eq_length (s : String) :
    s.utf8ByteSize = (s.toList.flatMap String.utf8EncodeChar).length := by
  rw [← length_encode, encode_eq_flatMap]

theorem utf8ByteSize_ofList (cs : List Char) :
    (String.ofList cs).utf8ByteSize = (cs.flatMap String.utf8EncodeChar).length := by
  rw [utf8ByteSize_eq_length, String.toList_ofList]

theorem decodeLossy_encode (s : String) : decodeLossy (encode s) = s := by
  simp [decodeLossy, encode_eq_flatMap, steps_flatMap, Function.comp_def]

/-! ## Where characters start -/

theorem length_flatMap_cons (c : Char) (cs : List Char) :
    ((c :: cs).flatMap String.utf8EncodeChar).length =
      c.utf8Size + (cs.flatMap String.utf8EncodeChar).length := by
  rw [List.flatMap_cons, List.length_append, String.length_utf8EncodeChar]

theorem length_flatMap_take_succ (c : Char) (cs : List Char) (k : Nat) :
    (((c :: cs).take (k + 1)).flatMap String.utf8EncodeChar).length =
      c.utf8Size + ((cs.take k).flatMap String.utf8EncodeChar).length := by
  rw [List.take_succ_cons, length_flatMap_cons]

/-- Among the bytes of some characters, a byte continues nothing exactly where the bytes of some
of the first characters end. -/
theorem isCont_flatMap_eq_false_iff (cs : List Char) {i : Nat}
    (h : i < (cs.flatMap String.utf8EncodeChar).length) :
    isCont (cs.flatMap String.utf8EncodeChar)[i] = false ↔
      ∃ k, ((cs.take k).flatMap String.utf8EncodeChar).length = i := by
  induction cs generalizing i with
  | nil => simp at h
  | cons c cs ih =>
    obtain ⟨b, rest, henc, hb, hrest⟩ := utf8EncodeChar_shape c
    have hw : c.utf8Size = rest.length + 1 := by
      rw [← String.length_utf8EncodeChar, henc, List.length_cons]
    have hlen := length_flatMap_cons c cs
    simp only [List.flatMap_cons, henc, List.cons_append] at h hlen ⊢
    cases i with
    | zero => exact ⟨fun _ => ⟨0, by simp⟩, fun _ => hb⟩
    | succ j =>
      rw [List.getElem_cons_succ]
      by_cases hj : j < rest.length
      · -- inside the first character: a continuation byte, and no run of characters ends there
        rw [List.getElem_append_left hj, hrest _ (List.getElem_mem hj)]
        refine ⟨by simp, ?_⟩
        rintro ⟨k, hk⟩
        cases k with
        | zero => simp at hk
        | succ k => rw [length_flatMap_take_succ] at hk; omega
      · -- past the first character: the bytes of the others, shifted by its width
        rw [List.getElem_append_right (by omega), ih (by omega)]
        constructor
        · rintro ⟨k, hk⟩
          exact ⟨k + 1, by rw [length_flatMap_take_succ]; omega⟩
        · rintro ⟨k, hk⟩
          cases k with
          | zero => simp at hk
          | succ k => exact ⟨k, by rw [length_flatMap_take_succ] at hk; omega⟩

theorem length_flatMap_take_le (cs : List Char) (k : Nat) :
    ((cs.take k).flatMap String.utf8EncodeChar).length ≤
      (cs.flatMap String.utf8EncodeChar).length := by
  calc ((cs.take k).flatMap String.utf8EncodeChar).length
      ≤ ((cs.take k).flatMap String.utf8EncodeChar).length +
          ((cs.drop k).flatMap String.utf8EncodeChar).length := Nat.le_add_right _ _
    _ = (cs.flatMap String.utf8EncodeChar).length := by
      rw [← List.length_append, ← List.flatMap_append, List.take_append_drop]

/-! ## The forward scan -/

theorem isPrefix_takeBytes (cs : List Char) (n : Nat) : takeBytes cs n <+: cs := by
  induction cs generalizing n with
  | nil => simp [takeBytes]
  | cons c cs ih =>
    rw [takeBytes]
    split
    · exact List.cons_prefix_cons.2 ⟨rfl, ih _⟩
    · exact List.nil_prefix

theorem length_flatMap_takeBytes_le (cs : List Char) (n : Nat) :
    ((takeBytes cs n).flatMap String.utf8EncodeChar).length ≤ n := by
  induction cs generalizing n with
  | nil => simp [takeBytes]
  | cons c cs ih =>
    rw [takeBytes]
    split
    · have htail := ih (n - charWidth c)
      have hw := charWidth_eq_utf8Size c
      rw [length_flatMap_cons]
      omega
    · simp

/-- No prefix of the characters that fits in `n` bytes is longer than the forward scan's. -/
theorem length_flatMap_le_takeBytes {q cs : List Char} {n : Nat} (hq : q <+: cs)
    (hn : (q.flatMap String.utf8EncodeChar).length ≤ n) :
    (q.flatMap String.utf8EncodeChar).length ≤
      ((takeBytes cs n).flatMap String.utf8EncodeChar).length := by
  induction cs generalizing q n with
  | nil => simp [List.prefix_nil.1 hq]
  | cons c cs ih =>
    cases q with
    | nil => simp
    | cons x q =>
      obtain ⟨rfl, hq'⟩ := List.cons_prefix_cons.1 hq
      rw [length_flatMap_cons] at hn ⊢
      have hw := charWidth_eq_utf8Size x
      have hfits : charWidth x ≤ n := by omega
      -- the first character fits, so the scan takes it and goes on with the rest of the budget
      rw [takeBytes, if_pos hfits, length_flatMap_cons]
      have htail := ih hq' (n := n - charWidth x) (by omega)
      omega

end BookRelay.Text.Utf8

namespace BookRelay.Text

open Utf8

/-! ## Character boundaries -/

theorem isCharBoundary_iff_take (s : String) (i : Nat) :
    isCharBoundary s i = true ↔ ∃ k, (String.ofList (s.toList.take k)).utf8ByteSize = i := by
  simp only [utf8ByteSize_ofList]
  have hlen : (s.toList.flatMap String.utf8EncodeChar).length = s.utf8ByteSize := by
    rw [← encode_eq_flatMap, length_encode]
  rcases Nat.eq_zero_or_pos i with rfl | hi
  · exact ⟨fun _ => ⟨0, by simp⟩, fun _ => isCharBoundary_zero s⟩
  by_cases hin : i < s.utf8ByteSize
  · -- within the text: the byte at `i` decides
    rw [isCharBoundary, encode_eq_flatMap, List.getElem?_eq_getElem (by omega),
      ← isCont_flatMap_eq_false_iff _ (by omega)]
    simp [show i ≠ 0 by omega]
  · -- at or past the end: only the end itself, where the whole text ends
    rw [isCharBoundary, List.getElem?_eq_none (by rw [encode_eq_flatMap]; omega)]
    simp only [show (i == 0) = false by simp; omega, beq_iff_eq, Bool.false_or]
    constructor
    · rintro rfl
      exact ⟨s.toList.length, by rw [List.take_length, hlen]⟩
    · rintro ⟨k, hk⟩
      have := length_flatMap_take_le s.toList k
      omega

/-- The byte test of `str::is_char_boundary` holds exactly where a prefix of the text ends. -/
theorem isCharBoundary_iff_append (s : String) (i : Nat) :
    isCharBoundary s i = true ↔ ∃ p t, p ++ t = s ∧ p.utf8ByteSize = i := by
  rw [isCharBoundary_iff_take]
  constructor
  · rintro ⟨k, hk⟩
    refine ⟨_, String.ofList (s.toList.drop k), ?_, hk⟩
    rw [← String.ofList_append, List.take_append_drop, String.ofList_toList]
  · rintro ⟨p, t, rfl, rfl⟩
    exact ⟨p.toList.length, by rw [String.toList_append, List.take_left, String.ofList_toList]⟩

/-! ## The longest prefix within a budget -/

/-- `p` is the longest prefix of `s` within `n` bytes: a prefix of `s`, so it ends on a character
boundary, of at most `n` bytes, and no prefix of `s` within `n` bytes is longer. -/
structure LongestCut (s : String) (n : Nat) (p : String) : Prop where
  lead : ∃ t, p ++ t = s
  fits : p.utf8ByteSize ≤ n
  longest : ∀ q t, q ++ t = s → q.utf8ByteSize ≤ n → q.utf8ByteSize ≤ p.utf8ByteSize

theorem longestCut_takeBytes (s : String) (n : Nat) :
    LongestCut s n (String.ofList (takeBytes s.toList n)) where
  lead := by
    obtain ⟨t, ht⟩ := isPrefix_takeBytes s.toList n
    exact ⟨String.ofList t, by rw [← String.ofList_append, ht, String.ofList_toList]⟩
  fits := by
    rw [utf8ByteSize_ofList]
    exact length_flatMap_takeBytes_le _ _
  longest := by
    rintro q t rfl hq
    rw [utf8ByteSize_ofList]
    rw [utf8ByteSize_eq_length] at hq ⊢
    exact length_flatMap_le_takeBytes
      (by rw [String.toList_append]; exact List.prefix_append _ _) hq

/-- A longest cut of a text longer than `n` bytes ends at most three bytes short of `n`: the
character after it does not fit, and a character takes at most four bytes. -/
theorem LongestCut.near {s p : String} {n : Nat} (hp : LongestCut s n p)
    (hn : n < s.utf8ByteSize) : n ≤ p.utf8ByteSize + 3 := by
  obtain ⟨t, rfl⟩ := hp.lead
  have hfits := hp.fits
  rw [String.utf8ByteSize_append] at hn
  -- the rest is not empty, so it starts with a character `c`
  obtain ⟨c, rest, hct⟩ : ∃ c rest, t.toList = c :: rest := by
    cases htl : t.toList with
    | nil =>
      rw [String.toList_eq_nil_iff] at htl
      subst htl
      simp at hn
      omega
    | cons c rest => exact ⟨c, rest, rfl⟩
  have hsplit : (p ++ String.singleton c) ++ String.ofList rest = p ++ t := by
    rw [← String.toList_inj]
    simp [String.toList_append, hct]
  have hbounds := Char.utf8Size_le_four c
  have hpos := Char.utf8Size_pos c
  -- the prefix that also takes `c` is longer, so it does not fit
  have hlonger : ¬ (p ++ String.singleton c).utf8ByteSize ≤ n := by
    intro hq
    have := hp.longest _ _ hsplit hq
    rw [String.utf8ByteSize_append, String.utf8ByteSize_singleton] at this
    omega
  rw [String.utf8ByteSize_append, String.utf8ByteSize_singleton] at hlonger
  omega

/-! ## The search and the slice -/

/-- The search from offset `i` stops at a character boundary at or below `i`, with no boundary
between the two. -/
theorem boundaryAtOrBelow?_spec (s : String) (i : Nat) :
    ∃ j ≤ i, boundaryAtOrBelow? s i = some j ∧ isCharBoundary s j = true ∧
      ∀ k, j < k → k ≤ i → isCharBoundary s k = false := by
  induction i with
  | zero =>
    exact ⟨0, Nat.le_refl _, boundaryAtOrBelow?_of_isCharBoundary (isCharBoundary_zero s),
      isCharBoundary_zero s, fun k hk hk0 => absurd hk0 (by omega)⟩
  | succ i ih =>
    cases hb : isCharBoundary s (i + 1) with
    | true =>
      exact ⟨i + 1, Nat.le_refl _, boundaryAtOrBelow?_of_isCharBoundary hb, hb,
        fun k hk hki => absurd hki (by omega)⟩
    | false =>
      obtain ⟨j, hji, hsearch, hjb, hnone⟩ := ih
      refine ⟨j, by omega, by rw [boundaryAtOrBelow?_succ hb, hsearch], hjb, ?_⟩
      intro k hjk hki
      by_cases hk : k = i + 1
      · rw [hk, hb]
      · exact hnone k hjk (by omega)

/-- The search from `n` stops where the longest prefix within `n` bytes ends. -/
theorem boundaryAtOrBelow?_of_longestCut {s p : String} {n : Nat} (hp : LongestCut s n p) :
    boundaryAtOrBelow? s n = some p.utf8ByteSize := by
  obtain ⟨j, hjn, hsearch, hjb, hnone⟩ := boundaryAtOrBelow?_spec s n
  have hpb : isCharBoundary s p.utf8ByteSize = true := by
    obtain ⟨t, ht⟩ := hp.lead
    exact (isCharBoundary_iff_append s _).2 ⟨p, t, ht, rfl⟩
  -- the search's stop is the end of a prefix within `n` bytes, so no longer than `p`
  have hjp : j ≤ p.utf8ByteSize := by
    obtain ⟨q, t, hqt, rfl⟩ := (isCharBoundary_iff_append s j).1 hjb
    exact hp.longest q t hqt hjn
  -- and `p` ends on a boundary within `n` bytes, which the search passes by no boundary
  have hpj : ¬ j < p.utf8ByteSize := by
    intro hlt
    have := hnone _ hlt hp.fits
    rw [hpb] at this
    cases this
  rw [hsearch, Nat.le_antisymm hjp (Nat.le_of_not_lt hpj)]

/-- Slicing a text where one of its prefixes ends gives that prefix. -/
theorem sliceTo?_of_append {p t s : String} (h : p ++ t = s) :
    sliceTo? s p.utf8ByteSize = some p := by
  have hb : isCharBoundary s p.utf8ByteSize = true :=
    (isCharBoundary_iff_append s _).2 ⟨p, t, h, rfl⟩
  rw [sliceTo?_of_isCharBoundary hb, ← h, encode_append, List.take_left' (length_encode p),
    decodeLossy_encode]

theorem clip_of_longestCut {s p : String} {n : Nat} (hn : n < s.utf8ByteSize)
    (hp : LongestCut s n p) : clip s n = some (p ++ "...") := by
  obtain ⟨t, ht⟩ := hp.lead
  simp [clip, Nat.not_le.2 hn, boundaryAtOrBelow?_of_longestCut hp, sliceTo?_of_append ht]

/-! ## What the cut gives -/

/-- What cutting `s` to `n` bytes for a log line gives: `s` itself when it fits, else its longest
prefix within `n` bytes, which ends at most three bytes short of `n`, followed by `...`. -/
inductive Clipped (s : String) (n : Nat) : String → Prop where
  | whole : s.utf8ByteSize ≤ n → Clipped s n s
  | cut {p : String} : n < s.utf8ByteSize → LongestCut s n p → n ≤ p.utf8ByteSize + 3 →
      Clipped s n (p ++ "...")

/-- Cutting a text for a log line never fails, for every text and every budget: the search
reaches a boundary and the slice is taken there. The text comes back whole when it fits, and
otherwise its longest prefix within the budget that ends on a character boundary, followed by
`...`. -/
theorem clip_cuts_at_last_boundary (s : String) (n : Nat) :
    ∃ r, clip s n = some r ∧ Clipped s n r := by
  by_cases hfits : s.utf8ByteSize ≤ n
  · exact ⟨s, clip_fits s n hfits, .whole hfits⟩
  · have hn : n < s.utf8ByteSize := Nat.lt_of_not_le hfits
    have hp := longestCut_takeBytes s n
    exact ⟨_, clip_of_longestCut hn hp, .cut hn hp (hp.near hn)⟩

example : clip "aé" 2 = some "a..." := by decide +kernel

example : clip "😀x" 3 = some "..." := by decide +kernel

end BookRelay.Text
