import BookRelay.Proofs.JsonRoundTrip
import BookRelay.Json.Record

/-!
# The form of what the reader gives

Whatever the reader accepts, the value it gives is already in its own form: every object's
members are sorted by key with no key twice, so `Value.normal` leaves it as it is, and every
integer in it is one the reader keeps exact (a non-negative one within 64 bits, a negative one
down to `-2^63`). So a value the reader gave, with no double in it, has exact numbers only, and
its text reads back as itself.

The members are sorted because `Value.insertField` keeps a sorted list sorted, and a sorted list
goes through `Value.ofMembers` unchanged. The rest is an induction on the reader's fuel, one
step of `readValue`, `readItems` or `readMembers` at a time.
-/

namespace BookRelay.Json

/-! ## Sorted members -/

def KeysSorted (fields : List (String × Value)) : Prop :=
  fields.Pairwise fun a b => a.1 < b.1

/-- Two keys, neither before the other nor equal: the second is before the first. -/
theorem String.lt_of_not_lt_of_ne {a b : String} (h : ¬ a < b) (hne : a ≠ b) : b < a :=
  String.not_le.mp fun hab => hne (String.le_antisymm hab (String.not_lt.mp h))

namespace Value

/-- A key after every key of a list goes at its end. -/
theorem insertField_of_lt {key : String} {v : Value} {acc : List (String × Value)}
    (h : ∀ kv ∈ acc, kv.1 < key) : insertField key v acc = acc ++ [(key, v)] := by
  induction acc with
  | nil => rfl
  | cons kw rest ih =>
    obtain ⟨k, w⟩ := kw
    have hk : k < key := h (k, w) (by simp)
    have hnot : ¬ key < k := String.lt_asymm hk
    have hne : (key == k) = false := by simpa using (String.ne_of_lt hk).symm
    simp only [insertField, hnot, if_false, hne, Bool.false_eq_true, List.cons_append]
    rw [ih fun kv hkv => h kv (by simp [hkv])]

theorem mem_insertField {key : String} {v : Value} {acc : List (String × Value)}
    {kv : String × Value} (h : kv ∈ insertField key v acc) : kv = (key, v) ∨ kv ∈ acc := by
  induction acc with
  | nil => simpa [insertField] using h
  | cons kw rest ih =>
    obtain ⟨k, w⟩ := kw
    simp only [insertField] at h
    split at h
    · exact List.mem_cons.mp h
    split at h
    · rcases List.mem_cons.mp h with h | h
      · exact .inl h
      · exact .inr (List.mem_cons_of_mem _ h)
    · rcases List.mem_cons.mp h with h | h
      · exact .inr (List.mem_cons.mpr (.inl h))
      · rcases ih h with h | h
        · exact .inl h
        · exact .inr (List.mem_cons_of_mem _ h)

/-- Putting a member in keeps the keys sorted. -/
theorem keysSorted_insertField {key : String} {v : Value} {acc : List (String × Value)}
    (h : KeysSorted acc) : KeysSorted (insertField key v acc) := by
  induction acc with
  | nil => simp [KeysSorted, insertField]
  | cons kw rest ih =>
    obtain ⟨k, w⟩ := kw
    have hhead : ∀ kv ∈ rest, k < kv.1 := (List.pairwise_cons.mp h).1
    have hrest : KeysSorted rest := (List.pairwise_cons.mp h).2
    simp only [insertField]
    split
    · -- the new key goes first, before `k` and so before the rest
      rename_i hlt
      refine List.pairwise_cons.mpr ⟨fun kv hkv => ?_, h⟩
      rcases List.mem_cons.mp hkv with rfl | hkv
      · exact hlt
      · exact String.lt_trans hlt (hhead kv hkv)
    split
    · -- the new member replaces the one with its key
      rename_i _ heq
      have hk : key = k := by simpa using heq
      subst hk
      exact List.pairwise_cons.mpr ⟨hhead, hrest⟩
    · -- `k` stays first, before the new key and the rest
      rename_i hlt heq
      have hk : k < key := String.lt_of_not_lt_of_ne hlt (by simpa using heq)
      refine List.pairwise_cons.mpr ⟨fun kv hkv => ?_, ih hrest⟩
      rcases mem_insertField hkv with rfl | hkv
      · exact hk
      · exact hhead kv hkv

/-- Members put in one at a time, as `ofMembers` does. -/
theorem keysSorted_foldl (ms : List (String × Value)) {acc : List (String × Value)}
    (h : KeysSorted acc) :
    KeysSorted (ms.foldl (fun acc kv => insertField kv.1 kv.2 acc) acc) := by
  induction ms generalizing acc with
  | nil => exact h
  | cons x ms ih => exact ih (keysSorted_insertField h)

theorem mem_foldl_insertField {ms acc : List (String × Value)} {kv : String × Value}
    (h : kv ∈ ms.foldl (fun acc kv => insertField kv.1 kv.2 acc) acc) : kv ∈ acc ∨ kv ∈ ms := by
  induction ms generalizing acc with
  | nil => exact .inl h
  | cons x ms ih =>
    rcases ih h with h | h
    · rcases mem_insertField h with rfl | h
      · exact .inr List.mem_cons_self
      · exact .inl h
    · exact .inr (List.mem_cons_of_mem _ h)

/-- Members that come in sorted are put in at the end each time. -/
theorem foldl_insertField_of_sorted {ms acc : List (String × Value)} (h : KeysSorted (acc ++ ms)) :
    ms.foldl (fun acc kv => insertField kv.1 kv.2 acc) acc = acc ++ ms := by
  induction ms generalizing acc with
  | nil => simp
  | cons x ms ih =>
    have hbefore : ∀ kv ∈ acc, kv.1 < x.1 :=
      fun kv hkv => (List.pairwise_append.mp h).2.2 kv hkv x List.mem_cons_self
    rw [List.foldl_cons, insertField_of_lt hbefore, ih (by simpa using h)]
    simp

/-- Sorted members make an object as they are. -/
theorem ofMembers_of_sorted {fields : List (String × Value)} (h : KeysSorted fields) :
    ofMembers fields = .object fields := by
  rw [ofMembers, @foldl_insertField_of_sorted fields [] (by simpa using h), List.nil_append]

end Value

theorem normalItems_of_normal {vs : List Value} (h : ∀ v ∈ vs, v.normal = v) :
    normalItems vs = vs := by
  induction vs with
  | nil => rfl
  | cons v vs ih =>
    rw [normalItems, h v List.mem_cons_self, ih fun w hw => h w (List.mem_cons_of_mem _ hw)]

theorem normalFields_of_normal {fs : List (String × Value)} (h : ∀ kv ∈ fs, kv.2.normal = kv.2) :
    normalFields fs = fs := by
  induction fs with
  | nil => rfl
  | cons kv fs ih =>
    obtain ⟨k, v⟩ := kv
    rw [normalFields, h (k, v) List.mem_cons_self, ih fun w hw => h w (List.mem_cons_of_mem _ hw)]

/-- The object the reader builds from members in its form is in its form. -/
theorem normal_ofMembers {ms : List (String × Value)} (h : ∀ kv ∈ ms, kv.2.normal = kv.2) :
    (Value.ofMembers ms).normal = Value.ofMembers ms := by
  have hsorted := @Value.keysSorted_foldl ms [] List.Pairwise.nil
  have hvalues : ∀ kv ∈ ms.foldl (fun acc kv => Value.insertField kv.1 kv.2 acc) [],
      kv.2.normal = kv.2 := fun kv hkv =>
    (Value.mem_foldl_insertField hkv).elim (fun h => absurd h List.not_mem_nil) (h kv)
  rw [Value.ofMembers, Value.normal, normalFields_of_normal hvalues, Value.ofMembers_of_sorted hsorted]

/-! ## Numbers as the reader makes them -/

/-- Whether a number is an integer rather than a double. -/
def Number.isInteger : Number → Bool
  | .float _ => false
  | _ => true

/-- Whether a number is as the reader makes it: a double, or an integer it keeps exact. -/
def Number.fits : Number → Bool
  | .float _ => true
  | n => n.exact

theorem Number.exact_of_fits {n : Number} (h : n.fits = true) (hi : n.isInteger = true) :
    n.exact = true := by
  cases n <;> simp_all [Number.fits, Number.isInteger]

theorem map_eq_ok {α β : Type} {f : α → β} {r : Except ReadFailure α} {y : β}
    (h : r.map f = .ok y) : ∃ x, r = .ok x ∧ f x = y := by
  cases r with
  | error e => simp [Except.map] at h
  | ok x => exact ⟨x, rfl, by simpa [Except.map] using h⟩

/-- A double read by the fraction or exponent readers fits. -/
theorem fits_of_float {r : Except ReadFailure (Float × Cursor)} {n : Number} {c' : Cursor}
    (h : r.map (fun x => (Number.float x.1, x.2)) = .ok (n, c')) : n.fits = true := by
  obtain ⟨_, -, hy⟩ := map_eq_ok h
  cases hy
  rfl

/-- A number ended at the cursor fits when its digits did. -/
theorem finishNumber_fits {positive : Bool} {sig : Nat} {c c' : Cursor} {n : Number}
    (h : finishNumber positive sig c = .ok (n, c')) (hsig : sig ≤ u64Max) : n.fits = true := by
  simp only [finishNumber] at h
  split at h
  · exact fits_of_float h
  split at h
  · exact fits_of_float h
  split at h
  · cases h
    simpa [Number.fits, Number.exact] using hsig
  split at h
  · cases h
    rfl
  split at h
  · -- a negative integer: nonzero, and at most `2^63` in size
    rename_i hzero hbound
    cases h
    have hz : sig ≠ 0 := by simpa using hzero
    have h63 : (Nat.pow 2 63 : Int) = 9223372036854775808 := by decide
    have h63' : Nat.pow 2 63 = 9223372036854775808 := by decide
    simp only [Number.fits, Number.exact, decide_eq_true_eq]
    omega
  · cases h
    rfl

/-- Integer digits accumulate only while the value stays within 64 bits. -/
theorem integerDigits_fits {positive : Bool} {sig : Nat} {c c' : Cursor} {n : Number}
    (h : integerDigits positive sig c = .ok (n, c')) (hsig : sig ≤ u64Max) : n.fits = true := by
  obtain ⟨rest, i⟩ := c
  induction rest generalizing sig i with
  | nil => exact finishNumber_fits (by simpa [integerDigits] using h) hsig
  | cons b rest ih =>
    simp only [integerDigits] at h
    split at h
    · split at h
      · exact fits_of_float h
      · rename_i hdigit hover
        have hd : b.toNat - 48 < 10 := by
          simp [isDigit, UInt8.le_iff_toNat_le] at hdigit
          omega
        have hfit : sig * 10 + (b.toNat - 48) ≤ u64Max := by
          have := mt (overflows_iff sig (b.toNat - 48) u64Max hd).mpr (by simpa using hover)
          omega
        exact ih hfit (i + 1) h
    · exact finishNumber_fits h hsig

/-- Every number the reader reads fits. -/
theorem readNumber_fits {positive : Bool} {c c' : Cursor} {n : Number}
    (h : readNumber positive c = .ok (n, c')) : n.fits = true := by
  have hmax : 9 ≤ u64Max := by decide
  simp only [readNumber] at h
  split at h
  · simp [failAt] at h
  split at h
  · split at h
    · simp [failAt] at h
    · exact finishNumber_fits h (by omega)
  split at h
  · rename_i b _ _ _ hdigit
    have : b.toNat ≤ 57 := by simp [isDigit, UInt8.le_iff_toNat_le] at hdigit; omega
    exact integerDigits_fits h (by omega)
  · simp [failAt] at h

/-! ## Values as the reader gives them -/

theorem everyItemNumber_of_forall {p : Number → Bool} {vs : List Value}
    (h : ∀ v ∈ vs, v.everyNumber p = true) : everyItemNumber p vs = true := by
  induction vs with
  | nil => rfl
  | cons v vs ih =>
    simp only [everyItemNumber, Bool.and_eq_true]
    exact ⟨h v List.mem_cons_self, ih fun w hw => h w (List.mem_cons_of_mem _ hw)⟩

theorem everyFieldNumber_of_forall {p : Number → Bool} {fs : List (String × Value)}
    (h : ∀ kv ∈ fs, kv.2.everyNumber p = true) : everyFieldNumber p fs = true := by
  induction fs with
  | nil => rfl
  | cons kv fs ih =>
    obtain ⟨k, v⟩ := kv
    simp only [everyFieldNumber, Bool.and_eq_true]
    exact ⟨h (k, v) List.mem_cons_self, ih fun w hw => h w (List.mem_cons_of_mem _ hw)⟩

/-- A value in the reader's form: its objects as `ofMembers` builds them, its numbers as
`readNumber` makes them. -/
structure ReaderForm (v : Value) : Prop where
  normal : v.normal = v
  fits : v.everyNumber Number.fits = true

namespace ReaderForm

theorem null : ReaderForm .null := ⟨by simp [Value.normal], by simp [Value.everyNumber]⟩

theorem bool (b : Bool) : ReaderForm (.bool b) := ⟨by simp [Value.normal], by simp [Value.everyNumber]⟩

theorem string (s : String) : ReaderForm (.string s) :=
  ⟨by simp [Value.normal], by simp [Value.everyNumber]⟩

theorem number {n : Number} (h : n.fits = true) : ReaderForm (.number n) :=
  ⟨by simp [Value.normal], by simpa [Value.everyNumber] using h⟩

theorem array {items : List Value} (h : ∀ v ∈ items, ReaderForm v) : ReaderForm (.array items) :=
  ⟨by rw [Value.normal, normalItems_of_normal fun v hv => (h v hv).normal],
    by rw [Value.everyNumber]; exact everyItemNumber_of_forall fun v hv => (h v hv).fits⟩

theorem ofMembers {ms : List (String × Value)} (h : ∀ kv ∈ ms, ReaderForm kv.2) :
    ReaderForm (Value.ofMembers ms) := by
  refine ⟨normal_ofMembers fun kv hkv => (h kv hkv).normal, ?_⟩
  rw [Value.ofMembers, Value.everyNumber]
  refine everyFieldNumber_of_forall fun kv hkv => ?_
  rcases Value.mem_foldl_insertField hkv with hkv | hkv
  · exact absurd hkv List.not_mem_nil
  · exact (h kv hkv).fits

end ReaderForm

/-! ## One step of the reader keeps the form -/

/-- A value read by a scalar reader and a map is in the reader's form when every result of the
scalar reader maps to one. -/
theorem ReaderForm.of_map {α : Type} {r : Except ReadFailure α} {g : α → Value × Cursor}
    {v : Value} {c' : Cursor} (h : r.map g = .ok (v, c'))
    (hg : ∀ x, r = .ok x → ReaderForm (g x).1) : ReaderForm v := by
  obtain ⟨x, hx, hy⟩ := map_eq_ok h
  have hform := hg x hx
  rw [hy] at hform
  exact hform

theorem readValue_form {d f : Nat} {c c' : Cursor} {v : Value}
    (h : readValue d (f + 1) c = .ok (v, c'))
    (hitems : ∀ c₀, readItems (d - 1) f true [] c₀ = .ok (v, c') → ReaderForm v)
    (hmembers : ∀ c₀, readMembers (d - 1) f true [] c₀ = .ok (v, c') → ReaderForm v) :
    ReaderForm v := by
  simp only [readValue] at h
  generalize c.skipBlanks = c₁ at h
  obtain ⟨rest, i⟩ := c₁
  cases rest with
  | nil => simp [failAt] at h
  | cons b tl =>
  -- one case per first byte, in the reader's order; `by_cases` and `rw` rather than `split`,
  -- which is slow on a chain this long
  simp only at h
  by_cases hnull : (b == 110) = true
  · rw [if_pos hnull] at h
    exact ReaderForm.of_map h fun _ _ => .null
  rw [if_neg hnull] at h
  by_cases htrue : (b == 116) = true
  · rw [if_pos htrue] at h
    exact ReaderForm.of_map h fun _ _ => .bool true
  rw [if_neg htrue] at h
  by_cases hfalse : (b == 102) = true
  · rw [if_pos hfalse] at h
    exact ReaderForm.of_map h fun _ _ => .bool false
  rw [if_neg hfalse] at h
  by_cases hminus : (b == 45) = true
  · rw [if_pos hminus] at h
    exact ReaderForm.of_map h fun _ hn => .number (readNumber_fits hn)
  rw [if_neg hminus] at h
  by_cases hdigit : isDigit b = true
  · rw [if_pos hdigit] at h
    exact ReaderForm.of_map h fun _ hn => .number (readNumber_fits hn)
  rw [if_neg hdigit] at h
  by_cases hquote : (b == 34) = true
  · rw [if_pos hquote] at h
    exact ReaderForm.of_map h fun _ _ => .string _
  rw [if_neg hquote] at h
  by_cases hbracket : (b == 91) = true
  · rw [if_pos hbracket] at h
    split at h
    · simp [failAt] at h
    · exact hitems _ h
  rw [if_neg hbracket] at h
  by_cases hbrace : (b == 123) = true
  · rw [if_pos hbrace] at h
    split at h
    · simp [failAt] at h
    · exact hmembers _ h
  rw [if_neg hbrace] at h
  simp [failAt] at h

theorem readItems_form {d f : Nat} {first : Bool} {acc : List Value} {c c' : Cursor} {v : Value}
    (h : readItems d (f + 1) first acc c = .ok (v, c')) (hacc : ∀ x ∈ acc, ReaderForm x)
    (hvalue : ∀ c₀ x c₁, readValue d f c₀ = .ok (x, c₁) → ReaderForm x)
    (hitems : ∀ acc' c₀, (∀ x ∈ acc', ReaderForm x) →
      readItems d f false acc' c₀ = .ok (v, c') → ReaderForm v) :
    ReaderForm v := by
  -- the next item joins those read so far, which are in the reader's form
  have hnext : ∀ c₀ x c₁, readValue d f c₀ = .ok (x, c₁) → ∀ x' ∈ x :: acc, ReaderForm x' :=
    fun c₀ x c₁ hx x' hx' => (List.mem_cons.mp hx').elim (· ▸ hvalue c₀ x c₁ hx) (hacc x')
  simp only [readItems] at h
  split at h
  · simp [failAt] at h
  split at h
  · cases h
    exact .array fun x hx => hacc x (List.mem_reverse.mp hx)
  split at h
  · split at h
    · cases h
    · rename_i hx
      exact hitems _ _ (hnext _ _ _ hx) h
  split at h
  · split at h
    · simp [failAt] at h
    · simp [failAt] at h
    · split at h
      · cases h
      · rename_i hx
        exact hitems _ _ (hnext _ _ _ hx) h
  · simp [failAt] at h

theorem readMembers_form {d f : Nat} {first : Bool} {acc : List (String × Value)} {c c' : Cursor}
    {v : Value} (h : readMembers d (f + 1) first acc c = .ok (v, c'))
    (hacc : ∀ kv ∈ acc, ReaderForm kv.2)
    (hvalue : ∀ c₀ x c₁, readValue d f c₀ = .ok (x, c₁) → ReaderForm x)
    (hmembers : ∀ acc' c₀, (∀ kv ∈ acc', ReaderForm kv.2) →
      readMembers d f false acc' c₀ = .ok (v, c') → ReaderForm v) :
    ReaderForm v := by
  -- the next member joins those read so far, which are in the reader's form
  have hnext : ∀ c₀ key x c₁, readValue d f c₀ = .ok (x, c₁) →
      ∀ kv ∈ (key, x) :: acc, ReaderForm kv.2 :=
    fun c₀ key x c₁ hx kv hkv => (List.mem_cons.mp hkv).elim (· ▸ hvalue c₀ x c₁ hx) (hacc kv)
  simp only [readMembers] at h
  split at h
  · cases h
  split at h
  · simp [failAt] at h
  split at h
  · split at h
    · simp [failAt] at h
    · cases h
      exact .ofMembers fun kv hkv => hacc kv (List.mem_reverse.mp hkv)
  split at h
  · simp [failAt] at h
  split at h
  · cases h
  split at h
  · simp [failAt] at h
  · split at h
    · cases h
    · rename_i hx
      exact hmembers _ _ (hnext _ _ _ _ hx) h
  · simp [failAt] at h

/-! ## Every run of the reader -/

/-- Whatever the reader is given, the values it gives are in its form. The induction is on the
fuel, which every call of `readValue`, `readItems` and `readMembers` lowers by one. -/
theorem reader_form (f : Nat) :
    (∀ d c v c', readValue d f c = .ok (v, c') → ReaderForm v) ∧
    (∀ d first (acc : List Value) c v c', (∀ x ∈ acc, ReaderForm x) →
      readItems d f first acc c = .ok (v, c') → ReaderForm v) ∧
    (∀ d first (acc : List (String × Value)) c v c', (∀ kv ∈ acc, ReaderForm kv.2) →
      readMembers d f first acc c = .ok (v, c') → ReaderForm v) := by
  induction f with
  | zero =>
    refine ⟨fun d c v c' h => ?_, fun d first acc c v c' _ h => ?_, fun d first acc c v c' _ h => ?_⟩
    · simp [readValue, failAt] at h
    · simp [readItems, failAt] at h
    · simp [readMembers, failAt] at h
  | succ f ih =>
    obtain ⟨hvalue, hitems, hmembers⟩ := ih
    refine ⟨fun d c v c' h => ?_, fun d first acc c v c' hacc h => ?_,
      fun d first acc c v c' hacc h => ?_⟩
    · exact readValue_form h (fun c₀ => hitems _ _ _ _ _ _ (by simp))
        (fun c₀ => hmembers _ _ _ _ _ _ (by simp))
    · exact readItems_form h hacc (hvalue d) (fun acc' c₀ hacc' => hitems d false acc' c₀ v c' hacc')
    · exact readMembers_form h hacc (hvalue d)
        (fun acc' c₀ hacc' => hmembers d false acc' c₀ v c' hacc')

/-- A value parsed from any bytes is in the reader's form. -/
theorem parseBytes_form {bs : List UInt8} {v : Value} (h : parseBytes bs = .ok v) : ReaderForm v := by
  simp only [parseBytes, readDocument] at h
  split at h
  · simp at h
  · rename_i hread
    split at h
    · simp only [Json.mapError_ok, Except.ok.injEq] at h
      exact h ▸ (reader_form _).1 _ _ _ _ hread
    · simp [failAt] at h

/-- A value parsed from any text is in the reader's form. -/
theorem parse_form {s : String} {v : Value} (h : parse s = .ok v) : ReaderForm v :=
  parseBytes_form h

/-! ## A record read straight from a document -/

/-- The members of a record read from an object are in the reader's form, each read in full
by `readValue`. The induction is on the fuel. -/
theorem recordMembers_form (fields : List Decode.Field) (f : Nat) :
    ∀ d first (acc : List (String × Value)) c ms c', (∀ kv ∈ acc, ReaderForm kv.2) →
      Decode.recordMembers fields d f first acc c = some (ms, c') → ∀ kv ∈ ms, ReaderForm kv.2 := by
  induction f with
  | zero =>
    intro d first acc c ms c' _ h
    simp [Decode.recordMembers] at h
  | succ f ih =>
    intro d first acc c ms c' hacc h
    simp only [Decode.recordMembers] at h
    split at h
    · cases h
    · cases h
      exact fun kv hkv => hacc kv (List.mem_reverse.mp hkv)
    · split at h
      · split at h
        · cases h
        · split at h
          · split at h
            · split at h
              · cases h
              · split at h
                · cases h
                · rename_i key _ _ _ x c₁ hx
                  refine ih _ _ _ _ _ _ (fun kv hkv => ?_) h
                  rcases List.mem_cons.mp hkv with rfl | hkv
                  · exact (reader_form f).1 _ _ _ _ hx
                  · exact hacc kv hkv
            · obtain ⟨c₁, -, h⟩ := Option.bind_eq_some_iff.1 h
              exact ih _ _ _ _ _ _ hacc h
          · cases h
      · cases h

/-- A record read straight from any bytes is in the reader's form. -/
theorem readRecord_form {fields : List Decode.Field} {bs : List UInt8} {v : Value}
    (h : Decode.readRecord fields bs = some v) : ReaderForm v := by
  simp only [Decode.readRecord] at h
  obtain ⟨⟨w, c⟩, hread, hv⟩ := Option.bind_eq_some_iff.1 h
  have hw : w = v := by
    dsimp only at hv
    split at hv
    · exact Option.some.inj hv
    · cases hv
  subst hw
  -- an array is read as a whole value, an object member by member
  split at hread
  · cases hr : readValue 128 (3 * bs.length + 3) (⟨bs, 0⟩ : Cursor).skipBlanks with
    | error _ => simp [hr, Except.toOption] at hread
    | ok r =>
      simp only [hr, Except.toOption, Option.some.injEq] at hread
      subst hread
      exact (reader_form _).1 _ _ _ _ hr
  · obtain ⟨⟨ms, c'⟩, hms, hr⟩ := Option.map_eq_some_iff.1 hread
    cases hr
    exact .ofMembers (recordMembers_form fields _ _ _ _ _ _ _ (by simp) hms)
  · cases hread

mutual
/-- Two tests that every number passes together imply a third. -/
theorem Value.everyNumber_of_both {p q r : Number → Bool}
    (hpqr : ∀ n, p n = true → q n = true → r n = true) :
    ∀ v : Value, v.everyNumber p = true → v.everyNumber q = true → v.everyNumber r = true
  | .null, _, _ | .bool _, _, _ | .string _, _, _ => by simp [Value.everyNumber]
  | .number n, hp, hq => by
    simp only [Value.everyNumber] at hp hq ⊢
    exact hpqr n hp hq
  | .array items, hp, hq => by
    simp only [Value.everyNumber] at hp hq ⊢
    exact everyItemNumber_of_both hpqr items hp hq
  | .object fields, hp, hq => by
    simp only [Value.everyNumber] at hp hq ⊢
    exact everyFieldNumber_of_both hpqr fields hp hq

theorem everyItemNumber_of_both {p q r : Number → Bool}
    (hpqr : ∀ n, p n = true → q n = true → r n = true) :
    ∀ vs : List Value, everyItemNumber p vs = true → everyItemNumber q vs = true →
      everyItemNumber r vs = true
  | [], _, _ => rfl
  | v :: vs, hp, hq => by
    simp only [everyItemNumber, Bool.and_eq_true] at hp hq ⊢
    exact ⟨Value.everyNumber_of_both hpqr v hp.1 hq.1, everyItemNumber_of_both hpqr vs hp.2 hq.2⟩

theorem everyFieldNumber_of_both {p q r : Number → Bool}
    (hpqr : ∀ n, p n = true → q n = true → r n = true) :
    ∀ fs : List (String × Value), everyFieldNumber p fs = true → everyFieldNumber q fs = true →
      everyFieldNumber r fs = true
  | [], _, _ => rfl
  | (_, v) :: fs, hp, hq => by
    simp only [everyFieldNumber, Bool.and_eq_true] at hp hq ⊢
    exact ⟨Value.everyNumber_of_both hpqr v hp.1 hq.1, everyFieldNumber_of_both hpqr fs hp.2 hq.2⟩
end

/-- A value the reader gave with no double in it has exact numbers only. -/
theorem ReaderForm.exact {v : Value} (h : ReaderForm v)
    (hint : v.everyNumber Number.isInteger = true) : v.everyNumber Number.exact = true :=
  Value.everyNumber_of_both (fun _ => Number.exact_of_fits) v h.fits hint

/-- A value parsed from text, with no double in it and nesting at most 127 deep, is parsed back
from its own text. -/
theorem parse_render_of_parse {s : String} {v : Value} (h : parse s = .ok v)
    (hint : v.everyNumber Number.isInteger = true) (hd : v.depth < 128) :
    parse v.render = .ok v := by
  have hform := parse_form h
  rw [parse_render (hform.exact hint) hd, hform.normal]

end BookRelay.Json
