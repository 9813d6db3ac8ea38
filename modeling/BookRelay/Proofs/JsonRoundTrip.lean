import BookRelay.Proofs.JsonText

/-!
# Reading back what is printed

The reader takes the compact text of a value back to the value, with its objects in the
reader's own form (members sorted by key, `Value.normal`), as long as every number in it is an
integer the reader keeps exact and arrays and objects nest less deep than the reader allows.
When they nest deeper, the reader refuses the text with its recursion limit: which of the two
happens depends only on the depth.

The proof follows the value: one case per kind of value, and for arrays and objects a walk over
the items after the first, each behind its comma (`itemsAfter`, `fieldsAfter`). The fuel the
reader is given is measured by `Value.size`, which the text's length bounds.
-/

namespace BookRelay.Json

open BookRelay.Text

/-! ## Depth, size and the reader's form of a value -/

mutual
/-- How deep arrays and objects nest: 0 for a scalar, one more than the deepest member for an
array or an object. -/
def Value.depth : Value → Nat
  | .array items => itemsDepth items + 1
  | .object fields => fieldsDepth fields + 1
  | _ => 0

def itemsDepth : List Value → Nat
  | [] => 0
  | v :: vs => max v.depth (itemsDepth vs)

def fieldsDepth : List (String × Value) → Nat
  | [] => 0
  | (_, v) :: fs => max v.depth (fieldsDepth fs)
end

mutual
/-- Whether every number in a value passes a test. -/
def Value.everyNumber (p : Number → Bool) : Value → Bool
  | .number n => p n
  | .array items => everyItemNumber p items
  | .object fields => everyFieldNumber p fields
  | _ => true

/-- Whether every number in the items passes a test. -/
def everyItemNumber (p : Number → Bool) : List Value → Bool
  | [] => true
  | v :: vs => v.everyNumber p && everyItemNumber p vs

/-- Whether every number in the member values passes a test. -/
def everyFieldNumber (p : Number → Bool) : List (String × Value) → Bool
  | [] => true
  | (_, v) :: fs => v.everyNumber p && everyFieldNumber p fs
end

mutual
/-- A bound on the reader's steps for a value: one per scalar, and per array or object one for
itself, one per member, and one for its end. -/
def Value.size : Value → Nat
  | .array items => itemsSize items + 1
  | .object fields => fieldsSize fields + 1
  | _ => 1

def itemsSize : List Value → Nat
  | [] => 1
  | v :: vs => v.size + itemsSize vs

def fieldsSize : List (String × Value) → Nat
  | [] => 1
  | (_, v) :: fs => v.size + fieldsSize fs
end

mutual
/-- The value as the reader builds it: every object's members sorted by key, a later member
replacing an earlier one with the same key. -/
def Value.normal : Value → Value
  | .array items => .array (normalItems items)
  | .object fields => Value.ofMembers (normalFields fields)
  | v => v

/-- The items in the reader's form. -/
def normalItems : List Value → List Value
  | [] => []
  | v :: vs => v.normal :: normalItems vs

/-- The members in reading order, their values in the reader's form. -/
def normalFields : List (String × Value) → List (String × Value)
  | [] => []
  | (k, v) :: fs => (k, v.normal) :: normalFields fs
end

/-! ## The text of arrays and objects -/

/-- The text of items after the first, each behind its comma. -/
def itemsAfter : List Value → List UInt8
  | [] => []
  | v :: vs => 44 :: (Utf8.encode v.render ++ itemsAfter vs)

/-- The text of one member: its quoted key, a colon, its value. -/
def memberBytes (k : String) (v : Value) : List UInt8 :=
  Utf8.encode (quote k) ++ 58 :: Utf8.encode v.render

/-- The text of members after the first, each behind its comma. -/
def fieldsAfter : List (String × Value) → List UInt8
  | [] => []
  | (k, v) :: fs => 44 :: (memberBytes k v ++ fieldsAfter fs)

theorem encode_renderItems (v : Value) (vs : List Value) :
    Utf8.encode (renderItems (v :: vs)) = Utf8.encode v.render ++ itemsAfter vs := by
  induction vs generalizing v with
  | nil => simp [renderItems, itemsAfter]
  | cons w ws ih =>
    simp only [renderItems, Utf8.encode_append, ih, encode_comma, itemsAfter]
    simp

theorem encode_renderFields (k : String) (v : Value) (fs : List (String × Value)) :
    Utf8.encode (renderFields ((k, v) :: fs)) = memberBytes k v ++ fieldsAfter fs := by
  induction fs generalizing k v with
  | nil => simp [renderFields, fieldsAfter, memberBytes]
  | cons kw ws ih =>
    obtain ⟨k', w⟩ := kw
    simp only [renderFields, Utf8.encode_append, ih, encode_comma, encode_colon, fieldsAfter,
      memberBytes]
    simp

theorem encode_render_array (items : List Value) :
    Utf8.encode (Value.render (.array items)) = 91 :: (Utf8.encode (renderItems items) ++ [93]) := by
  simp [Value.render]

theorem encode_render_object (fields : List (String × Value)) :
    Utf8.encode (Value.render (.object fields)) =
      123 :: (Utf8.encode (renderFields fields) ++ [125]) := by
  simp [Value.render]

/-- Text that starts as a value does: with a byte that is no blank and closes nothing. -/
def StartsValue (bs : List UInt8) : Prop := ∃ b tl, bs = b :: tl ∧ 33 ≤ b.toNat ∧ b ≠ 93 ∧ b ≠ 125

theorem StartsValue.append {bs : List UInt8} (h : StartsValue bs) (r : List UInt8) :
    StartsValue (bs ++ r) := by
  obtain ⟨b, tl, rfl, hb⟩ := h
  exact ⟨b, tl ++ r, rfl, hb⟩

/-- The text of a value with exact numbers starts as a value does. -/
theorem render_head {v : Value} (hv : v.everyNumber Number.exact = true) : StartsValue (Utf8.encode v.render) := by
  cases v with
  | null => exact ⟨110, [117, 108, 108], encode_render_null, by decide, by decide, by decide⟩
  | bool b =>
    cases b with
    | true => exact ⟨116, [114, 117, 101], encode_render_true, by decide, by decide, by decide⟩
    | false => exact ⟨102, [97, 108, 115, 101], encode_render_false, by decide, by decide, by decide⟩
  | number n =>
    cases n with
    | nat m =>
      obtain ⟨b, tl, hbytes, -, hlo, hhi⟩ := encode_toString_nat m
      refine ⟨b, tl, hbytes, by omega, fun h => ?_, fun h => ?_⟩ <;> subst h <;> simp at hhi
    | negative j =>
      have hj : j < 0 := by simp [Value.everyNumber, Number.exact] at hv; omega
      refine ⟨45, Utf8.encode (toString j.natAbs), ?_, by decide, by decide, by decide⟩
      simp only [Value.render, Number.text, toString_of_neg hj, Utf8.encode_append, encode_minus,
        List.singleton_append]
    | float x => simp [Value.everyNumber, Number.exact] at hv
  | string s =>
    exact ⟨34, s.toList.flatMap escapedBytes ++ [34], by simp only [Value.render, encode_quote],
      by decide, by decide, by decide⟩
  | array items => exact ⟨91, _, encode_render_array items, by decide, by decide, by decide⟩
  | object fields => exact ⟨123, _, encode_render_object fields, by decide, by decide, by decide⟩

/-! ## What a reader gives, by depth -/

/-- What a reader gives on the text of something nested `n` deep when it may open `d` more
levels: `x`, with the cursor `after` the text, when it fits, and a refusal for the recursion
limit when it does not. -/
structure ReadsBack {α : Type} (d n : Nat) (x : α) (after : Cursor) (r : Read α) : Prop where
  fits : n < d → r = .ok (x, after)
  refused : d ≤ n → ∃ offset, r = failAt .recursionLimit offset

namespace ReadsBack

variable {α β : Type} {d n : Nat} {x : α} {after : Cursor}

theorem scalar {r : Read α} (hd : 0 < d) (h : r = .ok (x, after)) : ReadsBack d 0 x after r :=
  ⟨fun _ => h, fun h0 => absurd h0 (by omega)⟩

/-- Reading one part and then the rest: the nesting of the whole is the deeper of the two. -/
theorem bind {n₁ n₂ : Nat} {x₁ : α} {c₁ : Cursor} {y : β} {r : Read α}
    {k : α → Cursor → Read β} (h₁ : ReadsBack d n₁ x₁ c₁ r) (h₂ : ReadsBack d n₂ y after (k x₁ c₁)) :
    ReadsBack d (max n₁ n₂) y after (r.bind fun p => k p.1 p.2) := by
  constructor
  · intro hlt
    rw [h₁.fits (by omega)]
    exact h₂.fits (by omega)
  · intro hle
    by_cases hfirst : n₁ < d
    · rw [h₁.fits hfirst]
      exact h₂.refused (by omega)
    · obtain ⟨offset, hr⟩ := h₁.refused (by omega)
      exact ⟨offset, by rw [hr]; rfl⟩

/-- Opening an array or an object takes one level. -/
theorem nest {r : Read α} (h : ReadsBack (d - 1) n x after r) (hd : 1 < d) :
    ReadsBack d (n + 1) x after r :=
  ⟨fun hlt => h.fits (by omega), fun hle => h.refused (by omega)⟩

theorem congr {n' : Nat} {x' : α} {after' : Cursor} {r : Read α} (h : ReadsBack d n x after r)
    (hn : n = n') (hx : x = x') (hafter : after = after') : ReadsBack d n' x' after' r := by
  subst hn hx hafter
  exact h

theorem opened {r : Read α} (hd : d ≤ 1) (hr : ∃ offset, r = failAt .recursionLimit offset) :
    ReadsBack d (n + 1) x after r :=
  ⟨fun hlt => absurd hlt (by omega), fun _ => hr⟩

/-- Opening an array or an object: refused at the last level, read one level down otherwise. -/
theorem container {r : Read α} (offset : Nat) (h : 1 < d → ReadsBack (d - 1) n x after r) :
    ReadsBack d (n + 1) x after (if d ≤ 1 then failAt .recursionLimit offset else r) := by
  by_cases hd1 : d ≤ 1
  · rw [if_pos hd1]
    exact .opened hd1 ⟨offset, rfl⟩
  · rw [if_neg hd1]
    exact (h (by omega)).nest (by omega)

end ReadsBack

/-! ## One step of reading items and members -/

section Steps

variable (d f : Nat) (i : Nat)

theorem readItems_close (first : Bool) (acc : List Value) (rest : List UInt8) :
    readItems d (f + 1) first acc ⟨93 :: rest, i⟩ = .ok (.array acc.reverse, ⟨rest, i + 1⟩) := by
  simp +decide [readItems, Cursor.skipBlanks]

theorem readItems_first {bs : List UInt8} (hbs : StartsValue bs) (acc : List Value) :
    readItems d (f + 1) true acc ⟨bs, i⟩ =
      (readValue d f ⟨bs, i⟩).bind fun p => readItems d f false (p.1 :: acc) p.2 := by
  obtain ⟨b, tl, rfl, hb, h93, -⟩ := hbs
  simp only [readItems, Cursor.skipBlanks_of_le hb, beq_iff_eq, h93, if_false, if_true]
  cases readValue d f ⟨b :: tl, i⟩ <;> rfl

theorem readItems_comma {bs : List UInt8} (hbs : StartsValue bs) (acc : List Value) :
    readItems d (f + 1) false acc ⟨44 :: bs, i⟩ =
      (readValue d f ⟨bs, i + 1⟩).bind fun p => readItems d f false (p.1 :: acc) p.2 := by
  obtain ⟨b, tl, rfl, hb, h93, -⟩ := hbs
  simp +decide only [readItems, Cursor.skipBlanks_of_le (show 33 ≤ (44 : UInt8).toNat by decide),
    Cursor.bump_cons, Cursor.skipBlanks_of_le hb, if_false, if_true]
  split
  · contradiction
  · rename_i h; cases h; exact absurd rfl h93
  · cases readValue d f ⟨b :: tl, i + 1⟩ <;> rfl

theorem readMembers_close (first : Bool) (acc : List (String × Value)) (rest : List UInt8) :
    readMembers d (f + 1) first acc ⟨125 :: rest, i⟩ =
      .ok (Value.ofMembers acc.reverse, ⟨rest, i + 1⟩) := by
  cases first <;> simp +decide [readMembers, Cursor.skipBlanks]

theorem readMembers_first (k : String) (tl : List UInt8) (acc : List (String × Value)) :
    readMembers d (f + 1) true acc ⟨Utf8.encode (quote k) ++ 58 :: tl, i⟩ =
      (readValue d f ⟨tl, i + (Utf8.encode (quote k)).length + 1⟩).bind
        fun p => readMembers d f false ((k, p.1) :: acc) p.2 := by
  have hkey := readString_body k (58 :: tl) (i + 1)
  simp only [encode_quote, List.cons_append, List.append_assoc] at hkey ⊢
  generalize List.flatMap escapedBytes k.toList = body at hkey ⊢
  simp +decide [readMembers, Cursor.skipBlanks, hkey]
  rw [show i + 1 + body.length + 1 + 1 = i + (body.length + 1 + 1) + 1 by omega]
  cases readValue d f ⟨tl, i + (body.length + 1 + 1) + 1⟩ <;> rfl

theorem readMembers_comma (k : String) (tl : List UInt8) (acc : List (String × Value)) :
    readMembers d (f + 1) false acc ⟨44 :: (Utf8.encode (quote k) ++ 58 :: tl), i⟩ =
      (readValue d f ⟨tl, i + 1 + (Utf8.encode (quote k)).length + 1⟩).bind
        fun p => readMembers d f false ((k, p.1) :: acc) p.2 := by
  have hkey := readString_body k (58 :: tl) (i + 1 + 1)
  simp only [encode_quote, List.cons_append, List.append_assoc] at hkey ⊢
  generalize List.flatMap escapedBytes k.toList = body at hkey ⊢
  simp +decide [readMembers, Cursor.skipBlanks, hkey]
  rw [show i + 1 + 1 + body.length + 1 + 1 = i + 1 + (body.length + 1 + 1) + 1 by omega]
  cases readValue d f ⟨tl, i + 1 + (body.length + 1 + 1) + 1⟩ <;> rfl

end Steps

/-! ## The round trip -/

theorem Value.size_pos (v : Value) : 0 < v.size := by
  cases v <;> simp [Value.size]

theorem itemsSize_pos (vs : List Value) : 0 < itemsSize vs := by
  cases vs with
  | nil => simp [itemsSize]
  | cons v vs => have := Value.size_pos v; simp only [itemsSize]; omega

theorem fieldsSize_pos (fs : List (String × Value)) : 0 < fieldsSize fs := by
  cases fs with
  | nil => simp [fieldsSize]
  | cons kv fs => have := Value.size_pos kv.2; simp only [fieldsSize]; omega

theorem delimited_itemsAfter (vs : List Value) (rest : List UInt8) :
    Delimited (itemsAfter vs ++ 93 :: rest) := by
  cases vs <;> exact .cons (by simp) _

theorem delimited_fieldsAfter (fs : List (String × Value)) (rest : List UInt8) :
    Delimited (fieldsAfter fs ++ 125 :: rest) := by
  cases fs with
  | nil => exact .cons (by simp) _
  | cons kv fs => exact .cons (by simp) _

mutual
/-- The text of a value, followed by what may follow a value, reads back as the value in the
reader's form when it nests less deep than the reader allows, and is refused for the recursion
limit otherwise. -/
theorem readValue_render : ∀ (v : Value) (d f : Nat) (rest : List UInt8) (i : Nat),
    0 < d → v.everyNumber Number.exact = true → v.size ≤ f → Delimited rest →
    ReadsBack d v.depth v.normal ⟨rest, i + (Utf8.encode v.render).length⟩
      (readValue d f ⟨Utf8.encode v.render ++ rest, i⟩)
  | .null, d, f, rest, i, hd, _, hf, _ => by
    obtain ⟨g, rfl⟩ : ∃ g, f = g + 1 := ⟨f - 1, by simp [Value.size] at hf; omega⟩
    exact .scalar hd (readValue_null d g rest i)
  | .bool b, d, f, rest, i, hd, _, hf, _ => by
    obtain ⟨g, rfl⟩ : ∃ g, f = g + 1 := ⟨f - 1, by simp [Value.size] at hf; omega⟩
    exact .scalar hd (readValue_bool b d g rest i)
  | .number n, d, f, rest, i, hd, hx, hf, hrest => by
    obtain ⟨g, rfl⟩ : ∃ g, f = g + 1 := ⟨f - 1, by simp [Value.size] at hf; omega⟩
    exact .scalar hd (readValue_number (by simpa [Value.everyNumber] using hx) d g hrest i)
  | .string s, d, f, rest, i, hd, _, hf, _ => by
    obtain ⟨g, rfl⟩ : ∃ g, f = g + 1 := ⟨f - 1, by simp [Value.size] at hf; omega⟩
    exact .scalar hd (readValue_string s d g rest i)
  | .array [], d, f, rest, i, hd, _, hf, _ => by
    obtain ⟨g, rfl⟩ : ∃ g, f = g + 1 + 1 := ⟨f - 2, by simp [Value.size, itemsSize] at hf; omega⟩
    have hempty : Utf8.encode (renderItems []) = [] := by simp [renderItems, Utf8.encode_eq_flatMap]
    rw [encode_render_array, hempty]
    simp only [Value.depth, Value.normal, List.cons_append, List.nil_append]
    rw [readValue_bracket_head]
    refine .container _ fun hd1 => ?_
    rw [readItems_close]
    exact (ReadsBack.scalar (by omega) rfl).congr (by simp [itemsDepth]) (by simp [normalItems])
      (by simp)
  | .array (v :: vs), d, f, rest, i, hd, hx, hf, hrest => by
    simp only [Value.everyNumber, everyItemNumber, Bool.and_eq_true] at hx
    have hsize : v.size + itemsSize vs + 1 ≤ f := by simpa [Value.size, itemsSize] using hf
    have hpos := Value.size_pos v
    have hposs := itemsSize_pos vs
    obtain ⟨g, rfl⟩ : ∃ g, f = g + 1 + 1 := ⟨f - 2, by omega⟩
    rw [encode_render_array, encode_renderItems]
    simp only [Value.depth, itemsDepth, Value.normal, normalItems, List.cons_append,
      List.append_assoc]
    rw [readValue_bracket_head]
    refine .container _ fun hd1 => ?_
    rw [readItems_first (d - 1) g (i + 1) ((render_head hx.1).append _) []]
    -- the first item, then the rest behind their commas, one level down
    refine (ReadsBack.bind (k := fun w c => readItems (d - 1) g false [w] c)
      (readValue_render v (d - 1) g (itemsAfter vs ++ 93 :: rest) (i + 1) (by omega) hx.1
        (by omega) (delimited_itemsAfter vs rest))
      (readItems_after vs (d - 1) g [v.normal] rest (i + 1 + (Utf8.encode v.render).length)
        (by omega) hx.2 (by omega))).congr rfl (by simp) ?_
    simp only [List.length_cons, List.length_nil, List.length_append, Cursor.mk.injEq, true_and]
    omega
  | .object [], d, f, rest, i, hd, _, hf, _ => by
    obtain ⟨g, rfl⟩ : ∃ g, f = g + 1 + 1 := ⟨f - 2, by simp [Value.size, fieldsSize] at hf; omega⟩
    have hempty : Utf8.encode (renderFields []) = [] := by simp [renderFields, Utf8.encode_eq_flatMap]
    rw [encode_render_object, hempty]
    simp only [Value.depth, Value.normal, List.cons_append, List.nil_append]
    rw [readValue_brace_head]
    refine .container _ fun hd1 => ?_
    rw [readMembers_close]
    exact (ReadsBack.scalar (by omega) rfl).congr (by simp [fieldsDepth]) (by simp [normalFields])
      (by simp)
  | .object ((k, v) :: fs), d, f, rest, i, hd, hx, hf, hrest => by
    simp only [Value.everyNumber, everyFieldNumber, Bool.and_eq_true] at hx
    have hsize : v.size + fieldsSize fs + 1 ≤ f := by simpa [Value.size, fieldsSize] using hf
    have hpos := Value.size_pos v
    have hposs := fieldsSize_pos fs
    obtain ⟨g, rfl⟩ : ∃ g, f = g + 1 + 1 := ⟨f - 2, by omega⟩
    rw [encode_render_object, encode_renderFields]
    simp only [Value.depth, fieldsDepth, Value.normal, normalFields, memberBytes, List.cons_append,
      List.append_assoc]
    rw [readValue_brace_head]
    refine .container _ fun hd1 => ?_
    rw [readMembers_first (d - 1) g (i + 1) k _ []]
    -- the first member, then the rest behind their commas, one level down
    refine (ReadsBack.bind (k := fun w c => readMembers (d - 1) g false [(k, w)] c)
      (readValue_render v (d - 1) g (fieldsAfter fs ++ 125 :: rest)
        (i + 1 + (Utf8.encode (quote k)).length + 1) (by omega) hx.1 (by omega)
        (delimited_fieldsAfter fs rest))
      (readMembers_after fs (d - 1) g [(k, v.normal)] rest
        (i + 1 + (Utf8.encode (quote k)).length + 1 + (Utf8.encode v.render).length)
        (by omega) hx.2 (by omega))).congr rfl (by simp) ?_
    simp only [List.length_cons, List.length_nil, List.length_append, Cursor.mk.injEq, true_and]
    omega

/-- The items after the first, each behind its comma, and the closing bracket. -/
theorem readItems_after : ∀ (vs : List Value) (d f : Nat) (acc : List Value) (rest : List UInt8)
    (i : Nat), 0 < d → everyItemNumber Number.exact vs = true → itemsSize vs ≤ f →
    ReadsBack d (itemsDepth vs) (.array (acc.reverse ++ normalItems vs))
      ⟨rest, i + (itemsAfter vs).length + 1⟩ (readItems d f false acc ⟨itemsAfter vs ++ 93 :: rest, i⟩)
  | [], d, f, acc, rest, i, hd, _, hf => by
    obtain ⟨g, rfl⟩ : ∃ g, f = g + 1 := ⟨f - 1, by simp [itemsSize] at hf; omega⟩
    exact (ReadsBack.scalar hd (readItems_close d g i false acc rest)).congr
      (by simp [itemsDepth]) (by simp [normalItems]) (by simp [itemsAfter])
  | w :: ws, d, f, acc, rest, i, hd, hx, hf => by
    simp only [everyItemNumber, Bool.and_eq_true] at hx
    have hsize : w.size + itemsSize ws ≤ f := by simpa [itemsSize] using hf
    have hpos := Value.size_pos w
    have hposs := itemsSize_pos ws
    obtain ⟨g, rfl⟩ : ∃ g, f = g + 1 := ⟨f - 1, by omega⟩
    simp only [itemsAfter, List.cons_append, List.append_assoc]
    rw [readItems_comma d g i ((render_head hx.1).append _) acc]
    refine (ReadsBack.bind (k := fun v c => readItems d g false (v :: acc) c)
      (readValue_render w d g (itemsAfter ws ++ 93 :: rest) (i + 1) hd hx.1 (by omega)
        (delimited_itemsAfter ws rest))
      (readItems_after ws d g (w.normal :: acc) rest (i + 1 + (Utf8.encode w.render).length) hd hx.2
        (by omega))).congr ?_ ?_ ?_
    · simp [itemsDepth]
    · simp [normalItems]
    · simp only [List.length_cons, List.length_append, Cursor.mk.injEq, true_and]
      omega

/-- The members after the first, each behind its comma, and the closing brace. -/
theorem readMembers_after : ∀ (fs : List (String × Value)) (d f : Nat)
    (acc : List (String × Value)) (rest : List UInt8) (i : Nat),
    0 < d → everyFieldNumber Number.exact fs = true → fieldsSize fs ≤ f →
    ReadsBack d (fieldsDepth fs) (Value.ofMembers (acc.reverse ++ normalFields fs))
      ⟨rest, i + (fieldsAfter fs).length + 1⟩
      (readMembers d f false acc ⟨fieldsAfter fs ++ 125 :: rest, i⟩)
  | [], d, f, acc, rest, i, hd, _, hf => by
    obtain ⟨g, rfl⟩ : ∃ g, f = g + 1 := ⟨f - 1, by simp [fieldsSize] at hf; omega⟩
    exact (ReadsBack.scalar hd (readMembers_close d g i false acc rest)).congr
      (by simp [fieldsDepth]) (by simp [normalFields]) (by simp [fieldsAfter])
  | (k, w) :: ws, d, f, acc, rest, i, hd, hx, hf => by
    simp only [everyFieldNumber, Bool.and_eq_true] at hx
    have hsize : w.size + fieldsSize ws ≤ f := by simpa [fieldsSize] using hf
    have hpos := Value.size_pos w
    have hposs := fieldsSize_pos ws
    obtain ⟨g, rfl⟩ : ∃ g, f = g + 1 := ⟨f - 1, by omega⟩
    simp only [fieldsAfter, memberBytes, List.cons_append, List.append_assoc]
    rw [readMembers_comma d g i k _ acc]
    refine (ReadsBack.bind (k := fun v c => readMembers d g false ((k, v) :: acc) c)
      (readValue_render w d g (fieldsAfter ws ++ 125 :: rest)
        (i + 1 + (Utf8.encode (quote k)).length + 1) hd hx.1 (by omega)
        (delimited_fieldsAfter ws rest))
      (readMembers_after ws d g ((k, w.normal) :: acc) rest
        (i + 1 + (Utf8.encode (quote k)).length + 1 + (Utf8.encode w.render).length) hd hx.2
        (by omega))).congr ?_ ?_ ?_
    · simp [fieldsDepth]
    · simp [normalFields]
    · simp only [List.length_cons, List.length_append, Cursor.mk.injEq, true_and]
      omega
end

/-! ## Whole documents -/

mutual
/-- A value's text is at least as long as its size, so the reader's fuel of three steps a byte
is more than enough. -/
theorem size_le_length : ∀ v : Value, v.everyNumber Number.exact = true →
    v.size ≤ (Utf8.encode v.render).length
  | .null, hx | .bool _, hx | .number _, hx | .string _, hx => by
    obtain ⟨b, tl, hbytes, -⟩ := render_head hx
    rw [hbytes]
    simp [Value.size]
  | .array [], _ => by
    rw [encode_render_array]
    simp [Value.size, itemsSize]
  | .array (v :: vs), hx => by
    simp only [Value.everyNumber, everyItemNumber, Bool.and_eq_true] at hx
    have hfirst := size_le_length v hx.1
    have hafter := itemsSize_le_length vs hx.2
    rw [encode_render_array, encode_renderItems]
    simp only [Value.size, itemsSize, List.length_cons, List.length_append, List.length_nil]
    omega
  | .object [], _ => by
    rw [encode_render_object]
    simp [Value.size, fieldsSize]
  | .object ((k, v) :: fs), hx => by
    simp only [Value.everyNumber, everyFieldNumber, Bool.and_eq_true] at hx
    have hfirst := size_le_length v hx.1
    have hafter := fieldsSize_le_length fs hx.2
    rw [encode_render_object, encode_renderFields]
    simp only [Value.size, fieldsSize, memberBytes, List.length_cons, List.length_append,
      List.length_nil]
    omega

theorem itemsSize_le_length : ∀ vs : List Value, everyItemNumber Number.exact vs = true →
    itemsSize vs ≤ (itemsAfter vs).length + 1
  | [], _ => by simp [itemsSize, itemsAfter]
  | w :: ws, hx => by
    simp only [everyItemNumber, Bool.and_eq_true] at hx
    have hfirst := size_le_length w hx.1
    have hrest := itemsSize_le_length ws hx.2
    simp only [itemsSize, itemsAfter, List.length_cons, List.length_append]
    omega

theorem fieldsSize_le_length : ∀ fs : List (String × Value), everyFieldNumber Number.exact fs = true →
    fieldsSize fs ≤ (fieldsAfter fs).length + 1
  | [], _ => by simp [fieldsSize, fieldsAfter]
  | (k, w) :: ws, hx => by
    simp only [everyFieldNumber, Bool.and_eq_true] at hx
    have hfirst := size_le_length w hx.1
    have hrest := fieldsSize_le_length ws hx.2
    simp only [fieldsSize, fieldsAfter, memberBytes, List.length_cons, List.length_append]
    omega
end

/-- A document that is the text of a value with exact numbers reads back as the value in the
reader's form when it nests at most 127 deep, and is refused for the recursion limit when it
nests deeper. -/
theorem readDocument_render {v : Value} (hv : v.everyNumber Number.exact = true) :
    (v.depth < 128 → readDocument (Utf8.encode v.render) = .ok v.normal) ∧
    (128 ≤ v.depth → ∃ offset, readDocument (Utf8.encode v.render) = failAt .recursionLimit offset) := by
  have hread := readValue_render v 128 (3 * (Utf8.encode v.render).length + 3) [] 0 (by decide) hv
    (by have := size_le_length v hv; omega) .nil
  rw [List.append_nil] at hread
  constructor
  · intro hd
    simp [readDocument, hread.fits hd, Cursor.skipBlanks]
  · intro hd
    obtain ⟨offset, h⟩ := hread.refused hd
    exact ⟨offset, by simp [readDocument, h, failAt]⟩

/-- Parsing the text of a value with exact numbers that nests at most 127 deep gives the value
in the reader's form. -/
theorem parse_render {v : Value} (hv : v.everyNumber Number.exact = true) (hd : v.depth < 128) :
    parse v.render = .ok v.normal := by
  simp [parse, parseBytes, (readDocument_render hv).1 hd]

/-- Parsing the text of a value that nests 128 deep or more fails for the recursion limit. -/
theorem parse_render_deep {v : Value} (hv : v.everyNumber Number.exact = true) (hd : 128 ≤ v.depth) :
    ∃ offset, parse v.render =
      .error ((⟨.recursionLimit, offset⟩ : ReadFailure).toError (Utf8.encode v.render)) := by
  obtain ⟨offset, h⟩ := (readDocument_render hv).2 hd
  exact ⟨offset, by simp [parse, parseBytes, h, failAt]⟩

end BookRelay.Json
