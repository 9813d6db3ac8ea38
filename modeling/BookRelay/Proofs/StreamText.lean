import BookRelay.Proofs.JsonReaderForm
import BookRelay.Proofs.Payload

/-!
# What a stream text reads as

A text from the market stream is read as JSON and then classified by three rules, in order. A
value with an `id` and a `result` or an `error` is a reply, whatever else it holds. Otherwise
its event object (the `data` of a combined-stream envelope, else the value itself) decides: an
`e` that is the string `depthUpdate` makes a depth update, and anything else makes the value
*other*. A reply and a depth update are then read member by member; a value whose members do
not read that way is an error.

A record is read by checking the members in key order against the record's fields. On a value
the reader gave, whose objects hold each key once and in order, that check comes down to reading
each field's member by name (`checkMembers_eq_none_iff`), so the rules can be said member by
member (`ReplyReads`, `HeaderReads`). An error object also reads from the pair `[code, msg]`,
since a record reads from an array as well, one item per field.

Main statement: `parseStreamText_classifies`.
-/

namespace BookRelay.Json

/-! ## Objects as the reader gives them -/

theorem keysSorted_iff (fs : List (String × Value)) :
    KeysSorted fs ↔ (fs.map Prod.fst).Pairwise (· < ·) := by
  simp [KeysSorted, List.pairwise_map]

theorem keys_normalFields (fs : List (String × Value)) :
    (normalFields fs).map Prod.fst = fs.map Prod.fst := by
  induction fs with
  | nil => rfl
  | cons kv fs ih =>
    obtain ⟨k, v⟩ := kv
    simp [normalFields, ih]

theorem normal_of_normalFields {fs : List (String × Value)} (h : normalFields fs = fs) :
    ∀ kv ∈ fs, kv.2.normal = kv.2 := by
  induction fs with
  | nil => simp
  | cons kv fs ih =>
    obtain ⟨k, v⟩ := kv
    simp only [normalFields, List.cons.injEq, Prod.mk.injEq, true_and] at h
    intro x hx
    rcases List.mem_cons.1 hx with rfl | hx
    · exact h.1
    · exact ih h.2 x hx

theorem everyNumber_of_mem {p : Number → Bool} {fs : List (String × Value)}
    (h : everyFieldNumber p fs = true) : ∀ kv ∈ fs, kv.2.everyNumber p = true := by
  induction fs with
  | nil => simp
  | cons kv fs ih =>
    obtain ⟨k, v⟩ := kv
    simp only [everyFieldNumber, Bool.and_eq_true] at h
    intro x hx
    rcases List.mem_cons.1 hx with rfl | hx
    · exact h.1
    · exact ih h.2 x hx

/-- An object in the reader's form holds each key once, in order, and its members are in the
reader's form. -/
theorem ReaderForm.object {fs : List (String × Value)} (h : ReaderForm (.object fs)) :
    KeysSorted fs ∧ ∀ kv ∈ fs, ReaderForm kv.2 := by
  have hn := h.normal
  simp only [Value.normal, Value.ofMembers, Value.object.injEq] at hn
  -- the reader puts the members in one at a time, which keeps them sorted
  have hsorted : KeysSorted fs := hn ▸ Value.keysSorted_foldl _ List.Pairwise.nil
  have hsorted' : KeysSorted ([] ++ normalFields fs) := by
    rw [List.nil_append, keysSorted_iff, keys_normalFields]
    exact (keysSorted_iff fs).1 hsorted
  have hsame : normalFields fs = fs := by
    rw [Value.foldl_insertField_of_sorted hsorted', List.nil_append] at hn
    exact hn
  have hfits : everyFieldNumber Number.fits fs = true := by simpa [Value.everyNumber] using h.fits
  exact ⟨hsorted, fun kv hkv =>
    ⟨normal_of_normalFields hsame kv hkv, everyNumber_of_mem hfits kv hkv⟩⟩

/-- In members that hold each key once and in order, a key looks up its own member. -/
theorem lookup_eq_some_iff {fs : List (String × Value)} (h : KeysSorted fs) {k : String}
    {w : Value} : fs.lookup k = some w ↔ (k, w) ∈ fs := by
  induction fs with
  | nil => simp
  | cons kv fs ih =>
    obtain ⟨k', w'⟩ := kv
    obtain ⟨hhead, htail⟩ := List.pairwise_cons.1 h
    by_cases hk : k = k'
    · subst hk
      -- a later member has a larger key, so the key's only member is the first
      have hnot : (k, w) ∉ fs := fun hm => String.lt_irrefl k (hhead (k, w) hm)
      simp [hnot, eq_comm]
    · have hne : (k == k') = false := by simpa using hk
      simp [List.lookup_cons, hne, ih htail, hk]

theorem ReaderForm.get? {v w : Value} {k : String} (h : ReaderForm v) (hk : v.get? k = some w) :
    ReaderForm w := by
  obtain ⟨fs, rfl⟩ := Value.object_of_get? hk
  obtain ⟨hsorted, hmembers⟩ := h.object
  exact hmembers (k, w) ((lookup_eq_some_iff hsorted).1 hk)

/-- The integer of a value that fits a signed 64-bit word. -/
def Value.asInt64? : Value → Option Int
  | .number (.nat n) => if n < Nat.pow 2 63 then some n else none
  | .number (.negative i) => some i
  | _ => none

namespace Decode

theorem i64_eq_ok {v : Value} {i : Int} : i64 v = .ok i ↔ v.asInt64? = some i := by
  match v with
  | .number (.nat n) => by_cases hn : n < Nat.pow 2 63 <;> simp [i64, Value.asInt64?, hn, eq_comm]
  | .number (.negative j) => simp [i64, Value.asInt64?, eq_comm]
  | .number (.float x) | .null | .bool _ | .string _ | .array _ | .object _ =>
    simp [i64, Value.asInt64?]

theorem string_eq_ok {v : Value} {s : String} : string v = .ok s ↔ v = .string s := by
  unfold string
  split <;> simp_all

theorem string_getD_eq_ok {o : Option Value} {s : String} (h : string (o.getD .null) = .ok s) :
    o = some (.string s) := by
  cases o with
  | none => cases h
  | some w => exact congrArg some (string_eq_ok.1 h)

@[simp] theorem field_name {α : Type} (name : String) (optional : Bool)
    (decode : Value → Except Mismatch α) : (field name optional decode).name = name := rfl

@[simp] theorem field_optional {α : Type} (name : String) (optional : Bool)
    (decode : Value → Except Mismatch α) : (field name optional decode).optional = optional := rfl

theorem field_check {α : Type} {name : String} {optional : Bool}
    {decode : Value → Except Mismatch α} {v : Value} :
    (field name optional decode).check v = none ↔ ∃ a, decode v = .ok a := by
  simp only [field]
  split <;> simp_all

/-- Among fields with distinct names, the field found by a field's name is that field. -/
theorem find?_name {fields : List Field} (hnames : (fields.map (·.name)).Nodup) {f : Field}
    (hf : f ∈ fields) : fields.find? (·.name == f.name) = some f := by
  induction fields with
  | nil => simp at hf
  | cons g gs ih =>
    obtain ⟨hg, hgs⟩ := List.nodup_cons.1 hnames
    rcases List.mem_cons.1 hf with rfl | hf
    · simp
    · -- the first field has another name, since `f`'s name comes later
      have hne : g.name ≠ f.name := fun he => hg (by simp only [he]; exact List.mem_map_of_mem hf)
      simp [hne, ih hgs hf]

/-- On members holding each key once and in order, a record's members pass its check exactly
when each field's member passes the field's check and each required field has its member. -/
theorem checkMembers_eq_none_iff {fields : List Field} {ms : List (String × Value)}
    (hnames : (fields.map (·.name)).Nodup) (hms : KeysSorted ms) :
    checkMembers fields ms = none ↔ ∀ f ∈ fields, match ms.lookup f.name with
      | some w => f.check w = none
      | none => f.optional = true := by
  unfold checkMembers
  constructor
  · intro h f hf
    split at h
    · cases h
    · rename_i hfound
      have hreq := Option.map_eq_none_iff.1 h
      split
      · rename_i w hw
        have hmem := (lookup_eq_some_iff hms).1 hw
        have := List.findSome?_eq_none_iff.1 hfound (f.name, w) hmem
        simpa [find?_name hnames hf] using this
      · rename_i hw
        have := List.find?_eq_none.1 hreq f hf
        simpa [hw] using this
  · intro h
    -- no member fails its field's check, so the search for a failure finds none
    rw [List.findSome?_eq_none_iff.2 fun kv hkv => ?_]
    · refine Option.map_eq_none_iff.2 (List.find?_eq_none.2 fun f hf => ?_)
      have := h f hf
      split at this
      · rename_i w hw
        simp [hw]
      · simp [this]
    · obtain ⟨k, w⟩ := kv
      cases hg : fields.find? (·.name == k) with
      | none => simp [hg]
      | some g =>
        have hgmem := List.mem_of_find?_eq_some hg
        have hgname : g.name = k := by simpa using List.find?_some hg
        have hlook : ms.lookup g.name = some w := by
          rw [hgname]
          exact (lookup_eq_some_iff hms).2 hkv
        have := h g hgmem
        show ((fields.find? (·.name == k)).bind (·.check w)) = none
        rw [hg]
        simpa [hlook] using this

theorem member_object (fields : List Field) (name : String) (ms : List (String × Value)) :
    member fields name (.object ms) = ms.lookup name := rfl

/-- A decoder that refuses `null` reads an optional member only when the member is there. -/
theorem eq_some_of_getD {α : Type} {decode : Value → Except Mismatch α}
    (hnull : ∀ a, decode .null ≠ .ok a) {o : Option Value} {a : α}
    (h : decode (o.getD .null) = .ok a) : ∃ c, o = some c ∧ decode c = .ok a := by
  cases o with
  | none => exact absurd h (hnull a)
  | some c => exact ⟨c, rfl, h⟩

/-- An array passes the check of a record of two required fields only with two items. -/
theorem checkItems_pair {record : String} {f g : Field} {items : List Value}
    (hf : f.optional = false) (hg : g.optional = false) (h : checkItems record [f, g] items = none) :
    ∃ a b, items = [a, b] := by
  unfold checkItems at h
  match items, h with
  | [], h => simp [checkItems.go, hf] at h
  | [a], h =>
    simp only [checkItems.go] at h
    split at h
    · cases h
    · simp [hg] at h
  | [a, b], _ => exact ⟨a, b, rfl⟩
  | a :: b :: c :: cs, h =>
    simp only [checkItems.go] at h
    split at h
    · cases h
    · split at h
      · cases h
      · cases h

end Decode

end BookRelay.Json

namespace BookRelay.Exchange

open BookRelay.Json

/-! ## Replies -/

/-- How an error object reads: an object with a signed 64-bit `code` and a string `msg`, or
those two as the pair `[code, msg]`. -/
inductive ErrorBodyReads : Value → ApiErrorBody → Prop where
  | object {ms : List (String × Value)} {c : Value} {code : Int} {msg : String}
      (hcode : ms.lookup "code" = some c) (hc : c.asInt64? = some code)
      (hmsg : ms.lookup "msg" = some (.string msg)) :
      ErrorBodyReads (.object ms) ⟨code, msg⟩
  | pair {c : Value} {code : Int} {msg : String} (hc : c.asInt64? = some code) :
      ErrorBodyReads (.array [c, .string msg]) ⟨code, msg⟩

/-- How a reply's `error` member reads: absent and `null` are no error. -/
inductive ErrorReads : Option Value → Option ApiErrorBody → Prop where
  | absent : ErrorReads none none
  | null : ErrorReads (some .null) none
  | given {w : Value} {e : ApiErrorBody} (h : ErrorBodyReads w e) : ErrorReads (some w) (some e)

/-- How a reply's `result` member reads: absent and `null` are no result. -/
inductive ResultReads : Option Value → Option Value → Prop where
  | absent : ResultReads none none
  | null : ResultReads (some .null) none
  | given {w : Value} (h : w ≠ .null) : ResultReads (some w) (some w)

/-- A reply read member by member: an unsigned 64-bit `id`, and the `result` and `error` as
`ResultReads` and `ErrorReads` say. -/
structure ReplyReads (v : Value) (r : Reply) : Prop where
  id : v.get? "id" = some (.number (.nat r.id))
  result : ResultReads (v.get? "result") r.result
  error : ErrorReads (v.get? "error") r.error

theorem errorBodyFields_names : (errorBodyFields.map (·.name)).Nodup := by
  simp [errorBodyFields, Decode.field]

theorem replyFields_names : (replyFields.map (·.name)).Nodup := by
  simp [replyFields, Decode.field]

/-- On a value the reader gave, an error object reads exactly as `ErrorBodyReads` says. -/
theorem decodeErrorBody_eq_ok {w : Value} (hw : ReaderForm w) {e : ApiErrorBody} :
    decodeErrorBody w = .ok e ↔ ErrorBodyReads w e := by
  have hnull64 : ∀ i, Decode.i64 .null ≠ .ok i := fun _ h => by cases h
  constructor
  · intro h
    unfold decodeErrorBody at h
    split at h
    · cases h
    · rename_i hcheck
      dsimp only at h
      -- the code and the message both decoded
      rcases hc : Decode.i64 ((Decode.member errorBodyFields "code" w).getD .null) with _ | code
      <;> rcases hm : Decode.string ((Decode.member errorBodyFields "msg" w).getD .null) with _ | msg
      <;> simp only [hc, hm, reduceCtorEq, Except.ok.injEq] at h
      subst h
      obtain ⟨c, hcm, hci⟩ := Decode.eq_some_of_getD hnull64 hc
      have hmm := Decode.string_getD_eq_ok hm
      cases w with
      | object ms => exact .object hcm (Decode.i64_eq_ok.1 hci) hmm
      | array items =>
        obtain ⟨a, b, rfl⟩ := Decode.checkItems_pair rfl rfl hcheck
        simp only [Decode.member, errorBodyFields, Decode.field] at hcm hmm
        cases hcm
        cases hmm
        exact .pair (Decode.i64_eq_ok.1 hci)
      | _ => cases hcheck
  · intro h
    cases h with
    | @object ms c code msg hcode hc hmsg =>
      have hcheck : Decode.checkRecord "struct ApiErrorBody" errorBodyFields (.object ms) = none := by
        refine (Decode.checkMembers_eq_none_iff errorBodyFields_names hw.object.1).2 ?_
        simp [errorBodyFields, hcode, hmsg, Decode.field_check, Decode.i64_eq_ok, hc,
          Decode.string_eq_ok]
      simp [decodeErrorBody, hcheck, Decode.member_object, hcode, hmsg, (Decode.i64_eq_ok).2 hc,
        Decode.string]
    | @pair c code msg hc =>
      have hci := (Decode.i64_eq_ok).2 hc
      -- the items are read by place: the code first, then the message
      have hcheck : Decode.checkRecord "struct ApiErrorBody" errorBodyFields
          (.array [c, .string msg]) = none := by
        simp [Decode.checkRecord, Decode.checkItems, Decode.checkItems.go, errorBodyFields,
          Decode.field, hci, Decode.string]
      have hcode : Decode.member errorBodyFields "code" (.array [c, .string msg]) = some c := rfl
      have hmsg : Decode.member errorBodyFields "msg" (.array [c, .string msg]) =
          some (.string msg) := rfl
      simp [decodeErrorBody, hcheck, hcode, hmsg, hci, Decode.string]

theorem optionally_of_ne_null {α : Type} {decode : Value → Except Mismatch α} {w : Value}
    (h : w ≠ .null) : optionally decode w = (decode w).map some := by
  cases w with
  | null => exact absurd rfl h
  | _ => rfl

/-- An `error` member of a value the reader gave reads exactly as `ErrorReads` says. -/
theorem optionally_errorBody_eq_ok {o : Option Value} (ho : ∀ w, o = some w → ReaderForm w)
    {e : Option ApiErrorBody} :
    optionally decodeErrorBody (o.getD .null) = .ok e ↔ ErrorReads o e := by
  cases o with
  | none =>
    simp only [Option.getD_none, optionally, Except.ok.injEq]
    exact ⟨fun h => h ▸ .absent, fun h => by cases h; rfl⟩
  | some w =>
    by_cases hw : w = .null
    · subst hw
      simp only [Option.getD_some, optionally, Except.ok.injEq]
      exact ⟨fun h => h ▸ .null, fun h => by cases h with | null => rfl | given h => cases h⟩
    · rw [Option.getD_some, optionally_of_ne_null hw]
      constructor
      · intro h
        obtain ⟨b, hb, rfl⟩ := except_map_eq_ok h
        exact .given ((decodeErrorBody_eq_ok (ho w rfl)).1 hb)
      · intro h
        cases h with
        | null => exact absurd rfl hw
        | given hb => simp [(decodeErrorBody_eq_ok (ho w rfl)).2 hb, Except.map]

theorem resultReads_getD (o : Option Value) :
    ResultReads o (match o.getD .null with
      | .null => none
      | r => some r) := by
  match o with
  | none => exact .absent
  | some w =>
    simp only [Option.getD_some]
    split
    · exact .null
    · rename_i hw
      exact .given hw

/-- On a value the reader gave that has an `id`, a reply reads exactly as `ReplyReads` says. -/
theorem decodeReply_eq_ok {v : Value} (hv : ReaderForm v) (hid : (v.get? "id").isSome)
    {r : Reply} : decodeReply v = .ok r ↔ ReplyReads v r := by
  obtain ⟨ms, rfl⟩ : ∃ ms, v = .object ms := by
    obtain ⟨w, hw⟩ := Option.isSome_iff_exists.1 hid
    exact Value.object_of_get? hw
  obtain ⟨hsorted, hmembers⟩ := hv.object
  have herror : ∀ e, optionally decodeErrorBody ((ms.lookup "error").getD .null) = .ok e ↔
      ErrorReads (ms.lookup "error") e := fun _ =>
    optionally_errorBody_eq_ok fun w hw => hmembers ("error", w) ((lookup_eq_some_iff hsorted).1 hw)
  constructor
  · intro h
    unfold decodeReply at h
    split at h
    · cases h
    · dsimp only at h
      rcases hi : Decode.u64 ((Decode.member replyFields "id" (.object ms)).getD .null) with _ | id
      <;> rcases he : optionally decodeErrorBody
          ((Decode.member replyFields "error" (.object ms)).getD .null) with _ | err
      <;> simp only [hi, he, reduceCtorEq, Except.ok.injEq] at h
      subst h
      exact ⟨Decode.u64_getD_eq_ok hi, resultReads_getD _, (herror _).1 he⟩
  · intro h
    have hid : ms.lookup "id" = some (.number (.nat r.id)) := h.id
    have herr := (herror r.error).2 h.error
    -- every member passes its field's check: the id is an integer, the error reads
    have hcheck : Decode.checkRecord "struct StreamReply" replyFields (.object ms) = none := by
      refine (Decode.checkMembers_eq_none_iff replyFields_names hsorted).2 ?_
      simp only [replyFields, List.mem_cons, List.not_mem_nil, or_false, forall_eq_or_imp,
        forall_eq, Decode.field_name, Decode.field_optional]
      refine ⟨by simp [hid, Decode.field_check, Decode.u64], ?_, ?_⟩
      · split <;> simp [Decode.field_check]
      · split
        · rename_i w hw
          rw [hw, Option.getD_some] at herr
          exact Decode.field_check.2 ⟨_, herr⟩
        · trivial
    unfold decodeReply
    rw [hcheck]
    simp only [Decode.member_object, hid, Option.getD_some, Decode.u64, herr]
    -- the result is kept unless it is absent or `null`
    obtain ⟨id, result, error⟩ := r
    have hr : ResultReads (ms.lookup "result") result := h.result
    simp only [Except.ok.injEq, Reply.mk.injEq, true_and, and_true]
    revert hr
    generalize ms.lookup "result" = o
    intro hr
    cases hr with
    | absent => rfl
    | null => rfl
    | given hw => split <;> simp_all

/-! ## Depth-update headers -/

/-- How the `E` member of an event reads: a signed 64-bit integer, or zero when absent. -/
inductive TimeReads : Option Value → Int → Prop where
  | absent : TimeReads none 0
  | given {w : Value} {t : Int} (h : w.asInt64? = some t) : TimeReads (some w) t

/-- A depth-update header read member by member from the event object: a string `s`, unsigned
64-bit `U` and `u`, and the event time as `TimeReads` says. -/
structure HeaderReads (event : Value) (symbol : String) (first final : Nat) (time : Int) :
    Prop where
  symbol : event.get? "s" = some (.string symbol)
  first : event.get? "U" = some (.number (.nat first))
  final : event.get? "u" = some (.number (.nat final))
  time : TimeReads (event.get? "E") time

theorem headerFields_names : (headerFields.map (·.name)).Nodup := by
  simp [headerFields]

theorem timeReads_of_elim {o : Option Value} {t : Int} (h : o.elim (.ok 0) Decode.i64 = .ok t) :
    TimeReads o t := by
  cases o with
  | none =>
    cases h
    exact .absent
  | some w => exact .given (Decode.i64_eq_ok.1 h)

/-- On an event object the reader gave, whose `e` is a string, a header reads exactly as
`HeaderReads` says. -/
theorem decodeHeader_eq_ok {event : Value} (hv : ReaderForm event) {tag : String}
    (he : event.get? "e" = some (.string tag)) {symbol : String} {first final : Nat}
    {time : Int} :
    decodeHeader event = .ok (symbol, first, final, time) ↔
      HeaderReads event symbol first final time := by
  obtain ⟨ms, rfl⟩ := Value.object_of_get? he
  have hsorted := hv.object.1
  constructor
  · intro h
    unfold decodeHeader at h
    split at h
    · cases h
    · dsimp only at h
      -- the four reads all succeeded
      rcases hs : Decode.string ((Decode.member headerFields "s" (.object ms)).getD .null)
        with _ | s'
      <;> rcases hU : Decode.u64 ((Decode.member headerFields "U" (.object ms)).getD .null)
        with _ | first'
      <;> rcases hu : Decode.u64 ((Decode.member headerFields "u" (.object ms)).getD .null)
        with _ | final'
      <;> rcases ht : (Decode.member headerFields "E" (.object ms)).elim (.ok 0) Decode.i64
        with _ | t'
      <;> simp only [hs, hU, hu, ht, reduceCtorEq, Except.ok.injEq, Prod.mk.injEq] at h
      obtain ⟨rfl, rfl, rfl, rfl⟩ := h
      exact ⟨Decode.string_getD_eq_ok hs, Decode.u64_getD_eq_ok hU, Decode.u64_getD_eq_ok hu, timeReads_of_elim ht⟩
  · intro h
    have hs : ms.lookup "s" = some (.string symbol) := h.symbol
    have hU : ms.lookup "U" = some (.number (.nat first)) := h.first
    have hu : ms.lookup "u" = some (.number (.nat final)) := h.final
    have he' : ms.lookup "e" = some (.string tag) := he
    have ht : TimeReads (ms.lookup "E") time := h.time
    -- every member passes its field's check; `E` only when it is there
    have hcheck : Decode.checkRecord "struct DepthUpdateHeader" headerFields (.object ms) =
        none := by
      refine (Decode.checkMembers_eq_none_iff headerFields_names hsorted).2 ?_
      simp only [headerFields, List.mem_cons, List.not_mem_nil, or_false, forall_eq_or_imp,
        forall_eq, Decode.field_name, Decode.field_optional]
      refine ⟨by simp [he', Decode.field_check, Decode.string], ?_,
        by simp [hs, Decode.field_check, Decode.string], by simp [hU, Decode.field_check, Decode.u64],
        by simp [hu, Decode.field_check, Decode.u64]⟩
      split
      · rename_i w hw
        rw [hw] at ht
        cases ht with
        | given hw => exact Decode.field_check.2 ⟨_, Decode.i64_eq_ok.2 hw⟩
      · trivial
    unfold decodeHeader
    rw [hcheck]
    simp only [Decode.member_object, hs, hU, hu, Option.getD_some, Decode.string, Decode.u64]
    rcases hE : ms.lookup "E" with _ | w <;> rw [hE] at ht
    · cases ht
      rfl
    · cases ht with
      | given hw => simp [Decode.i64_eq_ok.2 hw]

/-! ## Classifying -/

/-- A value is a reply when it has an `id` and a `result` or an `error`. -/
def IsReply (v : Value) : Prop :=
  (v.get? "id").isSome ∧ ((v.get? "result").isSome ∨ (v.get? "error").isSome)

/-- The stream a value names in a string `stream` member. -/
def streamName (v : Value) : Option String := (v.get? "stream").bind Value.asString?

/-- What a parsed stream text classifies as, `none` standing for an error. -/
inductive Classified (v : Value) : Option StreamMessage → Prop where
  /-- A value with an `id` and a `result` or an `error` is a reply, when its members read. -/
  | reply {r : Reply} (hr : IsReply v) (h : ReplyReads v r) : Classified v (some (.reply r))
  | unreadReply (hr : IsReply v) (h : ∀ r, ¬ ReplyReads v r) : Classified v none
  /-- Any other value whose event object's `e` is not the string `depthUpdate` is other. -/
  | other (hr : ¬ IsReply v) (he : (eventObject v).get? "e" ≠ some (.string depthUpdateTag)) :
      Classified v (some (.other v))
  /-- The rest are depth updates, kept whole, when the event object's header reads. -/
  | depth {symbol : String} {first final : Nat} {time : Int} (hr : ¬ IsReply v)
      (he : (eventObject v).get? "e" = some (.string depthUpdateTag))
      (h : HeaderReads (eventObject v) symbol first final time) :
      Classified v (some (.depth ⟨streamName v, symbol, first, final, time, v⟩))
  | unreadDepth (hr : ¬ IsReply v)
      (he : (eventObject v).get? "e" = some (.string depthUpdateTag))
      (h : ∀ symbol first final time, ¬ HeaderReads (eventObject v) symbol first final time) :
      Classified v none

theorem bind_asString_eq_some {o : Option Value} {s : String} :
    o.bind Value.asString? = some s ↔ o = some (.string s) := by
  cases o with
  | none => simp
  | some w => cases w <;> simp [Value.asString?]

theorem readerForm_eventObject {v : Value} (hv : ReaderForm v) : ReaderForm (eventObject v) := by
  unfold eventObject
  split
  · rename_i data hdata
    exact hv.get? hdata
  · exact hv

theorem classify_of_isReply {v : Value} (hr : IsReply v) : classify v = (decodeReply v).map .reply := by
  have hb : ((v.get? "id").isSome && ((v.get? "result").isSome || (v.get? "error").isSome)) =
      true := by
    simpa [IsReply] using hr
  rw [classify, if_pos hb]

theorem classify_of_not_isReply {v : Value} (hr : ¬ IsReply v) :
    classify v =
      if ((eventObject v).get? "e").bind Value.asString? != some depthUpdateTag then .ok (.other v)
      else (decodeHeader (eventObject v)).map fun (symbol, first, final, time) =>
        .depth ⟨streamName v, symbol, first, final, time, v⟩ := by
  have hb : ¬ ((v.get? "id").isSome && ((v.get? "result").isSome || (v.get? "error").isSome)) =
      true := by
    simpa [IsReply] using hr
  rw [classify, if_neg hb]
  rfl

/-- Every value the reader gives classifies as `Classified` says. -/
theorem classify_classified {v : Value} (hv : ReaderForm v) :
    Classified v (classify v).toOption := by
  by_cases hr : IsReply v
  · rw [classify_of_isReply hr]
    cases hd : decodeReply v with
    | ok r => exact .reply hr ((decodeReply_eq_ok hv hr.1).1 hd)
    | error m =>
      refine .unreadReply hr fun r hrr => ?_
      rw [(decodeReply_eq_ok hv hr.1).2 hrr] at hd
      cases hd
  · rw [classify_of_not_isReply hr]
    -- the rest is decided by the event object
    split
    · rename_i htag
      refine .other hr fun he => ?_
      rw [bind_asString_eq_some.2 he] at htag
      simp at htag
    · rename_i htag
      have he : (eventObject v).get? "e" = some (.string depthUpdateTag) :=
        bind_asString_eq_some.1 (by simpa using htag)
      have hform := readerForm_eventObject hv
      cases hd : decodeHeader (eventObject v) with
      | ok header =>
        obtain ⟨symbol, first, final, time⟩ := header
        exact .depth hr he ((decodeHeader_eq_ok hform he).1 hd)
      | error m =>
        refine .unreadDepth hr he fun symbol first final time hh => ?_
        rw [(decodeHeader_eq_ok hform he).2 hh] at hd
        cases hd

/-- A classification the rules give is the one `classify` makes: each value classifies one
way only. -/
theorem Classified.classify_eq {v : Value} (hv : ReaderForm v) {x : Option StreamMessage}
    (h : Classified v x) : (classify v).toOption = x := by
  cases h with
  | reply hr h => rw [classify_of_isReply hr, (decodeReply_eq_ok hv hr.1).2 h]; rfl
  | unreadReply hr h =>
    rw [classify_of_isReply hr]
    cases hd : decodeReply v with
    | ok r => exact absurd ((decodeReply_eq_ok hv hr.1).1 hd) (h r)
    | error m => rfl
  | other hr he =>
    rw [classify_of_not_isReply hr, if_pos]
    · rfl
    · cases hw : (eventObject v).get? "e" with
      | none => rfl
      | some w =>
        have hne : w.asString? ≠ some depthUpdateTag := fun hs =>
          he (hw.trans (congrArg some (by cases w <;> simp_all [Value.asString?])))
        simpa [Option.bind] using hne
  | depth hr he h =>
    rw [classify_of_not_isReply hr, if_neg (by simp [he, Value.asString?]),
      (decodeHeader_eq_ok (readerForm_eventObject hv) he).2 h]
    rfl
  | unreadDepth hr he h =>
    rw [classify_of_not_isReply hr, if_neg (by simp [he, Value.asString?])]
    cases hd : decodeHeader (eventObject v) with
    | ok header =>
      obtain ⟨symbol, first, final, time⟩ := header
      exact absurd ((decodeHeader_eq_ok (readerForm_eventObject hv) he).1 hd) (h _ _ _ _)
    | error m => rfl

/-- A reply acknowledges its request exactly when its `error` is absent or `null`. -/
theorem ReplyReads.isAck_iff {v : Value} {r : Reply} (h : ReplyReads v r) :
    r.isAck = true ↔ v.get? "error" = none ∨ v.get? "error" = some .null := by
  have he := h.error
  unfold Reply.isAck
  revert he
  generalize v.get? "error" = o
  generalize r.error = e
  intro he
  cases he with
  | absent => simp
  | null => simp
  | given hb =>
    simp only [Option.isNone_some, Bool.false_eq_true, reduceCtorEq, Option.some.injEq,
      false_or, false_iff]
    rintro rfl
    cases hb

/-- Every text classifies by the rules. A text that is not JSON fails with the reader's error.
A JSON value classifies as a reply, a depth update, other, or an error exactly as `Classified`
says: a value with an `id` and a `result` or an `error` is a reply whatever else it holds,
read as `ReplyReads` says; else the event object decides, and a depth update keeps the whole
value. A reply acknowledges its request exactly when its `error` is absent or `null`. -/
theorem parseStreamText_classifies (t : String) :
    (∀ e, Json.parse t = .error e → parseStreamText t = .error e) ∧
    (∀ v, Json.parse t = .ok v → ∀ x, (parseStreamText t).toOption = x ↔ Classified v x) ∧
    (∀ v r, Json.parse t = .ok v → parseStreamText t = .ok (.reply r) →
      (r.isAck = true ↔ v.get? "error" = none ∨ v.get? "error" = some .null)) := by
  have hopt : ∀ v, Json.parse t = .ok v → (parseStreamText t).toOption = (classify v).toOption :=
    fun v hv => by
      rw [parseStreamText, hv]
      dsimp only
      cases classify v <;> rfl
  refine ⟨fun e he => by rw [parseStreamText, he], fun v hv x => ?_, fun v r hv hr => ?_⟩
  · have hform := parse_form hv
    rw [hopt v hv]
    exact ⟨fun h => h ▸ classify_classified hform, fun h => h.classify_eq hform⟩
  · have hc := classify_classified (parse_form hv)
    rw [← hopt v hv, hr] at hc
    cases hc with
    | reply _ h => exact h.isAck_iff

/-- The acknowledgement `{"id":1,"result":null}` is read as the reply `1` without an error,
which acknowledges its request. -/
theorem parseStreamText_classifies_ack :
    let t := "\x7b\"id\":1,\"result\":null\x7d"
    let v : Value := .object [("id", .number (.nat 1)), ("result", .null)]
    Json.parse t = .ok v ∧ Classified v (some (.reply ⟨1, none, none⟩)) ∧
      (⟨1, none, none⟩ : Reply).isAck = true := by
  intro t v
  have hparse : Json.parse t = .ok v := parse_render (v := v) (by decide) (by decide)
  have hmsg : parseStreamText t = .ok (.reply ⟨1, none, none⟩) := by
    rw [parseStreamText, hparse]
    rfl
  obtain ⟨-, hclass, hack⟩ := parseStreamText_classifies t
  exact ⟨hparse, (hclass v hparse _).1 (by rw [hmsg]; rfl), (hack v _ hparse hmsg).2 (.inl rfl)⟩

/-- A reply whose `error` is the pair `[2, "bad"]` is read as a refusal with code 2 and message
`bad`: an error object reads from a pair as well as from an object. -/
theorem parseStreamText_error_pair :
    parseStreamText "\x7b\"error\":[2,\"bad\"],\"id\":1\x7d" =
      .ok (.reply ⟨1, none, some ⟨2, "bad"⟩⟩) := by
  let v : Value :=
    .object [("error", .array [.number (.nat 2), .string "bad"]), ("id", .number (.nat 1))]
  have hparse : Json.parse "\x7b\"error\":[2,\"bad\"],\"id\":1\x7d" = .ok v :=
    parse_render (v := v) (by decide) (by decide)
  rw [parseStreamText, hparse]
  rfl

end BookRelay.Exchange
