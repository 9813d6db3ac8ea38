import BookRelay.Pipeline.Fetch
import BookRelay.Pipeline.Intake

/-! # Events keep their ordering fields in their payload

A producer reads an event's ordering fields out of the JSON it received and keeps that JSON as
the event's payload, so the payload alone is enough to put the event in order
(`payload_keeps_ordering_fields`). So does every event the producers make: a snapshot a fetch
gives (`fetch_keeps_id`), and an update a text frame puts into the queue
(`takeText_keeps_range`).

A depth update read from a text frame keeps the whole frame, and its event object (the `data`
of a combined-stream envelope, else the frame itself) is an object whose `e` is `depthUpdate`
and whose `U` and `u` are the update range. A snapshot read from a REST body keeps the body.
A record is read from an array as well as from an object, one item per field, so the body
holds the id either as its `lastUpdateId` member or as the single item of an array: the body
`[123]` gives a snapshot whose payload has no `lastUpdateId` member. -/

namespace BookRelay.Json

theorem Value.object_of_get? {v w : Value} {key : String} (h : v.get? key = some w) :
    ∃ members, v = .object members := by
  cases v with
  | object members => exact ⟨members, rfl⟩
  | _ => cases h

/-- A mapped result is a result of the mapped function. -/
theorem except_map_eq_ok {ε α β : Type} {f : α → β} {x : Except ε α} {b : β}
    (h : x.map f = .ok b) : ∃ a, x = .ok a ∧ f a = b := by
  cases x with
  | error e => cases h
  | ok a => exact ⟨a, rfl, by simpa [Except.map] using h⟩

theorem except_bind_eq_ok {ε α β : Type} {f : α → Except ε β} {x : Except ε α} {b : β}
    (h : x.bind f = .ok b) : ∃ a, x = .ok a ∧ f a = .ok b := by
  cases x with
  | error e => cases h
  | ok a => exact ⟨a, rfl, h⟩

namespace Decode

theorem u64_eq_ok {v : Value} {n : Nat} : u64 v = .ok n ↔ v = .number (.nat n) := by
  constructor
  · intro h
    unfold u64 at h
    split at h
    · cases h
      rfl
    · cases h
    · cases h
  · rintro rfl
    rfl

/-- A value read as a `u64` from an optional member was there, as that integer. -/
theorem u64_getD_eq_ok {v : Option Value} {n : Nat} (h : u64 (v.getD .null) = .ok n) :
    v = some (.number (.nat n)) := by
  cases v with
  | none => cases h
  | some w => exact congrArg some (u64_eq_ok.1 h)

/-- An array passes the check of a record of one required field only with one item. -/
theorem checkItems_single {record : String} {f : Field} {items : List Value}
    (hf : f.optional = false) (h : checkItems record [f] items = none) : ∃ v, items = [v] := by
  unfold checkItems at h
  match items, h with
  | [], h => simp [checkItems.go, hf] at h
  | [v], _ => exact ⟨v, rfl⟩
  | v :: w :: ws, h =>
    simp only [checkItems.go] at h
    split at h
    · cases h
    · cases h

end Decode

end BookRelay.Json

namespace BookRelay.Exchange

open BookRelay.Json

/-! ## Snapshots -/

/-- A snapshot read from a body keeps the body, which holds the snapshot's id as its
`lastUpdateId` member or as the single item of an array. -/
theorem ofBody_keeps_id {body : Value} {snap : DepthSnapshot} (h : DepthSnapshot.ofBody body = .ok snap) :
    snap.body = body ∧ (body.get? "lastUpdateId" = some (.ofNat snap.lastUpdateId) ∨
      body = .array [.ofNat snap.lastUpdateId]) := by
  unfold DepthSnapshot.ofBody at h
  split at h
  · cases h
  · rename_i hcheck
    split at h
    · rename_i id hid
      cases h
      have hmember := Decode.u64_getD_eq_ok hid
      refine ⟨rfl, ?_⟩
      -- the id is found by name in an object and by place in an array
      cases body with
      | object members => exact .inl hmember
      | array items =>
        obtain ⟨v, rfl⟩ := Decode.checkItems_single rfl hcheck
        simp only [Decode.member, snapshotHeaderFields] at hmember
        cases hmember
        exact .inr rfl
      | _ => cases hcheck
    · cases h

/-- The array `[123]` reads as the snapshot `123`, kept as it is: a payload without a
`lastUpdateId` member. -/
theorem ofBody_single_item_array :
    DepthSnapshot.ofBody (.array [.ofNat 123]) = .ok ⟨123, 0, 0, .array [.ofNat 123]⟩ ∧
      (Value.array [.ofNat 123]).get? "lastUpdateId" = none := ⟨rfl, rfl⟩

/-- Every snapshot event a fetch gives keeps the body it read, which holds the event's id as
its `lastUpdateId` member or as the single item of an array. -/
theorem fetch_keeps_id {f : Pipeline.SnapshotFetcher} {serve : Http.Request → Pipeline.Served}
    {symbol : String} {limit : Nat} {e : Feed.Event} (h : (f.fetch serve symbol limit).outcome = .ok e) :
    ∃ id, e.sequence = .snapshot id ∧
      (e.payload.get? "lastUpdateId" = some (.ofNat id) ∨ e.payload = .array [.ofNat id]) := by
  unfold Pipeline.SnapshotFetcher.fetch at h
  split at h
  · cases h
  · split at h
    · cases h
    · split at h
      · cases h
      · dsimp only at h
        split at h
        · rename_i snap hsnap
          cases h
          obtain ⟨body, -, hbody⟩ := except_bind_eq_ok hsnap
          obtain ⟨rfl, hid⟩ := ofBody_keeps_id hbody
          exact ⟨snap.lastUpdateId, rfl, hid⟩
        · cases h

/-! ## Depth updates -/

/-- The event object of a stream frame: the `data` member of a combined-stream envelope (a
string `stream` beside a `data`), else the frame itself. -/
def eventObject (frame : Value) : Value :=
  match (frame.get? "stream").bind Value.asString?, frame.get? "data" with
  | some _, some data => data
  | _, _ => frame

/-- A header read from an object has its update range as the members `U` and `u`. -/
theorem decodeHeader_range {members : List (String × Value)} {s : String} {first final : Nat}
    {time : Int} (h : decodeHeader (.object members) = .ok (s, first, final, time)) :
    (Value.object members).get? "U" = some (.ofNat first) ∧
      (Value.object members).get? "u" = some (.ofNat final) := by
  unfold decodeHeader at h
  split at h
  · cases h
  · dsimp only at h
    -- the four reads all succeeded; the range is the second and third
    rcases hs : Decode.string ((Decode.member headerFields "s" (.object members)).getD .null) with _ | s'
    <;> rcases hU : Decode.u64 ((Decode.member headerFields "U" (.object members)).getD .null) with _ | first'
    <;> rcases hu : Decode.u64 ((Decode.member headerFields "u" (.object members)).getD .null) with _ | final'
    <;> rcases ht : (Decode.member headerFields "E" (.object members)).elim (.ok 0) Decode.i64 with _ | t'
    <;> simp only [hs, hU, hu, ht, reduceCtorEq, Except.ok.injEq, Prod.mk.injEq] at h
    obtain ⟨-, rfl, rfl, -⟩ := h
    exact ⟨Decode.u64_getD_eq_ok hU, Decode.u64_getD_eq_ok hu⟩

/-- A frame classified as a depth update is kept whole, and its event object is an object whose
`e` is `depthUpdate` and whose `U` and `u` are the update range. -/
theorem classify_depth_keeps_range {body : Value} {f : DepthFrame} (h : classify body = .ok (.depth f)) :
    f.body = body ∧ (eventObject body).get? "e" = some (.string depthUpdateTag) ∧
      (eventObject body).get? "U" = some (.ofNat f.firstUpdateId) ∧
      (eventObject body).get? "u" = some (.ofNat f.finalUpdateId) := by
  unfold classify at h
  split at h
  · obtain ⟨r, -, hr⟩ := except_map_eq_ok h
    cases hr
  · -- the frame is read through its event object
    change (if ((eventObject body).get? "e").bind Value.asString? != some depthUpdateTag then _
      else (decodeHeader (eventObject body)).map _) = _ at h
    split at h
    · cases h
    · rename_i htag
      obtain ⟨⟨s, first, final, time⟩, hdec, hf⟩ := except_map_eq_ok h
      cases hf
      -- the tag is a member, so the event object is an object
      obtain ⟨w, hw, hs⟩ := Option.bind_eq_some_iff.1 (show ((eventObject body).get? "e").bind
        Value.asString? = some depthUpdateTag by simpa using htag)
      obtain ⟨members, hobj⟩ := Value.object_of_get? hw
      have hstr : w = .string depthUpdateTag := by
        cases w <;> simp_all [Value.asString?]
      rw [hobj] at hdec hw ⊢
      exact ⟨rfl, hstr ▸ hw, decodeHeader_range hdec⟩

/-! ## Both producers -/

/-- Whatever value the header readers accept, the payload built from it carries the ordering
fields: a body read as a snapshot is kept as the payload and holds the id as its `lastUpdateId`
member or as the single item of an array, and a frame read as a depth update is kept whole, its
event object an object whose `e` is `depthUpdate` and whose `U` and `u` are the update range. -/
theorem payload_keeps_ordering_fields {body frame : Value} {snap : DepthSnapshot} {f : DepthFrame}
    (hsnap : DepthSnapshot.ofBody body = .ok snap) (hframe : classify frame = .ok (.depth f)) :
    (snap.body = body ∧ (body.get? "lastUpdateId" = some (.ofNat snap.lastUpdateId) ∨
        body = .array [.ofNat snap.lastUpdateId])) ∧
      f.body = frame ∧ (eventObject frame).get? "e" = some (.string depthUpdateTag) ∧
        (eventObject frame).get? "U" = some (.ofNat f.firstUpdateId) ∧
        (eventObject frame).get? "u" = some (.ofNat f.finalUpdateId) :=
  ⟨ofBody_keeps_id hsnap, classify_depth_keeps_range hframe⟩

theorem payload_keeps_ordering_fields_of_depth_update :
    let body : Value := .object [("lastUpdateId", .ofNat 123)]
    let frame : Value :=
      .object [("e", .string "depthUpdate"), ("s", .string "BTCUSDT"), ("U", .ofNat 1), ("u", .ofNat 2)]
    let snap : DepthSnapshot := ⟨123, 0, 0, body⟩
    let f : DepthFrame := ⟨none, "BTCUSDT", 1, 2, 0, frame⟩
    DepthSnapshot.ofBody body = .ok snap ∧ classify frame = .ok (.depth f) ∧
      ((snap.body = body ∧ (body.get? "lastUpdateId" = some (.ofNat snap.lastUpdateId) ∨
          body = .array [.ofNat snap.lastUpdateId])) ∧
        f.body = frame ∧ (eventObject frame).get? "e" = some (.string depthUpdateTag) ∧
          (eventObject frame).get? "U" = some (.ofNat f.firstUpdateId) ∧
          (eventObject frame).get? "u" = some (.ofNat f.finalUpdateId)) :=
  ⟨rfl, rfl, payload_keeps_ordering_fields rfl rfl⟩

end BookRelay.Exchange

namespace BookRelay.Pipeline

open BookRelay.Json BookRelay.Exchange

/-- A depth update read from a text frame keeps the whole frame, whose event object carries the
update range. -/
theorem parseStreamText_keeps_range {text : String} {f : DepthFrame}
    (h : parseStreamText text = .ok (.depth f)) :
    Json.parse text = .ok f.body ∧ (eventObject f.body).get? "e" = some (.string depthUpdateTag) ∧
      (eventObject f.body).get? "U" = some (.ofNat f.firstUpdateId) ∧
      (eventObject f.body).get? "u" = some (.ofNat f.finalUpdateId) := by
  unfold parseStreamText at h
  split at h
  · cases h
  · rename_i body hbody
    cases hc : classify body with
    | error m => simp [hc] at h
    | ok msg =>
      simp only [hc, Json.mapError_ok, Except.ok.injEq] at h
      subst h
      obtain ⟨hb, hrange⟩ := classify_depth_keeps_range hc
      rw [hb]
      exact ⟨hbody, hrange⟩

/-- Every event that taking in a text frame puts into the queue is an incremental update whose
payload is the whole frame, with the update range in the frame's event object. -/
theorem takeText_keeps_range (l : Line) (maxPayload : Nat) (state : ConnectionState) (text : String)
    {e : Feed.Event} (h : (l.takeText maxPayload state text).queue.items = l.queue.items ++ [e]) :
    ∃ frame first final, Json.parse text = .ok frame ∧ e = ⟨.incremental first final, frame⟩ ∧
      (eventObject frame).get? "e" = some (.string depthUpdateTag) ∧
      (eventObject frame).get? "U" = some (.ofNat first) ∧
      (eventObject frame).get? "u" = some (.ofNat final) := by
  unfold Line.takeText at h
  dsimp only at h
  split at h
  · simp at h
  · split at h
    · rename_i f hf
      unfold Line.offer at h
      split at h
      · simp at h
      · split at h
        · rename_i q hq
          obtain ⟨-, -, rfl⟩ := Feed.Queue.tryEnqueue_eq_some.1 hq
          simp only [Feed.Queue.store_items, List.append_cancel_left_eq, List.cons.injEq, and_true] at h
          subst h
          obtain ⟨hparse, hrange⟩ := parseStreamText_keeps_range hf
          exact ⟨f.body, f.firstUpdateId, f.finalUpdateId, hparse, rfl, hrange⟩
        · split at h <;> simp at h
    · simp at h
    · simp at h

end BookRelay.Pipeline
