import BookRelay.Proofs.JsonReaderForm
import BookRelay.Feed.Event

/-!
# Frames read back

An event goes to the sink as the compact text of the object with members `connector`, `type`
and `data`, in that order. Reading that text gives the object back, its members sorted by key,
as long as it nests no deeper than the reader allows. The frame is one level deeper than its
payload: a payload nested at most 126 deep comes back, and a payload nested 127 deep, the
deepest the reader itself gives, makes its frame too deep, so reading it fails with the
recursion limit.
-/

namespace BookRelay.Feed

open BookRelay.Json BookRelay.Text

namespace Event

/-- The object an event is sent as: connector, type and data, in that order. -/
def wireObject (e : Event) (connector : String) : Value :=
  .object [("connector", .string connector), ("type", .number (.nat e.kind.wireCode)),
    ("data", e.payload)]

/-- The frame is the compact text of the wire object. -/
theorem frame_eq_render (e : Event) (connector : String) :
    e.frame connector = (e.wireObject connector).render := by
  have hconnector : quote "connector" = "\"connector\"" := by decide
  have htype : quote "type" = "\"type\"" := by decide
  have hdata : quote "data" = "\"data\"" := by decide
  -- the frame spells each key with its quotes, colon and the comma before it as one piece
  have hfirst : ∀ x : String, "\x7b" ++ ("\"connector\"" ++ (":" ++ x)) = "\x7b\"connector\":" ++ x :=
    fun x => by simp only [← String.append_assoc, String.reduceAppend]
  have hsecond : ∀ x : String, "," ++ ("\"type\"" ++ (":" ++ x)) = ",\"type\":" ++ x :=
    fun x => by simp only [← String.append_assoc, String.reduceAppend]
  have hthird : ∀ x : String, "," ++ ("\"data\"" ++ (":" ++ x)) = ",\"data\":" ++ x :=
    fun x => by simp only [← String.append_assoc, String.reduceAppend]
  unfold Event.frame
  simp only [wireObject, Value.render, renderFields, Number.text, hconnector, htype, hdata,
    String.append_assoc, hfirst, hsecond, hthird]

theorem wireCode_le (k : Kind) : k.wireCode ≤ 2 := by
  cases k <;> decide

theorem wireObject_exact {e : Event} (h : e.payload.everyNumber Number.exact = true)
    (connector : String) : (e.wireObject connector).everyNumber Number.exact = true := by
  have hcode : e.kind.wireCode ≤ u64Max := Nat.le_trans (wireCode_le _) (by decide)
  simp [wireObject, Value.everyNumber, everyFieldNumber, Number.exact, h, hcode]

theorem wireObject_depth (e : Event) (connector : String) :
    (e.wireObject connector).depth = e.payload.depth + 1 := by
  simp [wireObject, Value.depth, fieldsDepth]

/-- The reader sorts the members: connector, data, type. -/
theorem wireObject_normal (e : Event) (connector : String) :
    (e.wireObject connector).normal =
      .object [("connector", .string connector), ("data", e.payload.normal),
        ("type", .number (.nat e.kind.wireCode))] := by
  have htc : ¬ ("type" : String) < "connector" := by decide
  have hdc : ¬ ("data" : String) < "connector" := by decide
  have hdt : ("data" : String) < "type" := by decide
  have htc' : (("type" : String) == "connector") = false := by decide
  have hdc' : (("data" : String) == "connector") = false := by decide
  simp [wireObject, Value.normal, normalFields, Value.ofMembers, Value.insertField, htc, hdc, hdt,
    htc', hdc']

/-- The frame of an event whose payload has exact numbers reads back as its wire object, sorted
by key, when the payload nests at most 126 deep, and is refused for the recursion limit when it
nests deeper. -/
theorem parse_frame {e : Event} (hx : e.payload.everyNumber Number.exact = true)
    (connector : String) :
    (e.payload.depth ≤ 126 → parse (e.frame connector) =
      .ok (.object [("connector", .string connector), ("data", e.payload.normal),
        ("type", .number (.nat e.kind.wireCode))])) ∧
    (127 ≤ e.payload.depth → ∃ offset, parse (e.frame connector) =
      .error ((⟨.recursionLimit, offset⟩ : ReadFailure).toError (Utf8.encode (e.frame connector)))) := by
  have hwire := wireObject_exact hx connector
  have hdepth := wireObject_depth e connector
  rw [frame_eq_render]
  constructor
  · intro hd
    rw [parse_render hwire (by omega), wireObject_normal]
  · intro hd
    exact parse_render_deep hwire (by omega)

/-- Frames read back: for an event whose payload the reader gave and holds integers only, the
frame is the compact text of connector, type and data, in that order; reading it gives back the
connector, the payload and the wire code, sorted by key, when the payload nests at most 126
deep; and when it nests 127 deep, the reader refuses the frame for its recursion limit. -/
theorem frame_reads_back {s : String} {e : Event} (hp : parse s = .ok e.payload)
    (hint : e.payload.everyNumber Number.isInteger = true) (connector : String) :
    e.frame connector = (Value.object [("connector", .string connector),
        ("type", .number (.nat e.kind.wireCode)), ("data", e.payload)]).render ∧
    (e.payload.depth ≤ 126 → parse (e.frame connector) =
      .ok (.object [("connector", .string connector), ("data", e.payload),
        ("type", .number (.nat e.kind.wireCode))])) ∧
    (127 ≤ e.payload.depth → ∃ offset, parse (e.frame connector) =
      .error ((⟨.recursionLimit, offset⟩ : ReadFailure).toError (Utf8.encode (e.frame connector)))) := by
  have hform := parse_form hp
  have hframe := parse_frame (hform.exact hint) connector
  rw [hform.normal] at hframe
  exact ⟨frame_eq_render e connector, hframe⟩

/-- A depth update as the exchange sends it, framed for the sink, reads back. -/
theorem frame_reads_back_of_depth_update :
    parse (Value.object [("E", .number (.nat 1700000000001)), ("U", .number (.nat 1)),
        ("a", .array []), ("b", .array [.array [.string "100.0", .string "1.0"]]),
        ("e", .string "depthUpdate"), ("s", .string "BTCUSDT"), ("u", .number (.nat 2))]).render =
      .ok (.object [("E", .number (.nat 1700000000001)), ("U", .number (.nat 1)),
        ("a", .array []), ("b", .array [.array [.string "100.0", .string "1.0"]]),
        ("e", .string "depthUpdate"), ("s", .string "BTCUSDT"), ("u", .number (.nat 2))]) ∧
    parse ((⟨.incremental 1 2, .object [("E", .number (.nat 1700000000001)),
        ("U", .number (.nat 1)), ("a", .array []),
        ("b", .array [.array [.string "100.0", .string "1.0"]]), ("e", .string "depthUpdate"),
        ("s", .string "BTCUSDT"), ("u", .number (.nat 2))]⟩ : Event).frame "Binance") =
      .ok (.object [("connector", .string "Binance"),
        ("data", .object [("E", .number (.nat 1700000000001)), ("U", .number (.nat 1)),
          ("a", .array []), ("b", .array [.array [.string "100.0", .string "1.0"]]),
          ("e", .string "depthUpdate"), ("s", .string "BTCUSDT"), ("u", .number (.nat 2))]),
        ("type", .number (.nat 2))]) := by
  have hp := parse_render (v := .object [("E", .number (.nat 1700000000001)),
    ("U", .number (.nat 1)), ("a", .array []),
    ("b", .array [.array [.string "100.0", .string "1.0"]]), ("e", .string "depthUpdate"),
    ("s", .string "BTCUSDT"), ("u", .number (.nat 2))]) rfl (by decide)
  have hnormal : Value.normal (.object [("E", .number (.nat 1700000000001)),
      ("U", .number (.nat 1)), ("a", .array []),
      ("b", .array [.array [.string "100.0", .string "1.0"]]), ("e", .string "depthUpdate"),
      ("s", .string "BTCUSDT"), ("u", .number (.nat 2))]) =
    .object [("E", .number (.nat 1700000000001)), ("U", .number (.nat 1)), ("a", .array []),
      ("b", .array [.array [.string "100.0", .string "1.0"]]), ("e", .string "depthUpdate"),
      ("s", .string "BTCUSDT"), ("u", .number (.nat 2))] := rfl
  rw [hnormal] at hp
  exact ⟨hp, (frame_reads_back hp rfl "Binance").2.1 (by decide)⟩

set_option maxRecDepth 8000 in
/-- The deepest payload the reader gives, a depth update whose bid list nests 126 arrays deep,
makes a frame the reader refuses: the frame nests 128 deep. -/
theorem frame_of_deepest_payload_refused :
    parse (Value.object [("E", .number (.nat 1)), ("U", .number (.nat 1)), ("a", .array []),
        ("b", Nat.repeat (fun v => Value.array [v]) 125 (.array [])),
        ("e", .string "depthUpdate"), ("s", .string "BTCUSDT"), ("u", .number (.nat 2))]).render =
      .ok (.object [("E", .number (.nat 1)), ("U", .number (.nat 1)), ("a", .array []),
        ("b", Nat.repeat (fun v => Value.array [v]) 125 (.array [])),
        ("e", .string "depthUpdate"), ("s", .string "BTCUSDT"), ("u", .number (.nat 2))]) ∧
    ∃ offset, parse ((⟨.incremental 1 2, .object [("E", .number (.nat 1)),
        ("U", .number (.nat 1)), ("a", .array []),
        ("b", Nat.repeat (fun v => Value.array [v]) 125 (.array [])),
        ("e", .string "depthUpdate"), ("s", .string "BTCUSDT"), ("u", .number (.nat 2))]⟩ : Event).frame
          "Binance") =
      .error ((⟨.recursionLimit, offset⟩ : ReadFailure).toError (Utf8.encode
        ((⟨.incremental 1 2, .object [("E", .number (.nat 1)), ("U", .number (.nat 1)),
          ("a", .array []), ("b", Nat.repeat (fun v => Value.array [v]) 125 (.array [])),
          ("e", .string "depthUpdate"), ("s", .string "BTCUSDT"), ("u", .number (.nat 2))]⟩ :
            Event).frame "Binance"))) := by
  have hexact : Value.everyNumber Number.exact (.object [("E", .number (.nat 1)),
      ("U", .number (.nat 1)), ("a", .array []),
      ("b", Nat.repeat (fun v => Value.array [v]) 125 (.array [])),
      ("e", .string "depthUpdate"), ("s", .string "BTCUSDT"), ("u", .number (.nat 2))]) = true := rfl
  have hdepth : Value.depth (.object [("E", .number (.nat 1)), ("U", .number (.nat 1)),
      ("a", .array []), ("b", Nat.repeat (fun v => Value.array [v]) 125 (.array [])),
      ("e", .string "depthUpdate"), ("s", .string "BTCUSDT"), ("u", .number (.nat 2))]) = 127 := rfl
  have hnormal : Value.normal (.object [("E", .number (.nat 1)), ("U", .number (.nat 1)),
      ("a", .array []), ("b", Nat.repeat (fun v => Value.array [v]) 125 (.array [])),
      ("e", .string "depthUpdate"), ("s", .string "BTCUSDT"), ("u", .number (.nat 2))]) =
    .object [("E", .number (.nat 1)), ("U", .number (.nat 1)), ("a", .array []),
      ("b", Nat.repeat (fun v => Value.array [v]) 125 (.array [])),
      ("e", .string "depthUpdate"), ("s", .string "BTCUSDT"), ("u", .number (.nat 2))] := rfl
  refine ⟨?_, (parse_frame (e := ⟨.incremental 1 2, _⟩) hexact "Binance").2 (Nat.le_of_eq hdepth.symm)⟩
  rw [parse_render hexact (by omega), hnormal]

end Event

end BookRelay.Feed
