import BookRelay.Proofs.Delivery
import BookRelay.Pipeline.SocketSink
import BookRelay.Text.Utf8
import Mathlib.Data.List.Chain

/-!
# Whole frames on the socket

The socket sink writes each frame as its length in four big-endian bytes and then its text. A
write can fail part-way on a broken pipe, and the sink drops its connection; or it can be given
up part-way when the send outlasts the forwarder's wait, leaving a frame cut short on the
connection the sink still holds. `Plays` lists the ways a log of sends may have gone on the
socket; the socket sink's own runs are among them (`socket_sink_plays`).

Along every run of the forwarder, through its restarts, every failed send is followed at once
by a reset (`ResetsAfterFailure`), and such a log leaves every connection with whole frames and
at most one frame cut short, as its last bytes (`socket_carries_whole_frames`).
-/

namespace BookRelay.Scenario

open BookRelay.Pipeline BookRelay.Feed BookRelay.Time

/-! ## Frames on the socket -/

/-- A length in four big-endian bytes. -/
def lengthPrefix (n : Nat) : List UInt8 :=
  [n / 16777216, n / 65536, n / 256, n].map UInt8.ofNat

/-- The bytes of a frame on the socket: its length prefix, then its text. -/
def frameWire (frame : String) : List UInt8 :=
  lengthPrefix frame.utf8ByteSize ++ Text.Utf8.encode frame

theorem four_le_frameWire_length (frame : String) : 4 ≤ (frameWire frame).length := by
  simp [frameWire, lengthPrefix]

/-- What one send left on a connection: a whole frame, or a frame cut short after `kept` of
its bytes. -/
inductive Piece where
  | whole (frame : String)
  | cut (frame : String) (kept : Nat) (short : kept < (frameWire frame).length)

/-- The bytes a piece stands for. -/
def Piece.bytes : Piece → List UInt8
  | .whole frame => frameWire frame
  | .cut frame kept _ => (frameWire frame).take kept

/-- Pieces that are all whole frames. -/
def Whole (c : List Piece) : Prop := ∃ frames : List String, c = frames.map .whole

/-- Whole frames, then at most one frame cut short, as the last piece. -/
def Framed (c : List Piece) : Prop :=
  Whole c ∨ ∃ w x kept short, Whole w ∧ c = w ++ [.cut x kept short]

theorem Whole.nil : Whole [] := ⟨[], rfl⟩

theorem Whole.framed {c : List Piece} (h : Whole c) : Framed c := .inl h

theorem Whole.snoc_whole {c : List Piece} (h : Whole c) (x : String) : Whole (c ++ [.whole x]) := by
  obtain ⟨frames, rfl⟩ := h
  exact ⟨frames ++ [x], by simp⟩

theorem Whole.snoc_cut {c : List Piece} (h : Whole c) (x : String) (kept : Nat)
    (short : kept < (frameWire x).length) : Framed (c ++ [.cut x kept short]) :=
  .inr ⟨c, x, kept, short, h, rfl⟩

/-- The bytes of a framed connection: whole frames, then a proper prefix of one more frame,
possibly empty. -/
theorem Framed.bytes {c : List Piece} (h : Framed c) :
    ∃ (frames : List String) (x : String) (kept : Nat), kept < (frameWire x).length ∧
      c.flatMap Piece.bytes = frames.flatMap frameWire ++ (frameWire x).take kept := by
  rcases h with ⟨frames, rfl⟩ | ⟨w, x, kept, short, ⟨frames, rfl⟩, rfl⟩
  · -- nothing cut: an empty prefix of any frame
    refine ⟨frames, "", 0, by have := four_le_frameWire_length ""; omega, ?_⟩
    simp [List.flatMap_map, Piece.bytes]
  · refine ⟨frames, x, kept, short, ?_⟩
    simp [List.flatMap_map, Piece.bytes]

/-! ## The socket -/

/-- The socket as the sink's sends left it: the connections the sink dropped, oldest first,
and the one it holds, each as the pieces written to it. -/
structure Wire where
  dropped : List (List Piece) := []
  held : Option (List Piece) := none

namespace Wire

/-- Every connection made, oldest first. -/
def connections (w : Wire) : List (List Piece) := w.dropped ++ w.held.toList

/-- Write a piece on the connection held, connecting first when there is none. -/
def put (w : Wire) (p : Piece) : Wire := { w with held := some (w.held.getD [] ++ [p]) }

def drop (w : Wire) : Wire := { dropped := w.dropped ++ w.held.toList, held := none }

end Wire

namespace SinkRecord

/-- Whether this record is a send that failed, for a sender that waits at most `limit`. -/
def failed (limit : Duration) : SinkRecord → Bool
  | .sent _ s => (s.failure limit).isSome
  | .reset => false

/-- Two records in a row: a failed send is followed by a reset. -/
def ResetFollows (limit : Duration) (a b : SinkRecord) : Prop := a.failed limit = true → b = .reset

end SinkRecord

def endsFailed (limit : Duration) (log : List SinkRecord) : Bool :=
  (log.getLast?.map (SinkRecord.failed limit)).getD false

/-- The ways the logged sends of a socket sink may have gone on the socket, for a sender that
waits at most `limit`: a send that went through wrote its whole frame; a broken pipe cut it
short, and the sink dropped its connection; a refused connection wrote nothing; a send given up
on was cut short with the sink keeping its connection, or never connected; and a reset dropped
the connection. -/
inductive Plays (limit : Duration) : List SinkRecord → Wire → Prop
  | nil : Plays limit [] {}
  | delivered {log : List SinkRecord} {w : Wire} {frame : String} {s : SinkStep} :
      Plays limit log w → s.delivers limit = true →
      Plays limit (log ++ [.sent frame s]) (w.put (.whole frame))
  | broken {log : List SinkRecord} {w : Wire} {frame : String} (kept : Nat)
      (short : kept < (frameWire frame).length) : Plays limit log w →
      Plays limit (log ++ [.sent frame .io]) (w.put (.cut frame kept short)).drop
  | refused {log : List SinkRecord} {w : Wire} {frame : String} : Plays limit log w →
      w.held = none → Plays limit (log ++ [.sent frame .connect]) w
  | abandoned {log : List SinkRecord} {w : Wire} {frame : String} {s : SinkStep} (kept : Nat)
      (short : kept < (frameWire frame).length) : Plays limit log w →
      s.failure limit = some (.timeout limit) →
      Plays limit (log ++ [.sent frame s]) (w.put (.cut frame kept short))
  | stalled {log : List SinkRecord} {w : Wire} {frame : String} {s : SinkStep} :
      Plays limit log w → s.failure limit = some (.timeout limit) → w.held = none →
      Plays limit (log ++ [.sent frame s]) w
  | reset {log : List SinkRecord} {w : Wire} : Plays limit log w →
      Plays limit (log ++ [.reset]) w.drop

/-! ## A log with a reset after every failure keeps the connections framed -/

section Logs

variable {limit : Duration} {log : List SinkRecord}

theorem isChain_snoc {r : SinkRecord} :
    (log ++ [r]).IsChain (SinkRecord.ResetFollows limit) ↔
      log.IsChain (SinkRecord.ResetFollows limit) ∧ ∀ x ∈ log.getLast?, SinkRecord.ResetFollows limit x r := by
  simp [List.isChain_append]

@[simp] theorem endsFailed_snoc (r : SinkRecord) : endsFailed limit (log ++ [r]) = r.failed limit := by
  simp [endsFailed]

@[simp] theorem endsFailed_nil : endsFailed limit [] = false := rfl

/-- In a log with a reset after every failure, the record before a send is no failed send. -/
theorem endsFailed_of_isChain_sent {frame : String} {s : SinkStep}
    (h : (log ++ [SinkRecord.sent frame s]).IsChain (SinkRecord.ResetFollows limit)) :
    endsFailed limit log = false := by
  obtain ⟨-, hlast⟩ := isChain_snoc.1 h
  cases hl : log.getLast? with
  | none => simp [endsFailed, hl]
  | some x =>
    have hx := hlast x (by simp [hl])
    cases hf : x.failed limit
    · simp [endsFailed, hl, hf]
    · exact absurd (hx hf) (by simp)

theorem isChain_snoc_sent (frame : String) (s : SinkStep)
    (h : log.IsChain (SinkRecord.ResetFollows limit)) (hs : endsFailed limit log = false) :
    (log ++ [SinkRecord.sent frame s]).IsChain (SinkRecord.ResetFollows limit) := by
  refine isChain_snoc.2 ⟨h, fun x hx hfail => ?_⟩
  simp only [endsFailed, Option.mem_def.1 hx, Option.map_some, Option.getD_some] at hs
  simp [hs] at hfail

theorem isChain_snoc_reset (h : log.IsChain (SinkRecord.ResetFollows limit)) :
    (log ++ [SinkRecord.reset]).IsChain (SinkRecord.ResetFollows limit) :=
  isChain_snoc.2 ⟨h, fun _ _ _ => rfl⟩

end Logs

namespace Wire

/-- How a played log leaves the socket: every dropped connection framed, and the one held
whole, or framed while the log ends on the failed send that cut it. -/
structure Sound (limit : Duration) (log : List SinkRecord) (w : Wire) : Prop where
  dropped : ∀ c ∈ w.dropped, Framed c
  held : ∀ c, w.held = some c → Whole c ∨ (Framed c ∧ endsFailed limit log = true)

variable {limit : Duration} {log log' : List SinkRecord} {w : Wire}

theorem Sound.nil : Sound limit [] {} := ⟨by simp, by simp⟩

theorem Sound.framed (h : Sound limit log w) : ∀ c ∈ w.connections, Framed c := by
  intro c hc
  rcases List.mem_append.1 hc with hc | hc
  · exact h.dropped c hc
  · rcases h.held c (Option.mem_toList.1 hc) with hw | ⟨hf, -⟩
    · exact hw.framed
    · exact hf

/-- The held connection of a log that does not end on a failed send is whole. -/
theorem Sound.held_whole (h : Sound limit log w) (hs : endsFailed limit log = false) :
    Whole (w.held.getD []) := by
  cases hw : w.held with
  | none => exact Whole.nil
  | some c =>
    rcases h.held c hw with hc | ⟨-, hf⟩
    · exact hc
    · simp [hs] at hf

theorem Sound.put_whole (h : Sound limit log w) (hs : endsFailed limit log = false) (x : String) :
    Sound limit log' (w.put (.whole x)) where
  dropped := h.dropped
  held c hc := by
    cases hc
    exact .inl ((h.held_whole hs).snoc_whole x)

theorem Sound.put_cut (h : Sound limit log w) (hs : endsFailed limit log = false) (x : String)
    (kept : Nat) (short : kept < (frameWire x).length) (hlog : endsFailed limit log' = true) :
    Sound limit log' (w.put (.cut x kept short)) where
  dropped := h.dropped
  held c hc := by
    cases hc
    exact .inr ⟨(h.held_whole hs).snoc_cut x kept short, hlog⟩

theorem Sound.drop (h : Sound limit log w) : Sound limit log' w.drop where
  dropped c hc := by
    rcases List.mem_append.1 hc with hc | hc
    · exact h.dropped c hc
    · exact h.framed c (List.mem_append_right _ hc)
  held c hc := by cases hc

theorem Sound.unheld (hw : w.held = none) : Sound limit log w → Sound limit log' w :=
  fun h => ⟨h.dropped, fun c hc => by simp [hw] at hc⟩

end Wire

/-- Every way a log with a reset after every failure could have gone on the socket leaves the
connections framed: a send finds the connection held whole, since the record before it is no
failed send. -/
theorem Plays.sound {limit : Duration} {log : List SinkRecord} {w : Wire} (hp : Plays limit log w)
    (hc : log.IsChain (SinkRecord.ResetFollows limit)) : w.Sound limit log := by
  induction hp with
  | nil => exact .nil
  | delivered _ _ ih =>
    exact (ih (isChain_snoc.1 hc).1).put_whole (endsFailed_of_isChain_sent hc) _
  | @broken _ w₁ frame kept short _ ih =>
    -- the cut is dropped with the connection in the same send
    have hcut : Wire.Sound limit [SinkRecord.sent frame .io] (w₁.put (.cut frame kept short)) :=
      (ih (isChain_snoc.1 hc).1).put_cut (endsFailed_of_isChain_sent hc) frame kept short rfl
    exact hcut.drop
  | refused _ hw ih => exact (ih (isChain_snoc.1 hc).1).unheld hw
  | abandoned kept short _ hs ih =>
    exact (ih (isChain_snoc.1 hc).1).put_cut (endsFailed_of_isChain_sent hc) _ kept short
      (by simp [SinkRecord.failed, hs])
  | stalled _ _ hw ih => exact (ih (isChain_snoc.1 hc).1).unheld hw
  | reset _ ih => exact (ih (isChain_snoc.1 hc).1).drop

/-! ## The socket sink's sends are plays

The socket sink writes a frame whole or not at all, so what it leaves on the listening side is
one of the ways `Plays` allows, a failed write being a frame cut short after none of its bytes
(`socket_sink_plays`). -/

/-- The record a send of the socket sink leaves in a sink's log. -/
def socketRecord (frame : String) : Except SinkError Unit → SinkRecord
  | .ok () => .sent frame .ok
  | .error (.connect _) => .sent frame .connect
  | .error _ => .sent frame .io

/-- A run of the socket sink from a fresh sink and a listening side that never listened, with
the log of its sends and resets; the listening side moves in between. -/
inductive SocketRun : List SinkRecord → SocketSink × SocketPeer → Prop
  | start (path : String) : SocketRun [] (⟨path, none⟩, {})
  | send {log : List SinkRecord} {s : SocketSink} {p : SocketPeer} (frame : String) :
      SocketRun log (s, p) →
      SocketRun (log ++ [socketRecord frame (s.send p frame).1]) (s.send p frame).2
  | reset {log : List SinkRecord} {s : SocketSink} {p : SocketPeer} :
      SocketRun log (s, p) → SocketRun (log ++ [.reset]) (s.reset, p)
  | listen {log : List SinkRecord} {s : SocketSink} {p : SocketPeer} :
      SocketRun log (s, p) → SocketRun log (s, p.listen)
  | unlisten {log : List SinkRecord} {s : SocketSink} {p : SocketPeer} :
      SocketRun log (s, p) → SocketRun log (s, p.unlisten)
  | accept {log : List SinkRecord} {s : SocketSink} {p : SocketPeer} :
      SocketRun log (s, p) → SocketRun log (s, p.accept.2)

/-- The bytes on each connection of a wire, oldest first. -/
def Wire.bytes (w : Wire) : List (List UInt8) := w.connections.map fun c => c.flatMap Piece.bytes

/-- The bytes written to each connection of the listening side, oldest first. -/
def peerBytes (p : SocketPeer) : List (List UInt8) :=
  p.connections.map fun c => c.frames.flatMap frameWire

/-- A wire that shows the socket: the same bytes on every connection, and a connection held
exactly when the sink holds one, always the newest. -/
structure SocketShows (s : SocketSink) (p : SocketPeer) (w : Wire) : Prop where
  bytes : w.bytes = peerBytes p
  held : s.current.isSome = w.held.isSome
  newest : ∀ i, s.current = some i → i + 1 = p.connections.length

theorem map_modify_of_comp {α β : Type} {f : α → α} {g : α → β} (hg : ∀ a, g (f a) = g a)
    (i : Nat) (l : List α) : (l.modify i f).map g = l.map g := by
  induction l generalizing i with
  | nil => simp
  | cons a l ih => cases i <;> simp [hg, ih]

theorem modify_concat_length {α : Type} (f : α → α) (l : List α) (a : α) :
    (l ++ [a]).modify l.length f = l ++ [f a] := by
  induction l with
  | nil => simp
  | cons b l ih => simp [ih]

namespace Wire

theorem bytes_of_unheld {w : Wire} (hw : w.held = none) :
    w.bytes = w.dropped.map (·.flatMap Piece.bytes) := by
  simp [bytes, connections, hw]

theorem bytes_of_held {w : Wire} {c : List Piece} (hw : w.held = some c) :
    w.bytes = w.dropped.map (·.flatMap Piece.bytes) ++ [c.flatMap Piece.bytes] := by
  simp [bytes, connections, hw]

theorem bytes_drop (w : Wire) : w.drop.bytes = w.bytes := by
  simp [bytes, drop, connections]

/-- The wire with the connection it holds, an empty one made if it holds none. -/
def opened (w : Wire) : Wire := { w with held := some (w.held.getD []) }

theorem opened_of_held {w : Wire} {c : List Piece} (hw : w.held = some c) : w.opened = w := by
  cases w
  simp_all [opened]

@[simp] theorem put_dropped (w : Wire) (x : Piece) : (w.put x).dropped = w.dropped := rfl

end Wire

section SocketSink

variable {s : SocketSink} {p : SocketPeer} {w : Wire}

theorem SocketSink.connection_eq_error {e : SinkError} (h : s.connection p = .error e) :
    s.current = none ∧ p.listening = false ∧ e = .connect .notFound := by
  unfold SocketSink.connection at h
  split at h
  · cases h
  · rename_i hcur
    split at h
    · cases h
    · rename_i hl
      cases h
      exact ⟨hcur, by simpa using hl, rfl⟩

/-- The listening side's own moves write nothing and make no connection. -/
theorem SocketShows.of_peer {p' : SocketPeer} (h : SocketShows s p w)
    (hc : p'.connections.map PeerConnection.frames = p.connections.map PeerConnection.frames) :
    SocketShows s p' w := by
  have hb : peerBytes p' = peerBytes p := by
    have := congrArg (List.map fun fs => fs.flatMap frameWire) hc
    simpa [peerBytes, List.map_map, Function.comp_def] using this
  have hl : p'.connections.length = p.connections.length := by
    simpa using congrArg List.length hc
  exact ⟨h.bytes.trans hb.symm, h.held, fun i hi => (h.newest i hi).trans hl.symm⟩

theorem SocketShows.unlisten (h : SocketShows s p w) : SocketShows s p.unlisten w := by
  refine h.of_peer ?_
  simp only [SocketPeer.unlisten, List.map_map]
  congr 1
  funext c
  simp only [Function.comp_apply]
  split <;> rfl

theorem SocketShows.accept (h : SocketShows s p w) : SocketShows s p.accept.2 w := by
  unfold SocketPeer.accept
  split
  · exact h
  · exact h.of_peer (map_modify_of_comp (f := fun c => { c with taken := true })
      (g := PeerConnection.frames) (fun _ => rfl) _ _)

theorem SocketShows.reset (h : SocketShows s p w) : SocketShows s.reset p w.drop :=
  ⟨(Wire.bytes_drop w).trans h.bytes, by simp [SocketSink.reset, Wire.drop], fun _ h => by cases h⟩

/-- Taking a connection, the one held or a new one, shows on the wire as the connection held. -/
theorem SocketShows.connect {i : Nat} {p₁ : SocketPeer} (h : SocketShows s p w)
    (hc : s.connection p = .ok (i, p₁)) : SocketShows { s with current := some i } p₁ w.opened := by
  cases hcur : s.current with
  | some j =>
    -- the connection held stays
    simp only [SocketSink.connection, hcur, Except.ok.injEq, Prod.mk.injEq] at hc
    obtain ⟨rfl, rfl⟩ := hc
    obtain ⟨c, hw⟩ := Option.isSome_iff_exists.1 (h.held.symm.trans (by simp [hcur]))
    rw [Wire.opened_of_held hw]
    exact ⟨h.bytes, by simp [hw], fun _ hi => by cases hi; exact h.newest j hcur⟩
  | none =>
    -- a new connection, the newest, empty on both sides
    have hw : w.held = none := by simpa [hcur] using h.held.symm
    by_cases hl : p.listening = true
    · simp only [SocketSink.connection, hcur, hl, if_true, Except.ok.injEq, Prod.mk.injEq] at hc
      obtain ⟨rfl, rfl⟩ := hc
      refine ⟨?_, rfl, fun _ hi => by cases hi; simp⟩
      rw [Wire.bytes_of_held (c := []) (by simp [Wire.opened, hw])]
      have hb := h.bytes
      rw [Wire.bytes_of_unheld hw] at hb
      simp [peerBytes, Wire.opened, hb]
    · simp [SocketSink.connection, hcur, hl] at hc

/-- A failed write drops the connection: on the wire, a frame cut short after none of its
bytes, and the connection dropped. -/
theorem SocketShows.broken {i : Nat} (h : SocketShows { s with current := some i } p w)
    (frame : String) (short : 0 < (frameWire frame).length) :
    SocketShows { s with current := none } p (w.put (.cut frame 0 short)).drop := by
  obtain ⟨c, hw⟩ := Option.isSome_iff_exists.1 (h.held.symm.trans rfl)
  refine ⟨?_, by simp [Wire.drop], fun _ h => by cases h⟩
  rw [Wire.bytes_drop, Wire.bytes_of_held (c := c ++ [.cut frame 0 short]) (by simp [Wire.put, hw]),
    ← h.bytes, Wire.bytes_of_held hw]
  simp [Piece.bytes]

/-- A write that goes through appends the frame whole to the newest connection on both sides. -/
theorem SocketShows.delivered {i : Nat} (h : SocketShows { s with current := some i } p w)
    (frame : String) :
    SocketShows { s with current := some i }
      { p with connections := p.connections.modify i fun c => { c with frames := c.frames ++ [frame] } }
      (w.put (.whole frame)) := by
  obtain ⟨c, hw⟩ := Option.isSome_iff_exists.1 (h.held.symm.trans rfl)
  have hi := h.newest i rfl
  -- the connection written to is the newest: the last of the list
  obtain ⟨older, newest, hsplit⟩ : ∃ older newest, p.connections = older ++ [newest] := by
    rcases List.eq_nil_or_concat p.connections with hnil | ⟨older, newest, hs⟩
    · simp [hnil] at hi
    · exact ⟨older, newest, by simpa using hs⟩
  have hlen : i = older.length := by simpa [hsplit] using hi
  have hb := h.bytes
  rw [Wire.bytes_of_held hw] at hb
  simp only [peerBytes, hsplit, List.map_append, List.map_cons, List.map_nil] at hb
  obtain ⟨hold, hnew⟩ := List.append_inj' hb rfl
  refine ⟨?_, rfl, fun j hj => ?_⟩
  · rw [Wire.bytes_of_held (c := c ++ [.whole frame]) (by simp [Wire.put, hw])]
    simp only [peerBytes, hsplit, hlen, modify_concat_length, List.map_append, List.map_cons,
      List.map_nil]
    simp only [List.cons.injEq, and_true] at hnew
    simp [hold, hnew, Piece.bytes]
  · cases hj
    simp [hsplit, hlen]

/-- What one send of the socket sink does, as a play of its record. -/
theorem SocketShows.send {limit : Duration} {log : List SinkRecord} (h : SocketShows s p w)
    (hp : Plays limit log w) (frame : String) :
    ∃ w', Plays limit (log ++ [socketRecord frame (s.send p frame).1]) w' ∧
      SocketShows (s.send p frame).2.1 (s.send p frame).2.2 w' := by
  have hshort : 0 < (frameWire frame).length := by have := four_le_frameWire_length frame; omega
  unfold SocketSink.send
  cases hc : s.connection p with
  | error e =>
    -- only a refused connection fails, and the sink held none
    obtain ⟨hcur, -, rfl⟩ := SocketSink.connection_eq_error hc
    have hw : w.held = none := by simpa [hcur] using h.held.symm
    exact ⟨w, .refused hp hw, h⟩
  | ok r =>
    obtain ⟨i, p₁⟩ := r
    have h₁ := h.connect hc
    -- a frame too long and a dropped connection both fail as a broken write
    have hbroken : ∃ w', Plays limit (log ++ [.sent frame .io]) w' ∧
        SocketShows { s with current := none } p₁ w' :=
      ⟨_, .broken 0 hshort hp, h₁.broken frame hshort⟩
    dsimp only
    split
    · exact hbroken
    · split
      · exact hbroken
      · exact ⟨_, .delivered hp rfl, h₁.delivered frame⟩

/-- Every run of the socket sink, whatever the listening side does in between, writes on each
connection what one of the plays of its log writes, for a sender that waits any time. -/
theorem socket_sink_plays (limit : Duration) {log : List SinkRecord} {sp : SocketSink × SocketPeer}
    (h : SocketRun log sp) : ∃ w, Plays limit log w ∧ SocketShows sp.1 sp.2 w := by
  induction h with
  | start path => exact ⟨{}, .nil, ⟨rfl, rfl, fun _ h => by cases h⟩⟩
  | send frame _ ih =>
    obtain ⟨w, hp, hs⟩ := ih
    exact hs.send hp frame
  | reset _ ih =>
    obtain ⟨w, hp, hs⟩ := ih
    exact ⟨w.drop, .reset hp, hs.reset⟩
  | listen _ ih =>
    obtain ⟨w, hp, hs⟩ := ih
    exact ⟨w, hp, hs.of_peer rfl⟩
  | unlisten _ ih =>
    obtain ⟨w, hp, hs⟩ := ih
    exact ⟨w, hp, hs.unlisten⟩
  | accept _ ih =>
    obtain ⟨w, hp, hs⟩ := ih
    exact ⟨w, hp, hs.accept⟩

end SocketSink

/-! ## The forwarder resets the sink after every failed try -/

namespace ForwardTask

/-- Whether the forwarder waits on a try that has failed: a send given up on, not yet over. -/
def awaitsFailure (f : ForwardTask) : Bool :=
  match f.stage with
  | .sending _ _ _ _ (.error _) => true
  | _ => false

end ForwardTask

/-- The sink log of forwarder `f`: every failed send is followed at once by a reset, and the
log ends on a failed send only while the forwarder still waits on that send. -/
structure ResetsAfterFailure (f : ForwardTask) (log : List SinkRecord) : Prop where
  chain : log.IsChain (SinkRecord.ResetFollows f.settings.sendTimeout)
  waiting : endsFailed f.settings.sendTimeout log = true → f.awaitsFailure = true

namespace ResetsAfterFailure

variable {f f' : ForwardTask} {log : List SinkRecord}

theorem settled (h : ResetsAfterFailure f log) (ha : f.awaitsFailure = false) :
    endsFailed f.settings.sendTimeout log = false := by
  cases he : endsFailed f.settings.sendTimeout log
  · rfl
  · simp [h.waiting he] at ha

/-- A move that keeps the log and the settings, and leaves a forwarder waiting on a failed try
still waiting on it. -/
theorem keep (h : ResetsAfterFailure f log) (hs : f'.settings = f.settings)
    (ha : f.awaitsFailure = true → f'.awaitsFailure = true) : ResetsAfterFailure f' log where
  chain := hs ▸ h.chain
  waiting he := ha (h.waiting (hs ▸ he))

end ResetsAfterFailure

namespace ForwardTask

variable {f : ForwardTask} {sh : Shared} {e : Event} {k : Nat} {fromQueue : Bool}

/-- Settling a try resets the sink when the try failed, and leaves the forwarder waiting on
nothing. -/
theorem settle_resets (o : Except SinkError Unit)
    (hc : sh.sink.log.IsChain (SinkRecord.ResetFollows f.settings.sendTimeout))
    (hs : o = .ok () → endsFailed f.settings.sendTimeout sh.sink.log = false) :
    ResetsAfterFailure (f.settle sh e k fromQueue o).1 (f.settle sh e k fromQueue o).2.sink.log := by
  unfold settle
  cases o with
  | ok u =>
    have hsettled := hs rfl
    dsimp only
    split
    · exact ⟨hc, fun he => by simp [hsettled] at he⟩
    · exact ⟨hc, fun he => by simp [hsettled] at he⟩
  | error err =>
    dsimp only
    split
    · exact ⟨isChain_snoc_reset hc, fun he => by simp [ScriptedSink.reset, SinkRecord.failed] at he⟩
    · exact ⟨isChain_snoc_reset hc, fun he => by simp [ScriptedSink.reset, SinkRecord.failed] at he⟩

/-- A try logs its send after a record that is no failed send; a failure is settled with a reset
at once, or the forwarder waits on it. -/
theorem attempt_resets (hc : sh.sink.log.IsChain (SinkRecord.ResetFollows f.settings.sendTimeout))
    (hs : endsFailed f.settings.sendTimeout sh.sink.log = false) :
    ResetsAfterFailure (f.attempt sh e k fromQueue).1 (f.attempt sh e k fromQueue).2.sink.log := by
  simp only [attempt, ScriptedSink.take_eq]
  generalize sh.sink.script.headD .ok = st
  have hc' := isChain_snoc_sent (e.frame f.settings.connectorName) st hc hs
  cases st with
  | hang => exact ⟨hc', fun _ => rfl⟩
  | delay ms =>
    dsimp only
    split
    · rename_i hms
      exact ⟨hc', fun he => by simp [SinkRecord.failed, SinkStep.failure, hms] at he⟩
    · exact ⟨hc', fun _ => rfl⟩
  | panic => exact ⟨hc', fun he => by simp [SinkRecord.failed, SinkStep.failure,
      SinkStep.failure?] at he⟩
  | ok =>
    have hok : SinkRecord.failed f.settings.sendTimeout
        (.sent (e.frame f.settings.connectorName) .ok) = false := rfl
    exact settle_resets _ hc' fun _ => by simp [hok]
  | io | connect | closed => exact settle_resets _ hc' fun h => by cases h

/-- Every move of the forwarder keeps the sink's log with a reset after every failure. -/
theorem step_resets (h : ResetsAfterFailure f sh.sink.log) :
    ResetsAfterFailure (f.step sh).1 (f.step sh).2.sink.log := by
  unfold step
  -- a forwarder about to try an event waits on no failed try, so its log is settled
  have hready : f.awaitsFailure = false → endsFailed f.settings.sendTimeout sh.sink.log = false :=
    h.settled
  have hrest : ∀ f' : ForwardTask, f'.settings = f.settings → f.awaitsFailure = false →
      ResetsAfterFailure f' sh.sink.log := fun f' hs ha =>
    h.keep hs fun h' => by simp [ha] at h'
  cases hstage : f.stage with
  | stopped r => exact h
  | starting =>
    have ha : f.awaitsFailure = false := by simp [awaitsFailure, hstage]
    dsimp only
    cases hp : f.pending with
    | some e => exact attempt_resets h.chain (hready ha)
    | none => exact hrest _ rfl ha
  | polling deadline =>
    have ha : f.awaitsFailure = false := by simp [awaitsFailure, hstage]
    dsimp only
    split
    · exact attempt_resets h.chain (hready ha)
    · split
      · exact hrest _ rfl ha
      · split
        · split
          · exact hrest _ rfl ha
          · exact hrest _ rfl ha
        · exact h
  | sending e k fromQueue endsAt outcome =>
    dsimp only
    split
    · refine settle_resets outcome h.chain fun ho => hready ?_
      simp [awaitsFailure, hstage, ho]
    · exact h
  | pausing e k fromQueue resumeAt =>
    have ha : f.awaitsFailure = false := by simp [awaitsFailure, hstage]
    dsimp only
    split
    · exact attempt_resets h.chain (hready ha)
    · exact h

end ForwardTask

/-- Along every run of a forwarder on a fresh sink, through its restarts, the sink's log has a
reset after every failed send, and the settings stay. -/
theorem ForwardRun.resets {f₀ : ForwardTask} {sh₀ : Shared} (hfresh : sh₀.sink.log = [])
    {f : ForwardTask} {sh : Shared} {arrived : List Event} {start : Nat}
    (hrun : ForwardRun f₀ sh₀ f sh arrived start) :
    ResetsAfterFailure f sh.sink.log ∧ f.settings = f₀.settings := by
  induction hrun with
  | start => exact ⟨⟨by simp [hfresh], by simp [hfresh]⟩, rfl⟩
  | move _ ih => exact ⟨ForwardTask.step_resets ih.1, ForwardTask.step_settings.trans ih.2⟩
  | arrive sh' new _ hsink _ ih =>
    rw [hsink]
    exact ih
  | @restart f _ _ _ err e _ hstop ih =>
    -- a run that gave up waits on nothing; the new run starts from its log
    have ha : f.awaitsFailure = false := by simp [ForwardTask.awaitsFailure, hstop]
    exact ⟨ih.1.keep rfl fun h' => by simp [ha] at h', ih.2⟩

/-- Whatever the sink does on each try, and whatever the rest of the program does between
moves, along every run of a forwarder on a fresh sink, through its restarts: every failed send
is followed at once by a reset, the log ending on a failed send only while the forwarder still
waits on it; and however the sends went on the socket, the connection the sink holds carries
whole frames only, unless the forwarder still waits on the send that cut it, and every
connection carries whole frames and at most one frame cut short, as its last piece and its last
bytes. -/
theorem socket_carries_whole_frames {f₀ : ForwardTask} {sh₀ : Shared}
    (hfresh : sh₀.sink.log = []) {f : ForwardTask} {sh : Shared} {arrived : List Event}
    {start : Nat} (hrun : ForwardRun f₀ sh₀ f sh arrived start) :
    ResetsAfterFailure f sh.sink.log ∧
      ∀ w, Plays f₀.settings.sendTimeout sh.sink.log w →
        (∀ c, w.held = some c → Whole c ∨ f.awaitsFailure = true) ∧
        ∀ c ∈ w.connections, Framed c ∧
          ∃ (frames : List String) (x : String) (kept : Nat), kept < (frameWire x).length ∧
            c.flatMap Piece.bytes = frames.flatMap frameWire ++ (frameWire x).take kept := by
  obtain ⟨hr, hs⟩ := hrun.resets hfresh
  refine ⟨hr, fun w hp => ?_⟩
  have hsound := hp.sound (hs ▸ hr.chain)
  refine ⟨fun c hc => ?_, fun c hc => ?_⟩
  · rcases hsound.held c hc with hw | ⟨-, hend⟩
    · exact .inl hw
    · exact .inr (hr.waiting (hs ▸ hend))
  · have hframed := hsound.framed c hc
    exact ⟨hframed, hframed.bytes⟩

/-- A forwarder handed back an event, on a fresh sink whose first send hangs, after its first
move. -/
theorem socket_carries_whole_frames_after_hang :
    let f₀ : ForwardTask := { settings := {}, pending := some ⟨.snapshot 7, .object []⟩ }
    let sh₀ : Shared := { line := { queue := Queue.bounded 1 }, sink := { script := [.hang] } }
    sh₀.sink.log = [] ∧
      ForwardRun f₀ sh₀ (f₀.step sh₀).1 (f₀.step sh₀).2 []
        (sh₀.sink.accepted f₀.settings.sendTimeout).length ∧
      (ResetsAfterFailure (f₀.step sh₀).1 (f₀.step sh₀).2.sink.log ∧
        ∀ w, Plays f₀.settings.sendTimeout (f₀.step sh₀).2.sink.log w →
          (∀ c, w.held = some c → Whole c ∨ (f₀.step sh₀).1.awaitsFailure = true) ∧
          ∀ c ∈ w.connections, Framed c ∧
            ∃ (frames : List String) (x : String) (kept : Nat), kept < (frameWire x).length ∧
              c.flatMap Piece.bytes = frames.flatMap frameWire ++ (frameWire x).take kept) := by
  intro f₀ sh₀
  have hrun : ForwardRun f₀ sh₀ (f₀.step sh₀).1 (f₀.step sh₀).2 []
      (sh₀.sink.accepted f₀.settings.sendTimeout).length := .move .start
  exact ⟨rfl, hrun, socket_carries_whole_frames rfl hrun⟩

end BookRelay.Scenario
