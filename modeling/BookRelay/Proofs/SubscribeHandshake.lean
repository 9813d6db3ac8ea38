import BookRelay.Proofs.StreamText
import BookRelay.Scenario.Probe

/-!
# The subscription handshake of a connection

A probe that subscribes sends its request with the connection's next request id, counts that id
up, and waits for the answer until a deadline. Each move of the wait reads what the connection
gives (`Sight`) and either ends the wait with an answer (`AckDecides`) or waits on (`AckWaits`):
a reply to the request ends it, subscribed or rejected by its error; so does a close frame, the
end of the stream, a failure of the transport or of the pong for a ping, and silence past the
deadline. A ping is answered by a pong with its payload; any other frame is passed over.

A move that waits on leaves the probe as it was, so whatever the exchange sends and whenever,
the answer is that of the first move that decides (`AckWaitLaw`).

Main statement: `subscribe_handshake`.
-/

namespace BookRelay.Scenario

open BookRelay.Exchange

/-- What one move of the wait sees: the reading, the time of the move, and the connection as
the read left it. -/
structure Sight where
  reading : Link.Reading
  now : Nat
  link : Link

/-- What a move from shared state `sh` sees on the connection `l`. -/
def Sight.of (sh : Shared) (l : Link) : Sight := ⟨l.read.1, sh.now, l.read.2⟩

/-- The sights that end the wait for the answer to request `id`, with the answer each gives. -/
inductive AckDecides (id : Nat) (timeout : Time.Duration) (deadline : Nat) (s : Sight) :
    ProbeAnswer → Prop
  /-- A reply to the request without an error. -/
  | acked {f : Frame} {t : String} {r : Reply} (hr : s.reading = .frame f)
      (ht : f.inbound = .text t) (hp : parseStreamText t = .ok (.reply r)) (hid : r.id = id)
      (he : r.error = none) : AckDecides id timeout deadline s (.subscribed id)
  /-- A reply to the request with an error. -/
  | rejected {f : Frame} {t : String} {r : Reply} {e : ApiErrorBody} (hr : s.reading = .frame f)
      (ht : f.inbound = .text t) (hp : parseStreamText t = .ok (.reply r)) (hid : r.id = id)
      (he : r.error = some e) :
      AckDecides id timeout deadline s (.failed (.subscriptionRejected e.code e.msg))
  | closeFrame {f : Frame} {reason : Option String} (hr : s.reading = .frame f)
      (hc : f.inbound = .close reason) :
      AckDecides id timeout deadline s (.failed (.closed (reason.getD "close frame during subscribe")))
  | ended (hr : s.reading = .ended) :
      AckDecides id timeout deadline s (.failed (.closed "stream ended before subscription ack"))
  | failed {text : String} (hr : s.reading = .failed text) :
      AckDecides id timeout deadline s (.failed (.webSocket text))
  /-- A ping whose pong the connection refused. -/
  | pongRefused {f : Frame} {payload : List UInt8} {text : String} (hr : s.reading = .frame f)
      (hp : f.inbound = .ping payload) (hs : s.link.sendPong payload = .error text) :
      AckDecides id timeout deadline s (.failed (.webSocket text))
  /-- Nothing came, and the deadline has passed: a time-out of the whole milliseconds of the
  span, saturating. -/
  | timedOut (hr : s.reading = .waiting) (hd : deadline ≤ s.now) :
      AckDecides id timeout deadline s (.failed (.timeoutOfNanos timeout.toNanos))

/-- The sights on which the wait for the answer to request `id` goes on, with the connection
each leaves. -/
inductive AckWaits (id deadline : Nat) (s : Sight) : Link → Prop
  | silent (hr : s.reading = .waiting) (hd : s.now < deadline) : AckWaits id deadline s s.link
  /-- A text that is no reply to the request: another message, a reply to another request, or
  no stream message at all. -/
  | text {f : Frame} {t : String} (hr : s.reading = .frame f) (ht : f.inbound = .text t)
      (hn : ∀ r : Reply, parseStreamText t = .ok (.reply r) → r.id ≠ id) :
      AckWaits id deadline s s.link
  | ping {f : Frame} {payload : List UInt8} {l' : Link} (hr : s.reading = .frame f)
      (hp : f.inbound = .ping payload) (hs : s.link.sendPong payload = .ok l') :
      AckWaits id deadline s l'
  | pong {f : Frame} (hr : s.reading = .frame f) (hp : f.inbound = .pong) :
      AckWaits id deadline s s.link
  | undecodable {f : Frame} {n : Nat} (hr : s.reading = .frame f) (hu : f.inbound = .undecodable n) :
      AckWaits id deadline s s.link

variable {id deadline : Nat} {timeout : Time.Duration} {s : Sight} {a a' : ProbeAnswer} {l' : Link}

/-- No sight both ends the wait and lets it go on. -/
theorem AckDecides.not_waits (hd : AckDecides id timeout deadline s a) (hw : AckWaits id deadline s l') :
    False := by
  cases hd <;> cases hw <;> simp_all
  -- silence both before and past the deadline
  omega

theorem AckDecides.unique (h : AckDecides id timeout deadline s a)
    (h' : AckDecides id timeout deadline s a') : a = a' := by
  cases h <;> cases h' <;> simp_all

theorem AckWaits.unique {l₁ l₂ : Link} (h₁ : AckWaits id deadline s l₁) (h₂ : AckWaits id deadline s l₂) :
    l₁ = l₂ := by
  cases h₁ <;> cases h₂ <;> simp_all

theorem Shared.updateLink_twice (sh : Shared) (visit : Nat) (l₁ l₂ : Link) :
    (sh.updateLink visit fun _ => l₁).updateLink visit (fun _ => l₂) = sh.updateLink visit fun _ => l₂ := by
  simp only [Shared.updateLink, Exchange.update, List.modify_modify_eq]
  congr
  funext v
  cases v <;> rfl

namespace Probe

variable {p : Probe} {sh : Shared} {c : ProbeConnection} {l : Link}

/-- One move of a probe waiting for the answer to request `id` on its connection `c`: it ends
the wait with the answer of what it sees, or waits on unchanged, leaving the connection as the
sight says. -/
theorem step_subscribing (hs : p.stage = .subscribing id timeout deadline) (hc : p.conn = some c)
    (hl : sh.exchange.link? c.visit = some l) :
    (∃ a, AckDecides id timeout deadline (Sight.of sh l) a ∧
        p.step sh = (p.answer a, sh.updateLink c.visit fun _ => (Sight.of sh l).link)) ∨
      ∃ l', AckWaits id deadline (Sight.of sh l) l' ∧
        p.step sh = (p, sh.updateLink c.visit fun _ => l') := by
  unfold step
  rw [hs, hc]
  dsimp only
  rw [hl]
  -- With the sight unfolded to the read's own fields, each case's guards close by rfl.
  dsimp only [Sight.of]
  rcases hread : l.read with ⟨r, l₁⟩
  dsimp only
  cases r with
  | waiting =>
    by_cases hd : deadline ≤ sh.now
    · exact .inl ⟨_, .timedOut rfl hd, by simp [Shared.updateLink, hd]⟩
    · exact .inr ⟨_, .silent rfl (Nat.lt_of_not_le hd), by simp [Shared.updateLink, hd]⟩
  | failed text => exact .inl ⟨_, .failed rfl, rfl⟩
  | ended => exact .inl ⟨_, .ended rfl, rfl⟩
  | frame f =>
    unfold subscribeRead
    dsimp only
    cases hf : f.inbound with
    | text t =>
      dsimp only
      rcases hp : parseStreamText t with err | msg
      · exact .inr ⟨_, .text rfl hf (by simp [hp]), rfl⟩
      · cases msg with
        | reply r =>
          by_cases hid : r.id = id
          · rcases he : r.error with _ | e
            · exact .inl ⟨_, .acked rfl hf hp hid he, by simp [hid, he]⟩
            · exact .inl ⟨_, .rejected rfl hf hp hid he, by simp [hid, he]⟩
          · refine .inr ⟨_, .text rfl hf ?_, by simp [hid]⟩
            intro r' hr'
            simp only [hp, Except.ok.injEq, StreamMessage.reply.injEq] at hr'
            exact hr' ▸ hid
        | depth d => exact .inr ⟨_, .text rfl hf (by simp [hp]), rfl⟩
        | other v => exact .inr ⟨_, .text rfl hf (by simp [hp]), rfl⟩
    | ping payload =>
      dsimp only
      rcases hsend : l₁.sendPong payload with e | l'
      · exact .inl ⟨_, .pongRefused rfl hf hsend, rfl⟩
      · refine .inr ⟨_, .ping rfl hf hsend, ?_⟩
        dsimp only
        rw [Shared.updateLink_twice]
    | pong => exact .inr ⟨_, .pong rfl hf, rfl⟩
    | close reason => exact .inl ⟨_, .closeFrame rfl hf, rfl⟩
    | undecodable n => exact .inr ⟨_, .undecodable rfl hf, rfl⟩

theorem answer_ne (p : Probe) (a : ProbeAnswer) : p.answer a ≠ p := by
  intro h
  have hlen := congrArg (fun q : Probe => q.answers.length) h
  simp [answer] at hlen

theorem answer_inj {p : Probe} {a a' : ProbeAnswer} (h : p.answer a = p.answer a') : a = a' := by
  have hs := congrArg Probe.answers h
  simpa [answer] using hs

theorem step_of_decides (hs : p.stage = .subscribing id timeout deadline) (hc : p.conn = some c)
    (hl : sh.exchange.link? c.visit = some l) (hd : AckDecides id timeout deadline (Sight.of sh l) a) :
    p.step sh = (p.answer a, sh.updateLink c.visit fun _ => (Sight.of sh l).link) := by
  rcases step_subscribing hs hc hl with ⟨a', hd', hstep⟩ | ⟨l', hw, _⟩
  · rw [hstep, hd.unique hd']
  · exact (hd.not_waits hw).elim

theorem step_of_waits (hs : p.stage = .subscribing id timeout deadline) (hc : p.conn = some c)
    (hl : sh.exchange.link? c.visit = some l) (hw : AckWaits id deadline (Sight.of sh l) l') :
    p.step sh = (p, sh.updateLink c.visit fun _ => l') := by
  rcases step_subscribing hs hc hl with ⟨a, hd, _⟩ | ⟨l'', hw', hstep⟩
  · exact (hd.not_waits hw).elim
  · rw [hstep, hw.unique hw']

section Subscribe

variable {streams : List String} {rest : List ProbeStep} {l₁ : Link}

/-- A subscribe sends its request with the connection's next request id, counts the id up, and
waits for the answer until the deadline its timeout gives on the platform's clock. -/
theorem step_subscribe (hready : p.stage = .ready)
    (hsteps : p.steps = .subscribe streams timeout :: rest) (hc : p.conn = some c)
    (hl : sh.exchange.link? c.visit = some l) (hsend : l.sendText (subscribeText streams c.nextId) = .ok l₁)
    (hdl : sh.clock.add? sh.now timeout = some deadline) :
    p.step sh =
      ({ p with
          steps := rest
          conn := some { c with nextId := c.nextId + 1 }
          stage := .subscribing c.nextId timeout deadline },
        sh.updateLink c.visit fun _ => l₁) := by
  simp only [step, hready, hsteps, begin, hc, hl, hsend, Shared.updateLink_clock,
    Shared.updateLink_now, hdl]

/-- A subscribe whose deadline the platform's clock cannot represent panics once its request is
out, and the panic ends the probe. -/
theorem step_subscribe_panics (hready : p.stage = .ready)
    (hsteps : p.steps = .subscribe streams timeout :: rest) (hc : p.conn = some c)
    (hl : sh.exchange.link? c.visit = some l) (hsend : l.sendText (subscribeText streams c.nextId) = .ok l₁)
    (hdl : sh.clock.add? sh.now timeout = none) :
    p.step sh =
      ({ p with
          steps := []
          conn := some { c with nextId := c.nextId + 1 }
          panicked := some Time.Clock.overflowText },
        sh.updateLink c.visit fun _ => l₁) := by
  simp only [step, hready, hsteps, begin, hc, hl, hsend, Shared.updateLink_clock,
    Shared.updateLink_now, hdl]

end Subscribe

/-- A connection the probe makes counts its requests from 1; a connect that fails keeps the
connection there was. -/
theorem connect_conn (p : Probe) (sh : Shared) :
    (p.connect sh).1.conn = p.conn ∨ ∃ c, (p.connect sh).1.conn = some c ∧ c.nextId = 1 := by
  unfold connect
  split
  · exact .inl rfl
  · dsimp only
    split <;> simp [answer]

/-- The probe after one move from each of the shared states `shs` in turn. -/
def movesFrom (p : Probe) (shs : List Shared) : Probe := shs.foldl (fun q sh => (q.step sh).1) p

theorem movesFrom_of_waits (hs : p.stage = .subscribing id timeout deadline) (hc : p.conn = some c)
    (shs : List Shared)
    (hw : ∀ sh ∈ shs, ∃ l, sh.exchange.link? c.visit = some l ∧
      ∃ l', AckWaits id deadline (Sight.of sh l) l') :
    p.movesFrom shs = p := by
  induction shs with
  | nil => rfl
  | cons sh shs ih =>
    obtain ⟨l, hl, l', hwait⟩ := hw sh (by simp)
    have hstep : (p.step sh).1 = p := by rw [step_of_waits hs hc hl hwait]
    rw [movesFrom, List.foldl_cons, hstep]
    exact ih fun x hx => hw x (by simp [hx])

end Probe

/-- The wait of probe `p` for the answer to request `id` on its connection `c`: moves that see
nothing deciding leave the probe as it was, each leaving the connection as what it saw says, and
a move ends the wait with an answer exactly when what it sees decides that answer. -/
structure AckWaitLaw (p : Probe) (c : ProbeConnection) (id : Nat) (timeout : Time.Duration)
    (deadline : Nat) : Prop where
  /-- Every move decides or waits on. -/
  cover : ∀ sh l, sh.exchange.link? c.visit = some l →
    (∃ a, AckDecides id timeout deadline (Sight.of sh l) a) ∨ ∃ l', AckWaits id deadline (Sight.of sh l) l'
  /-- A move answers `a` exactly when what it sees decides `a`. -/
  decides : ∀ sh l, sh.exchange.link? c.visit = some l →
    ∀ a, (p.step sh).1 = p.answer a ↔ AckDecides id timeout deadline (Sight.of sh l) a
  /-- A move that waits on keeps the probe, and leaves the connection as what it saw says: a ping
  is answered then by a pong with its payload. -/
  waits : ∀ sh l, sh.exchange.link? c.visit = some l →
    ∀ l', AckWaits id deadline (Sight.of sh l) l' → p.step sh = (p, sh.updateLink c.visit fun _ => l')
  /-- Whatever the rest of the world did between them, moves that wait on leave the probe as it
  was, so the first move that decides gives the answer. -/
  keeps : ∀ shs : List Shared, (∀ sh ∈ shs, ∃ l, sh.exchange.link? c.visit = some l ∧
    ∃ l', AckWaits id deadline (Sight.of sh l) l') → p.movesFrom shs = p

theorem AckWaitLaw.of_subscribing {p : Probe} {c : ProbeConnection}
    (hs : p.stage = .subscribing id timeout deadline) (hc : p.conn = some c) :
    AckWaitLaw p c id timeout deadline where
  cover sh l hl := by
    rcases Probe.step_subscribing hs hc hl with ⟨a, hd, _⟩ | ⟨l', hw, _⟩
    · exact .inl ⟨a, hd⟩
    · exact .inr ⟨l', hw⟩
  decides sh l hl a := by
    constructor
    · intro h
      rcases Probe.step_subscribing hs hc hl with ⟨a', hd, hstep⟩ | ⟨l', _, hstep⟩
      · rw [hstep] at h
        exact Probe.answer_inj h ▸ hd
      · rw [hstep] at h
        exact (Probe.answer_ne p a h.symm).elim
    · intro hd
      rw [Probe.step_of_decides hs hc hl hd]
  waits sh l hl l' hw := Probe.step_of_waits hs hc hl hw
  keeps := Probe.movesFrom_of_waits hs hc

/-- The subscription handshake of a probe whose next step subscribes on its connection `c`, when
the connection takes the request and the platform's clock represents the deadline its timeout
gives: the request goes out with the connection's next request id, which counts up by one, as
connections made count from 1; and the wait for the answer, until that deadline, keeps the law
`AckWaitLaw`: over any frames and silences, the answer is that of the first move that decides,
and every ping before it is answered by a pong with its payload. -/
theorem subscribe_handshake {p : Probe} {sh : Shared} {c : ProbeConnection} {l l₁ : Link}
    {streams : List String} {timeout : Time.Duration} {deadline : Nat} {rest : List ProbeStep}
    (hready : p.stage = .ready) (hsteps : p.steps = .subscribe streams timeout :: rest)
    (hc : p.conn = some c) (hl : sh.exchange.link? c.visit = some l)
    (hsend : l.sendText (subscribeText streams c.nextId) = .ok l₁)
    (hdl : sh.clock.add? sh.now timeout = some deadline) :
    (p.step sh).2 = sh.updateLink c.visit (fun _ => l₁) ∧
      (p.step sh).1.answers = p.answers ∧
      (p.step sh).1.conn = some { c with nextId := c.nextId + 1 } ∧
      AckWaitLaw (p.step sh).1 { c with nextId := c.nextId + 1 } c.nextId timeout deadline ∧
      ∀ sh' : Shared, (p.connect sh').1.conn = p.conn ∨
        ∃ c', (p.connect sh').1.conn = some c' ∧ c'.nextId = 1 := by
  have hstep := Probe.step_subscribe hready hsteps hc hl hsend hdl
  refine ⟨by rw [hstep], by rw [hstep], by rw [hstep], ?_, Probe.connect_conn p⟩
  rw [hstep]
  exact AckWaitLaw.of_subscribing rfl rfl

/-- The first request on a fresh connection carries id 1, and the wait for its answer keeps the
law. -/
theorem subscribe_handshake_first_request :
    let c : ProbeConnection := { visit := 0, url := { scheme := "ws" } }
    let sh : Shared :=
      { line := { queue := Feed.Queue.bounded 1 }
        exchange := ⟨[], [.linked (Link.start [.ack])]⟩ }
    let p : Probe := { base := "", steps := [.subscribe ["btcusdt@depth"] (.ofMillis 100)], conn := some c }
    (p.step sh).1.conn = some { c with nextId := 2 } ∧
      AckWaitLaw (p.step sh).1 { c with nextId := 2 } 1 (.ofMillis 100) 100 := by
  intro c sh p
  obtain ⟨-, -, hconn, hlaw, -⟩ :=
    @subscribe_handshake p sh c _ _ _ _ 100 _ rfl rfl rfl rfl rfl (by decide)
  exact ⟨hconn, hlaw⟩

/-- Whether a subscribe panics turns on the platform's clock alone: on an open connection that
takes the request, it panics exactly when the deadline its timeout gives lies past the clock's
last instant; before that bound it waits for the answer as `AckWaitLaw` says. -/
theorem subscribe_panics_past_last_instant {p : Probe} {sh : Shared} {c : ProbeConnection}
    {l l₁ : Link} {streams : List String} {timeout : Time.Duration} {rest : List ProbeStep}
    (hready : p.stage = .ready) (hsteps : p.steps = .subscribe streams timeout :: rest)
    (hc : p.conn = some c) (hl : sh.exchange.link? c.visit = some l)
    (hsend : l.sendText (subscribeText streams c.nextId) = .ok l₁) (hp : p.panicked = none) :
    ((p.step sh).1.panicked = some Time.Clock.overflowText ↔
        sh.clock.last < sh.now + timeout.toMillis) ∧
      (sh.now + timeout.toMillis ≤ sh.clock.last →
        AckWaitLaw (p.step sh).1 { c with nextId := c.nextId + 1 } c.nextId timeout
          (sh.now + timeout.toMillis)) := by
  by_cases hfits : sh.now + timeout.toMillis ≤ sh.clock.last
  · have hdl : sh.clock.add? sh.now timeout = some (sh.now + timeout.toMillis) := by
      simp [Time.Clock.add?, hfits]
    rw [Probe.step_subscribe hready hsteps hc hl hsend hdl]
    refine ⟨?_, fun _ => AckWaitLaw.of_subscribing rfl rfl⟩
    simp only [hp, reduceCtorEq, false_iff]
    omega
  · have hdl : sh.clock.add? sh.now timeout = none := by
      simp [Time.Clock.add?, hfits]
    rw [Probe.step_subscribe_panics hready hsteps hc hl hsend hdl]
    exact ⟨iff_of_true rfl (by omega), fun h => absurd h hfits⟩

/-- A first subscription with a timeout of 100 ms does not panic, and waits until 100 ms. -/
theorem subscribe_panics_past_last_instant_short_timeout :
    let c : ProbeConnection := { visit := 0, url := { scheme := "ws" } }
    let sh : Shared :=
      { line := { queue := Feed.Queue.bounded 1 }
        exchange := ⟨[], [.linked (Link.start [.ack])]⟩ }
    let p : Probe := { base := "", steps := [.subscribe ["btcusdt@depth"] (.ofMillis 100)], conn := some c }
    (p.step sh).1.panicked ≠ some Time.Clock.overflowText ∧
      AckWaitLaw (p.step sh).1 { c with nextId := 2 } 1 (.ofMillis 100) 100 := by
  intro c sh p
  obtain ⟨hiff, hlaw⟩ := @subscribe_panics_past_last_instant p sh c _ _ _ _ _ rfl rfl rfl rfl rfl rfl
  exact ⟨fun h => absurd (hiff.1 h) (by decide), hlaw (by decide)⟩

/-- A subscription with the longest timeout panics: its deadline lies past the last instant of
Linux's clock. -/
theorem subscribe_panics_at_longest_timeout :
    let c : ProbeConnection := { visit := 0, url := { scheme := "ws" } }
    let sh : Shared :=
      { line := { queue := Feed.Queue.bounded 1 }
        exchange := ⟨[], [.linked (Link.start [.ack])]⟩ }
    let p : Probe := { base := "", steps := [.subscribe ["btcusdt@depth"] .max], conn := some c }
    (p.step sh).1.panicked = some Time.Clock.overflowText := by
  intro c sh p
  have hstep : p.step sh = _ := Probe.step_subscribe_panics rfl rfl rfl rfl rfl (by decide)
  rw [hstep]

end BookRelay.Scenario
