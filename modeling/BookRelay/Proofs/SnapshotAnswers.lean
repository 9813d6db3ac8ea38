import BookRelay.Proofs.StreamText
import BookRelay.Pipeline.Fetch

/-! # What a snapshot fetch makes of an answer

A fetch with a depth limit outside `1..=5000` is refused before any request is sent. Otherwise
the request goes out, and an answer that comes at or after the fetcher's time limit is a
time-out. An answer in time is read in a fixed order, status before content type before body
(`AnswerReads`): status 429 is a rate limit for the seconds its trimmed `Retry-After` gives as
an unsigned 64-bit number, else one second; any other status outside `2xx` is a refusal whose
text is the exchange's `msg (code)` when the body reads straight as an error object, each field
given once, else the body as lossy UTF-8; a success that does not say `application/json` is malformed; and a JSON body is a
snapshot exactly when it holds an unsigned 64-bit id, as its `lastUpdateId` member or, since a
record reads from an array one item per field, as the single item of an array. Every other
body is malformed. The body here is the one the client reads, which is empty for `204` and
`304`. A failure is transient exactly when it is a time-out or its status is 429 or at least
500 (`fetch_outcome_table`). -/

namespace BookRelay.Exchange

open BookRelay.Json

/-- A snapshot body holds an id: as its `lastUpdateId` member, or as the single item of an
array. -/
def HoldsId (body : Value) (id : Nat) : Prop :=
  body.get? "lastUpdateId" = some (.ofNat id) ∨ body = .array [.ofNat id]

/-- A body the reader gave, holding an id, reads as the snapshot of that id, kept whole. -/
theorem ofBody_of_holdsId {body : Value} (hb : ReaderForm body) {id : Nat} (hid : HoldsId body id) :
    DepthSnapshot.ofBody body = .ok ⟨id, levelCount body "bids", levelCount body "asks", body⟩ := by
  rcases hid with hget | rfl
  · obtain ⟨ms, rfl⟩ := Value.object_of_get? hget
    have hlookup : ms.lookup "lastUpdateId" = some (.ofNat id) := hget
    -- the one field of the header is there and is an unsigned 64-bit number
    have hcheck : Decode.checkRecord "struct DepthSnapshotHeader" snapshotHeaderFields (.object ms) =
        none := by
      refine (Decode.checkMembers_eq_none_iff (by simp [snapshotHeaderFields, Decode.field])
        hb.object.1).2 ?_
      simp [snapshotHeaderFields, hlookup, Decode.field_check, Value.ofNat, Decode.u64]
    simp [DepthSnapshot.ofBody, hcheck, Decode.member_object, hlookup, Value.ofNat, Decode.u64]
  · rfl

/-- A body that does not read as a snapshot is an invalid response. -/
theorem ofBody_eq_error {body : Value} {e : ClientError} (h : DepthSnapshot.ofBody body = .error e) :
    ∃ t, e = .invalidResponse t := by
  unfold DepthSnapshot.ofBody at h
  split at h
  · cases h
    exact ⟨_, rfl⟩
  · split at h
    · cases h
    · cases h
      exact ⟨_, rfl⟩

/-- A JSON body is read only from a success that says it is JSON. -/
theorem readJsonBody_eq_ok {r : Http.Response} {v : Value} (h : readJsonBody r = .ok v) :
    Http.isSuccess r.status = true ∧ saysJson r = true ∧ Json.parseBytes r.content = .ok v := by
  unfold readJsonBody at h
  split at h
  · split at h <;> cases h
  · split at h
    · cases h
    · rename_i hs hj
      cases hp : Json.parseBytes r.content with
      | error _ => simp [hp] at h
      | ok w =>
        simp only [hp, Json.mapError_ok, Except.ok.injEq] at h
        subst h
        simp_all

end BookRelay.Exchange

namespace BookRelay.Pipeline

open BookRelay.Json BookRelay.Exchange BookRelay.Feed

/-- How a snapshot fetch reads an answer that came in time: status, then content type, then
body. The body is the one the client reads. -/
inductive AnswerReads (r : Http.Response) : Except SnapshotError Event → Prop where
  /-- A rate limit for the seconds the trimmed `Retry-After` gives. -/
  | rateLimited {v : String} {n : Nat} (hs : r.status = 429) (hv : r.header? "retry-after" = some v)
      (hn : parseU64? (Text.trim v) = some n) :
      AnswerReads r (.error (.status 429 ("rate limited, retry after " ++ toString n ++ "s")))
  /-- A rate limit without a readable wait is for one second. -/
  | rateLimitedOneSecond (hs : r.status = 429)
      (hv : ∀ v, r.header? "retry-after" = some v → parseU64? (Text.trim v) = none) :
      AnswerReads r (.error (.status 429 "rate limited, retry after 1s"))
  /-- A refusal whose body reads straight as the exchange's error object, each field given
  once. -/
  | refusedWithError {v : Value} {e : ApiErrorBody} (hs : Http.isSuccess r.status = false)
      (h429 : r.status ≠ 429) (hv : Decode.readRecord errorBodyFields r.content = some v)
      (he : ErrorBodyReads v e) :
      AnswerReads r (.error (.status r.status (e.msg ++ " (" ++ toString e.code ++ ")")))
  /-- A refusal with any other body gives the body as text. -/
  | refusedWithBody (hs : Http.isSuccess r.status = false) (h429 : r.status ≠ 429)
      (hno : ∀ v e, Decode.readRecord errorBodyFields r.content = some v → ¬ ErrorBodyReads v e) :
      AnswerReads r (.error (.status r.status (Text.Utf8.decodeLossy r.content)))
  /-- A success that does not say it is JSON. -/
  | notJson (hs : Http.isSuccess r.status = true) (hj : saysJson r = false) :
      AnswerReads r (.error (.malformed ("expected application/json body, status " ++
        Http.statusText r.status)))
  /-- A JSON body holding an id is the snapshot of that id, its payload the whole body. -/
  | snapshot {body : Value} {id : Nat} (hs : Http.isSuccess r.status = true) (hj : saysJson r = true)
      (hb : Json.parseBytes r.content = .ok body) (hid : HoldsId body id) :
      AnswerReads r (.ok ⟨.snapshot id, body⟩)
  /-- Any other body of a JSON success is malformed. -/
  | malformed {t : String} (hs : Http.isSuccess r.status = true) (hj : saysJson r = true)
      (hno : ∀ body, Json.parseBytes r.content = .ok body → ∀ id, ¬ HoldsId body id) :
      AnswerReads r (.error (.malformed t))

/-- A failed read of an answer in time is transient exactly for status 429 and the statuses from
500 on. -/
theorem AnswerReads.transient_iff {r : Http.Response} {e : SnapshotError} (h : AnswerReads r (.error e)) :
    e.transient = true ↔ r.status = 429 ∨ 500 ≤ r.status := by
  cases h with
  | rateLimited hs => simp [SnapshotError.transient, hs]
  | rateLimitedOneSecond hs => simp [SnapshotError.transient, hs]
  | refusedWithError hs h429 =>
    simp only [SnapshotError.transient, Bool.or_eq_true, beq_iff_eq, decide_eq_true_eq]
    omega
  | refusedWithBody hs h429 =>
    simp only [SnapshotError.transient, Bool.or_eq_true, beq_iff_eq, decide_eq_true_eq]
    omega
  | notJson hs =>
    simp only [Http.isSuccess, Bool.and_eq_true, decide_eq_true_eq] at hs
    simp only [SnapshotError.transient, Bool.false_eq_true, false_iff]
    omega
  | malformed hs =>
    simp only [Http.isSuccess, Bool.and_eq_true, decide_eq_true_eq] at hs
    simp only [SnapshotError.transient, Bool.false_eq_true, false_iff]
    omega

/-- A refusal reads its text from the body as `AnswerReads` says. -/
theorem answerReads_refused {r : Http.Response} (hs : Http.isSuccess r.status = false) (h429 : r.status ≠ 429) :
    AnswerReads r (.error (SnapshotError.ofClient (.api r.status (refusalText r.content)))) := by
  cases hp : Decode.readRecord errorBodyFields r.content with
  | none =>
    have htext : refusalText r.content = Text.Utf8.decodeLossy r.content := by
      simp [refusalText, hp]
    rw [htext]
    exact .refusedWithBody hs h429 fun v e hv => by simp [hp] at hv
  | some v =>
    have hform := readRecord_form hp
    cases hd : decodeErrorBody v with
    | error _ =>
      have htext : refusalText r.content = Text.Utf8.decodeLossy r.content := by
        simp [refusalText, hp, hd, Except.toOption]
      rw [htext]
      -- the body reads as a record, but not as the exchange's error object
      refine .refusedWithBody hs h429 fun w e hw hread => ?_
      rw [hp, Option.some.injEq] at hw
      subst hw
      rw [(decodeErrorBody_eq_ok hform).2 hread] at hd
      cases hd
    | ok e =>
      have htext : refusalText r.content = e.msg ++ " (" ++ toString e.code ++ ")" := by
        simp [refusalText, hp, hd, Except.toOption]
      rw [htext]
      exact .refusedWithError hs h429 hp ((decodeErrorBody_eq_ok hform).1 hd)

/-- A rate limit waits as `AnswerReads` says. -/
theorem answerReads_rateLimit {r : Http.Response} (hs : r.status = 429) :
    AnswerReads r (.error (SnapshotError.ofClient
      (.rateLimit (((r.header? "retry-after").bind fun v => parseU64? (Text.trim v)).getD 1)))) := by
  have hone : SnapshotError.ofClient (.rateLimit 1) = .status 429 "rate limited, retry after 1s" := by
    simp only [SnapshotError.ofClient, SnapshotError.status.injEq, true_and]
    decide
  cases hv : r.header? "retry-after" with
  | none =>
    rw [Option.bind_none, Option.getD_none, hone]
    exact .rateLimitedOneSecond hs fun v h => by simp [hv] at h
  | some v =>
    cases hn : parseU64? (Text.trim v) with
    | none =>
      rw [Option.bind_some, hn, Option.getD_none, hone]
      exact .rateLimitedOneSecond hs fun w h => by
        rw [hv, Option.some.injEq] at h
        exact h ▸ hn
    | some n =>
      rw [Option.bind_some, hn, Option.getD_some]
      exact .rateLimited hs hv hn

/-- An answer whose snapshot could not be read is read as `AnswerReads` says. -/
theorem answerReads_of_readDepth_error {r : Http.Response} {e : ClientError} (h : readDepth r = .error e) :
    AnswerReads r (.error (SnapshotError.ofClient e)) := by
  unfold readDepth at h
  cases hj : readJsonBody r with
  | error e' =>
    rw [hj] at h
    cases h
    unfold readJsonBody at hj
    split at hj
    · rename_i hfail
      have hs : Http.isSuccess r.status = false := by simpa using hfail
      split at hj
      · rename_i h429
        cases hj
        exact answerReads_rateLimit (by simpa using h429)
      · rename_i h429
        cases hj
        exact answerReads_refused hs (by simpa using h429)
    · rename_i hok
      have hs : Http.isSuccess r.status = true := by simpa using hok
      split at hj
      · rename_i hj'
        cases hj
        exact .notJson hs (by simpa using hj')
      · rename_i hj'
        -- a body that is not JSON is malformed
        cases hp : Json.parseBytes r.content with
        | ok _ => simp [hp] at hj
        | error je =>
          simp only [hp, Json.mapError_error, Except.error.injEq] at hj
          subst hj
          exact .malformed hs (by simpa using hj') fun body hb => by simp [hp] at hb
  | ok v =>
    rw [hj] at h
    obtain ⟨hs, hjson, hp⟩ := readJsonBody_eq_ok hj
    obtain ⟨t, rfl⟩ := ofBody_eq_error h
    -- a JSON body that did not read as a snapshot holds no id
    refine .malformed hs hjson fun body hb id hid => ?_
    rw [hp, Except.ok.injEq] at hb
    subst hb
    have hok := ofBody_of_holdsId (parseBytes_form hp) hid
    change DepthSnapshot.ofBody v = .error _ at h
    rw [hok] at h
    cases h

/-- An answer read as a snapshot is the snapshot `AnswerReads` says. -/
theorem answerReads_of_readDepth_ok {r : Http.Response} {snap : DepthSnapshot} (h : readDepth r = .ok snap) :
    AnswerReads r (.ok ⟨.snapshot snap.lastUpdateId, snap.body⟩) := by
  obtain ⟨v, hj, hsnap⟩ := except_bind_eq_ok h
  obtain ⟨hs, hjson, hp⟩ := readJsonBody_eq_ok hj
  obtain ⟨hbody, hid⟩ := ofBody_keeps_id hsnap
  rw [hbody]
  exact .snapshot hs hjson hp hid

/-- A depth limit outside `1..=5000` is refused before a request is built. -/
theorem depthRequest_of_limit {c : RestClient} {symbol : String} {limit : Nat}
    (h : limit = 0 ∨ maxDepthLimit < limit) :
    c.depthRequest symbol limit =
      .error (.config ("depth limit must be within 1..=5000, got " ++ toString limit)) := by
  have hrefused : (limit == 0 || decide (limit > maxDepthLimit)) = true := by
    rcases h with h | h <;> simp [h]
  simp only [RestClient.depthRequest, checkDepthLimit, if_pos hrefused]
  rfl

section Answered

variable {f : SnapshotFetcher} {serve : Http.Request → Served} {symbol : String} {limit : Nat}
  {req : Http.Request} {resp : Http.Response} {delay : Time.Duration}
  (hreq : f.client.depthRequest symbol limit = .ok req) (hserve : serve req = .answer resp delay)
include hreq hserve

/-- An answer at or after the time limit is a time-out, whatever it says. -/
theorem fetch_of_late (hlate : f.timeout.le delay = true) :
    f.fetch serve symbol limit = ⟨some req, .error (.timeout f.timeout)⟩ := by
  simp only [SnapshotFetcher.fetch, hreq, hserve, hlate, if_true]

/-- An answer in time is read as `AnswerReads` says. -/
theorem fetch_in_time (hlate : f.timeout.le delay = false) :
    (f.fetch serve symbol limit).request = some req ∧
      AnswerReads resp (f.fetch serve symbol limit).outcome := by
  simp only [SnapshotFetcher.fetch, hreq, hserve, hlate, Bool.false_eq_true, if_false]
  refine ⟨trivial, ?_⟩
  cases hd : readDepth resp with
  | ok snap => exact answerReads_of_readDepth_ok hd
  | error e => exact answerReads_of_readDepth_error hd

end Answered

/-- What a snapshot fetch gives, row by row: a depth limit outside `1..=5000` is refused before any
request is sent; once a request is sent, an answer at or after the time limit is a time-out,
an answer in time is read as `AnswerReads` says, and a failure is transient exactly when it is
a time-out or its status is 429 or from 500 on. -/
structure FetchTable (f : SnapshotFetcher) (serve : Http.Request → Served) (symbol : String)
    (limit : Nat) : Prop where
  limitRefused : limit = 0 ∨ maxDepthLimit < limit →
    (f.fetch serve symbol limit).request = none ∧
      ∃ t, (f.fetch serve symbol limit).outcome = .error (.request (.config t))
  answered : ∀ req resp delay, f.client.depthRequest symbol limit = .ok req →
    serve req = .answer resp delay →
      (f.fetch serve symbol limit).request = some req ∧
      (f.timeout.le delay = true → (f.fetch serve symbol limit).outcome = .error (.timeout f.timeout)) ∧
      (f.timeout.le delay = false → AnswerReads resp (f.fetch serve symbol limit).outcome) ∧
      ∀ e, (f.fetch serve symbol limit).outcome = .error e →
        (e.transient = true ↔ f.timeout.le delay = true ∨ resp.status = 429 ∨ 500 ≤ resp.status)

/-- Every fetch, whatever the exchange answers, gives what `FetchTable` says. -/
theorem fetch_outcome_table (f : SnapshotFetcher) (serve : Http.Request → Served) (symbol : String)
    (limit : Nat) : FetchTable f serve symbol limit := by
  refine ⟨fun h => ?_, fun req resp delay hreq hserve => ?_⟩
  · unfold SnapshotFetcher.fetch
    rw [depthRequest_of_limit h]
    exact ⟨rfl, _, rfl⟩
  · cases hlate : f.timeout.le delay with
    | true =>
      rw [fetch_of_late hreq hserve hlate]
      refine ⟨rfl, fun _ => rfl, nofun, fun e he => ?_⟩
      cases he
      simp [SnapshotError.transient]
    | false =>
      obtain ⟨hsent, hreads⟩ := fetch_in_time hreq hserve hlate
      refine ⟨hsent, nofun, fun _ => hreads, fun e he => ?_⟩
      rw [he] at hreads
      simpa using hreads.transient_iff

end BookRelay.Pipeline
