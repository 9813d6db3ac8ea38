import BookRelay.Exchange.Message
import BookRelay.Exchange.Error
import BookRelay.Text.Blank

/-!
# Depth snapshots

A depth snapshot from the REST endpoint is read for its `lastUpdateId` and the number of bid
and ask levels; the body itself is kept as received. A request asks for between 1 and 5000
levels. An API key is used only when it is not blank.
-/

namespace BookRelay.Exchange

open BookRelay.Json

def maxDepthLimit : Nat := 5000

/-- A snapshot body with its header read out. -/
structure DepthSnapshot where
  lastUpdateId : Nat
  bidLevels : Nat
  askLevels : Nat
  body : Value
  deriving Repr

def snapshotHeaderFields : List Decode.Field := [Decode.field "lastUpdateId" false Decode.u64]

/-- Read a snapshot body; a body without a valid `lastUpdateId` is an invalid response. -/
def DepthSnapshot.ofBody (body : Value) : Except ClientError DepthSnapshot :=
  let malformed := fun (m : Mismatch) => ClientError.invalidResponse ("malformed depth snapshot: " ++ m.message)
  match Decode.checkRecord "struct DepthSnapshotHeader" snapshotHeaderFields body with
  | some m => .error (malformed m)
  | none =>
    match Decode.u64 ((Decode.member snapshotHeaderFields "lastUpdateId" body).getD .null) with
    | .ok id => .ok ⟨id, levelCount body "bids", levelCount body "asks", body⟩
    | .error m => .error (malformed m)

/-- Refuse a depth limit outside `1..=5000`. -/
def checkDepthLimit (limit : Nat) : Except ClientError Unit :=
  if limit == 0 || limit > maxDepthLimit then
    .error (.config ("depth limit must be within 1..=5000, got " ++ toString limit))
  else .ok ()

example : (checkDepthLimit 0).toBool = false := rfl

/-- An API key as read from the environment: absent or blank means none. -/
def apiKeyOf? : Option String → Option String
  | some v => if Text.isBlank v then none else some v
  | none => none

end BookRelay.Exchange
