import BookRelay.Feed.Event
import Mathlib.Data.List.Chain

/-! # Placing a snapshot against update ranges

A snapshot stamped with last id `L` places an update range `[U, u]` by comparing it with
`L + 1`, the first id the snapshot lacks: the range is *after* (already in the snapshot) when
`u ≤ L`, *within* (it bridges the snapshot) when `U ≤ L + 1 ≤ u`, and *before* (a gap) when
`L + 1 < U`. The feed takes `L + 1` saturating at `2^64 - 1`; for a range of 64-bit ids that
never changes the answer (`position?_eq`), at `L = 2^64 - 1` included.

Over ranges in stream order, each ending before the next begins, the placements run after,
within, before, and the one range within is the range that holds `L + 1`
(`snapshot_placement`). -/

namespace BookRelay.Feed

/-- Positions in the order a stream meets them: updates the snapshot holds, then the one that
bridges it, then those past a gap. -/
def Position.rank : Position → Nat
  | .after => 0
  | .within => 1
  | .before => 2

instance : LE Position := ⟨fun p q => p.rank ≤ q.rank⟩

theorem Position.le_iff_rank {p q : Position} : p ≤ q ↔ p.rank ≤ q.rank := Iff.rfl

namespace Sequence

/-- Below the end of a range of 64-bit ids, the saturating successor of an id is exact. -/
theorem min_succ_maxUpdateId {final last : Nat} (hmax : final ≤ maxUpdateId) (hlt : last < final) :
    min (last + 1) maxUpdateId = last + 1 := by
  omega

/-- A range of 64-bit ids is placed against the exact successor of the snapshot id. -/
theorem position?_eq {first final : Nat} (hmax : final ≤ maxUpdateId) (last : Nat) :
    (incremental first final).position? last =
      some (if final ≤ last then .after else if first ≤ last + 1 then .within else .before) := by
  dsimp only [position?]
  by_cases hafter : final ≤ last
  · rw [if_pos hafter, if_pos hafter]
  · rw [if_neg hafter, if_neg hafter, min_succ_maxUpdateId hmax (by omega)]
    split <;> rfl

section Range

variable {first final : Nat} (hwf : first ≤ final) (hmax : final ≤ maxUpdateId) (last : Nat)

include hmax in
theorem position?_eq_after_iff :
    (incremental first final).position? last = some .after ↔ final ≤ last := by
  rw [position?_eq hmax]
  split_ifs <;> simp_all

include hmax in
theorem position?_eq_within_iff :
    (incremental first final).position? last = some .within ↔
      first ≤ last + 1 ∧ last + 1 ≤ final := by
  rw [position?_eq hmax]
  split_ifs <;> simp only [Option.some.injEq, reduceCtorEq, false_iff, true_iff] <;> omega

include hwf hmax in
theorem position?_eq_before_iff :
    (incremental first final).position? last = some .before ↔ last + 1 < first := by
  rw [position?_eq hmax]
  split_ifs <;> simp only [Option.some.injEq, reduceCtorEq, false_iff, true_iff] <;> omega

end Range

end Sequence

open Sequence

/-! ## Ranges in stream order -/

/-- Update ranges as a stream delivers them: each a well-formed range of 64-bit ids, each
ending before the next begins. -/
structure InStreamOrder (rs : List (Nat × Nat)) : Prop where
  wellFormed : ∀ r ∈ rs, r.1 ≤ r.2 ∧ r.2 ≤ maxUpdateId
  chain : rs.IsChain fun a b => a.2 < b.1

/-- How a snapshot with last id `last` places each of a list of update ranges, in list order. -/
def placements (last : Nat) (rs : List (Nat × Nat)) : List Position :=
  rs.filterMap fun r => (incremental r.1 r.2).position? last

namespace InStreamOrder

theorem tail {r : Nat × Nat} {rs : List (Nat × Nat)} (h : InStreamOrder (r :: rs)) :
    InStreamOrder rs :=
  ⟨fun x hx => h.wellFormed x (List.mem_cons_of_mem r hx), h.chain.tail⟩

/-- A range in stream order ends before every later range begins. -/
theorem pairwise {rs : List (Nat × Nat)} (h : InStreamOrder rs) :
    rs.Pairwise fun a b => a.2 < b.1 := by
  induction rs with
  | nil => exact .nil
  | cons a rs ih =>
    have hrest := ih h.tail
    refine .cons (fun c hc => ?_) hrest
    -- `c` comes after the range `b` that follows `a`, which ends before `c` begins
    cases rs with
    | nil => cases hc
    | cons b rs =>
      have hab : a.2 < b.1 := (List.isChain_cons_cons.1 h.chain).1
      have hb := h.wellFormed b (by simp)
      rcases List.mem_cons.1 hc with rfl | hc
      · exact hab
      · have hbc := List.rel_of_pairwise_cons hrest hc
        omega

end InStreamOrder

/-- Of two ranges, the one ending before the other begins is placed no later. -/
theorem placed_in_order {a b : Nat × Nat} (ha : a.2 ≤ maxUpdateId) (hb : b.1 ≤ b.2 ∧ b.2 ≤ maxUpdateId)
    (hab : a.2 < b.1) (last : Nat) {p q : Position}
    (hp : (incremental a.1 a.2).position? last = some p) (hq : (incremental b.1 b.2).position? last = some q) :
    p ≤ q := by
  rw [position?_eq ha, Option.some.injEq] at hp
  rw [position?_eq hb.2, Option.some.injEq] at hq
  subst hp hq
  split_ifs <;> simp only [Position.le_iff_rank, Position.rank] <;> omega

namespace InStreamOrder

variable {rs : List (Nat × Nat)} (h : InStreamOrder rs) (last : Nat)
include h

theorem length_placements : (placements last rs).length = rs.length := by
  refine List.filterMap_length_eq_length.2 fun r hr => ?_
  rw [position?_eq (h.wellFormed r hr).2]
  rfl

theorem placements_sorted : (placements last rs).Pairwise (· ≤ ·) := by
  refine List.pairwise_filterMap.2 (List.Pairwise.imp_of_mem ?_ h.pairwise)
  intro a b ha hb hab p hp q hq
  exact placed_in_order (h.wellFormed a ha).2 (h.wellFormed b hb) hab last hp hq

/-- Ranges in stream order are apart, so no two of them hold the successor of the snapshot id. -/
theorem within_unique {r r' : Nat × Nat} (hr : r ∈ rs) (hr' : r' ∈ rs)
    (hw : (incremental r.1 r.2).position? last = some .within)
    (hw' : (incremental r'.1 r'.2).position? last = some .within) : r = r' := by
  let holds : Nat × Nat → Prop := fun a => a.1 ≤ last + 1 ∧ last + 1 ≤ a.2
  have hapart : rs.Pairwise fun a b => ¬ (holds a ∧ holds b) :=
    h.pairwise.imp fun hab hboth => by simp only [holds] at hboth; omega
  have : Std.Symm fun a b => ¬ (holds a ∧ holds b) := ⟨fun _ _ h hba => h hba.symm⟩
  by_contra hne
  exact hapart.forall hr hr' hne ⟨(position?_eq_within_iff (h.wellFormed r hr).2 last).1 hw,
    (position?_eq_within_iff (h.wellFormed r' hr').2 last).1 hw'⟩

end InStreamOrder

/-- What a snapshot with last id `last` makes of update ranges: each range is after, within or
before it as the unbounded comparison with `last + 1` says, every range is placed, the
placements run after, within, before in list order, and at most one range is within. -/
structure Reconciled (last : Nat) (rs : List (Nat × Nat)) : Prop where
  after : ∀ r ∈ rs, (incremental r.1 r.2).position? last = some .after ↔ r.2 ≤ last
  within : ∀ r ∈ rs, (incremental r.1 r.2).position? last = some .within ↔
    r.1 ≤ last + 1 ∧ last + 1 ≤ r.2
  before : ∀ r ∈ rs, (incremental r.1 r.2).position? last = some .before ↔ last + 1 < r.1
  placed : (placements last rs).length = rs.length
  sorted : (placements last rs).Pairwise (· ≤ ·)
  oneWithin : ∀ r ∈ rs, ∀ r' ∈ rs, (incremental r.1 r.2).position? last = some .within →
    (incremental r'.1 r'.2).position? last = some .within → r = r'

/-- Every snapshot id, `2^64 - 1` included, reconciles with ranges in stream order. A single
well-formed range of 64-bit ids is in stream order, so each such range is placed as the
unbounded comparison says; and the range within is the one holding `last + 1`. -/
theorem snapshot_placement (last : Nat) {rs : List (Nat × Nat)} (h : InStreamOrder rs) :
    Reconciled last rs :=
  ⟨fun r hr => position?_eq_after_iff (h.wellFormed r hr).2 last,
    fun r hr => position?_eq_within_iff (h.wellFormed r hr).2 last,
    fun r hr => position?_eq_before_iff (h.wellFormed r hr).1 (h.wellFormed r hr).2 last,
    h.length_placements last, h.placements_sorted last,
    fun _ hr _ hr' hw hw' => h.within_unique last hr hr' hw hw'⟩

/-- A snapshot one below the largest id: the top range holds its successor. -/
theorem snapshot_placement_at_top :
    InStreamOrder [(1, 100), (101, maxUpdateId - 1), (maxUpdateId, maxUpdateId)] ∧
      Reconciled (maxUpdateId - 1) [(1, 100), (101, maxUpdateId - 1), (maxUpdateId, maxUpdateId)] :=
  have h : InStreamOrder [(1, 100), (101, maxUpdateId - 1), (maxUpdateId, maxUpdateId)] :=
    ⟨by decide, .cons_cons (by decide) (.cons_cons (by decide) (.singleton _))⟩
  ⟨h, snapshot_placement (maxUpdateId - 1) h⟩

end BookRelay.Feed
