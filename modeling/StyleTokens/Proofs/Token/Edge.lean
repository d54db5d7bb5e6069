import Mathlib.Tactic.SplitIfs
import StyleTokens.Proofs.Outcome
import StyleTokens.Token.Entry

/-!
# The edges of a box

A box has four edges. A token entry sets a value for an edge directly, through the edge's axis, or
through all edges, but only in one of these ways.
-/

namespace StyleTokens

/-- An edge of a box. -/
inductive Edge where
  /-- The top edge. -/
  | top
  /-- The right edge. -/
  | right
  /-- The bottom edge. -/
  | bottom
  /-- The left edge. -/
  | left
  deriving DecidableEq, Repr

namespace Edge

/-- The side that is the edge itself. -/
def side : Edge → Side
  | .top => .top
  | .right => .right
  | .bottom => .bottom
  | .left => .left

/-- The axis that the edge lies on. -/
def axis : Edge → Side
  | .top | .bottom => .y
  | .right | .left => .x

/-- The sides whose values an edge gets: its own, its axis, and all. -/
def covering (edge : Edge) : List Side := [edge.side, edge.axis, .all]

end Edge

/-- A value is set for an edge, directly, through its axis, or through all. -/
def Sides.Sets (sides : Sides) (edge : Edge) (value : String) : Prop :=
  ∃ side ∈ edge.covering, (side, value) ∈ sides

/-- The side values that an entry denotes are those it has. -/
theorem TokenEntry.mem_present {entry : TokenEntry} {side : Side} {value : String} :
    (side, value) ∈ entry.present ↔ entry.valueAt side = some value ∧ value ≠ "" := by
  have horder : side ∈ Side.order := by cases side <;> decide
  unfold present
  rw [List.mem_filterMap]
  constructor
  · rintro ⟨other, -, hother⟩
    cases hvalue : entry.valueAt other with
    | none => simp [hvalue] at hother
    | some text =>
      simp only [hvalue] at hother
      split_ifs at hother with hempty
      simp only [Option.some.injEq, Prod.mk.injEq] at hother
      obtain ⟨rfl, rfl⟩ := hother
      exact ⟨hvalue, by simpa using hempty⟩
  · rintro ⟨hvalue, hne⟩
    exact ⟨side, horder, by simp [hvalue, hne]⟩

/-- An entry has a value for an edge in one way. -/
theorem TokenEntry.side_unique {entry : TokenEntry} {edge : Edge} {side side' : Side}
    {value value' : String} (hside : side ∈ edge.covering) (hside' : side' ∈ edge.covering)
    (h : entry.valueAt side = some value) (h' : entry.valueAt side' = some value') :
    side = side' := by
  simp only [Edge.covering, List.mem_cons, List.not_mem_nil, or_false] at hside hside'
  rcases hside with rfl | rfl | rfl <;> rcases hside' with rfl | rfl | rfl <;>
    cases edge <;> cases entry <;>
    first
    | rfl
    | simp [valueAt, Edge.side, Edge.axis] at h h'

/-- Unchecked data sets at most one value for an edge. -/
theorem sets_unique {raw : Value} {sides : Sides} {edge : Edge} {value value' : String}
    (hsides : normalize raw = .ok sides) (h : sides.Sets edge value)
    (h' : sides.Sets edge value') : value = value' := by
  obtain ⟨side, hside, hmem⟩ := h
  obtain ⟨side', hside', hmem'⟩ := h'
  unfold normalize at hsides
  obtain ⟨reading, -, rfl⟩ := map_eq_ok_iff.mp hsides
  cases reading with
  | absent => cases hmem
  | malformed reason => cases hmem
  | found entry =>
    obtain ⟨hvalue, -⟩ := TokenEntry.mem_present.mp hmem
    obtain ⟨hvalue', -⟩ := TokenEntry.mem_present.mp hmem'
    have hsame := TokenEntry.side_unique hside hside' hvalue hvalue'
    subst hsame
    exact Option.some.inj (hvalue.symm.trans hvalue')

end StyleTokens
