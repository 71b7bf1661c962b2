import Mathlib.Algebra.Ring.Nat
import Mathlib.Data.List.Basic
import Mathlib.Tactic.Common

namespace Ism.Lib

/-- A stretch of cells, with what it holds. -/
structure Span (κ : Type*) where
  start : Nat
  size : Nat
  kind : κ
  deriving DecidableEq

variable {κ : Type*}

/-- The spans follow each other from `pos` without a gap. -/
def Contiguous : Nat → List (Span κ) → Prop
  | _, [] => True
  | pos, s :: rest => s.start = pos ∧ Contiguous (pos + s.size) rest

def totalSize (spans : List (Span κ)) : Nat := (spans.map Span.size).sum

theorem Contiguous.start_ge {pos : Nat} {spans : List (Span κ)} (tiled : Contiguous pos spans)
    {s : Span κ} (member : s ∈ spans) : pos ≤ s.start := by
  induction spans generalizing pos with
  | nil => cases member
  | cons head rest ih =>
    obtain ⟨here, later⟩ := tiled
    rcases List.mem_cons.mp member with rfl | member
    · exact Nat.le_of_eq here.symm
    · have := ih later member
      omega

theorem Contiguous.append {pos : Nat} {front back : List (Span κ)} (tiled : Contiguous pos front)
    (tiled' : Contiguous (pos + totalSize front) back) : Contiguous pos (front ++ back) := by
  induction front generalizing pos with
  | nil => simpa [totalSize] using tiled'
  | cons head rest ih =>
    obtain ⟨here, later⟩ := tiled
    refine ⟨here, ih later ?_⟩
    simpa only [totalSize, List.map_cons, List.sum_cons, Nat.add_assoc] using tiled'

/-- A cell at which a nonempty span starts lies in no other span. -/
theorem Contiguous.unique {pos : Nat} {spans : List (Span κ)} (tiled : Contiguous pos spans)
    {s u : Span κ} (member : s ∈ spans) (member' : u ∈ spans) (nonempty : 0 < u.size)
    (above : s.start ≤ u.start) (below : u.start < s.start + s.size) : s = u := by
  induction spans generalizing pos with
  | nil => cases member
  | cons head rest ih =>
    obtain ⟨here, later⟩ := tiled
    rcases List.mem_cons.mp member with atHead | inRest
    · rcases List.mem_cons.mp member' with atHead' | inRest'
      · rw [atHead, atHead']
      · have := later.start_ge inRest'
        subst atHead
        omega
    · rcases List.mem_cons.mp member' with atHead' | inRest'
      · have := later.start_ge inRest
        subst atHead'
        omega
      · exact ih later inRest inRest'

end Ism.Lib
