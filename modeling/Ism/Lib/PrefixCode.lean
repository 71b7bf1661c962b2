import Mathlib.InformationTheory.Coding.UniquelyDecodable

namespace Ism.Lib

open InformationTheory

variable {α : Type*} {S : Set (List α)}

/-- No word of the set continues another one. -/
def PrefixCode (S : Set (List α)) : Prop := ∀ w more, w ∈ S → w ++ more ∈ S → more = []

/-- The words of a prefix code can be told apart when they are written one after another. -/
theorem PrefixCode.uniquelyDecodable (code : PrefixCode S) (proper : [] ∉ S) : UniquelyDecodable S := by
  have longer : ∀ {v w rest rest'}, v ∈ S → w ∈ S → v ++ rest = w ++ rest' → v.length ≤ w.length →
      v = w ∧ rest = rest' := by
    intro v w rest rest' first second same shorter
    obtain ⟨more, rfl, rfl⟩ : ∃ more, w = v ++ more ∧ rest = more ++ rest' := by
      rcases List.append_eq_append_iff.mp same with ⟨more, whole, left⟩ | ⟨more, whole, left⟩
      · exact ⟨more, whole, left⟩
      · have nothing : more = [] := by
          have length := congrArg List.length whole
          rw [List.length_append] at length
          exact List.length_eq_zero_iff.mp (by omega)
        exact ⟨[], by simp [whole, nothing], by simp [left, nothing]⟩
    obtain rfl := code v more first second
    exact ⟨(List.append_nil v).symm, List.nil_append rest'⟩
  intro vs
  induction vs with
  | nil =>
    rintro (_ | ⟨w, ws⟩) - members same
    · rfl
    · rw [List.flatten_nil, List.flatten_cons] at same
      have empty := (List.append_eq_nil_iff.mp same.symm).1
      exact absurd (empty ▸ members w List.mem_cons_self) proper
  | cons v vs ih =>
    rintro (_ | ⟨w, ws⟩) members members' same
    · rw [List.flatten_nil, List.flatten_cons] at same
      have empty := (List.append_eq_nil_iff.mp same).1
      exact absurd (empty ▸ members v List.mem_cons_self) proper
    · rw [List.flatten_cons, List.flatten_cons] at same
      have first := members v List.mem_cons_self
      have second := members' w List.mem_cons_self
      have both : v = w ∧ vs.flatten = ws.flatten := by
        rcases Nat.le_total v.length w.length with shorter | shorter
        · exact longer first second same shorter
        · obtain ⟨here, later⟩ := longer second first same.symm shorter
          exact ⟨here.symm, later.symm⟩
      rw [both.1, ih ws (fun x member => members x (List.mem_cons_of_mem v member))
        (fun x member => members' x (List.mem_cons_of_mem w member)) both.2]

end Ism.Lib
