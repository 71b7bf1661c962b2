import Ism.Zone

namespace Ism

/-- The lookup in which a star matches nothing but itself. -/
def lookupExact (root : TreeNode) : Qname → Option (List ResourceRecord)
  | [] => some root.records
  | hd :: tl =>
    match findChild root.children hd with
    | some child => lookupExact child tl
    | none => none

namespace TreeNode

/-- The child that a lookup goes on with, where a star takes the place of a missing label. -/
def childOrStar (node : TreeNode) (l : Label) : Option TreeNode :=
  (findChild node.children l).or (findChild node.children wildcardLabel)

/-- The node at the end of a name in the order of the tree. -/
def descend (next : TreeNode → Label → Option TreeNode) (root : TreeNode) (key : Qname) : Option TreeNode :=
  key.foldlM next root

theorem descend_append (next : TreeNode → Label → Option TreeNode) (root : TreeNode) (key : Qname) (l : Label) :
    root.descend next (key ++ [l]) = (root.descend next key).bind fun node => next node l := by
  simp only [descend, List.foldlM_append, List.foldlM_cons, List.foldlM_nil, bind_pure]
  rfl

/-- There is a node under exactly this name. -/
def Has (root : TreeNode) (name : Qname) : Prop := (lookupExact root (nameToTreeKey name)).isSome = true

instance (root : TreeNode) (name : Qname) : Decidable (root.Has name) := inferInstanceAs (Decidable (_ = true))

end TreeNode

theorem lookupExact_eq (root : TreeNode) (key : Qname) :
    lookupExact root key = (root.descend (fun node l => findChild node.children l) key).map TreeNode.records := by
  induction key generalizing root with
  | nil => rfl
  | cons hd tl ih =>
    rw [lookupExact, TreeNode.descend, List.foldlM_cons]
    cases findChild root.children hd with
    | none => rfl
    | some child => exact ih child

theorem lookupWithWildcard_eq (root : TreeNode) (key : Qname) :
    lookupWithWildcard root key = (root.descend TreeNode.childOrStar key).map TreeNode.records := by
  induction key generalizing root with
  | nil => rfl
  | cons hd tl ih =>
    rw [lookupWithWildcard, TreeNode.descend, List.foldlM_cons, TreeNode.childOrStar]
    cases findChild root.children hd with
    | some child => exact ih child
    | none =>
      cases findChild root.children wildcardLabel with
      | some wildcard => exact ih wildcard
      | none => rfl

/-- The name whose records answer for another one. It is found from the root of the zone down:
under the name that answers for the parent, the label itself if it is there, else a star. -/
inductive AnswersFor (root : TreeNode) : Qname → Qname → Prop
  | apex : AnswersFor root [] []
  | named {owner name : Qname} {l : Label} (parent : AnswersFor root owner name) (has : root.Has (l :: owner)) :
      AnswersFor root (l :: owner) (l :: name)
  | starred {owner name : Qname} {l : Label} (parent : AnswersFor root owner name) (lacks : ¬ root.Has (l :: owner))
      (has : root.Has (wildcardLabel :: owner)) : AnswersFor root (wildcardLabel :: owner) (l :: name)

section Lookup

variable {root : TreeNode} {name owner : Qname} {l : Label}

/-- The node of a name. -/
def TreeNode.at (root : TreeNode) (name : Qname) : Option TreeNode :=
  root.descend (fun node l => findChild node.children l) (nameToTreeKey name)

theorem TreeNode.at_cons (root : TreeNode) (name : Qname) (l : Label) :
    root.at (l :: name) = (root.at name).bind fun node => findChild node.children l := by
  rw [TreeNode.at, nameToTreeKey, List.reverse_cons, TreeNode.descend_append]
  rfl

theorem lookupExact_at : lookupExact root (nameToTreeKey name) = (root.at name).map TreeNode.records :=
  lookupExact_eq root (nameToTreeKey name)

theorem TreeNode.has_iff : root.Has name ↔ (root.at name).isSome = true := by
  rw [TreeNode.Has, lookupExact_at, Option.isSome_map]

theorem TreeNode.has_cons {node : TreeNode} (held : root.at name = some node) :
    root.Has (l :: name) ↔ (findChild node.children l).isSome = true := by
  rw [TreeNode.has_iff, TreeNode.at_cons, held, Option.bind_some]

theorem AnswersFor.has (answers : AnswersFor root owner name) : root.Has owner := by
  cases answers with
  | apex => rfl
  | named _ has => exact has
  | starred _ _ has => exact has

theorem AnswersFor.unique {other : Qname} (answers : AnswersFor root owner name) (again : AnswersFor root other name) :
    owner = other := by
  induction answers generalizing other with
  | apex =>
    cases again
    rfl
  | named _ has ih =>
    cases again with
    | named parent => rw [ih parent]
    | starred parent lacks =>
      obtain rfl := ih parent
      exact absurd has lacks
  | starred _ lacks _ ih =>
    cases again with
    | named parent has =>
      obtain rfl := ih parent
      exact absurd has lacks
    | starred parent => rw [ih parent]

theorem AnswersFor.length_eq (answers : AnswersFor root owner name) : owner.length = name.length := by
  induction answers with
  | apex => rfl
  | named _ _ ih => exact congrArg Nat.succ ih
  | starred _ _ _ ih => exact congrArg Nat.succ ih

/-- Each step of the lookup is one of the rules for the name that answers. -/
theorem descend_childOrStar_iff {node : TreeNode} :
    root.descend TreeNode.childOrStar (nameToTreeKey name) = some node ↔
      ∃ owner, AnswersFor root owner name ∧ root.at owner = some node := by
  induction name generalizing node with
  | nil =>
    constructor
    · intro here
      exact ⟨[], .apex, here⟩
    · rintro ⟨owner, answers, here⟩
      cases answers
      exact here
  | cons l name ih =>
    rw [nameToTreeKey, List.reverse_cons, TreeNode.descend_append, Option.bind_eq_some_iff]
    constructor
    · rintro ⟨parent, reached, next⟩
      obtain ⟨owner, answers, held⟩ := ih.mp reached
      cases child : findChild parent.children l with
      | some found =>
        rw [TreeNode.childOrStar, child, Option.some_or] at next
        refine ⟨l :: owner, .named answers ?_, ?_⟩
        · rw [TreeNode.has_cons held, child, Option.isSome_some]
        · rw [TreeNode.at_cons, held, Option.bind_some, child, next]
      | none =>
        rw [TreeNode.childOrStar, child, Option.none_or] at next
        refine ⟨wildcardLabel :: owner, .starred answers ?_ ?_, ?_⟩
        · rw [TreeNode.has_cons held, child]
          exact Bool.false_ne_true
        · rw [TreeNode.has_cons held, next, Option.isSome_some]
        · rw [TreeNode.at_cons, held, Option.bind_some, next]
    · rintro ⟨_, answers, reached⟩
      cases answers with
      | named parent has =>
        rw [TreeNode.at_cons, Option.bind_eq_some_iff] at reached
        obtain ⟨node', held, child⟩ := reached
        exact ⟨node', ih.mpr ⟨_, parent, held⟩, by rw [TreeNode.childOrStar, child, Option.some_or]⟩
      | starred parent lacks has =>
        rw [TreeNode.at_cons, Option.bind_eq_some_iff] at reached
        obtain ⟨node', held, star⟩ := reached
        rw [TreeNode.has_cons held, Bool.not_eq_true, Option.isSome_eq_false_iff, Option.isNone_iff_eq_none] at lacks
        exact ⟨node', ih.mpr ⟨_, parent, held⟩, by rw [TreeNode.childOrStar, lacks, Option.none_or, star]⟩

theorem lookupDnsName_iff {rrs : List ResourceRecord} :
    lookupDnsName root name = some rrs ↔
      ∃ owner, AnswersFor root owner name ∧ lookupExact root (nameToTreeKey owner) = some rrs := by
  simp only [lookupDnsName, lookupWithWildcard_eq, lookupExact_at, Option.map_eq_some_iff, descend_childOrStar_iff]
  constructor
  · rintro ⟨node, ⟨owner, answers, held⟩, records⟩
    exact ⟨owner, answers, node, held, records⟩
  · rintro ⟨owner, answers, node, held, records⟩
    exact ⟨node, ⟨owner, answers, held⟩, records⟩

theorem lookupDnsName_eq_none_iff : lookupDnsName root name = none ↔ ∀ owner, ¬ AnswersFor root owner name := by
  rw [Option.eq_none_iff_forall_ne_some]
  constructor
  · intro missed owner answers
    obtain ⟨rrs, held⟩ := Option.isSome_iff_exists.mp answers.has
    exact missed rrs (lookupDnsName_iff.mpr ⟨owner, answers, held⟩)
  · intro unanswered rrs found
    obtain ⟨owner, answers, -⟩ := lookupDnsName_iff.mp found
    exact unanswered owner answers

/-- The nodes above a node are there as well. -/
theorem TreeNode.Has.parent (has : root.Has (l :: name)) : root.Has name := by
  rw [TreeNode.has_iff, TreeNode.at_cons] at has
  rw [TreeNode.has_iff]
  exact Option.isSome_of_isSome_bind has

theorem AnswersFor.of_has (has : root.Has name) : AnswersFor root name name := by
  induction name with
  | nil => exact .apex
  | cons l name ih => exact .named (ih has.parent) has

theorem lookupDnsName_missing_below (missing : lookupDnsName root name = none) (below : Qname) :
    lookupDnsName root (below ++ name) = none := by
  induction below with
  | nil => exact missing
  | cons l below ih =>
    rw [lookupDnsName_eq_none_iff] at ih ⊢
    rintro _ (_ | parent | parent)
    · exact ih _ parent
    · exact ih _ parent

end Lookup

/-- What a zone with stars answers. The owner of the records is unique, and it is the name itself
where the zone has it. A star stands for one label: no name is answered below a name that is not, nor
one longer than all of the zone, and a label that is there hides the star next to it. -/
theorem wildcard_lookup_semantics (root : TreeNode) (name : Qname) :
    (∀ rrs, lookupDnsName root name = some rrs ↔
      ∃ owner, AnswersFor root owner name ∧ lookupExact root (nameToTreeKey owner) = some rrs) ∧
    (∀ owner other, AnswersFor root owner name → AnswersFor root other name → owner = other) ∧
    (root.Has name → lookupDnsName root name = lookupExact root (nameToTreeKey name)) ∧
    (lookupDnsName root name = none → ∀ below, lookupDnsName root (below ++ name) = none) ∧
    ((∀ owner, root.Has owner → owner.length < name.length) → lookupDnsName root name = none) ∧
    ∀ l m, root.Has (l :: name) → ¬ root.Has (m :: l :: name) → ¬ root.Has (wildcardLabel :: l :: name) →
      ∀ below, lookupDnsName root (below ++ m :: l :: name) = none := by
  refine ⟨fun rrs => lookupDnsName_iff, fun owner other answers again => answers.unique again, fun has => ?_,
    lookupDnsName_missing_below, fun longer => ?_, fun l m has lacks unstarred => lookupDnsName_missing_below ?_⟩
  · obtain ⟨rrs, held⟩ := Option.isSome_iff_exists.mp has
    rw [held]
    exact lookupDnsName_iff.mpr ⟨name, .of_has has, held⟩
  · rw [lookupDnsName_eq_none_iff]
    intro owner answers
    exact absurd answers.length_eq (Nat.ne_of_lt (longer owner answers.has))
  · rw [lookupDnsName_eq_none_iff]
    intro owner answers
    -- the parent is answered by itself, so that only its own children count
    cases answers with
    | named parent below =>
      obtain rfl := parent.unique (.of_has has)
      exact lacks below
    | starred parent _ star =>
      obtain rfl := parent.unique (.of_has has)
      exact unstarred star

end Ism
