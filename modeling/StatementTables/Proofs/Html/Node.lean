import StatementTables.Html.Node

/-! # What is below a node

The nodes below a node of a tree stand together in the listing of the tree
(`descendants_sublist_forest`), so what is selected below the node is selected below any node around
it, in the same order (`select_sublist`). -/

namespace StatementTables.Html

namespace Node

variable {n node : Node} {nodes : List Node}

theorem forest_append (front back : List Node) :
    forest (front ++ back) = forest front ++ forest back := by
  induction front with
  | nil => rfl
  | cons node front ih => rw [List.cons_append, forest, forest, ih, List.append_assoc]

theorem subtree_eq (node : Node) : node.subtree = node :: node.descendants := by
  cases node <;> rfl

mutual

theorem descendants_sublist_subtree (node : Node) (h : n ∈ node.subtree) :
    n.descendants.Sublist node.subtree := by
  match node with
  | .element serial name attributes children =>
      rcases List.mem_cons.mp h with rfl | h
      · exact List.sublist_cons_self _ _
      · exact (descendants_sublist_forest children h).cons _
  | .fragment children =>
      rcases List.mem_cons.mp h with rfl | h
      · exact List.sublist_cons_self _ _
      · exact (descendants_sublist_forest children h).cons _
  | .text content =>
      rw [List.mem_singleton.mp h]
      exact List.nil_sublist _
  | .other =>
      rw [List.mem_singleton.mp h]
      exact List.nil_sublist _

theorem descendants_sublist_forest (nodes : List Node) (h : n ∈ forest nodes) :
    n.descendants.Sublist (forest nodes) := by
  match nodes with
  | [] => cases h
  | node :: nodes =>
      rcases List.mem_append.mp h with h | h
      · exact (descendants_sublist_subtree node h).trans (List.sublist_append_left _ _)
      · exact (descendants_sublist_forest nodes h).trans (List.sublist_append_right _ _)

end

theorem descendants_sublist (h : n ∈ node.descendants) : n.descendants.Sublist node.descendants :=
  descendants_sublist_forest node.children h

theorem select_sublist (name : String) (h : n ∈ node.descendants) :
    (n.select name).Sublist (node.select name) :=
  (descendants_sublist h).filter _

end Node

end StatementTables.Html
