import PageComposer.Proofs.Tree

/-!
# Paths in trees

A path leads from the root of a tree to a node below it: it gives the index of each node on
the way among its siblings.  In the order of lists a path comes before another just when its
node comes first in the document.
-/

namespace PageComposer.Value

/-- The node that a path leads to. -/
def at? (tree : Value) : List Nat → Option Value
  | [] => some tree
  | index :: path => tree.childNodes[index]?.bind fun child => child.at? path

/-- The tree with another node where a path leads to. -/
def setAt (tree : Value) (path : List Nat) (node : Value) : Value :=
  match path with
  | [] => node
  | index :: path =>
      match tree, tree.childNodes[index]? with
      | .object fields, some child =>
          .object (Fields.insert fields "children"
            (.list ((Value.object fields).childNodes.set index (child.setAt path node))))
      | tree, _ => tree

theorem at?_cons {tree child : Value} {index : Nat} (path : List Nat)
    (found : tree.childNodes[index]? = some child) :
    tree.at? (index :: path) = child.at? path := by
  simp [at?, found]

theorem exists_of_at?_cons {tree node : Value} {index : Nat} {path : List Nat}
    (found : tree.at? (index :: path) = some node) :
    ∃ child, tree.childNodes[index]? = some child ∧ child.at? path = some node := by
  simpa only [at?, Option.bind_eq_some_iff] using found

theorem setAt_cons {fields : Fields} {items : List Value} {child : Value} {index : Nat}
    (listed : Fields.get? fields "children" = some (.list items))
    (here : items[index]? = some child) (path : List Nat) (node : Value) :
    (Value.object fields).setAt (index :: path) node =
      .object (Fields.insert fields "children"
        (.list (items.set index (child.setAt path node)))) := by
  have nodes := childNodes_of_list listed
  simp only [setAt, nodes, here]

/-- Only an object has nodes below it. -/
theorem exists_list_of_childNodes {tree child : Value} {index : Nat}
    (found : tree.childNodes[index]? = some child) :
    ∃ fields items, tree = .object fields ∧
      Fields.get? fields "children" = some (.list items) ∧ tree.childNodes = items := by
  cases tree with
  | object fields =>
      cases listed : Fields.get? fields "children" with
      | none => simp [childNodes_of_none listed] at found
      | some value =>
          cases value with
          | list items => exact ⟨fields, items, rfl, listed, childNodes_of_list listed⟩
          | _ => simp [childNodes, listed] at found
  | _ => simp [childNodes] at found

end PageComposer.Value
