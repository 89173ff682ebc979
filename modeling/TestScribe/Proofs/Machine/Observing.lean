import TestScribe.Machine.Destination
import TestScribe.Machine.Manifest
import TestScribe.Machine.Memory
/-!
Actions on a machine in memory.  Looking things up leaves the tree as it is; only making
directories and writing files may change it.
-/

namespace TestScribe

/-- What an action gives on a tree, with the tree that it leaves. -/
def FileTree.run {Value : Type} (tree : FileTree) (action : StateM FileTree Value) :
    Value × FileTree :=
  (StateT.run action tree).run

section Run

variable {First Second : Type}

@[simp]
theorem FileTree.run_pure (tree : FileTree) (value : First) :
    tree.run (pure value) = (value, tree) := rfl

theorem FileTree.run_bind (tree : FileTree) (action : StateM FileTree First)
    (next : First → StateM FileTree Second) :
    tree.run (action >>= next) = (tree.run action).2.run (next (tree.run action).1) := rfl

/-- The action leaves every tree as it is. -/
def Observes (action : StateM FileTree First) : Prop :=
  ∀ tree : FileTree, (tree.run action).2 = tree

theorem observes_pure (value : First) : Observes (pure value) := fun _ => rfl

/-- What follows an observation runs on the same tree. -/
theorem Observes.run_bind {action : StateM FileTree First} (haction : Observes action)
    (next : First → StateM FileTree Second) (tree : FileTree) :
    tree.run (action >>= next) = tree.run (next (tree.run action).1) := by
  rw [FileTree.run_bind, haction tree]

theorem Observes.bind {action : StateM FileTree First} {next : First → StateM FileTree Second}
    (haction : Observes action) (hnext : ∀ value, Observes (next value)) :
    Observes (action >>= next) := by
  intro tree
  rw [haction.run_bind]
  exact hnext _ tree

theorem observes_findM? {test : First → StateM FileTree Bool}
    (htest : ∀ value, Observes (test value)) (values : List First) :
    Observes (values.findM? test) := by
  induction values with
  | nil => exact observes_pure none
  | cons value values ih =>
      rw [List.findM?]
      refine (htest value).bind fun isFound => ?_
      cases isFound with
      | true => exact observes_pure (some value)
      | false => exact ih

/-- A search whose tests leave the tree finds what the tests find on it. -/
theorem run_findM? {tree : FileTree} {test : First → StateM FileTree Bool}
    {holds : First → Bool} (htest : ∀ value, tree.run (test value) = (holds value, tree))
    (values : List First) : tree.run (values.findM? test) = (values.find? holds, tree) := by
  induction values with
  | nil => rfl
  | cons value values ih =>
      rw [List.findM?, FileTree.run_bind, htest, List.find?_cons]
      dsimp only
      cases holds value with
      | true => rfl
      | false => exact ih

end Run

namespace Machine

variable (surroundings : Surroundings)

theorem observes_settings : Observes (inMemory surroundings).settings := by
  refine Observes.bind (fun _ => rfl) fun environment => Observes.bind ?_ fun _ => observes_pure _
  refine Observes.bind (fun _ => rfl) fun text => ?_
  cases text <;> exact observes_pure _

theorem observes_detectFramework (start : Path) :
    Observes ((inMemory surroundings).detectFramework start) := by
  refine (observes_findM? (fun _ _ => rfl) _).bind fun found => ?_
  cases found with
  | none => exact observes_pure _
  | some path =>
      refine Observes.bind (fun _ => rfl) fun text => ?_
      cases text <;> exact observes_pure _

end Machine

end TestScribe
