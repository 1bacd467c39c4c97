import Mathlib.Order.Lattice

/-!
# Directory trees

A directory lists its entries in the order of their names, and a walk lists what stands in it with
its path.
-/

namespace EdaGym

universe u v

mutual
inductive TreeNode (ν : Type u) (φ : Type v) : Type (max u v)
  | file (content : φ)
  | directory (entries : Directory ν φ)
  | special

inductive Directory (ν : Type u) (φ : Type v) : Type (max u v)
  | empty
  | cons (name : ν) (node : TreeNode ν φ) (rest : Directory ν φ)
end

/-- What stands at a path, without what is below it. -/
inductive TreeItem (φ : Type v)
  | file (content : φ)
  | directory
  | special
deriving DecidableEq

variable {ν : Type u} {φ : Type v}

def TreeNode.item : TreeNode ν φ → TreeItem φ
  | .file content => .file content
  | .directory _ => .directory
  | .special => .special

def Directory.names : Directory ν φ → List ν
  | empty => []
  | cons name _ rest => name :: rest.names

mutual
/-- The names of every directory stand in order. -/
def TreeNode.Ordered [LinearOrder ν] : TreeNode ν φ → Prop
  | .directory entries => entries.Ordered
  | _ => True

def Directory.Ordered [LinearOrder ν] : Directory ν φ → Prop
  | .empty => True
  | .cons name node rest => (∀ k ∈ rest.names, name < k) ∧ node.Ordered ∧ rest.Ordered
end

mutual
/-- The items of a subtree, each with its path, a directory before what is in it. -/
def TreeNode.walk (path : List ν) : TreeNode ν φ → List (List ν × TreeItem φ)
  | .file content => [(path, .file content)]
  | .directory entries => (path, .directory) :: entries.walk path
  | .special => [(path, .special)]

def Directory.walk (path : List ν) : Directory ν φ → List (List ν × TreeItem φ)
  | .empty => []
  | .cons name node rest => node.walk (path ++ [name]) ++ rest.walk path
end

end EdaGym
