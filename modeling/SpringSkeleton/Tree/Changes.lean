import SpringSkeleton.Tree.Basic

namespace SpringSkeleton.Tree

inductive Change where
  | removed (place : Location)
  | placed (place : Location) (node : Node)
  deriving DecidableEq

def Change.place : Change → Location
  | removed place => place
  | placed place _ => place

def removals (before after : Tree) : List Change :=
  (before.entries.filter fun entry => (after.node? entry.1).isNone).map fun entry => .removed entry.1

def placements (before after : Tree) : List Change :=
  (after.entries.filter fun entry => before.node? entry.1 ≠ some entry.2).map
    fun entry => .placed entry.1 entry.2

-- Removals come first; what is placed comes from the outermost directory inwards.
def changes (before after : Tree) : List Change := removals before after ++ placements before after

end SpringSkeleton.Tree
