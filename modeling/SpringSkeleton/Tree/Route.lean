import SpringSkeleton.Path
import SpringSkeleton.Tree.Basic
import SpringSkeleton.Tree.FileProblem

namespace SpringSkeleton

-- How the text of a path ends decides what may stand there.
inductive Ending where
  | plain
  | slash
  | dots
  deriving DecidableEq

structure Route where
  fromRoot : Bool
  steps : List String
  ending : Ending

def Route.ofText (text : String) : Route :=
  let pieces := Text.pieces '/' text
  let named := pieces.filter (· ≠ "")
  { fromRoot := text.toList.head? == some '/'
    steps := named.filter (· ≠ ".")
    ending := match named.getLast? with
      | none => .dots
      | some last =>
        if last = "." ∨ last = ".." then .dots
        else if pieces.getLast? = some "" then .slash
        else .plain }

-- The route to the directory in which a path ends.
def Route.holder (route : Route) : Route :=
  if route.ending = .dots then route
  else { route with steps := route.steps.dropLast, ending := .dots }

-- A slash that follows the path, as it does where the path is the target of a link with one behind it.
def Route.before (route : Route) (ending : Ending) : Route :=
  if ending = .plain ∨ route.ending = .dots then route else { route with ending }

-- The same path without a slash behind it.
def Route.bare (route : Route) : Route :=
  if route.ending = .slash then { route with ending := .plain } else route

namespace Route
variable {route : Route}

@[simp] theorem bare_steps : route.bare.steps = route.steps := by
  unfold bare
  split <;> rfl

@[simp] theorem bare_fromRoot : route.bare.fromRoot = route.fromRoot := by
  unfold bare
  split <;> rfl

theorem bare_plain (open_ : route.ending ≠ .dots) : route.bare.ending = .plain := by
  unfold bare
  cases ends : route.ending with
  | plain => exact ends
  | slash => rfl
  | dots => exact absurd ends open_

end Route

-- Limits of the file system, in bytes.
def longestName : Nat := 255
def longestPath : Nat := 4095
def mostLinks : Nat := 40

-- A walk ends in a directory or stops at a link, with the steps that remain to be made from there.
inductive Stop where
  | reached (place : Location)
  | detour (place : Location) (steps : List String)

namespace Tree

def pass (tree : Tree) (place : Location) : List String → Except FileProblem Stop
  | [] => .ok (.reached place)
  | step :: rest =>
    if step = ".." then pass tree place.dropLast rest
    else if step.utf8ByteSize > longestName then .error .nameTooLong
    else match tree.node? (place ++ [step]) with
      | none => .error .missing
      | some .directory => pass tree (place ++ [step]) rest
      | some (.file _) => .error .notDirectory
      | some (.link target) =>
        let route := Route.ofText target
        .ok (.detour (if route.fromRoot then [] else place) (route.steps ++ rest))

-- What a whole path leads to: the place, what stands there if anything, and how the path ends.
structure Spot where
  place : Location
  node : Option Node
  ending : Ending

-- A walk along a whole path ends somewhere, or it goes on along another path: that of a link that it
-- came by, before what is left of its own.
inductive Halt where
  | arrived (found : Spot)
  | detour (place : Location) (route : Route)

-- Every step but the last must lead into a directory, and dots go to the directory above. A path that
-- ends in dots leads to a directory. A link in the last step is followed only on request.
def walk (tree : Tree) (follow : Bool) (place : Location) (route : Route) : Except FileProblem Halt :=
  let start := if route.fromRoot then [] else place
  match (if route.ending = .dots then none else route.steps.getLast?) with
  | none =>
    match pass tree start route.steps with
    | .error problem => .error problem
    | .ok (.reached directory) => .ok (.arrived ⟨directory, some .directory, .dots⟩)
    | .ok (.detour place steps) => .ok (.detour place ⟨false, steps, .dots⟩)
  | some step =>
    match pass tree start route.steps.dropLast with
    | .error problem => .error problem
    | .ok (.detour place steps) => .ok (.detour place ⟨false, steps ++ [step], route.ending⟩)
    | .ok (.reached directory) =>
      if step.utf8ByteSize > longestName then .error .nameTooLong
      else match tree.node? (directory ++ [step]) with
        | some (.link target) =>
          if follow || route.ending ≠ .plain then
            .ok (.detour directory ((Route.ofText target).before route.ending))
          else .ok (.arrived ⟨directory ++ [step], some (.link target), route.ending⟩)
        | node => .ok (.arrived ⟨directory ++ [step], node, route.ending⟩)

-- Only so many links are followed on the whole way.
def spot (tree : Tree) (follow : Bool) (links : Nat) (place : Location) (route : Route) :
    Except FileProblem Spot :=
  match walk tree follow place route with
  | .error problem => .error problem
  | .ok (.arrived found) => .ok found
  | .ok (.detour place route) =>
    match links with
    | 0 => .error .tooManyLinks
    | links + 1 => spot tree follow links place route

end Tree
end SpringSkeleton
