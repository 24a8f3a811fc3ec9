namespace SpringSkeleton.Text

-- Every `step`-th code point from `first` to `last` moves by `offset`.
structure CaseRun where
  first : Nat
  last : Nat
  step : Nat
  offset : Int
  deriving Repr, DecidableEq

def CaseRun.covers (run : CaseRun) (code : Nat) : Bool :=
  run.first ≤ code && code ≤ run.last && (code - run.first) % run.step == 0

def CaseRun.image (run : CaseRun) (code : Nat) : Nat := (code + run.offset).toNat

-- The first run that covers the code point decides; one that no run covers has no entry.
def runImage? (runs : List CaseRun) (code : Nat) : Option Nat :=
  (runs.find? (·.covers code)).map (·.image code)

end SpringSkeleton.Text
