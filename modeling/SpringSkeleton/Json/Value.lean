import SpringSkeleton.Keyed

namespace SpringSkeleton.Json

-- Whole numbers that fit 64 bits stay exact; all others are binary fractions.
inductive Number where
  | whole (value : Int)
  | real (value : Float)

inductive Value where
  | null
  | boolean (value : Bool)
  | number (value : Number)
  | text (value : String)
  | array (items : List Value)
  | object (members : List (String × Value))

def Value.record (members : List (String × Value)) : Value := .object (Keyed.ofList members)

-- The member of an object; other values have none.
def Value.member? (key : String) : Value → Option Value
  | .object members => Keyed.find? key members
  | _ => none

end SpringSkeleton.Json
