import TextTemplate.Value.Order

/-!
# Sorting values

A stable insertion sort: each item in turn moves in front of those before it that are greater.  The
first two items met that have no order make the whole sort fail.
-/

namespace TextTemplate.Value

/-- Puts an item among sorted ones, which stand greatest first. -/
def insertSorted (v : Value) : List Value → Except EvalFault (List Value)
  | [] => .ok [v]
  | w :: rest => do
    match ← compare v w with
    | .lt => return w :: (← insertSorted v rest)
    | _ => return v :: w :: rest

/-- Puts items among sorted ones, which stand greatest first. -/
def sortInto (sorted : List Value) : List Value → Except EvalFault (List Value)
  | [] => .ok sorted
  | v :: rest => do sortInto (← insertSorted v sorted) rest

/-- The items in ascending order; items that are equal in it keep their order. -/
def sort (items : List Value) : Except EvalFault (List Value) :=
  (sortInto [] items).map List.reverse

/-- The first item for which no later one compares to it as `wanted`. -/
def extremum (wanted : Ordering) (best : Value) : List Value → Except EvalFault Value
  | [] => .ok best
  | v :: rest => do
    if (← compare v best) = wanted then extremum wanted v rest
    else extremum wanted best rest

end TextTemplate.Value
