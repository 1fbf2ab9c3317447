/-!
# Steps that can fail

A step tells how it ends and leaves a state, also where it fails.

* `Steps.run`: steps in their order, up to the first that fails.
* `Steps.keeping`: a step that leaves the state as it was where it fails.
-/

namespace CollectionArchive.Steps

variable {s α ε : Type}

/-- Steps in their order, up to the first that fails. -/
def run (step : s → α → Except ε Unit × s) : s → List α → Except ε Unit × s
  | x, [] => (.ok (), x)
  | x, a :: as =>
    match step x a with
    | (.ok (), x) => run step x as
    | (.error e, x) => (.error e, x)

/-- A step that leaves the state as it was where it fails. -/
def keeping (step : s → α → Except ε s) (x : s) (a : α) : Except ε Unit × s :=
  match step x a with
  | .ok x => (.ok (), x)
  | .error e => (.error e, x)

end CollectionArchive.Steps
