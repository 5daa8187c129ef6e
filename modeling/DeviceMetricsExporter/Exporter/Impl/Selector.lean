import DeviceMetricsExporter.Lib.GoStrings

/-!
This module contains the parser of instance selectors such as `0,2-3,7`.
-/

namespace Exporter

inductive SelectorError where
  | errorf (text : String)
  | atoi (token : String)
  deriving DecidableEq

def rangeError (numOrRange : String) : SelectorError :=
  .errorf ("range must be of format 'min-max', but found '" ++ numOrRange ++ "'")

def addRange (last : Int) (n : Nat) (i : Int) (indices : List Int) : Option (List Int) :=
  -- `i++` wraps around. The loop takes at most `n` rounds, `none` if these are not enough.
  match n with
  | 0 => none
  | n + 1 =>
    if i ≤ last then
      addRange last n ((i + 1).bmod (2 ^ 64)) (indices ++ [i])
    else
      some indices

/--
There are `2 ^ 64` machine integers, so that a loop over one of them that has not ended after as many
rounds does not end.
-/
def maxRounds : Nat := 2 ^ 64

def rangeStrToIntIndices.go (indices : List Int)
    : List String → Option (List Int × Option SelectorError)
  | [] => some (indices, none)
  | numOrRange :: numbers =>
    match split numOrRange '-' with
    | [token] =>
      match atoi token with
      | none => some (indices, some (.atoi token))
      | some number => go (indices ++ [number]) numbers
    | [min, max] =>
      match atoi min, atoi max with
      | none, _ => some (indices, some (.atoi min))
      | some _, none => some (indices, some (.atoi max))
      | some start, some last =>
        if start > last then
          some (indices, some (rangeError numOrRange))
        else
          match addRange last maxRounds start indices with
          | none => none
          | some indices => go indices numbers
    | _ => some (indices, some (rangeError numOrRange))

/--
The indices read up to the first error, `none` if the function does not return.
-/
def rangeStrToIntIndices (b : String) : Option (List Int × Option SelectorError) :=
  rangeStrToIntIndices.go [] (split b ',')

end Exporter
