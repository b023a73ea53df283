import FilteringProxy.Text.Basic

/-! # Durations in words

A duration in milliseconds is told in seconds from one second on, in milliseconds below, and zero in
nanoseconds.
-/

namespace FilteringProxy.Duration

/-- The decimal places of a part of a thousand, without zeros at the end. -/
def places (thousandths : Nat) : Text :=
  let digits := Text.ofNat (1000 + thousandths % 1000)
  Text.dropEnd (· == '0') (digits.drop 1)

def print (milliseconds : Nat) : Text :=
  if milliseconds = 0 then "0ns"
  else if milliseconds < 1000 then Text.ofNat milliseconds ++ ("ms" : Text)
  else
    let whole := Text.ofNat (milliseconds / 1000)
    match places milliseconds with
    | [] => whole ++ ['s']
    | fraction => whole ++ ['.'] ++ fraction ++ ['s']

end FilteringProxy.Duration
