import SealedChain.Text.Digits

/-!
# Durations

Times and durations count whole milliseconds. The text of a duration uses the largest of
nanoseconds (for nothing at all), milliseconds and seconds that it fills, with as many decimals as
it needs.
-/
namespace SealedChain

/-- A time since the start of a run, or a duration, in milliseconds. -/
abbrev Millis := Nat

namespace Millis

/-- The three decimals of a number below a thousand, without the zeros at their end. -/
def decimals (ms : Nat) : List Char :=
  let digits := [Nat.digitChar (ms / 100 % 10), Nat.digitChar (ms / 10 % 10),
    Nat.digitChar (ms % 10)]
  (digits.reverse.dropWhile (· == '0')).reverse

def text (d : Millis) : String :=
  if d = 0 then "0ns"
  else if d < 1000 then String.ofList (Digits.decimal d ++ ['m', 's'])
  else
    let fraction := match decimals (d % 1000) with
      | [] => []
      | ds => '.' :: ds
    String.ofList (Digits.decimal (d / 1000) ++ fraction ++ ['s'])

end Millis

end SealedChain
