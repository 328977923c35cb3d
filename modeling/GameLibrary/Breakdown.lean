/-!
# Breakdowns

A program that breaks down stops where it stands, with some last words. `Checked` is the type of what
may come to a result or break down.
-/

namespace GameLibrary

/-- The most permits that a fetcher can manage. -/
def Fetcher.greatestPermits : Nat := 0x1fffffffffffffff

/-- What breaks the program down. -/
inductive Breakdown where
  /-- A fetcher has more workers than permits can be managed. -/
  | tooManyPermits
  /-- The deadline of a fetch is beyond the last instant. -/
  | deadlineTooFar
  /-- A difference is beyond the least or the greatest number of its type. -/
  | differenceTooFar
deriving DecidableEq, Inhabited, Repr

/-- The last words of a breakdown. -/
def Breakdown.message : Breakdown → String
  | tooManyPermits =>
      "a semaphore may not have more than MAX_PERMITS permits (" ++
        toString Fetcher.greatestPermits ++ ")"
  | deadlineTooFar => "overflow when adding duration to instant"
  | differenceTooFar => "attempt to subtract with overflow"

/-- What may break down instead of coming to a result. -/
abbrev Checked := Except Breakdown

/-- The difference of two numbers of thirty-two bits, if thirty-two bits hold it. -/
def Checked.difference (a b : Int32) : Checked Int32 :=
  if (a - b).toInt = a.toInt - b.toInt then .ok (a - b) else .error .differenceTooFar

end GameLibrary
