namespace ProgramDeploy.Text

abbrev Class := Char → Bool

def Class.ofIntervals (intervals : List (Nat × Nat)) : Class :=
  fun c => intervals.any fun (low, high) => low ≤ c.toNat && c.toNat ≤ high

def pieces {α : Type} (p : α → Bool) : List α → List (List α)
  | [] => [[]]
  | c :: cs =>
    if p c then [] :: pieces p cs
    else match pieces p cs with
      | [] => [[c]]
      | w :: ws => (c :: w) :: ws

def words {α : Type} (p : α → Bool) (cs : List α) : List (List α) :=
  (pieces p cs).filter fun w => !w.isEmpty

def trimRight {α : Type} (p : α → Bool) (cs : List α) : List α :=
  (cs.reverse.dropWhile p).reverse

def trim {α : Type} (p : α → Bool) (cs : List α) : List α :=
  trimRight p (cs.dropWhile p)

end ProgramDeploy.Text
