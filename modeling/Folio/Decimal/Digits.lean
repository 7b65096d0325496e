import Folio.Text.Basic

/-! Natural numbers and integers as decimal digits, most significant first. -/
namespace Folio.Decimal

/-- The decimal digits of a number; zero has the one digit 0. -/
def digits (n : Nat) : List Nat :=
  if n < 10 then [n] else digits (n / 10) ++ [n % 10]
termination_by n
decreasing_by omega

def ofDigits (ds : List Nat) : Nat := ds.foldl (fun n d => 10 * n + d) 0

theorem ofDigits_append_one (ds : List Nat) (d : Nat) :
    ofDigits (ds ++ [d]) = 10 * ofDigits ds + d := by
  simp [ofDigits]

theorem ofDigits_digits (n : Nat) : ofDigits (digits n) = n := by
  induction n using Nat.strongRecOn with
  | ind n ih =>
    rw [digits]
    split
    · simp [ofDigits]
    · rw [ofDigits_append_one, ih (n / 10) (by omega)]
      omega

def digitText (ds : List Nat) : Text := ds.map Nat.digitChar

def natText (n : Nat) : Text := digitText (digits n)

def intText : Int → Text
  | .ofNat n => natText n
  | .negSucc n => '-' :: natText (n + 1)

end Folio.Decimal
