import DuckPools.Language.NumberText
import DuckPools.Language.Numbers

/-!
# The payout that the forms of the frontend show

`components/BetForm.tsx` and `components/games/CoinFlipGame.tsx` have the same constants
and the same function. The amount is text, as the state of a form keeps it.
-/

namespace DuckPools.Frontend

/-- The amount times a multiplier that has been rounded to nine digits. -/
def payoutPreview (multiplier : ℚ) (amountNanoErg : Text) : Option Text :=
  (Js.parseBigInt amountNanoErg).map fun nano : Int =>
    Js.bigIntToString ((nano * Js.round (multiplier * 1000000000)).tdiv 1000000000)

namespace BetForm

def HOUSE_EDGE : ℚ := 3 / 100

def PAYOUT_MULTIPLIER : ℚ := 1 - HOUSE_EDGE

def calculatePayout (amountNanoErg : Text) : Option Text :=
  payoutPreview PAYOUT_MULTIPLIER amountNanoErg

end BetForm

namespace CoinFlipGame

def HOUSE_EDGE : ℚ := 3 / 100

def PAYOUT_MULTIPLIER : ℚ := 1 - HOUSE_EDGE

def calculatePayout (amountNanoErg : Text) : Option Text :=
  payoutPreview PAYOUT_MULTIPLIER amountNanoErg

end CoinFlipGame

/-- At an edge of three percent the forms show 97/100 of the amount. -/
theorem payoutPreview_eq (amount : Nat) :
    payoutPreview (1 - 3 / 100) (Js.bigIntToString amount) =
      some (Js.bigIntToString ((amount * 97 / 100 : Nat) : Int)) := by
  have hrate : Js.round ((1 - 3 / 100) * 1000000000) = 970000000 := by
    rw [Js.round, Int.floor_eq_iff]
    norm_num
  have hshare : ((amount : Int) * 970000000).tdiv 1000000000 =
      ((amount * 97 / 100 : Nat) : Int) := by
    rw [Int.tdiv_eq_ediv_of_nonneg (by omega)]
    omega
  rw [payoutPreview, Js.bigIntToString_natCast, Js.parseBigInt_toDigits, Option.map_some, hrate,
    hshare]

end DuckPools.Frontend
