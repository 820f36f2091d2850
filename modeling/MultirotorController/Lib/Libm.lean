import MultirotorController.Lib.Double

/-!
# Elementary functions

The irrational functions of the C mathematics library, as parameters: exact
arithmetic on rationals has no values for them, and nothing proved here depends
on which values they take.
-/

class Libm where
  sqrt : Double → Double
  /-- The three-argument `std::hypot`. -/
  hypot : Double → Double → Double → Double
  sin : Double → Double
  cos : Double → Double
  atan : Double → Double
  atan2 : Double → Double → Double
