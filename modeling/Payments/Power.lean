/-!
Powers of integers. A numeral as an exponent means the same whichever other powers are in scope.
-/

attribute [instance (10000), default_instance 10000] instPowNat
