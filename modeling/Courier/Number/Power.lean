/-!
# Powers

A power of natural or whole numbers is the built-in one, whatever else is known of their algebra.
-/

attribute [instance (2000), default_instance 20000] instPowNat
