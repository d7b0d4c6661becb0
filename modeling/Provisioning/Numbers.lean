/-!
# Powers and zeros

The power of a number and the zero that a sum starts from are the core library's, also
where the algebra of Mathlib is in scope: what a definition means does not depend on what
is imported beside it.
-/

attribute [instance (2000), default_instance 20000] instPowNat

attribute [instance (2000)] Zero.ofOfNat0
