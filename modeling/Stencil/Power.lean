/-!
# Powers

Powers of numbers are those of the core library, also where a library with further powers is used.
-/

attribute [instance(high), default_instance high] instPowNat
