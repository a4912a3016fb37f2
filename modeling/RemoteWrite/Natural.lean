/-!
Contract: powers and sums of natural numbers mean the same everywhere.

The program is built from the core library alone, and some of its theory from
Mathlib, which brings instances of its own. Here those of the core library
take precedence, so that a theorem is about the very definition that runs.
Modules with powers or sums of natural numbers import this one.

Owns: the precedence of the instances.

Does not own: any arithmetic.
-/

namespace RemoteWrite

@[default_instance 20000]
instance (priority := 2000) powNat : Pow Nat Nat := instPowNat

instance (priority := 2000) zeroNat : Zero Nat := Zero.ofOfNat0

end RemoteWrite
