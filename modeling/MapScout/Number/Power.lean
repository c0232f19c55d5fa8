/-!
# Powers

The powers of two and of ten on which number formats and units are built.
-/

namespace MapScout

/-- Two to the power of `k`. -/
abbrev twoTo (k : Nat) : Nat := Nat.pow 2 k

/-- Ten to the power of `k`. -/
abbrev tenTo (k : Nat) : Nat := Nat.pow 10 k

end MapScout
