/-!
# Powers

Numbers are scaled by powers of ten, in which they are written, and of two, in which they are kept.
-/

set_option autoImplicit false

namespace Proctor

def tenTo (n : Nat) : Nat := Nat.pow 10 n

def twoTo (n : Nat) : Nat := Nat.pow 2 n

end Proctor
