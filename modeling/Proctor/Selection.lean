/-!
# Selecting tests by name

A run may name the tests it wants. No names means all tests; names that match nothing are ignored,
and the order is that of the tests found, never that of the names.
-/

set_option autoImplicit false

namespace Proctor

def selectTests (found : List String) (names : List String) : List String :=
  if names.isEmpty then found else found.filter (fun id => names.contains id)

end Proctor
