/-!
# Room for texts

There is no room for a text from a certain length on.
-/

namespace Teardown.Text

set_option autoImplicit false

def roomLimit : Nat := Nat.pow 2 32

end Teardown.Text
