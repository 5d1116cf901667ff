import Pacts.Text.Blank

/-!
# Header values

The value of a header is made of visible characters, spaces and tabs.  One that is sent must not end
in a space or a tab.  Of one that is received the blanks around it do not count, and one with other
characters is as good as none.
-/

set_option autoImplicit false

namespace Pacts.Http

/-- Whether a character may stand in the value of a header. -/
def isHeaderChar (c : Char) : Bool := c == ' ' || c == '\t' || (0x21 ≤ c.toNat && c.toNat ≤ 0x7E)

/-- Whether a text may be sent as the value of a header. -/
def isHeaderValue (s : String) : Bool :=
  s.toList.all isHeaderChar && !(s.toList.getLast?.any fun c => c == ' ' || c == '\t')

/-- The value of a header that was received as a text. -/
def headerValue? (s : String) : Option String :=
  let value := trimmed s
  if value.toList.all isHeaderChar then some value else none

end Pacts.Http
