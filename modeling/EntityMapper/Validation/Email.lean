import EntityMapper.Pattern.Basic
import EntityMapper.Text.Blank

set_option autoImplicit false

/-! Texts of the form of a mail address. -/

namespace EntityMapper.Email

open Pattern Text

/-- A character that is neither blank nor an at sign. -/
def ordinary : CharSet := .complement (.union (.ranges blanks) (.single '@'))

/-- One or more ordinary characters. -/
def run : Node := .repetition (.set ordinary) 1 none

/-- Parts in sequence. -/
def inSequence : List Node → Node
  | [] => .empty
  | node :: rest => .sequence node (inSequence rest)

/-- Ordinary characters around one at sign and, behind it, around a point. -/
def form : Node :=
  inSequence [.anchor .start, run, .set (.single '@'), run, .set (.single '.'), run,
    .anchor .finish]

/-- Whether a text has the form of a mail address. -/
def isEmail (text : String) : Bool := form.occursIn text

end EntityMapper.Email
