import ChatAssistant.Text.Charset.Fault

/-!
Tables of characters in rows. The places of a row that hold no character are written as faults.
-/

namespace ChatAssistant.Text.Charset

structure CodeTable where
  rows : List String

namespace CodeTable

def at? (table : CodeTable) (row column : Nat) : Option Char :=
  (table.rows[row]?).bind fun text => (text.toList[column]?).filter (· ≠ fault)

/-- The character at a place, counted through rows of this width. -/
def nth? (table : CodeTable) (width place : Nat) : Option Char :=
  table.at? (place / width) (place % width)

end CodeTable

end ChatAssistant.Text.Charset
