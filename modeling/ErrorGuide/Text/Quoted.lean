import ErrorGuide.Text.Hex
import ErrorGuide.Unicode.Category
import ErrorGuide.Unicode.Property

/-! Quoted display of a text: on one line, in double quotes, with escapes for what would not show
or would end the quotes. -/

namespace ErrorGuide.Text
open Unicode

/-- A character that leaves a mark of its own when printed. The plain space does. -/
def isPrintable (c : Char) : Bool :=
  c = ' ' ||
    !(isUnassigned c ||
      [Category.control, .format, .privateUse, .surrogate, .lineSeparator, .paragraphSeparator,
        .spaceSeparator].any (·.mem c))

def quotedChar (c : Char) : List Char :=
  if c = '"' then ['\\', '"']
  else if c = '\\' then ['\\', '\\']
  else if c = '\n' then ['\\', 'n']
  else if c = '\r' then ['\\', 'r']
  else if c = '\t' then ['\\', 't']
  else if c.toNat = 0 then ['\\', '0']
  else if ' ' ≤ c ∧ c ≤ '~' then [c]
  else if isGraphemeExtend c || !isPrintable c then
    ['\\', 'u', '\x7b'] ++ hexDigits c.toNat ++ ['\x7d']
  else [c]

def quoted (s : String) : String :=
  String.ofList ('"' :: s.toList.flatMap quotedChar ++ ['"'])

end ErrorGuide.Text
