import NotebookGoto.Text.Decimal
import NotebookGoto.Text.Hidden

/-!
# Quoted text

Messages show a text between double quotes so that its ends and its invisible characters can be
seen. The quote and the backslash are preceded by a backslash, the usual controls have letters,
and every hidden character is shown by its number.
-/

namespace NotebookGoto.Text.Quoted

/-- A character as it stands between the quotes. -/
def showChar (c : Char) : List Char :=
  if c = '"' then ['\\', '"']
  else if c = '\\' then ['\\', '\\']
  else if c = '\n' then ['\\', 'n']
  else if c = '\r' then ['\\', 'r']
  else if c = '\t' then ['\\', 't']
  else if c = '\x00' then ['\\', '0']
  else if isHidden c then ['\\', 'u', '\x7b'] ++ Decimal.hexDigits c.toNat ++ ['\x7d']
  else [c]

end NotebookGoto.Text.Quoted

namespace NotebookGoto.Text

/-- A text as messages show it. -/
def quoted (s : String) : String :=
  String.ofList ('"' :: s.toList.flatMap Quoted.showChar ++ ['"'])

end NotebookGoto.Text
