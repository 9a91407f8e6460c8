import TagListing.Text.Printable
import TagListing.Text.Hex
/-!
Text between double quotes as messages show it: the quote, the backslash and the usual controls
have short escapes, other characters that are not shown have their code point in braces.
-/
namespace TagListing.Text

def escapeShown (c : Char) : List Char :=
  match c with
  | '\x00' => ['\\', '0']
  | '\t' => ['\\', 't']
  | '\r' => ['\\', 'r']
  | '\n' => ['\\', 'n']
  | '"' => ['\\', '"']
  | '\\' => ['\\', '\\']
  | c =>
    if isShown c then [c] else ['\\', 'u', '\x7b'] ++ hexDigits c.toNat ++ ['\x7d']

def quoted (s : String) : String :=
  String.ofList ('"' :: s.toList.flatMap escapeShown ++ ['"'])

end TagListing.Text
