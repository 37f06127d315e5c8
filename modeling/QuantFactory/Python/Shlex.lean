/-!
# Words of a shell command

`shlex.split(text, posix=True)`: blanks separate words, quotes keep blanks, a backslash keeps
the next character.  An open quote or a backslash at the end raises.
-/

set_option autoImplicit false

namespace QuantFactory.Python

/-- Where `read_token` stands. -/
inductive ShlexState where
  | blank
  | word
  | quoted (quote : Char)
  | escaped (inQuote : Option Char)
  deriving DecidableEq, Repr

def isShlexBlank (c : Char) : Bool := c == ' ' || c == '\t' || c == '\r' || c == '\n'

def isShlexQuote (c : Char) : Bool := c == '\'' || c == '"'

def isShlexEscape (c : Char) : Bool := c == '\\'

/-- The characters read of the present word, reversed, and whether it was quoted, so that an
empty one counts. -/
def shlexFrom : ShlexState → List Char → Bool → List Char → Option (List String)
  | .blank, _, _, [] => some []
  | .blank, _, _, c :: rest =>
      if isShlexBlank c then shlexFrom .blank [] false rest
      else if isShlexEscape c then shlexFrom (.escaped none) [] false rest
      else if isShlexQuote c then shlexFrom (.quoted c) [] false rest
      else shlexFrom .word [c] false rest
  | .word, token, quoted, [] =>
      if token.isEmpty && !quoted then some [] else some [String.ofList token.reverse]
  | .word, token, quoted, c :: rest =>
      if isShlexBlank c then
        if token.isEmpty && !quoted then shlexFrom .blank [] false rest
        else (shlexFrom .blank [] false rest).map (String.ofList token.reverse :: ·)
      else if isShlexQuote c then shlexFrom (.quoted c) token quoted rest
      else if isShlexEscape c then shlexFrom (.escaped none) token quoted rest
      else shlexFrom .word (c :: token) quoted rest
  | .quoted _, _, _, [] => none
  | .quoted quote, token, _, c :: rest =>
      if c = quote then shlexFrom .word token true rest
      else if isShlexEscape c && quote == '"' then shlexFrom (.escaped (some quote)) token true rest
      else shlexFrom (.quoted quote) (c :: token) true rest
  | .escaped _, _, _, [] => none
  | .escaped none, token, quoted, c :: rest => shlexFrom .word (c :: token) quoted rest
  | .escaped (some quote), token, quoted, c :: rest =>
      let token := if isShlexEscape c || c == quote then token else '\\' :: token
      shlexFrom (.quoted quote) (c :: token) quoted rest

/-- `shlex.split`; `none` is its `ValueError`. -/
def shlexSplit (text : String) : Option (List String) := shlexFrom .blank [] false text.toList

example : shlexSplit "run status 'a b' \"\"  c\\ d" = some ["run", "status", "a b", "", "c d"] := by
  decide +kernel

end QuantFactory.Python
