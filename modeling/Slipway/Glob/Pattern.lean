/-!
# Glob patterns

A pattern is read from left to right as a list of tokens: `**/`, `**`, `*`, `?`, and any other
character for itself, the longest first. `Denotes` says which texts a list of tokens stands for. A
single star and the question mark stay within one segment of a path; two stars cross segments, and
with a slash behind them they may also stand for nothing at all, so that a pattern for any directory
covers the top one.
-/

namespace Slipway.Glob

/-- A part of a pattern. -/
inductive Token where
  /-- `**/`: nothing, or any text that ends in a slash. -/
  | directories
  /-- `**`: any text. -/
  | anything
  /-- `*`: any text without a slash. -/
  | segment
  /-- `?`: one character other than a slash. -/
  | one
  /-- Any other character, which stands for itself. -/
  | literal (c : Char)
  deriving Repr, DecidableEq

/-- The tokens of a pattern. -/
def tokens : List Char → List Token
  | [] => []
  | '*' :: '*' :: '/' :: rest => .directories :: tokens rest
  | '*' :: '*' :: rest => .anything :: tokens rest
  | '*' :: rest => .segment :: tokens rest
  | '?' :: rest => .one :: tokens rest
  | c :: rest => .literal c :: tokens rest

/-- Whether a token stands for a text. -/
def Token.Denotes : Token → List Char → Prop
  | .directories, text => text = [] ∨ text.getLast? = some '/'
  | .anything, _ => True
  | .segment, text => '/' ∉ text
  | .one, text => ∃ c, text = [c] ∧ c ≠ '/'
  | .literal c, text => text = [c]

/-- Whether a list of tokens stands for a text: the text is cut into one piece for each token. -/
inductive Denotes : List Token → List Char → Prop where
  | nil : Denotes [] []
  | cons {token : Token} {rest : List Token} {piece text : List Char} :
      token.Denotes piece → Denotes rest text → Denotes (token :: rest) (piece ++ text)

end Slipway.Glob
