import Custody.Text.Visible

/-!
# Quoted text

A text between double quotes.  Six characters have a short escape, other characters that do not
show as themselves are written by their code point, and everything else stands as it is.
-/

namespace Custody.Text.Quoted

/-- The letter that stands for a character after a backslash. -/
def shortEscape? (c : Char) : Option Char :=
  if c = '\x00' then some '0'
  else if c = '\t' then some 't'
  else if c = '\r' then some 'r'
  else if c = '\n' then some 'n'
  else if c = '\\' then some '\\'
  else if c = '"' then some '"'
  else none

/-- The character that a letter after a backslash stands for. -/
def ofShortEscape? (letter : Char) : Option Char :=
  if letter = '0' then some '\x00'
  else if letter = 't' then some '\t'
  else if letter = 'r' then some '\r'
  else if letter = 'n' then some '\n'
  else if letter = '\\' then some '\\'
  else if letter = '"' then some '"'
  else none

/-- How one character stands between the quotes. -/
def encodeChar (c : Char) : List Char :=
  match shortEscape? c with
  | some letter => ['\\', letter]
  | none =>
    if isVisible c then [c]
    else '\\' :: 'u' :: '\x7b' :: (Nat.toDigits 16 c.toNat ++ ['\x7d'])

/-- A text in double quotes. -/
def encode (text : List Char) : List Char :=
  '"' :: (text.flatMap encodeChar ++ ['"'])

/-- The two tables of short escapes are inverse to each other. -/
theorem ofShortEscape?_eq_some_iff {letter c : Char} :
    ofShortEscape? letter = some c ↔ shortEscape? c = some letter := by
  unfold ofShortEscape? shortEscape?
  constructor
  · intro known
    repeat' split at known
    all_goals simp_all
    all_goals (subst known; decide)
  · intro known
    repeat' split at known
    all_goals simp_all
    all_goals (subst known; decide)

end Custody.Text.Quoted
