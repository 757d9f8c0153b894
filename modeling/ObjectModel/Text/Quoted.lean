import ObjectModel.Text.Extending
import ObjectModel.Text.Unprintable

/-!
# Quoted text

The written form of a string: its characters between double quotes, with those escaped that would
end the text early, vanish on a page, or attach themselves to their neighbour.  A backslash opens
every escape and is itself escaped, so the written form can be read back character by character.

## Main definitions

* `Quoted.escape` — the written form of one character.
* `Quoted.quote` — the written form of a string.
-/

namespace ObjectModel.Quoted

open CodePoint

/-- The escape of a character by its code point: `\u` and the hexadecimal digits, in lower case
and without padding, in braces. -/
def escapeByNumber (c : Char) : List Char :=
  '\\' :: 'u' :: '\x7b' :: (Nat.toDigits 16 c.toNat ++ ['\x7d'])

/-- The written form of one character.  Single quotes stand for themselves. -/
def escape (c : Char) : List Char :=
  if c = '\x00' then ['\\', '0']
  else if c = '\t' then ['\\', 't']
  else if c = '\r' then ['\\', 'r']
  else if c = '\n' then ['\\', 'n']
  else if c = '\\' ∨ c = '"' then ['\\', c]
  else if isUnprintable c || isExtending c then escapeByNumber c
  else [c]

/-- The written form of a string. -/
def quote (text : String) : String :=
  String.ofList ('"' :: (text.toList.flatMap escape ++ ['"']))

theorem toList_quote (text : String) :
    (quote text).toList = '"' :: (text.toList.flatMap escape ++ ['"']) := by
  simp [quote]

example : quote "a\tb" = "\"a\\tb\"" := by decide +kernel

example : quote "e\u0301" = "\"e\\u\x7b301\x7d\"" := by decide +kernel

end ObjectModel.Quoted
