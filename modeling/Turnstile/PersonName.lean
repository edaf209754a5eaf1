import Turnstile.Text.Blank
import Turnstile.Text.Case

namespace Turnstile.PersonName

/-!
# Names of people

A name is stored trimmed and in capitals and shown in title case.

* `canonical` is the stored form.
* `titleCase` capitalises the first character of every word and makes the others small; words are
  separated by single blanks.
-/

open Text

/-- The stored form of a name. -/
def canonicalChars (cs : List Char) : List Char := upperChars (trimChars cs)

/-- The stored form of a name. -/
def canonical (raw : String) : String := String.ofList (canonicalChars raw.toList)

/-- One word in title case. Small letters are taken without regard to their neighbours. -/
def titleWord : List Char → List Char
  | [] => []
  | c :: cs => capital c ++ cs.flatMap small

/-- Words with single blanks between them. -/
def joinWords : List (List Char) → List Char
  | [] => []
  | [w] => w
  | w :: ws => w ++ ' ' :: joinWords ws

/-- A name as it is shown. -/
def titleCaseChars (cs : List Char) : List Char := joinWords ((words cs).map titleWord)

/-- A name as it is shown. -/
def titleCase (raw : String) : String := String.ofList (titleCaseChars raw.toList)

end Turnstile.PersonName
