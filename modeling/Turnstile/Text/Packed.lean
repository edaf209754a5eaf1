import Turnstile.Text.Case

namespace Turnstile.Text.Packed

/-!
# Packed tables

Large tables of characters are kept as texts of hexadecimal words.

* `ranges` reads words such as `41-5A` or `41`: closed ranges of code points.
* `images` reads words such as `@C0 41.300 41.301`: the images of `C0` and of the code points after it.
-/

/-- The value of a hexadecimal digit in capitals. -/
def digitValue (c : Char) : Nat := if c.isDigit then c.toNat - 48 else c.toNat - 55

/-- The number that digits spell. -/
def number (cs : List Char) : Nat := cs.foldl (fun n c => n * 16 + digitValue c) 0

/-- The fields between separators, in one pass from the end. -/
def fields (isSeparator : Char → Bool) (cs : List Char) : List (List Char) :=
  cs.foldr
    (fun c fields =>
      if isSeparator c then [] :: fields
      else
        match fields with
        | [] => [[c]]
        | f :: fs => (c :: f) :: fs)
    [[]]

/-- The words of a text, between blanks and line ends. -/
def words (s : String) : List (List Char) :=
  (fields (fun c => c == ' ' || c == '\n') s.toList).filter (!·.isEmpty)

/-- The range that a word names. -/
def range (w : List Char) : Nat × Nat :=
  match fields (· == '-') w with
  | [first, last] => (number first, number last)
  | _ => (number w, number w)

/-- The ranges that a text lists. -/
def ranges (s : String) : List (Nat × Nat) := (words s).map range

/-- The characters that a word lists. -/
def image (w : List Char) : List Char := (fields (· == '.') w).map fun cs => Char.ofNat (number cs)

/-- The images that words list, the first of them at the code point `next`. -/
def imagesFrom (next : Nat) : List (List Char) → List (Char × List Char)
  | [] => []
  | ('@' :: w) :: ws => imagesFrom (number w) ws
  | w :: ws => (Char.ofNat next, image w) :: imagesFrom (next + 1) ws

/-- The characters that a text lists, with their images. -/
def images (s : String) : List (Char × List Char) := imagesFrom 0 (words s)

example : ranges "41-5A 61" = [(0x41, 0x5A), (0x61, 0x61)] := by decide +kernel

example : images "@C0 41.300 41" = [('À', ['A', '\u0300']), ('Á', ['A'])] := by decide +kernel

end Turnstile.Text.Packed
