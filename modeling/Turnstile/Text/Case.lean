import Turnstile.Text.Case.Table

namespace Turnstile.Text

/-!
# Capital and small letters

Case mapping of whole texts, in every script and for no one language.

* `capital` and `small` map one character, possibly to several.
* `upperChars` maps each character on its own.
* `lowerChars` does so too, except that a capital sigma at the end of a word becomes a final sigma.
-/

/-! ### One character -/

/-- Whether the run holds the code point `n`. -/
def CaseRun.holds (r : CaseRun) (n : Nat) : Bool :=
  r.first ≤ n && n ≤ r.last && (n - r.first) % r.step == 0

/-- The image of a code point that the run holds. -/
def CaseRun.image (r : CaseRun) (n : Nat) : Char := Char.ofNat (n + r.offset).toNat

/-- The image of `c` under a table of runs and a table of sequences; `c` itself if neither has it. -/
def mapCase (runs : List CaseRun) (sequences : List (Nat × List Nat)) (c : Char) : List Char :=
  match runs.find? (·.holds c.toNat) with
  | some r => [r.image c.toNat]
  | none =>
    match sequences.find? (·.1 == c.toNat) with
    | some (_, ns) => ns.map Char.ofNat
    | none => [c]

/-- The capital form of a character. -/
def capital (c : Char) : List Char := mapCase capitalRuns capitalSequences c

/-- The small form of a character, without regard to its neighbours. -/
def small (c : Char) : List Char := mapCase smallRuns smallSequences c

/-! ### Membership in ranges of code points -/

/-- Whether one of the closed ranges holds the character. -/
def inRanges (ranges : List (Nat × Nat)) (c : Char) : Bool :=
  ranges.any fun r => r.1 ≤ c.toNat && c.toNat ≤ r.2

/-! ### Whole texts -/

/-- The capital form of a text, character by character. -/
def upperChars (cs : List Char) : List Char := cs.flatMap capital

/-- Whether the first character that is not case-ignorable is a letter with case. -/
def startsCased (cs : List Char) : Bool :=
  match cs.dropWhile (inRanges caseIgnorableRanges) with
  | [] => false
  | c :: _ => inRanges casedRanges c

/-- The small form of the capital sigma between `before` (nearest character first) and `after`:
    a letter stands before it and none after it exactly at the end of a word. -/
def smallSigma (before after : List Char) : Char :=
  if startsCased before && !startsCased after then 'ς' else 'σ'

/-- Small forms of the rest of a text, given what came before it (nearest character first). -/
def lowerFrom (before : List Char) : List Char → List Char
  | [] => []
  | c :: cs =>
    (if c = 'Σ' then [smallSigma before cs] else small c) ++ lowerFrom (c :: before) cs

/-- The small form of a text. -/
def lowerChars (cs : List Char) : List Char := lowerFrom [] cs

end Turnstile.Text
