import Turnstile.Credential.Token
import Turnstile.Request

namespace Turnstile.Rehearsal

open Credential (Draw Salt Seed)

/-!
# Repeatable randomness

A rehearsal draws its random values from a small generator, so that it can be run again. The generator
is SplitMix64: the state moves by a fixed odd step and is scrambled on the way out.
-/

/-- The state of the generator. -/
structure Entropy where
  state : UInt64
  deriving Repr

namespace Entropy

/-- The state after one draw. -/
def advance (e : Entropy) : Entropy := ⟨e.state + 0x9E3779B97F4A7C15⟩

/-- The value of a state. -/
def scramble (e : Entropy) : UInt64 :=
  let z := (e.state ^^^ (e.state >>> 30)) * 0xBF58476D1CE4E5B9
  let z := (z ^^^ (z >>> 27)) * 0x94D049BB133111EB
  z ^^^ (z >>> 31)

/-- The next `n` values. -/
def words (e : Entropy) : Nat → List UInt64
  | 0 => []
  | n + 1 => e.advance.scramble :: words e.advance n

theorem length_words (e : Entropy) (n : Nat) : (e.words n).length = n := by
  induction n generalizing e with
  | zero => rfl
  | succ n ih => rw [words, List.length_cons, ih]

/-- The state after `n` draws. -/
def skip (e : Entropy) (n : Nat) : Entropy := ⟨e.state + n.toUInt64 * 0x9E3779B97F4A7C15⟩

/-- Bytes. -/
def bytes (e : Entropy) (n : Nat) : List UInt8 := (e.words n).map (·.toUInt8)

theorem length_bytes (e : Entropy) (n : Nat) : (e.bytes n).length = n := by
  rw [bytes, List.length_map, length_words]

/-- Positions in an alphabet. -/
def draws (e : Entropy) (n : Nat) : List Nat := (e.words n).map (·.toNat)

theorem length_draws (e : Entropy) (n : Nat) : (e.draws n).length = n := by
  rw [draws, List.length_map, length_words]

/-- A salt. -/
def salt (e : Entropy) : Salt := ⟨e.bytes 16, e.length_bytes 16⟩

/-- The seed of a token. -/
def seed (e : Entropy) : Seed := ⟨e.draws _, e.length_draws _⟩

/-- What issuing a token needs. -/
def draw (e : Entropy) : Draw := ⟨e.seed, (e.skip 25).salt, (e.skip 41).salt⟩

/-- The identifier of a request. -/
def requestId (e : Entropy) : String := Request.freshId (e.bytes 16)

end Entropy

end Turnstile.Rehearsal
