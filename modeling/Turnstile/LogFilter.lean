import Turnstile.Log
import Turnstile.Text.Blank
import Turnstile.Text.Number
import Turnstile.Text.Split

namespace Turnstile

/-!
# Log filters

A filter is a list of directives between commas. A directive is a level, a target, or a target with a
level; a part in brackets confines it to spans, which concern no single entry.

* `LogFilter.parse?` reads a filter.
* `LogFilter.admits` decides whether a target may write entries of a level: the directive with the
  longest target that the entry's target starts with decides, and of two with the same target the later.
* `LogFilter.choose` falls back on `LogFilter.standard` if there is no readable filter.
-/

/-- One rule of a filter; a `limit` of `none` lets nothing through. -/
structure Directive where
  target : List Char
  limit : Option Level
  spansOnly : Bool
  deriving DecidableEq, Repr

/-- Whether the directive is about single entries of the target. -/
def Directive.concerns (d : Directive) (target : List Char) : Bool :=
  !d.spansOnly && d.target.isPrefixOf target

/-- A list of rules. -/
structure LogFilter where
  directives : List Directive
  deriving DecidableEq, Repr

namespace LogFilter

/-! ### Reading -/

/-- The limit that a word in small letters names. -/
def limitOfWord? : String → Option (Option Level)
  | "off" => some none
  | "error" | "" => some (some .error)
  | "warn" => some (some .warn)
  | "info" => some (some .info)
  | "debug" => some (some .debug)
  | "trace" => some (some .trace)
  | _ => none

/-- The limit that a number names. -/
def limitOfNumber? (n : Nat) : Option (Option Level) :=
  if n = 0 then some none else (Level.all.find? (·.rank == n)).map some

/-- The largest number that is read at all. -/
def numberLimit : Nat := 18446744073709551615

/-- The limit that a text names. -/
def limit? (cs : List Char) : Option (Option Level) :=
  match Text.readNumber numberLimit cs with
  | .ok n => limitOfNumber? n
  | .error _ => limitOfWord? (String.ofList cs).toLower

/-- The limit behind an equals sign; an absent one lets everything through. -/
def limitAfterSign? (cs : List Char) : Option (Option Level) :=
  if cs.isEmpty then some (some .trace) else limit? cs

/-- Whether a directive may start with the character. -/
def startsDirective (c : Char) : Bool :=
  c == '-' || c == ':' || c == '_' || c.isAlphanum || 128 ≤ c.toNat

/-- What follows the bracketed part of a directive with the given target. -/
def spanDirective? (target : List Char) (rest : List Char) : Option Directive :=
  match (rest.dropWhile (· != ']')) with
  | [']'] => some ⟨target, some .trace, true⟩
  | ']' :: '=' :: limit => (limitAfterSign? limit).map fun l => ⟨target, l, true⟩
  | _ => none

/-- Read one directive. -/
def directive? (cs : List Char) : Option Directive :=
  let head := cs.takeWhile fun c => c != '=' && c != '['
  match cs, cs.dropWhile fun c => c != '=' && c != '[' with
  | [], _ => none
  | _, '[' :: rest => if head.all startsDirective then spanDirective? head rest else none
  | c :: _, '=' :: limit =>
    if startsDirective c then (limitAfterSign? limit).map fun l => ⟨head, l, false⟩ else none
  | c :: _, _ =>
    if startsDirective c then
      match limit? cs with
      | some l => some ⟨[], l, false⟩
      | none => some ⟨cs, some .trace, false⟩
    else none

/-- Read a filter; empty directives are skipped. -/
def parse? (s : String) : Option LogFilter :=
  (((Text.splitOn ',' s.toList).filter (!·.isEmpty)).mapM
    fun cs => directive? (Text.trimChars cs)).map LogFilter.mk

/-! ### Deciding -/

/-- Of two directives about a target, the one that decides. -/
def moreSpecific (best : Option Directive) (d : Directive) : Option Directive :=
  match best with
  | none => some d
  | some b => if b.target.length ≤ d.target.length then some d else some b

/-- The directive that decides about a target. -/
def deciding? (f : LogFilter) (target : List Char) : Option Directive :=
  (f.directives.filter (·.concerns target)).foldl moreSpecific none

/-- Whether the limit lets a level through. -/
def within (level : Level) : Option Level → Bool
  | none => false
  | some limit => level.rank ≤ limit.rank

/-- Whether a target may write entries of a level. -/
def admits (f : LogFilter) (target : String) (level : Level) : Bool :=
  match f.deciding? target.toList with
  | none => false
  | some d => within level d.limit

/-- The levels that a target may write. -/
def levels (f : LogFilter) (target : String) : List Level := Level.all.filter (f.admits target)

/-! ### The filter in use -/

/-- The text of the filter that is used where none is given. -/
def standardText : String := "gatehouse_service=debug,gatehouse_db=info,gatehouse_events=info"

/-- The filter that is used where none is given. -/
def standard : LogFilter where
  directives :=
    [⟨"gatehouse_service".toList, some .debug, false⟩, ⟨"gatehouse_db".toList, some .info, false⟩,
      ⟨"gatehouse_events".toList, some .info, false⟩]

/-- The filter given by a variable, or the standard one if it is unset or cannot be read. -/
def choose (given : Option String) : LogFilter := (given.bind parse?).getD standard

example : parse? standardText = some standard := by decide +kernel

end LogFilter

end Turnstile
