import Turnstile.Text.Blank

namespace Turnstile

/-!
# Languages

The languages that people are answered in. A language tag is read leniently: blanks around it and the
case of its letters do not matter, and whatever is not known means Turkish.
-/

/-- A language of user-facing messages. -/
inductive Language where
  | turkish
  | english
  deriving DecidableEq, Repr

namespace Language

instance : Inhabited Language := ⟨turkish⟩

/-- The tag of a language. -/
def tag : Language → String
  | turkish => "TR"
  | english => "EN"

/-- The name shown to operators. -/
def label : Language → String
  | turkish => "Tr"
  | english => "En"

/-- The language with exactly this tag. -/
def ofTag? : String → Option Language
  | "TR" => some turkish
  | "EN" => some english
  | _ => none

/-- The language meant by a tag, read leniently. -/
def parse (raw : String) : Language := (ofTag? (Text.trim raw).toUpper).getD turkish

theorem ofTag?_tag (l : Language) : ofTag? l.tag = some l := by cases l <;> rfl

end Language

end Turnstile
