import Turnstile.Text.Quoted

namespace Turnstile.Text

/-!
# Inspected values

How a record shows itself to an operator: on one line (`Shape.compact`) or spread over several with
four blanks of indentation a level (`Shape.pretty`).

A record type says once, as a `Shape`, which of its fields may be seen; both renderings are functions
of the shape alone, so a field that the shape leaves out can appear in neither.
-/

/-- The visible structure of a value. -/
inductive Shape where
  /-- Text shown as it stands. -/
  | plain (text : String)
  /-- A name around one value, such as a present optional field. -/
  | wrapped (name : String) (inner : Shape)
  /-- A named record; `closed` is false if it has further fields that it does not show. -/
  | record (name : String) (fields : List (String × Shape)) (closed : Bool)

namespace Shape

/-! ### Shapes of common values -/

/-- A text, quoted. -/
def text (s : String) : Shape := .plain (quote s)

/-- A truth value. -/
def flag (b : Bool) : Shape := .plain (if b then "true" else "false")

/-- A whole number. -/
def int (n : Int) : Shape := .plain (toString n)

/-- An optional value. -/
def option (f : α → Shape) : Option α → Shape
  | none => .plain "None"
  | some a => .wrapped "Some" (f a)

/-! ### Renderings -/

mutual

/-- The rendering on one line. -/
def compact : Shape → String
  | .plain t => t
  | .wrapped name inner => name ++ "(" ++ inner.compact ++ ")"
  | .record name fields closed =>
    match compactFields fields, closed with
    | [], true => name
    | [], false => name ++ " \x7b .. \x7d"
    | parts, true => name ++ " \x7b " ++ ", ".intercalate parts ++ " \x7d"
    | parts, false => name ++ " \x7b " ++ ", ".intercalate parts ++ ", .. \x7d"

/-- The fields of a record, each with its name. -/
def compactFields : List (String × Shape) → List String
  | [] => []
  | (name, shape) :: rest => (name ++ ": " ++ shape.compact) :: compactFields rest

end

/-- Put a field's name before its first line. -/
def label (name : String) : List String → List String
  | [] => []
  | l :: ls => (name ++ ": " ++ l) :: ls

/-- End the last line with a comma. -/
def sealLast : List String → List String
  | [] => []
  | [l] => [l ++ ","]
  | l :: ls => l :: sealLast ls

/-- Move lines one level in. -/
def indent (ls : List String) : List String := ls.map ("    " ++ ·)

mutual

/-- The lines of the spread rendering. The first continues the line that the value starts on. -/
def lines : Shape → List String
  | .plain t => [t]
  | .wrapped name inner => (name ++ "(") :: (indent (sealLast inner.lines) ++ [")"])
  | .record name fields closed =>
    match lineFields fields, closed with
    | [], true => [name]
    | ls, true => (name ++ " \x7b") :: (indent ls ++ ["\x7d"])
    | ls, false => (name ++ " \x7b") :: (indent (ls ++ [".."]) ++ ["\x7d"])

/-- The lines of a record's fields, each ended by a comma. -/
def lineFields : List (String × Shape) → List String
  | [] => []
  | (name, shape) :: rest => sealLast (label name shape.lines) ++ lineFields rest

end

/-- The rendering over several lines. -/
def pretty (s : Shape) : String := "\n".intercalate s.lines

end Shape

end Turnstile.Text
