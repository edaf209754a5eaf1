namespace Turnstile

/-!
# Chains of causes

A failure is told to operators as its message followed by the messages beneath it. A message that the
text so far already ends with is not repeated, since failures often quote what caused them.
-/

/-- Whether the text ends with the given ending. -/
def endsWith (text ending : List Char) : Bool := ending.isSuffixOf text

/-- Add the next message to the text so far. -/
def linkCause (text next : String) : String :=
  if endsWith text.toList next.toList then text else text ++ ": " ++ next

/-- A message and the messages beneath it, outermost first, as one text. -/
def chainText (message : String) (causes : List String) : String := causes.foldl linkCause message

end Turnstile
