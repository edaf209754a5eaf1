import Turnstile.Failure.Chain
import Turnstile.Webhook

namespace Turnstile.Webhook

/-!
# What a request tells

A request that is posted for operators is read again: the paragraphs in it, the pairs side by side, and
the text between fences.

* `splitPair_append`: the key and the value come apart, since no key has a colon in it.
* `pairs_failure` and `chain?_failure`: what is told of a failure are the pairs of its request, in order,
  and the chain of its messages.
* `Tells` is the whole, for every call: `tells_payload`.
-/

/-! ### Calls -/

/-- Something that operators are to be told. A failure comes with its message and the messages beneath it. -/
inductive Call where
  | event (request : Request) (title message : String)
  | failure (request : Request) (message : String) (causes : List String)

/-- The notice that they get. -/
def Call.notice : Call → Notice
  | event request title message => .event request title message
  | failure request message causes => .failure request (chainText message causes)

/-! ### Reading a request -/

/-- The text right inside an object. -/
def text? (j : Json) : Option String :=
  match j.field? "text" with
  | some (.str text) => some text
  | _ => none

/-- The blocks of a body. -/
def blocks (body : Json) : List Json :=
  match body.field? "blocks" with
  | some (.arr items) => items
  | _ => []

/-- The texts that a block shows side by side. -/
def aside (block : Json) : List String :=
  match block.field? "fields" with
  | some (.arr items) => items.filterMap text?
  | _ => []

/-- The headings and paragraphs of a body. -/
def paragraphs (body : Json) : List String :=
  (blocks body).filterMap fun block => (block.field? "text").bind text?

/-- The key and the value of a text that has a colon and a blank between them. -/
def splitPair (text : String) : String × String :=
  (String.ofList (text.toList.takeWhile (· != ':')),
    String.ofList ((text.toList.dropWhile (· != ':')).drop 2))

/-- All pairs that a body shows. -/
def pairs (body : Json) : List (String × String) := ((blocks body).flatMap aside).map splitPair

/-- A text without the three characters at either end. -/
def unfence (text : String) : String := String.ofList (text.toList.drop 3).dropLast.dropLast.dropLast

/-- The chain of messages that a body ends with. -/
def chain? (body : Json) : Option String := (paragraphs body).getLast?.map unfence

/-- The body tells what the call is about. -/
def Tells (body : Json) : Call → Prop
  | .event _ title message => paragraphs body = ["<!channel|channel>", title, message] ∧ pairs body = []
  | .failure request message causes =>
    pairs body = request.fields ∧ chain? body = some (chainText message causes)

/-! ### What is written is read -/

theorem splitPair_append {key : String} (hkey : ':' ∉ key.toList) (value : String) :
    splitPair (key ++ ": " ++ value) = (key, value) := by
  have hpos : ∀ c ∈ key.toList, (c != ':') = true := by
    intro c hc
    exact bne_iff_ne.2 fun heq => hkey (heq ▸ hc)
  have htext : (key ++ ": " ++ value).toList = key.toList ++ ':' :: ' ' :: value.toList := by simp
  simp [splitPair, htext, List.takeWhile_append_of_pos hpos, List.dropWhile_append_of_pos hpos]

theorem unfence_fence (text : String) : unfence ("\x60\x60\x60" ++ text ++ "\x60\x60\x60") = text := by
  have hfence : ("\x60\x60\x60" ++ text ++ "\x60\x60\x60").toList.drop 3
      = text.toList ++ ['\x60', '\x60', '\x60'] := by
    simp
  have hback : (text.toList ++ ['\x60', '\x60', '\x60']).dropLast.dropLast.dropLast = text.toList := by
    simp
  rw [unfence, hfence, hback, String.ofList_toList]

/-- The key of an optional pair. -/
theorem key_of_mem_optionField {key : String} {value : Option String} {pair : String × String}
    (h : pair ∈ Request.optionField key value) : pair.1 = key := by
  cases value with
  | none => cases h
  | some value => exact congrArg Prod.fst (List.mem_singleton.1 h)

/-- The keys of the pairs of requests. -/
def pairKeys : List String := ["request_id", "lang", "date", "remote_ip", "user_id", "user_session_id"]

theorem key_mem_pairKeys {r : Request} {pair : String × String} (h : pair ∈ r.fields) :
    pair.1 ∈ pairKeys := by
  simp only [Request.fields, List.mem_append] at h
  rcases h with ((h | h) | h) | h
  · simp only [List.mem_cons, List.not_mem_nil, or_false] at h
    rcases h with rfl | rfl | rfl <;> simp [pairKeys]
  all_goals
    rw [key_of_mem_optionField h]
    decide

/-- No key has a colon in it. -/
theorem colon_not_mem_key {r : Request} {pair : String × String} (h : pair ∈ r.fields) :
    ':' ∉ pair.1.toList := by
  have hkeys : ∀ key ∈ pairKeys, ':' ∉ key.toList := by decide
  exact hkeys pair.1 (key_mem_pairKeys h)

theorem map_splitPair_fields (r : Request) :
    (r.fields.map fun pair => pair.1 ++ ": " ++ pair.2).map splitPair = r.fields := by
  calc (r.fields.map fun pair => pair.1 ++ ": " ++ pair.2).map splitPair = r.fields.map id := by
        rw [List.map_map]
        exact List.map_congr_left fun pair hpair => splitPair_append (colon_not_mem_key hpair) pair.2
    _ = r.fields := List.map_id _

/-- **The pairs** of a failure are those of its request. -/
theorem pairs_failure (r : Request) (chain : String) :
    pairs (Notice.failure r chain).payload = r.fields := by
  have haside : aside (fieldsBlock r) = r.fields.map fun pair => pair.1 ++ ": " ++ pair.2 := by
    show (r.fields.map fieldBlock).filterMap text? = _
    rw [List.filterMap_map, ← List.filterMap_eq_map]
    rfl
  have hblocks : (blocks (Notice.failure r chain).payload).flatMap aside = aside (fieldsBlock r) :=
    List.append_nil _
  rw [pairs, hblocks, haside, map_splitPair_fields]

/-- **The chain** is told as it is. -/
theorem chain?_failure (r : Request) (chain : String) :
    chain? (Notice.failure r chain).payload = some chain :=
  congrArg some (unfence_fence chain)

/-- **A request tells what its call is about.** -/
theorem tells_payload (call : Call) : Tells call.notice.payload call := by
  cases call with
  | event request title message => exact ⟨rfl, rfl⟩
  | failure request message causes => exact ⟨pairs_failure _ _, chain?_failure _ _⟩

end Turnstile.Webhook
