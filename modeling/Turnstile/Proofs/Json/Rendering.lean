import Mathlib
import Turnstile.Json.Reader
import Turnstile.Proofs.Text.Apart

namespace Turnstile.Json

open Text (CutsOff EndsAt append_inj_of_free endsAt_nil intercalate_append_inj isDigit_of_mem_toString
  toString_ne_nil)

/-!
# What is rendered

The rendering of a value is the rendering of no other value.

* `stringBody_escape`: what is written as a string is read back, whatever characters there are in it and
  whatever stands behind it.
* `cutsOff_render`: the rendering of a value comes apart from what stands behind it. `render_inj`: equal
  renderings are those of equal values.
-/

variable {cs rest rest' : List Char} {s s' : String}

/-! ### Strings -/

/-- A character is written as it is, as a letter behind a backslash, or by its number. -/
theorem escape_cases (c : Char) : escape c = [c] ∧ c ≠ '"' ∧ c ≠ '\\' ∧ ¬ c.toNat < 0x20 ∨
    (∃ e, escape c = ['\\', e] ∧ e ≠ 'u' ∧ shortEscape? e = some c) ∨
    c.toNat < 0x20 ∧
      escape c = ['\\', 'u', '0', '0', Nat.digitChar (c.toNat / 16), Nat.digitChar (c.toNat % 16)] := by
  rw [escape.eq_def]
  split
  · exact .inr (.inl ⟨'"', rfl, by decide, rfl⟩)
  · exact .inr (.inl ⟨'\\', rfl, by decide, rfl⟩)
  · exact .inr (.inl ⟨'b', rfl, by decide, rfl⟩)
  · exact .inr (.inl ⟨'f', rfl, by decide, rfl⟩)
  · exact .inr (.inl ⟨'n', rfl, by decide, rfl⟩)
  · exact .inr (.inl ⟨'r', rfl, by decide, rfl⟩)
  · exact .inr (.inl ⟨'t', rfl, by decide, rfl⟩)
  · next hquote hslash _ _ _ _ _ =>
    split
    · next hcontrol => exact .inr (.inr ⟨hcontrol, rfl⟩)
    · next hprintable => exact .inl ⟨rfl, hquote, hslash, hprintable⟩

theorem hexValue?_digitChar : ∀ n : Fin 16, hexValue? (Nat.digitChar n) = some n.val := by decide

/-- A control character is read from its number. -/
theorem unicodeEscape_control {c : Char} (hc : c.toNat < 0x20) (rest : List Char) :
    unicodeEscape ('0' :: '0' :: Nat.digitChar (c.toNat / 16) :: Nat.digitChar (c.toNat % 16) :: rest)
      = .ok (c, rest) := by
  have hzero : hexValue? '0' = some 0 := rfl
  have hhigh : hexValue? (Nat.digitChar (c.toNat / 16)) = some (c.toNat / 16) :=
    hexValue?_digitChar ⟨c.toNat / 16, by omega⟩
  have hlow : hexValue? (Nat.digitChar (c.toNat % 16)) = some (c.toNat % 16) :=
    hexValue?_digitChar ⟨c.toNat % 16, by omega⟩
  have hnumber : ((0 * 16 + 0) * 16 + c.toNat / 16) * 16 + c.toNat % 16 = c.toNat := by omega
  have hfour : hexFour ('0' :: '0' :: Nat.digitChar (c.toNat / 16) :: Nat.digitChar (c.toNat % 16) :: rest)
      = .ok (c.toNat, rest) := by
    simp only [hexFour, hzero, hhigh, hlow, hnumber]
  -- halves of pairs have far higher numbers
  have hlower : ¬ (0xDC00 ≤ c.toNat ∧ c.toNat ≤ 0xDFFF) := by omega
  have hupper : ¬ (0xD800 ≤ c.toNat ∧ c.toNat ≤ 0xDBFF) := by omega
  rw [unicodeEscape, hfour]
  show (if 0xDC00 ≤ c.toNat ∧ c.toNat ≤ 0xDFFF then _ else _) = _
  rw [if_neg hlower, if_neg hupper, Char.ofNat_toNat]

/-- **A character that is written is read.** -/
theorem stringChar_escape (c : Char) (rest : List Char) :
    stringChar (escape c ++ rest) = .ok (some c, rest) := by
  rcases escape_cases c with ⟨hplain, hquote, hslash, hprintable⟩ | ⟨e, hshort, hu, hmeans⟩ |
    ⟨hcontrol, hlong⟩
  · rw [hplain, List.singleton_append, stringChar]
    · rw [if_neg hprintable]
    · exact fun h _ => hslash h
    · exact hquote
    · exact fun _ h _ => hslash h
    · exact fun _ _ h _ => hslash h
  · rw [hshort, List.cons_append, List.singleton_append, stringChar]
    · rw [hmeans]
    · exact hu
  · rw [hlong]
    show (unicodeEscape
      ('0' :: '0' :: Nat.digitChar (c.toNat / 16) :: Nat.digitChar (c.toNat % 16) :: rest)).map _ = _
    rw [unicodeEscape_control hcontrol]
    rfl

theorem stringFrom_escape {fuel : Nat} (hfuel : cs.length < fuel) (before : List Char) (rest : List Char) :
    stringFrom fuel before (cs.flatMap escape ++ '"' :: rest)
      = .ok (String.ofList (before.reverse ++ cs), rest) := by
  induction cs generalizing fuel before with
  | nil =>
    obtain ⟨fuel, rfl⟩ := Nat.exists_eq_add_one_of_ne_zero (Nat.pos_iff_ne_zero.1 hfuel)
    rw [List.append_nil]
    rfl
  | cons c cs ih =>
    obtain ⟨fuel, rfl⟩ := Nat.exists_eq_add_one_of_ne_zero (Nat.ne_zero_of_lt hfuel)
    rw [List.flatMap_cons, List.append_assoc, stringFrom, stringChar_escape]
    show stringFrom fuel (c :: before) _ = _
    rw [ih (Nat.lt_of_succ_lt_succ hfuel), List.reverse_cons, List.append_assoc, List.singleton_append]

theorem length_le_flatMap_escape (cs : List Char) : cs.length ≤ (cs.flatMap escape).length := by
  induction cs with
  | nil => exact Nat.le_refl 0
  | cons c cs ih =>
    have hsome : 1 ≤ (escape c).length := by
      rcases escape_cases c with ⟨h, -⟩ | ⟨e, h, -⟩ | ⟨-, h⟩ <;> rw [h] <;> exact Nat.le_add_left _ _
    rw [List.flatMap_cons, List.length_append, List.length_cons]
    omega

/-- **A string that is written is read back**, up to its closing quote. -/
theorem stringBody_escape (s : String) (rest : List Char) :
    stringBody (s.toList.flatMap escape ++ '"' :: rest) = .ok (s, rest) := by
  have hlength := length_le_flatMap_escape s.toList
  have hfuel : s.toList.length < (s.toList.flatMap escape ++ '"' :: rest).length + 1 := by
    rw [List.length_append]
    omega
  rw [stringBody, stringFrom_escape hfuel, List.reverse_nil, List.nil_append, String.ofList_toList]

theorem toList_renderString (s : String) :
    (renderString s).toList = '"' :: (s.toList.flatMap escape ++ ['"']) := by
  rw [renderString, String.toList_ofList]
  rfl

theorem renderString_append_inj (h : (renderString s).toList ++ rest = (renderString s').toList ++ rest') :
    s = s' ∧ rest = rest' := by
  simp only [toList_renderString, List.cons_append, List.append_assoc, List.cons.injEq, true_and] at h
  have hread := congrArg stringBody h
  rw [stringBody_escape, stringBody_escape] at hread
  cases hread
  exact ⟨rfl, rfl⟩

/-! ### Values -/

/-- A field as it is written. -/
def fieldText (field : String × Json) : String := renderString field.1 ++ ":" ++ field.2.render

theorem renderItems_eq_map (items : List Json) : renderItems items = items.map render := by
  induction items with
  | nil => rfl
  | cons v vs ih => rw [renderItems, ih, List.map_cons]

theorem renderFields_eq_map (fields : List (String × Json)) :
    renderFields fields = fields.map fieldText := by
  induction fields with
  | nil => rfl
  | cons field fields ih => rw [renderFields, ih, List.map_cons, fieldText]

theorem toList_render_arr (items : List Json) :
    (Json.arr items).render.toList = '[' :: ((",".intercalate (items.map render)).toList ++ [']']) := by
  rw [render, renderItems_eq_map, String.toList_append, String.toList_append]
  rfl

theorem toList_render_obj (fields : List (String × Json)) :
    (Json.obj fields).render.toList
      = '\x7b' :: ((",".intercalate (fields.map fieldText)).toList ++ ['\x7d']) := by
  rw [render, renderFields_eq_map, String.toList_append, String.toList_append]
  rfl

/-- What stands behind a value inside brackets. -/
def stops : List Char := [',', ']', '\x7d']

theorem comma_mem_stops : ',' ∈ stops := by decide

theorem bracket_mem_stops : ']' ∈ stops := by decide

theorem brace_mem_stops : '\x7d' ∈ stops := by decide

/-- What a value begins with. -/
inductive Kind where
  | null
  | bool
  | int
  | str
  | arr
  | obj
  deriving DecidableEq

/-- The kind of a value. -/
def kind : Json → Kind
  | .null => .null
  | .bool _ => .bool
  | .int _ => .int
  | .str _ => .str
  | .arr _ => .arr
  | .obj _ => .obj

/-- The kind of the values whose text begins with the character. -/
def kindOfLead : Char → Kind
  | 'n' => .null
  | 't' | 'f' => .bool
  | '"' => .str
  | '[' => .arr
  | '\x7b' => .obj
  | _ => .int

theorem kindOfLead_of_digit {c : Char} (hc : c.isDigit = true ∨ c = '-') : kindOfLead c = .int := by
  rw [kindOfLead.eq_def]
  split <;> first | rfl | (rcases hc with hc | hc <;> cases hc)

theorem not_mem_stops_of_digit {c : Char} (hc : c.isDigit = true ∨ c = '-') : c ∉ stops := by
  intro hstop
  simp only [stops, List.mem_cons, List.not_mem_nil, or_false] at hstop
  rcases hstop with rfl | rfl | rfl <;> rcases hc with hc | hc <;> cases hc

/-- The first character of a text tells the kind of its value. -/
theorem exists_lead (j : Json) : ∃ c cs, j.render.toList = c :: cs ∧ kindOfLead c = j.kind ∧ c ∉ stops := by
  cases j with
  | null => exact ⟨'n', "ull".toList, by decide, rfl, by decide⟩
  | bool b =>
    cases b with
    | true => exact ⟨'t', "rue".toList, by decide, rfl, by decide⟩
    | false => exact ⟨'f', "alse".toList, by decide, rfl, by decide⟩
  | int n =>
    obtain ⟨c, cs, htext⟩ := List.exists_cons_of_ne_nil (toString_ne_nil n)
    have hc : c.isDigit = true ∨ c = '-' := isDigit_of_mem_toString (htext ▸ List.mem_cons_self)
    exact ⟨c, cs, by rw [render, htext], kindOfLead_of_digit hc, not_mem_stops_of_digit hc⟩
  | str s => exact ⟨'"', _, by rw [render, toList_renderString], rfl, by decide⟩
  | arr items => exact ⟨'[', _, toList_render_arr items, rfl, by decide⟩
  | obj fields => exact ⟨'\x7b', _, toList_render_obj fields, rfl, by decide⟩

/-- Equal texts are of values of one kind. -/
theorem kind_eq {j j' : Json} (h : j.render.toList ++ rest = j'.render.toList ++ rest') :
    j.kind = j'.kind := by
  obtain ⟨c, cs, htext, hkind, -⟩ := j.exists_lead
  obtain ⟨c', cs', htext', hkind', -⟩ := j'.exists_lead
  rw [htext, htext', List.cons_append, List.cons_append] at h
  rw [← hkind, ← hkind', (List.cons.inj h).1]

theorem toList_fieldText (field : String × Json) :
    (fieldText field).toList = (renderString field.1).toList ++ ':' :: field.2.render.toList := by
  rw [fieldText, String.toList_append, String.toList_append, List.append_assoc]
  rfl

/-- The text of the value comes apart from what stands behind it. -/
def Cut (j : Json) : Prop := ∀ j' rest rest', EndsAt stops rest → EndsAt stops rest' →
  j.render.toList ++ rest = j'.render.toList ++ rest' → j = j' ∧ rest = rest'

/-- A field comes apart from what stands behind it if its value does. -/
theorem cutsOff_fieldText {field : String × Json} (hvalue : field.2.Cut) :
    CutsOff stops (fun field => (fieldText field).toList) field := by
  intro field' rest rest' hrest hrest' h
  simp only [toList_fieldText, List.append_assoc, List.cons_append] at h
  obtain ⟨hname, h⟩ := renderString_append_inj h
  obtain ⟨hsame, hrest⟩ := hvalue field'.2 rest rest' hrest hrest' (List.cons.inj h).2
  exact ⟨Prod.ext hname hsame, hrest⟩

theorem cut_null : Json.null.Cut := by
  intro j' rest rest' _ _ h
  -- values of other kinds begin with other characters
  have hkind := kind_eq h
  cases j' with
  | null => exact ⟨rfl, List.append_cancel_left h⟩
  | _ => cases hkind

theorem cut_bool (b : Bool) : (Json.bool b).Cut := by
  intro j' rest rest' _ _ h
  have hkind := kind_eq h
  cases j' with
  | bool b' =>
    cases b <;> cases b'
    · exact ⟨rfl, List.append_cancel_left h⟩
    · cases (List.cons.inj h).1
    · cases (List.cons.inj h).1
    · exact ⟨rfl, List.append_cancel_left h⟩
  | _ => cases hkind

theorem cut_int (n : Int) : (Json.int n).Cut := by
  intro j' rest rest' hrest hrest' h
  have hkind := kind_eq h
  cases j' with
  | int n' =>
    have hfree (n : Int) : ∀ c ∈ (toString n).toList, c ∉ stops :=
      fun c hc => not_mem_stops_of_digit (isDigit_of_mem_toString hc)
    simp only [render] at h
    obtain ⟨hsame, hrest⟩ := append_inj_of_free (hfree n) (hfree n') hrest hrest' h
    have hn : n.repr = n'.repr := String.toList_inj.1 hsame
    exact ⟨by rw [Int.repr_inj.1 hn], hrest⟩
  | _ => cases hkind

theorem cut_str (s : String) : (Json.str s).Cut := by
  intro j' rest rest' _ _ h
  have hkind := kind_eq h
  cases j' with
  | str s' =>
    simp only [render] at h
    obtain ⟨rfl, hrest⟩ := renderString_append_inj h
    exact ⟨rfl, hrest⟩
  | _ => cases hkind

theorem cut_arr {items : List Json} (hitems : ∀ v ∈ items, v.Cut) : (Json.arr items).Cut := by
  intro j' rest rest' _ _ h
  have hkind := kind_eq h
  cases j' with
  | arr items' =>
    simp only [toList_render_arr, List.cons_append, List.append_assoc, List.nil_append, List.cons.injEq,
      true_and] at h
    have hopen : ∀ v : Json, ∃ c cs, v.render.toList = c :: cs ∧ c ≠ ']' := by
      intro v
      obtain ⟨c, cs, htext, -, hc⟩ := v.exists_lead
      exact ⟨c, cs, htext, fun heq => hc (heq ▸ by decide)⟩
    obtain ⟨rfl, hrest⟩ :=
      intercalate_append_inj comma_mem_stops bracket_mem_stops (by decide) hitems hopen h
    exact ⟨rfl, hrest⟩
  | _ => cases hkind

theorem cut_obj {fields : List (String × Json)} (hfields : ∀ field ∈ fields, field.2.Cut) :
    (Json.obj fields).Cut := by
  intro j' rest rest' _ _ h
  have hkind := kind_eq h
  cases j' with
  | obj fields' =>
    simp only [toList_render_obj, List.cons_append, List.append_assoc, List.nil_append, List.cons.injEq,
      true_and] at h
    have hopen : ∀ field : String × Json, ∃ c cs, (fieldText field).toList = c :: cs ∧ c ≠ '\x7d' := by
      intro field
      rw [toList_fieldText, toList_renderString]
      exact ⟨'"', _, rfl, by decide⟩
    obtain ⟨rfl, hrest⟩ := intercalate_append_inj comma_mem_stops brace_mem_stops (by decide)
      (fun field hfield => cutsOff_fieldText (hfields field hfield)) hopen h
    exact ⟨rfl, hrest⟩
  | _ => cases hkind

/-- **The text of a value comes apart** from what stands behind it. -/
theorem cut : ∀ j : Json, j.Cut := by
  -- one motive each for values, for their lists, for lists of fields and for single fields
  refine Json.rec (motive_1 := Cut) (motive_2 := fun items => ∀ v ∈ items, v.Cut)
    (motive_3 := fun fields => ∀ field ∈ fields, field.2.Cut) (motive_4 := fun field => field.2.Cut)
    cut_null cut_bool cut_int cut_str ?arr ?obj ?nil ?cons ?noField ?field ?pair
  case arr => exact fun items => cut_arr
  case obj => exact fun fields => cut_obj
  case nil => exact List.forall_mem_nil _
  case cons => exact fun v vs hv hvs => List.forall_mem_cons.2 ⟨hv, hvs⟩
  case noField => exact List.forall_mem_nil _
  case field => exact fun field fields hfield hfields => List.forall_mem_cons.2 ⟨hfield, hfields⟩
  case pair => exact fun _ _ hvalue => hvalue

/-- **Equal renderings** are those of equal values. -/
theorem render_inj {j j' : Json} : j.render = j'.render ↔ j = j' := by
  constructor
  · intro h
    exact (j.cut j' [] [] endsAt_nil endsAt_nil (by rw [h])).1
  · exact congrArg render

end Turnstile.Json
