import Turnstile.Proofs.Text.Quoted
import Turnstile.Text.Inspect
import Turnstile.Time.Calendar

namespace Turnstile.Text

/-!
# What inspected values tell

Both renderings of a record tell what is in its fields.

* `Token` holds of texts that come apart from what stands behind them: quoted texts, and bare words.
* `Layout` is what the two renderings differ in: the texts between the parts of a record.
  `compact_record` and `pretty_record`: both set the parts of a record in the same order.
* `Layout.record_inj`: whatever the layout is, the parts come apart. So records of one form (`Form`) have
  equal renderings only if they are equal: `Form.compact_inj` and `Form.pretty_inj`.
-/

variable {rest rest' : List Char} {t t' : String}

/-! ### Tokens -/

/-- The characters that end a word. -/
def marks : List Char := ['"', ',', ' ', '(', ')', '\n']

/-- There is none of them in the text. -/
def Free (t : String) : Prop := ∀ c ∈ t.toList, c ∉ marks

instance : DecidablePred Free := fun _ => List.decidableBAll _ _

/-- A word: there is something in the text, and no mark. -/
structure Bare (t : String) : Prop where
  ne_nil : t.toList ≠ []
  free : Free t

/-- A text that comes apart from a mark behind it. -/
inductive Token : String → Prop where
  | quoted (s : String) : Token (quote s)
  | bare {t : String} (h : Bare t) : Token t

theorem quote_ne_bare (s : String) (h : Bare t) : (quote s).toList ++ rest ≠ t.toList ++ rest' := by
  intro heq
  obtain ⟨c, cs, htext⟩ := List.exists_cons_of_ne_nil h.ne_nil
  rw [toList_quote, htext] at heq
  have hc := h.free c (htext ▸ List.mem_cons_self)
  rw [← (List.cons.inj heq).1] at hc
  exact hc (by decide)

/-- **Tokens come apart** from what stands behind them. -/
theorem Token.append_inj (ht : Token t) (ht' : Token t') (hrest : EndsAt marks rest)
    (hrest' : EndsAt marks rest')
    (h : t.toList ++ rest = t'.toList ++ rest') : t = t' ∧ rest = rest' := by
  cases ht with
  | quoted s =>
    cases ht' with
    | quoted s' =>
      obtain ⟨rfl, hsame⟩ := quote_append_inj h
      exact ⟨rfl, hsame⟩
    | bare hbare => exact absurd h (quote_ne_bare s hbare)
  | bare hbare =>
    cases ht' with
    | quoted s' => exact absurd h.symm (quote_ne_bare s' hbare)
    | bare hbare' =>
      obtain ⟨htext, hsame⟩ := append_inj_of_free hbare.free hbare'.free hrest hrest' h
      exact ⟨String.toList_inj.1 htext, hsame⟩

/-! ### Layouts -/

/-- The value of a field: a token, or a name around one. -/
inductive Cell : Shape → Prop where
  | plain {t : String} (h : Token t) : Cell (.plain t)
  | wrapped {name t : String} (hname : Bare name) (h : Token t) : Cell (.wrapped name (.plain t))

/-- Whether the text begins with one of the characters. -/
def startsWith (chars : List Char) (t : String) : Bool := t.toList.head?.any chars.contains

theorem endsAt_of_startsWith {chars stops : List Char} (h : startsWith chars t = true)
    (hchars : chars ⊆ stops) (rest : List Char) : EndsAt stops (t.toList ++ rest) := by
  obtain ⟨c, hhead, hc⟩ := (Option.any_eq_true _ _).1 h
  obtain ⟨cs, htext⟩ := List.head?_eq_some_iff.1 hhead
  rw [htext]
  exact endsAt_cons (hchars (List.contains_iff_mem.1 hc))

/-- The texts between the parts of a record. -/
structure Layout where
  /-- Behind the name of a record. -/
  lead : String
  /-- Between two fields. -/
  between : String
  /-- Behind the last field of a record that shows all its fields, or not all. -/
  ending : Bool → String
  /-- Around what is inside a wrapped value. -/
  opening : String
  closing : String
  between_starts : startsWith [',', ' '] between = true := by decide
  ending_starts : ∀ closed, startsWith [',', ' '] (ending closed) = true := by decide
  opening_starts : startsWith ['('] opening = true := by decide
  closing_starts : startsWith [',', ')'] closing = true := by decide

/-- Everything on one line. -/
def oneLine : Layout where
  lead := " \x7b "
  between := ", "
  ending closed := if closed then " \x7d" else ", .. \x7d"
  opening := "("
  closing := ")"

/-- A line for each field, and for the inside of a wrapped value. -/
def spread : Layout where
  lead := " \x7b\n    "
  between := ",\n    "
  ending closed := if closed then ",\n\x7d" else ",\n    ..\n\x7d"
  opening := "(\n        "
  closing := ",\n    )"

namespace Layout

variable (l : Layout)

/-- The text of a value. -/
def cell : Shape → String
  | .plain t => t
  | .wrapped name (.plain t) => name ++ l.opening ++ t ++ l.closing
  | _ => ""

/-- The text of a field. -/
def field (f : String × Shape) : String := f.1 ++ ": " ++ l.cell f.2

/-- The text of a record. -/
def record (name : String) (fields : List (String × Shape)) (closed : Bool) : String :=
  name ++ l.lead ++ l.between.intercalate (fields.map l.field) ++ l.ending closed

end Layout

/-! ### Both renderings are set in a layout -/

variable {name : String} {f : String × Shape} {fields fields' : List (String × Shape)} {closed : Bool}

/-- The parts of a record, one behind the other. -/
theorem Layout.toList_record (l : Layout) : (l.record name (f :: fields) closed).toList
    = name.toList ++ (l.lead.toList ++ ((l.field f).toList ++
      (fields.flatMap (fun g => l.between.toList ++ (l.field g).toList) ++ (l.ending closed).toList))) := by
  rw [record, String.toList_append, String.toList_append, String.toList_append, List.map_cons,
    toList_intercalate_cons, List.flatMap_map]
  simp only [List.append_assoc]

theorem compact_cell {s : Shape} (h : Cell s) : s.compact = oneLine.cell s := by
  cases h with
  | plain _ => rfl
  | wrapped _ _ => rfl

theorem compactFields_eq (hcells : ∀ f ∈ fields, Cell f.2) :
    Shape.compactFields fields = fields.map oneLine.field := by
  induction fields with
  | nil => rfl
  | cons f fields ih =>
    obtain ⟨hcell, hcells⟩ := List.forall_mem_cons.1 hcells
    rw [Shape.compactFields, ih hcells, compact_cell hcell, List.map_cons, Layout.field]

/-- **On one line** the parts of a record are set one behind the other. -/
theorem compact_record (hne : fields ≠ []) (hcells : ∀ f ∈ fields, Cell f.2) :
    (Shape.record name fields closed).compact = oneLine.record name fields closed := by
  obtain ⟨f, fields, rfl⟩ := List.exists_cons_of_ne_nil hne
  cases closed <;> simp only [Shape.compact, compactFields_eq hcells, List.map_cons] <;> rfl

/-- Lines under another one. -/
def below (ls : List String) : List Char := ls.flatMap fun l => "\n".toList ++ l.toList

theorem below_append (ls ms : List String) : below (ls ++ ms) = below ls ++ below ms := List.flatMap_append

/-- The lines of a field. -/
def fieldLines (f : String × Shape) : List String := Shape.sealLast (Shape.label f.1 f.2.lines)

theorem lineFields_cons (f : String × Shape) (fields : List (String × Shape)) :
    Shape.lineFields (f :: fields) = fieldLines f ++ Shape.lineFields fields := rfl

theorem below_fieldLines (h : Cell f.2) :
    below (Shape.indent (fieldLines f)) = "\n    ".toList ++ (spread.field f).toList ++ [','] := by
  obtain ⟨name, s⟩ := f
  cases h with
  | plain ht =>
    simp [below, fieldLines, Shape.lines, Shape.label, Shape.sealLast, Shape.indent, Layout.field,
      Layout.cell]
  | wrapped hname ht =>
    simp [below, fieldLines, Shape.lines, Shape.label, Shape.sealLast, Shape.indent, Layout.field,
      Layout.cell, spread]

theorem below_lineFields (hcells : ∀ g ∈ f :: fields, Cell g.2) :
    below (Shape.indent (Shape.lineFields (f :: fields))) = "\n    ".toList ++ (spread.field f).toList
      ++ fields.flatMap (fun g => spread.between.toList ++ (spread.field g).toList) ++ [','] := by
  induction fields generalizing f with
  | nil =>
    rw [lineFields_cons, Shape.lineFields, List.append_nil, below_fieldLines (hcells f List.mem_cons_self),
      List.flatMap_nil, List.append_nil]
  | cons g fields ih =>
    obtain ⟨hcell, hcells⟩ := List.forall_mem_cons.1 hcells
    -- the comma behind a field and the break in front of the next one are what stands between the two
    have hbetween : [','] ++ "\n    ".toList = spread.between.toList := by decide
    rw [lineFields_cons, Shape.indent, List.map_append, below_append, ← Shape.indent, ← Shape.indent,
      below_fieldLines hcell, ih hcells, List.flatMap_cons, ← hbetween]
    simp only [List.append_assoc]

theorem exists_lineFields (h : Cell f.2) (fields : List (String × Shape)) :
    ∃ l ls, Shape.lineFields (f :: fields) = l :: ls := by
  obtain ⟨name, s⟩ := f
  cases h with
  | plain ht => exact ⟨_, _, rfl⟩
  | wrapped hname ht => exact ⟨_, _, rfl⟩

/-- The lines of a record are its name, those of its fields, and what ends it. -/
theorem lines_record (name : String) (closed : Bool) {l : String} {ls : List String}
    (hls : Shape.lineFields fields = l :: ls) :
    ∃ tail, (Shape.record name fields closed).lines = (name ++ " \x7b") :: (Shape.indent (l :: ls) ++ tail) ∧
      [','] ++ below tail = (spread.ending closed).toList := by
  cases closed with
  | false =>
    refine ⟨["    ..", "\x7d"], ?_, by decide⟩
    simp only [Shape.lines, hls, Shape.indent, List.map_append, List.append_assoc]
    rfl
  | true => exact ⟨["\x7d"], by simp only [Shape.lines, hls], by decide⟩

/-- **Over several lines** they are set in the same order. -/
theorem pretty_record (hne : fields ≠ []) (hcells : ∀ f ∈ fields, Cell f.2) :
    (Shape.record name fields closed).pretty = spread.record name fields closed := by
  obtain ⟨f, fields, rfl⟩ := List.exists_cons_of_ne_nil hne
  obtain ⟨l, ls, hls⟩ := exists_lineFields (hcells f List.mem_cons_self) fields
  obtain ⟨tail, hlines, hending⟩ := lines_record name closed hls
  have hlead : spread.lead.toList = " \x7b".toList ++ "\n    ".toList := by decide
  have hbelow := below_lineFields hcells
  rw [hls] at hbelow
  rw [← String.toList_inj, Layout.toList_record, hlead, ← hending, Shape.pretty, hlines,
    toList_intercalate_cons]
  show _ ++ below (Shape.indent (l :: ls) ++ tail) = _
  rw [below_append, hbelow, String.toList_append]
  simp only [List.append_assoc]

example : (Shape.record "R" [("a", .option .text (some "x")), ("b", .int 7)] false).pretty =
    "R \x7b\n    a: Some(\n        \"x\",\n    ),\n    b: 7,\n    ..\n\x7d" := by decide

/-! ### The parts come apart -/

namespace Layout

variable {l : Layout} {s s' : Shape}

/-- What stands behind a value. -/
def ends : List Char := [',', ' ']

theorem ends_subset_marks : ends ⊆ marks := by decide

theorem endsAt_opening (rest : List Char) : EndsAt marks (l.opening.toList ++ rest) := by
  have hmarks : ['('] ⊆ marks := by decide
  exact endsAt_of_startsWith l.opening_starts hmarks rest

theorem endsAt_closing (rest : List Char) : EndsAt marks (l.closing.toList ++ rest) := by
  have hmarks : [',', ')'] ⊆ marks := by decide
  exact endsAt_of_startsWith l.closing_starts hmarks rest

/-- A value without a name around it is another than one with it. -/
theorem plain_ne_wrapped {name : String} (ht : Token t) (hname : Bare name) (hrest : EndsAt ends rest) :
    t.toList ++ rest ≠ name.toList ++ (l.opening.toList ++ rest') := by
  intro h
  have hmark : EndsAt marks rest := fun c hc => ends_subset_marks (hrest c hc)
  -- then the value would be the name, with the bracket right behind it
  obtain ⟨-, rfl⟩ := ht.append_inj (.bare hname) hmark (endsAt_opening rest') h
  obtain ⟨c, hhead, hc⟩ := (Option.any_eq_true _ _).1 l.opening_starts
  obtain ⟨cs, htext⟩ := List.head?_eq_some_iff.1 hhead
  obtain rfl := List.mem_singleton.1 (List.contains_iff_mem.1 hc)
  rw [htext] at hrest
  exact absurd (hrest '(' rfl) (by decide)

theorem toList_wrapped (name t : String) : (l.cell (.wrapped name (.plain t))).toList ++ rest
    = name.toList ++ (l.opening.toList ++ (t.toList ++ (l.closing.toList ++ rest))) := by
  rw [cell]
  simp only [String.toList_append, List.append_assoc]

/-- **Values come apart** from what stands behind them. -/
theorem cell_append_inj (hs : Cell s) (hs' : Cell s') (hrest : EndsAt ends rest) (hrest' : EndsAt ends rest')
    (h : (l.cell s).toList ++ rest = (l.cell s').toList ++ rest') : s = s' ∧ rest = rest' := by
  cases hs with
  | plain ht =>
    cases hs' with
    | plain ht' =>
      obtain ⟨rfl, hsame⟩ := ht.append_inj ht' (fun c hc => ends_subset_marks (hrest c hc))
        (fun c hc => ends_subset_marks (hrest' c hc)) h
      exact ⟨rfl, hsame⟩
    | wrapped hname' ht' =>
      rw [toList_wrapped] at h
      exact absurd h (plain_ne_wrapped ht hname' hrest)
  | wrapped hname ht =>
    cases hs' with
    | plain ht' =>
      rw [toList_wrapped] at h
      exact absurd h.symm (plain_ne_wrapped ht' hname hrest')
    | wrapped hname' ht' =>
      rw [toList_wrapped, toList_wrapped] at h
      obtain ⟨rfl, hinside⟩ :=
        Token.append_inj (.bare hname) (.bare hname') (endsAt_opening _) (endsAt_opening _) h
      obtain ⟨rfl, hbehind⟩ :=
        ht.append_inj ht' (endsAt_closing _) (endsAt_closing _) (List.append_cancel_left hinside)
      exact ⟨rfl, List.append_cancel_left hbehind⟩

/-- Fields of the same name come apart from what stands behind them. -/
theorem field_append_inj {f f' : String × Shape} (hname : f.1 = f'.1) (hf : Cell f.2) (hf' : Cell f'.2)
    (hrest : EndsAt ends rest) (hrest' : EndsAt ends rest')
    (h : (l.field f).toList ++ rest = (l.field f').toList ++ rest') : f = f' ∧ rest = rest' := by
  simp only [field, String.toList_append, List.append_assoc, hname, List.append_cancel_left_eq] at h
  obtain ⟨hvalue, hsame⟩ := cell_append_inj hf hf' hrest hrest' h
  exact ⟨Prod.ext hname hvalue, hsame⟩

theorem endsAt_fields (fields : List (String × Shape)) (closed : Bool) : EndsAt ends
    (fields.flatMap (fun g => l.between.toList ++ (l.field g).toList) ++ (l.ending closed).toList) := by
  cases fields with
  | nil =>
    have h : EndsAt ends ((l.ending closed).toList ++ []) :=
      endsAt_of_startsWith (l.ending_starts closed) (List.Subset.refl _) []
    rwa [List.append_nil] at h
  | cons f fields =>
    rw [List.flatMap_cons, List.append_assoc, List.append_assoc]
    exact endsAt_of_startsWith l.between_starts (List.Subset.refl _) _

theorem flatMap_field_inj (hnames : fields.map Prod.fst = fields'.map Prod.fst)
    (hcells : ∀ f ∈ fields, Cell f.2) (hcells' : ∀ f ∈ fields', Cell f.2)
    (h : fields.flatMap (fun g => l.between.toList ++ (l.field g).toList) ++ (l.ending closed).toList
      = fields'.flatMap (fun g => l.between.toList ++ (l.field g).toList) ++ (l.ending closed).toList) :
    fields = fields' := by
  induction fields generalizing fields' with
  | nil => exact (List.map_eq_nil_iff.1 hnames.symm).symm
  | cons f fields ih =>
    cases fields' with
    | nil => cases hnames
    | cons f' fields' =>
      obtain ⟨hname, hnames⟩ := List.cons.inj hnames
      obtain ⟨hcell, hcells⟩ := List.forall_mem_cons.1 hcells
      obtain ⟨hcell', hcells'⟩ := List.forall_mem_cons.1 hcells'
      simp only [List.flatMap_cons, List.append_assoc, List.append_cancel_left_eq] at h
      obtain ⟨hfirst, h⟩ := field_append_inj hname hcell hcell' (endsAt_fields _ _) (endsAt_fields _ _) h
      rw [hfirst, ih hnames hcells hcells' h]

/-- **The fields of a record come apart**, whatever the layout is. -/
theorem record_inj (hnames : fields.map Prod.fst = fields'.map Prod.fst) (hcells : ∀ f ∈ fields, Cell f.2)
    (hcells' : ∀ f ∈ fields', Cell f.2) (h : l.record name fields closed = l.record name fields' closed) :
    fields = fields' := by
  cases fields with
  | nil => exact (List.map_eq_nil_iff.1 hnames.symm).symm
  | cons f fields =>
    cases fields' with
    | nil => cases hnames
    | cons f' fields' =>
      obtain ⟨hname, hnames⟩ := List.cons.inj hnames
      obtain ⟨hcell, hcells⟩ := List.forall_mem_cons.1 hcells
      obtain ⟨hcell', hcells'⟩ := List.forall_mem_cons.1 hcells'
      have htext := congrArg String.toList h
      simp only [toList_record, List.append_cancel_left_eq] at htext
      obtain ⟨hfirst, htext⟩ :=
        field_append_inj hname hcell hcell' (endsAt_fields _ _) (endsAt_fields _ _) htext
      rw [hfirst, flatMap_field_inj hnames hcells hcells' htext]

end Layout

/-! ### Records of one form -/

/-- A record of this name with these fields, whose values are tokens, or names around tokens. -/
inductive Form (name : String) (names : List String) (closed : Bool) : Shape → Prop where
  | intro {fields : List (String × Shape)} (hnames : fields.map Prod.fst = names)
      (hcells : ∀ f ∈ fields, Cell f.2) :
    Form name names closed (.record name fields closed)

namespace Form

variable {names : List String} {s s' : Shape}

/-- A rendering in a layout tells records of one form apart. -/
theorem inj {rendering : Shape → String} {l : Layout}
    (hset : ∀ fields, fields ≠ [] → (∀ f ∈ fields, Cell f.2) →
      rendering (.record name fields closed) = l.record name fields closed)
    (hne : names ≠ []) (h : Form name names closed s) (h' : Form name names closed s') :
    rendering s = rendering s' ↔ s = s' := by
  obtain ⟨hnames, hcells⟩ := h
  obtain ⟨hnames', hcells'⟩ := h'
  have hsome {fields : List (String × Shape)} (hfields : fields.map Prod.fst = names) : fields ≠ [] := by
    rintro rfl
    exact hne hfields.symm
  constructor
  · intro h
    rw [hset _ (hsome hnames) hcells, hset _ (hsome hnames') hcells'] at h
    rw [l.record_inj (hnames.trans hnames'.symm) hcells hcells' h]
  · exact congrArg rendering

/-- **Records of one form** that have the same rendering are the same, on one line -/
theorem compact_inj (hne : names ≠ []) (h : Form name names closed s) (h' : Form name names closed s') :
    s.compact = s'.compact ↔ s = s' := inj (fun _ => compact_record) hne h h'

/-- and over several lines. -/
theorem pretty_inj (hne : names ≠ []) (h : Form name names closed s) (h' : Form name names closed s') :
    s.pretty = s'.pretty ↔ s = s' := inj (fun _ => pretty_record) hne h h'

end Form

/-! ### Values in fields -/

theorem free_append (t t' : String) : Free (t ++ t') ↔ Free t ∧ Free t' := by
  rw [Free, String.toList_append]
  exact List.forall_mem_append

theorem not_mem_marks_of_digit {c : Char} (hc : c.isDigit = true ∨ c = '-') : c ∉ marks := by
  intro hmark
  simp only [marks, List.mem_cons, List.not_mem_nil, or_false] at hmark
  rcases hmark with rfl | rfl | rfl | rfl | rfl | rfl <;> rcases hc with hc | hc <;> cases hc

theorem free_padded (width n : Nat) : Free (padded width n) := by
  rw [padded, free_append]
  constructor
  · intro c hc
    rw [String.toList_ofList] at hc
    rw [List.eq_of_mem_replicate hc]
    decide
  · intro c hc
    exact not_mem_marks_of_digit (.inl (isDigit_of_mem_repr hc))

theorem free_yearText (y : Int) : Free (yearText y) := by
  rw [yearText]
  split
  · exact free_padded _ _
  · rw [free_append]
    refine ⟨?_, free_padded _ _⟩
    split <;> decide

theorem free_fractionText (nanos : Nat) : Free (fractionText nanos) := by
  have hpoint (width n : Nat) : Free ("." ++ padded width n) :=
    (free_append _ _).2 ⟨by decide, free_padded width n⟩
  rw [fractionText]
  split
  · decide
  · split
    · exact hpoint _ _
    · split <;> exact hpoint _ _

/-- An instant is written as a word, -/
theorem bare_zuluText (t : Instant) : Bare t.zuluText where
  ne_nil := by
    rw [Instant.zuluText, Instant.text, String.toList_append]
    exact List.append_ne_nil_of_right_ne_nil _ (by decide)
  free := by
    have hmark : Free "-" ∧ Free "T" ∧ Free ":" ∧ Free "Z" := by decide
    obtain ⟨hdash, htime, hcolon, hzone⟩ := hmark
    show Free _
    simp only [Instant.zuluText, Instant.text, free_append, free_padded, free_yearText,
      free_fractionText, hdash, htime, hcolon, hzone, and_self]

/-- and so is a whole number. -/
theorem bare_toString (n : Int) : Bare (toString n) where
  ne_nil := toString_ne_nil n
  free := fun _ hc => not_mem_marks_of_digit (isDigit_of_mem_toString hc)

theorem cell_text (s : String) : Cell (.text s) := .plain (.quoted s)

theorem cell_int (n : Int) : Cell (.int n) := .plain (.bare (bare_toString n))

theorem cell_flag (b : Bool) : Cell (.flag b) := by
  cases b <;> exact .plain (.bare ⟨by decide, by decide⟩)

theorem cell_instant (t : Instant) : Cell (.plain t.zuluText) := .plain (.bare (bare_zuluText t))

theorem cell_option {α : Type} {value : α → String} (hvalue : ∀ a, Token (value a)) (x : Option α) :
    Cell (.option (fun a => .plain (value a)) x) := by
  cases x with
  | none => exact .plain (.bare ⟨by decide, by decide⟩)
  | some a => exact .wrapped ⟨by decide, by decide⟩ (hvalue a)

theorem text_inj {s s' : String} : Shape.text s = Shape.text s' ↔ s = s' := by
  rw [Shape.text, Shape.text, Shape.plain.injEq, quote_inj]

theorem flag_inj {b b' : Bool} : Shape.flag b = Shape.flag b' ↔ b = b' := by
  cases b <;> cases b' <;> simp [Shape.flag]

theorem option_inj {α β : Type} {f : α → Shape} {g : α → β} (h : ∀ a b, f a = f b ↔ g a = g b)
    {x y : Option α} :
    Shape.option f x = Shape.option f y ↔ x.map g = y.map g := by
  cases x <;> cases y <;> simp [Shape.option, h]

end Turnstile.Text
