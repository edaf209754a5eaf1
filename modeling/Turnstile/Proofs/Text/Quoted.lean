import Turnstile.Proofs.Text.Apart
import Turnstile.Text.Quoted

namespace Turnstile.Text

/-!
# What is quoted

A quoted text is the quoted form of no other text.

* `hexNumber_hexDigits`: the digits of a number are read back.
* `firstOf_escape`: the first character that was escaped can be told from what stands there now.
* `quote_append_inj`: a quoted text comes apart from what stands behind it.
-/

variable {cs ds rest rest' : List Char}

/-! ### Hexadecimal numbers -/

/-- The number that digits spell. -/
def hexNumber (digits : List Char) : Nat :=
  digits.foldl (fun n c => 16 * n + "0123456789abcdef".toList.idxOf c) 0

theorem idxOf_digitChar : ∀ n : Fin 16, "0123456789abcdef".toList.idxOf (Nat.digitChar n) = n.val := by
  decide

theorem hexDigits_of_lt {n : Nat} (hn : n < 16) : hexDigits n = [Nat.digitChar n] :=
  Nat.toDigits_of_lt_base hn

theorem hexDigits_of_le {n : Nat} (hn : 16 ≤ n) :
    hexDigits n = hexDigits (n / 16) ++ [Nat.digitChar (n % 16)] :=
  Nat.toDigits_of_base_le (by decide) hn

/-- **Digits are read back.** -/
theorem hexNumber_hexDigits (n : Nat) : hexNumber (hexDigits n) = n := by
  induction n using Nat.strongRecOn with
  | ind n ih =>
    rcases Nat.lt_or_ge n 16 with hn | hn
    · have hdigit := idxOf_digitChar ⟨n, hn⟩
      rw [hexDigits_of_lt hn, hexNumber, List.foldl_cons, List.foldl_nil, hdigit]
      exact Nat.zero_add n
    · have hdigit := idxOf_digitChar ⟨n % 16, Nat.mod_lt n (by decide)⟩
      have hfront : hexNumber (hexDigits (n / 16)) = n / 16 := ih (n / 16) (by omega)
      rw [hexNumber] at hfront
      rw [hexDigits_of_le hn, hexNumber, List.foldl_append, hfront, List.foldl_cons, List.foldl_nil, hdigit]
      exact Nat.div_add_mod n 16

/-- There is no bracket among them. -/
theorem bracket_not_mem_hexDigits (n : Nat) : '\x7d' ∉ hexDigits n := by
  have hdigit : ∀ n : Fin 16, '\x7d' ≠ Nat.digitChar n := by decide
  induction n using Nat.strongRecOn with
  | ind n ih =>
    rcases Nat.lt_or_ge n 16 with hn | hn
    · rw [hexDigits_of_lt hn, List.mem_singleton]
      exact hdigit ⟨n, hn⟩
    · rw [hexDigits_of_le hn, List.mem_append, List.mem_singleton, not_or]
      exact ⟨ih (n / 16) (by omega), hdigit ⟨n % 16, Nat.mod_lt n (by decide)⟩⟩

/-! ### Single characters -/

/-- The character that a letter behind a backslash stands for. -/
def shortMeaning? : Char → Option Char
  | '0' => some '\x00'
  | 't' => some '\t'
  | 'n' => some '\n'
  | 'r' => some '\r'
  | '"' => some '"'
  | '\\' => some '\\'
  | _ => none

/-- A character is written as it is, as a letter behind a backslash, or by its number. -/
theorem escape_cases (c : Char) : escape c = [c] ∧ c ≠ '"' ∧ c ≠ '\\' ∨
    (∃ e, escape c = ['\\', e] ∧ shortMeaning? e = some c) ∨
    escape c = '\\' :: 'u' :: '\x7b' :: (hexDigits c.toNat ++ ['\x7d']) := by
  rw [escape.eq_def]
  split
  · exact .inr (.inl ⟨'0', rfl, rfl⟩)
  · exact .inr (.inl ⟨'t', rfl, rfl⟩)
  · exact .inr (.inl ⟨'n', rfl, rfl⟩)
  · exact .inr (.inl ⟨'r', rfl, rfl⟩)
  · exact .inr (.inl ⟨'"', rfl, rfl⟩)
  · exact .inr (.inl ⟨'\\', rfl, rfl⟩)
  · next hquote hslash =>
    split
    · exact .inl ⟨rfl, hquote, hslash⟩
    · split
      · exact .inr (.inr rfl)
      · exact .inl ⟨rfl, hquote, hslash⟩

/-- The first character of a text whose characters were escaped. -/
def firstOf : List Char → Option Char
  | '\\' :: 'u' :: _ :: rest => some (Char.ofNat (hexNumber (rest.takeWhile (· != '\x7d'))))
  | '\\' :: e :: _ => shortMeaning? e
  | c :: _ => some c
  | [] => none

/-- **An escaped character** can be told. -/
theorem firstOf_escape (c : Char) (rest : List Char) : firstOf (escape c ++ rest) = some c := by
  rcases escape_cases c with ⟨hplain, -, hslash⟩ | ⟨e, hshort, hmeans⟩ | hlong
  · rw [hplain, List.singleton_append, firstOf]
    · exact fun _ _ h _ => hslash h
    · exact fun _ _ h _ => hslash h
  · rw [hshort, List.cons_append, List.singleton_append, firstOf, hmeans]
    rintro _ _ rfl -
    cases hmeans
  · -- the digits go as far as the closing bracket, since there is none among them
    have hdigits : ∀ d ∈ hexDigits c.toNat, (d != '\x7d') = true := by
      intro d hd
      exact bne_iff_ne.2 fun heq => bracket_not_mem_hexDigits c.toNat (heq ▸ hd)
    have htake : (hexDigits c.toNat ++ '\x7d' :: rest).takeWhile (· != '\x7d') = hexDigits c.toNat := by
      rw [List.takeWhile_append_of_pos hdigits]
      exact List.append_nil _
    rw [hlong, List.cons_append, List.cons_append, List.cons_append, List.append_assoc,
      List.singleton_append, firstOf, htake, hexNumber_hexDigits, Char.ofNat_toNat]

/-- No escaped character begins with a quote. -/
theorem exists_escape_eq (c : Char) : ∃ a as, escape c = a :: as ∧ a ≠ '"' := by
  rcases escape_cases c with ⟨hplain, hquote, -⟩ | ⟨e, hshort, -⟩ | hlong
  · exact ⟨c, [], hplain, hquote⟩
  · exact ⟨'\\', [e], hshort, by decide⟩
  · exact ⟨'\\', _, hlong, by decide⟩

/-! ### Texts -/

theorem escape_ne_quote (c : Char) (cs : List Char) : escape c ++ cs ≠ '"' :: rest := by
  obtain ⟨a, as, hescape, ha⟩ := exists_escape_eq c
  rw [hescape]
  exact fun h => ha (List.cons.inj h).1

/-- Escaped characters in front of a quote come apart from it. -/
theorem flatMap_escape_append_inj
    (h : cs.flatMap escape ++ '"' :: rest = ds.flatMap escape ++ '"' :: rest') :
    cs = ds ∧ rest = rest' := by
  induction cs generalizing ds with
  | nil =>
    cases ds with
    | nil => exact ⟨rfl, (List.cons.inj h).2⟩
    | cons d ds =>
      rw [List.flatMap_cons, List.append_assoc] at h
      exact absurd h.symm (escape_ne_quote d _)
  | cons c cs ih =>
    cases ds with
    | nil =>
      rw [List.flatMap_cons, List.append_assoc] at h
      exact absurd h (escape_ne_quote c _)
    | cons d ds =>
      rw [List.flatMap_cons, List.flatMap_cons, List.append_assoc, List.append_assoc] at h
      have hfirst := congrArg firstOf h
      rw [firstOf_escape, firstOf_escape] at hfirst
      obtain rfl := Option.some.inj hfirst
      obtain ⟨hsame, hrest⟩ := ih (List.append_cancel_left h)
      exact ⟨by rw [hsame], hrest⟩

theorem toList_quote (s : String) : (quote s).toList = '"' :: (s.toList.flatMap escape ++ ['"']) := by
  rw [quote, String.toList_ofList]
  rfl

/-- **A quoted text comes apart** from what stands behind it. -/
theorem quote_append_inj {s s' : String} (h : (quote s).toList ++ rest = (quote s').toList ++ rest') :
    s = s' ∧ rest = rest' := by
  simp only [toList_quote, List.cons_append, List.append_assoc, List.nil_append, List.cons.injEq,
    true_and] at h
  obtain ⟨hsame, hrest⟩ := flatMap_escape_append_inj h
  exact ⟨String.toList_inj.1 hsame, hrest⟩

theorem quote_inj {s s' : String} : quote s = quote s' ↔ s = s' := by
  constructor
  · intro h
    have hnil : (quote s).toList ++ [] = (quote s').toList ++ [] := by rw [h]
    exact (quote_append_inj hnil).1
  · exact congrArg quote

end Turnstile.Text
