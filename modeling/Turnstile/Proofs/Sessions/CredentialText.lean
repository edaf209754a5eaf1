import Turnstile.Proofs.Credential.Authorization
import Turnstile.Proofs.Service.SoundRecords
import Turnstile.Proofs.Sessions.Lifetime

namespace Turnstile

open Credential (Hasher authorizationText idLimit parseAuthorization)

/-!
# The text of a credential

The grammar of the credentials that callers present, and that what a sign-in hands out keeps to it.

* `Credential.IsCredential` is the grammar. The parser reads exactly its texts
  (`parseAuthorization_eq_some_iff_isCredential`), and reads back what was written
  (`parseAuthorization_authorizationText`).
* `Tokened` demands of sessions that they are inserted with a token. A sign-in meets it
  (`Sessions.create_tokened`), whatever it is answered and whatever is drawn.
* `credential_text` puts the two together.
-/

/-! ### The grammar -/

namespace Credential

/-- The grammar of credentials. There is exactly one hyphen in the text; in front of it stands a numeral that
    spells the key, an integer of 64 bits, and behind it the token. -/
structure IsCredential (text : String) (id : Id) (token : String) : Prop where
  hyphen : text.toList.count '-' = 1
  parts : ∃ (key : List Char) (n : Nat), text.toList = key ++ '-' :: token.toList ∧ Text.Numeral key n ∧
    n ≤ idLimit ∧ id = n

variable {text : String} {id : Id} {token : String}

/-- **The parser reads the grammar**: all of its texts, and no others. -/
theorem parseAuthorization_eq_some_iff_isCredential :
    parseAuthorization text = some (id, token) ↔ IsCredential text id token := by
  -- the only hyphen is the one between the parts
  have honly {key : List Char} (htext : text.toList = key ++ '-' :: token.toList) :
      text.toList.count '-' = 1 ↔ '-' ∉ key ∧ '-' ∉ token.toList := by
    rw [htext, List.count_append, List.count_cons_self, ← List.count_eq_zero, ← List.count_eq_zero]
    omega
  rw [parseAuthorization_eq_some]
  constructor
  · rintro ⟨key, n, htext, hkey, htoken, hvalue⟩
    exact ⟨(honly htext).2 ⟨hkey, htoken⟩, key, n, htext, hvalue⟩
  · rintro ⟨hyphen, key, n, htext, hvalue⟩
    obtain ⟨hkey, htoken⟩ := (honly htext).1 hyphen
    exact ⟨key, n, htext, hkey, htoken, hvalue⟩

/-- The grammar has no sign for keys below zero. -/
theorem IsCredential.nonneg (h : IsCredential text id token) : 0 ≤ id := by
  obtain ⟨-, n, -, -, -, rfl⟩ := h.parts
  exact Int.natCast_nonneg n

/-- **What was written is read back**, unless there is a hyphen in the place of the token. -/
theorem parseAuthorization_authorizationText (hid : 0 ≤ id) (hle : id ≤ idLimit)
    (htoken : '-' ∉ token.toList) : parseAuthorization (authorizationText id token) = some (id, token) := by
  obtain ⟨n, rfl⟩ := Int.eq_ofNat_of_zero_le hid
  have hn : n ≤ idLimit := Int.ofNat_le.1 hle
  have htext : authorizationText n token = String.ofList (Nat.toDigits 10 n ++ '-' :: token.toList) := by
    rw [← String.toList_inj, Sessions.toList_authorizationText, String.toList_ofList]
  rw [htext, Sessions.parseAuthorization_digits hn, if_neg htoken, String.ofList_toList]

/-- There is nothing to trim from a credential with a token. -/
theorem IsToken.trim_authorizationText (form : IsToken token) (hid : 0 ≤ id) :
    Text.trim (authorizationText id token) = authorizationText id token := by
  obtain ⟨n, rfl⟩ := Int.eq_ofNat_of_zero_le hid
  have hright : Text.trimRight (token.toList ++ []) = token.toList :=
    Text.trimRight_eq_of_blank form.plain.1 (by simp)
  rw [List.append_nil] at hright
  rw [Sessions.trim_authorizationText, hright, ← String.toList_inj, Sessions.toList_authorizationText,
    String.toList_ofList]

end Credential

/-! ### What is inserted -/

/-- Sessions are inserted with a token. -/
def Tokened : Effect → Prop
  | .sessions (.create x) => ∃ token, x.token = some token ∧ Credential.IsToken token
  | _ => True

/-- Plain questions insert no sessions. -/
theorem Effect.Plain.tokened {e : Effect} (h : e.Plain) : ∀ _ : List (Exchange Store), Tokened e := by
  intro past
  cases e with
  | sessions call => cases call <;> first | exact trivial | exact h.elim
  | _ => exact trivial

section Runs

open Service

variable {h : Hasher} {r : Request}

namespace Sessions

variable {past : List (Exchange Store)}

/-- A session that is prepared has a token. -/
theorem prepare_tokened (x : Session) : Meets (fun _ => Tokened) past
    (fun _ y => ∃ token, y.token = some token ∧ Credential.IsToken token) (prepare h x) := by
  refine .of_gives ((prepare_passes x).mono ?_) (prepare_asks (fun _ plain => plain.tokened) x)
  rintro past' (failure | y) hprepared
  · exact trivial
  · obtain ⟨opened, expireAt, issued, draw, b, a, b', a', -, -, hissued, rfl⟩ := hprepared
    exact ⟨issued.token, rfl, (Credential.tokenCreate_ok hissued).1⟩

/-- **A sign-in inserts sessions with tokens**, whatever it is answered. -/
theorem create_tokened (signIn : Option SignIn) :
    Meets (fun _ => Tokened) past (fun _ _ => True) (create h r signIn) := by
  have plain (e : Effect) (he : e.Plain) (past : List (Exchange Store)) : Tokened e := he.tokened past
  refine (meets_of_asks (asks_orReject _ signIn)).bind fun past s _ => ?_
  by_cases hip : s.clientIp = ""
  · simp only [if_pos hip]
    exact meets_throw_bind _ _
  simp only [if_neg hip]
  refine (meets_of_asks (asks_checked (issuable s.purpose))).bind fun past purpose _ => ?_
  refine (meets_of_asks (findUser_asks plain s)).bind fun past found _ => ?_
  refine (meets_of_asks (asks_orReject _ found)).bind fun past u _ => ?_
  refine (meets_of_asks (asks_checked _)).bind fun past _ _ => ?_
  refine (prepare_tokened _).bind fun past x hx => ?_
  exact meets_of_asks ((asks_sessions fun _ => hx).bind fun y => (log_asks plain _ _ _).bind
    fun _ => asks_pure y)

end Sessions

variable {T : Trace Store} {c : Crowd Store (Request × Job) (Except ServiceFailure Value)} {i : Nat}
  {signIn : Option SignIn} {x : Session}

/-- In a run, the session that a sign-in gives has a key and carries a token. -/
theorem token_of_finished (run : (service h).Run .nobody T c)
    (hi : c.Finished i (r, .signIn signIn) (.ok (.session x))) :
    0 < x.id ∧ ∃ token, x.token = some token ∧ Credential.IsToken token := by
  have issued := Sessions.issued_of_finished run hi
  obtain ⟨email, u, opened, expireAt, salt, token', y, -, -, inserted, -, live, -, -, -, -, -⟩ := issued
  obtain ⟨before, after, hmem⟩ := inserted
  have hT := Trace.mem_own.1 hmem
  have hpasses : ((service h).program (r, .signIn signIn)).Passes (.history fun _ x => Tokened x.effect)
      (Given fun _ _ => True) [] :=
    ((Sessions.create_tokened signIn).bind fun _ _ _ => meets_pure trivial).passes
  obtain ⟨_, _, -, token, htoken, form⟩ := run.demands (Crowd.job?_of_task hi) hpasses hT
  -- the row that the store made of it has the same token
  obtain ⟨hpos, hx, -⟩ := row_of_issued run hT live
  refine ⟨hpos, token, ?_, form⟩
  rw [hx]
  exact htoken

end Runs

/-! ### The credentials that are handed out -/

/-- Between blanks, the credential for a session and its token reads as these two. -/
theorem Credential.IsToken.presents {token : String} (form : IsToken token) {id : Id} (hid : 0 ≤ id)
    (hle : id ≤ idLimit) {front back : String} (hfront : Sessions.Blank front)
    (hback : Sessions.Blank back) :
    parseAuthorization (Text.trim (front ++ authorizationText id token ++ back)) = some (id, token) := by
  rw [Text.trim_surrounded hfront hback, form.trim_authorizationText hid]
  exact parseAuthorization_authorizationText hid hle form.plain.2

/-- **The parser of credentials** reads exactly the texts of the grammar, and no key below zero from any
    of them; it reads back whatever key and token were written, if there is no hyphen in the token. And
    what a sign-in hands out is such a text: the token is 64 hexadecimal digits, so between any blanks the
    credential reads as the session and its token. -/
theorem credential_text (h : Hasher) :
    (∀ text id token,
      parseAuthorization text = some (id, token) ↔ Credential.IsCredential text id token) ∧
    (∀ text id token, parseAuthorization text = some (id, token) → 0 ≤ id) ∧
    (∀ (id : Id) (token : String), 0 ≤ id → id ≤ idLimit → '-' ∉ token.toList →
      parseAuthorization (authorizationText id token) = some (id, token)) ∧
    ∀ (T : Trace Store) (c : Crowd Store (Request × Job) (Except ServiceFailure Value)) (i : Nat)
      (r : Request) (signIn : Option SignIn) (x : Session), (service h).Run .nobody T c →
      c.Finished i (r, .signIn signIn) (.ok (.session x)) →
      ∃ token, x.token = some token ∧ Credential.IsToken token ∧
        (x.id ≤ idLimit → ∀ front back, Sessions.Blank front → Sessions.Blank back →
          parseAuthorization (Text.trim (front ++ authorizationText x.id token ++ back))
              = some (x.id, token) ∧
            Sessions.readAuthorization (front ++ authorizationText x.id token ++ back)
              = .ok (x.id, token)) := by
  refine ⟨fun text id token => Credential.parseAuthorization_eq_some_iff_isCredential, ?_, ?_, ?_⟩
  · intro text id token hparse
    exact (Credential.parseAuthorization_eq_some_iff_isCredential.1 hparse).nonneg
  · intro id token hid hle htoken
    exact Credential.parseAuthorization_authorizationText hid hle htoken
  · intro T c i r signIn x run hi
    obtain ⟨hpos, token, htoken, form⟩ := token_of_finished run hi
    refine ⟨token, htoken, form, fun hle front back hfront hback => ?_⟩
    have hparse := form.presents (Int.le_of_lt hpos) hle hfront hback
    exact ⟨hparse, Sessions.readAuthorization_eq_ok (Sessions.parseAuthorization_eq_some_iff.1 hparse)⟩

/-! ### A sign-in -/

/-- A user signs up and then in. The session that this opens is the only one that there is. -/
theorem run_addressSignIn : ∃ T s, ∃ value, ∃ x : Session, (service plainHasher).Run .nobody T
    ⟨s, [⟨(.new "r" .epoch, .signUp (some Accounts.addressDraft)), .done value⟩,
      ⟨(.new "r" .epoch, .signIn (some addressSignIn)), .done (.ok (.session x))⟩]⟩ ∧ x.id = 1 ∧
    s.sessions = [Store.keptSession x] ∧ Store.runsBeyond 1 .epoch x = true := by
  obtain ⟨T₀, value, signedUp⟩ := run_addressSignUp
  have launched := signedUp.launch (.new "r" .epoch, .signIn (some addressSignIn))
  obtain ⟨T₁, signedIn, -⟩ := launched.undisturbed (i := 1) (.calm .epoch) rfl
  obtain ⟨x, s, hx, running⟩ := runOn_addressSignIn_running
  have hdone : ((service plainHasher).program (.new "r" .epoch, .signIn (some addressSignIn))).runOn
      (.calm .epoch) addressStore = (.ok (.session x), s) := by
    show (Sessions.create _ _ _ >>= _ : Service Value).runOn _ _ = _
    rw [Service.runOn_bind, hx]
    rfl
  rw [hdone] at signedIn
  exact ⟨_, s, value, x, signedIn, running⟩

/-- The credential of the first session reads as it between a space and the end of a line, and a key may
    have a plus sign. -/
theorem credential_text_signedIn :
    parseAuthorization "+7-a" = some (7, "a") ∧
    ∃ T c, ∃ x : Session, ∃ token, (service plainHasher).Run .nobody T c ∧
      c.Finished 1 (.new "r" .epoch, .signIn (some addressSignIn)) (.ok (.session x)) ∧
      x.token = some token ∧ Credential.IsToken token ∧
      parseAuthorization (Text.trim (" " ++ authorizationText x.id token ++ "\n")) = some (x.id, token) := by
  obtain ⟨grammar, -, -, issued⟩ := credential_text plainHasher
  have hdigit : ∀ c ∈ ['7'], c.isDigit = true := List.forall_mem_singleton.2 (by decide)
  have hseven : Credential.IsCredential "+7-a" 7 "a" :=
    ⟨by decide, ['+', '7'], 7, by decide, ⟨['7'], by decide, hdigit, .inr rfl, by decide⟩, by decide, rfl⟩
  obtain ⟨T, s, value, x, run, hid, -⟩ := run_addressSignIn
  obtain ⟨token, htoken, form, reads⟩ := issued T _ 1 _ _ x run rfl
  have hle : x.id ≤ idLimit := by
    rw [hid]
    decide
  have hspace : Sessions.Blank " " := by
    show ∀ c ∈ [' '], _
    exact List.forall_mem_singleton.2 (by decide)
  have hnewline : Sessions.Blank "\n" := by
    show ∀ c ∈ ['\n'], _
    exact List.forall_mem_singleton.2 (by decide)
  exact ⟨(grammar _ _ _).2 hseven, T, _, x, token, run, rfl, htoken, form,
    (reads hle " " "\n" hspace hnewline).1⟩

end Turnstile
