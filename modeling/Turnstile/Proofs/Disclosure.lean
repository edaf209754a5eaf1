import Mathlib
import Turnstile.Credential.Token
import Turnstile.Proofs.Json.Rendering
import Turnstile.Proofs.Text.Inspected
import Turnstile.Session
import Turnstile.SignIn
import Turnstile.User

namespace Turnstile

open Text (Cell Form Shape Token cell_flag cell_instant cell_int cell_option cell_text flag_inj
  option_inj text_inj)

/-!
# What is disclosed

What callers and operators are shown of a record depends on some of its fields only, and tells these. No
secret is one of them.

* `User.AlikeToCallers`, `Session.AlikeToOperators` and the like say of two records that they agree in
  what may be seen of them.
* `Shows` says of the inspected form of a kind of record that two of them have the same renderings
  exactly if they are alike.
* `Session.render_toJson_eq`: a token stands in one place of what callers get, and everything around it
  is the same without it.
* `secrets_kept` is the whole.
-/

/-! ### Inspected records -/

/-- Two records have the same renderings, on one line and over several, exactly if they are alike. -/
structure Shows {α : Type} (shape : α → Shape) (alike : α → α → Prop) : Prop where
  compact : ∀ a b, (shape a).compact = (shape b).compact ↔ alike a b
  pretty : ∀ a b, (shape a).pretty = (shape b).pretty ↔ alike a b

/-- It is enough that their shapes have one form, and tell who is alike. -/
theorem shows_of_form {α : Type} {shape : α → Shape} {alike : α → α → Prop} {name : String}
    {names : List String}
    {closed : Bool} (hne : names ≠ []) (form : ∀ a, Form name names closed (shape a))
    (hshape : ∀ a b, shape a = shape b ↔ alike a b) : Shows shape alike where
  compact := fun a b => ((form a).compact_inj hne (form b)).trans (hshape a b)
  pretty := fun a b => ((form a).pretty_inj hne (form b)).trans (hshape a b)

theorem int_inj {m n : Int} : Shape.int m = Shape.int n ↔ m = n := by
  rw [Shape.int, Shape.int, Shape.plain.injEq]
  exact Int.repr_inj

theorem optionText_inj {x y : Option String} : Shape.option .text x = Shape.option .text y ↔ x = y := by
  have h : Shape.option .text x = Shape.option .text y ↔ x.map id = y.map id :=
    option_inj fun _ _ => text_inj
  rwa [Option.map_id] at h

theorem instant_inj {t t' : Instant} :
    Shape.plain t.zuluText = Shape.plain t'.zuluText ↔ t.zuluText = t'.zuluText := by
  rw [Shape.plain.injEq]

theorem optionInstant_inj {x y : Option Instant} :
    Shape.option (fun t => .plain t.zuluText) x = Shape.option (fun t => .plain t.zuluText) y ↔
      x.map Instant.zuluText = y.map Instant.zuluText :=
  option_inj fun _ _ => instant_inj

/-- Of a secret it is only shown whether it is there. -/
theorem redacted_inj {x y : Option String} : redacted x = redacted y ↔ x.isSome = y.isSome := by
  cases x <;> cases y <;> simp [redacted, Shape.option]

theorem cell_optionText (x : Option String) : Cell (.option .text x) := cell_option .quoted x

theorem cell_optionInstant (x : Option Instant) : Cell (.option (fun t => .plain t.zuluText) x) :=
  cell_option (fun t => .bare (Text.bare_zuluText t)) x

theorem cell_redacted (x : Option String) : Cell (redacted x) := cell_option (fun _ => .quoted _) x

theorem optionStr_inj {x y : Option String} : Json.option .str x = Json.option .str y ↔ x = y := by
  cases x <;> cases y <;> simp [Json.option]

/-! ### Users -/

namespace User

/-- The users agree in what callers may see of them. Nothing is asked of their passwords and hashes, nor
    of when they were deleted. -/
@[mk_iff] structure AlikeToCallers (u u' : User) : Prop where
  id : u.id = u'.id
  createdAt : u.createdAt.zuluText = u'.createdAt.zuluText
  email : u.email = u'.email
  emailVerified : u.emailVerified = u'.emailVerified
  passwordSet : u.passwordSet = u'.passwordSet
  givenNames : u.givenNames = u'.givenNames
  surname : u.surname = u'.surname

/-- The users agree in what operators may see of them. Nothing is asked of their passwords and hashes. -/
@[mk_iff] structure AlikeToOperators (u u' : User) : Prop where
  id : u.id = u'.id
  createdAt : u.createdAt.zuluText = u'.createdAt.zuluText
  deletedAt : u.deletedAt.map Instant.zuluText = u'.deletedAt.map Instant.zuluText
  email : u.email = u'.email
  emailVerified : u.emailVerified = u'.emailVerified
  passwordSet : u.passwordSet = u'.passwordSet
  givenNames : u.givenNames = u'.givenNames
  surname : u.surname = u'.surname

theorem shape_form (u : User) : Form "User"
    ["id", "created_at", "deleted_at", "email", "email_verified", "password_set", "given_names",
      "surname"] false
    u.shape := by
  refine .intro rfl ?_
  simp only [List.forall_mem_cons, List.not_mem_nil, false_implies, implies_true, and_true]
  exact ⟨cell_int _, cell_instant _, cell_optionInstant _, cell_optionText _, cell_flag _, cell_flag _,
    cell_optionText _, cell_optionText _⟩

theorem shape_inj (u u' : User) : u.shape = u'.shape ↔ u.AlikeToOperators u' := by
  simp only [shape, Shape.record.injEq, List.cons.injEq, Prod.mk.injEq, true_and, and_true, int_inj,
    instant_inj, optionInstant_inj, optionText_inj, flag_inj, alikeToOperators_iff]

theorem toJson_inj (u u' : User) : u.toJson = u'.toJson ↔ u.AlikeToCallers u' := by
  simp only [toJson, Json.obj.injEq, List.cons.injEq, Prod.mk.injEq, Json.int.injEq, Json.str.injEq,
    Json.bool.injEq, optionStr_inj, true_and, and_true, alikeToCallers_iff]

end User

/-! ### Sessions -/

namespace Session

/-- The sessions agree in what callers may see of them. Nothing is asked of the hashes of their tokens,
    where they were opened from and when they end or were deleted. -/
@[mk_iff] structure AlikeToCallers (s s' : Session) : Prop where
  id : s.id = s'.id
  createdAt : s.createdAt.zuluText = s'.createdAt.zuluText
  userId : s.userId = s'.userId
  token : s.token = s'.token
  purpose : s.purpose = s'.purpose

/-- The sessions agree in what operators may see of them. Nothing is asked of their tokens and the hashes
    of these. -/
@[mk_iff] structure AlikeToOperators (s s' : Session) : Prop where
  id : s.id = s'.id
  createdAt : s.createdAt.zuluText = s'.createdAt.zuluText
  deletedAt : s.deletedAt.map Instant.zuluText = s'.deletedAt.map Instant.zuluText
  userId : s.userId = s'.userId
  clientIp : s.clientIp = s'.clientIp
  purpose : s.purpose = s'.purpose
  expireAt : s.expireAt.map Instant.zuluText = s'.expireAt.map Instant.zuluText

theorem label_inj {p p' : Purpose} : p.label = p'.label ↔ p = p' := by
  cases p <;> cases p' <;> decide

theorem name_inj {p p' : Purpose} : p.name = p'.name ↔ p = p' := by
  cases p <;> cases p' <;> decide

theorem cell_purpose (p : Purpose) : Cell (.plain p.label) := by
  cases p <;> exact .plain (.bare ⟨by decide, by decide⟩)

theorem shape_form (s : Session) : Form "UserSession"
    ["id", "created_at", "deleted_at", "user_id", "client_ip", "purpose", "expire_at"] false s.shape := by
  refine .intro rfl ?_
  simp only [List.forall_mem_cons, List.not_mem_nil, false_implies, implies_true, and_true]
  exact ⟨cell_int _, cell_instant _, cell_optionInstant _, cell_int _, cell_text _, cell_purpose _,
    cell_optionInstant _⟩

theorem shape_inj (s s' : Session) : s.shape = s'.shape ↔ s.AlikeToOperators s' := by
  simp only [shape, Shape.record.injEq, List.cons.injEq, Prod.mk.injEq, true_and, and_true, int_inj,
    optionInstant_inj, text_inj, Shape.plain.injEq, label_inj, alikeToOperators_iff]

theorem tokenField_append_inj {token token' : Option String} {p p' : Purpose} :
    tokenField token ++ [("purpose", Json.str p.name)]
      = tokenField token' ++ [("purpose", Json.str p'.name)] ↔
      token = token' ∧ p = p' := by
  cases token <;> cases token' <;> simp [tokenField, name_inj]

/-- The text of a token that is there, with its key in front of it. -/
def tokenText : Option String → String
  | none => ""
  | some token => ",\"token\":" ++ Json.renderString token

/-- **A token has one place** in what callers get, and nothing around it depends on it. -/
theorem render_toJson_eq (s : Session) : ∃ front back, ∀ token,
    { s with token := token }.toJson.render = front ++ tokenText token ++ back := by
  refine ⟨"\x7b" ++ ",".intercalate (Json.renderFields
      [("id", .int s.id), ("createdAt", .str s.createdAt.zuluText), ("userId", .int s.userId)]),
    "," ++ Json.fieldText ("purpose", .str s.purpose.name) ++ "\x7d", fun token => ?_⟩
  -- what stands behind it has its comma with it, and so has the token
  rw [← String.toList_inj, toJson, Json.toList_render_obj]
  cases token with
  | none => simp [tokenField, tokenText, Json.renderFields_eq_map]
  | some token =>
    have hkey : Json.fieldText ("token", .str token) = "\"token\":" ++ Json.renderString token := by
      have hquoted : Json.renderString "token" ++ ":" = "\"token\":" := by decide
      rw [Json.fieldText, hquoted, Json.render]
    simp [tokenField, tokenText, Json.renderFields_eq_map, hkey]

/-- It is the value of its key, which is there exactly if it is. -/
theorem field?_token (s : Session) : s.toJson.field? "token" = s.token.map .str := by
  unfold toJson
  cases s.token <;> rfl

/-- It is the value of no other key. -/
theorem field?_of_ne (s : Session) (token : Option String) {key : String} (hkey : key ≠ "token") :
    { s with token := token }.toJson.field? key = s.toJson.field? key := by
  have hfalse : (key == "token") = false := beq_false_of_ne hkey
  have hfield (token : Option String) : (tokenField token).lookup key = none := by
    cases token <;> simp [tokenField, List.lookup_cons, hfalse]
  simp only [toJson, Json.field?, List.lookup_append, hfield]

theorem toJson_inj (s s' : Session) : s.toJson = s'.toJson ↔ s.AlikeToCallers s' := by
  simp only [toJson, Json.obj.injEq, List.cons_append, List.nil_append, List.cons.injEq, Prod.mk.injEq,
    Json.int.injEq, Json.str.injEq, true_and, tokenField_append_inj, alikeToCallers_iff]

end Session

/-! ### Requests and issued tokens -/

/-- The drafts agree in what operators may see of them: of the password, whether there is one. -/
@[mk_iff] structure UserDraft.AlikeToOperators (d d' : UserDraft) : Prop where
  email : d.email = d'.email
  password : d.password.isSome = d'.password.isSome
  givenNames : d.givenNames = d'.givenNames
  surname : d.surname = d'.surname

/-- The sign-in requests agree in what operators may see of them. -/
@[mk_iff] structure SignIn.AlikeToOperators (s s' : SignIn) : Prop where
  email : s.email = s'.email
  password : s.password.isSome = s'.password.isSome
  purpose : s.purpose = s'.purpose
  clientIp : s.clientIp = s'.clientIp

theorem UserDraft.shape_form (d : UserDraft) :
    Form "UserParams" ["email", "password", "given_names", "surname"] true d.shape := by
  refine .intro rfl ?_
  simp only [List.forall_mem_cons, List.not_mem_nil, false_implies, implies_true, and_true]
  exact ⟨cell_optionText _, cell_redacted _, cell_optionText _, cell_optionText _⟩

theorem UserDraft.shape_inj (d d' : UserDraft) : d.shape = d'.shape ↔ d.AlikeToOperators d' := by
  simp only [shape, Shape.record.injEq, List.cons.injEq, Prod.mk.injEq, true_and, and_true, optionText_inj,
    redacted_inj, alikeToOperators_iff]

theorem SignIn.shape_form (s : SignIn) :
    Form "CreateSessionParams" ["email", "password", "purpose", "client_ip"] true s.shape := by
  refine .intro rfl ?_
  simp only [List.forall_mem_cons, List.not_mem_nil, false_implies, implies_true, and_true]
  exact ⟨cell_optionText _, cell_redacted _, cell_text _, cell_text _⟩

theorem SignIn.shape_inj (s s' : SignIn) : s.shape = s'.shape ↔ s.AlikeToOperators s' := by
  simp only [shape, Shape.record.injEq, List.cons.injEq, Prod.mk.injEq, true_and, and_true, optionText_inj,
    redacted_inj, text_inj, alikeToOperators_iff]

namespace Credential

theorem issuedToken_form (t : IssuedToken) : Form "IssuedToken" ["token", "token_hash"] true t.shape := by
  refine .intro rfl ?_
  simp only [List.forall_mem_cons, List.not_mem_nil, false_implies, implies_true, and_true]
  exact ⟨cell_text _, cell_text _⟩

theorem issuedToken_shape_inj (t t' : IssuedToken) : t.shape = t'.shape ↔ t.hash = t'.hash := by
  simp only [IssuedToken.shape, Shape.record.injEq, List.cons.injEq, Prod.mk.injEq, true_and, and_true,
    text_inj]

end Credential

/-! ### The whole -/

/-- What is shown of records, and what is not. -/
structure SecretsKept : Prop where
  /-- Callers get the same of two users exactly if they agree in what may be seen: passwords and hashes
      are not in it. -/
  userToCallers : ∀ u u' : User, u.toJson.render = u'.toJson.render ↔ u.AlikeToCallers u'
  /-- Neither are they in what operators get. -/
  userToOperators : Shows User.shape User.AlikeToOperators
  /-- Of a session callers get neither the hash, the address and the end, nor whether it was deleted. -/
  sessionToCallers : ∀ s s' : Session, s.toJson.render = s'.toJson.render ↔ s.AlikeToCallers s'
  /-- They get the token, if there is one, under its key, -/
  tokenKey : ∀ s : Session, s.toJson.field? "token" = s.token.map .str
  /-- under no other, -/
  otherKeys : ∀ (s : Session) token key, key ≠ "token" →
    { s with token := token }.toJson.field? key = s.toJson.field? key
  /-- and nowhere else in the text. -/
  tokenPlace : ∀ s : Session, ∃ front back, ∀ token,
    { s with token := token }.toJson.render = front ++ Session.tokenText token ++ back
  /-- Operators get neither the token nor its hash. -/
  sessionToOperators : Shows Session.shape Session.AlikeToOperators
  /-- Of passwords that callers send, operators get whether there are any, -/
  draft : Shows UserDraft.shape UserDraft.AlikeToOperators
  signIn : Shows SignIn.shape SignIn.AlikeToOperators
  /-- and of a token that was issued, only its hash. -/
  issued : Shows Credential.IssuedToken.shape fun t t' => t.hash = t'.hash

/-- **No rendering discloses a secret**, whatever there is in the fields. -/
theorem secrets_kept : SecretsKept where
  userToCallers := fun u u' => Json.render_inj.trans (u.toJson_inj u')
  userToOperators := shows_of_form (by decide) User.shape_form User.shape_inj
  sessionToCallers := fun s s' => Json.render_inj.trans (s.toJson_inj s')
  tokenKey := Session.field?_token
  otherKeys := fun s token _ hkey => s.field?_of_ne token hkey
  tokenPlace := Session.render_toJson_eq
  sessionToOperators := shows_of_form (by decide) Session.shape_form Session.shape_inj
  draft := shows_of_form (by decide) UserDraft.shape_form UserDraft.shape_inj
  signIn := shows_of_form (by decide) SignIn.shape_form SignIn.shape_inj
  issued := shows_of_form (by decide) Credential.issuedToken_form Credential.issuedToken_shape_inj

/-- A user whose name looks like the end of a text and another field. -/
def quotingUser : User :=
  { User.new with
    email := some "a@b.com"
    password := some "abcdef"
    passwordHash := some "$argon2id$"
    givenNames := some "\", password: \"abcdef" }

/-- The same user with another password, and no hash. -/
def otherSecrets : User := { quotingUser with password := some "ghijkl", passwordHash := none }

/-- A session whose token looks like the end of a text and another field. -/
def quotingSession : Session :=
  { Session.new 1 "127.0.0.1" .sessionCreate with
    token := some "t\",\"purpose\":\"IMPERSONATE" }

/-- The draft of a password. -/
def passwordDraft (password : String) : UserDraft := { UserDraft.empty with password := some password }

/-- A user is shown in the same way with other secrets, though the name tells the password. The token of a
    session is under its own key, though it tells a purpose. Of a draft it is shown that there is a
    password, but not which. -/
theorem secrets_kept_quoting :
    (otherSecrets.toJson.render = quotingUser.toJson.render ∧
      otherSecrets.shape.compact = quotingUser.shape.compact ∧
      otherSecrets.shape.pretty = quotingUser.shape.pretty) ∧
    quotingSession.toJson.field? "token" = some (.str "t\",\"purpose\":\"IMPERSONATE") ∧
    (passwordDraft "abcdef").shape.compact = (passwordDraft "<redacted>").shape.compact ∧
    (passwordDraft "abcdef").shape.compact ≠ UserDraft.empty.shape.compact := by
  have halike : otherSecrets.AlikeToOperators quotingUser := ⟨rfl, rfl, rfl, rfl, rfl, rfl, rfl, rfl⟩
  refine ⟨⟨?_, ?_, ?_⟩, secrets_kept.tokenKey quotingSession, ?_, ?_⟩
  · exact (secrets_kept.userToCallers _ _).2 ⟨rfl, rfl, rfl, rfl, rfl, rfl, rfl⟩
  · exact (secrets_kept.userToOperators.compact _ _).2 halike
  · exact (secrets_kept.userToOperators.pretty _ _).2 halike
  · exact (secrets_kept.draft.compact _ _).2 ⟨rfl, rfl, rfl, rfl⟩
  · intro h
    exact absurd ((secrets_kept.draft.compact _ _).1 h).password (by decide)

end Turnstile
