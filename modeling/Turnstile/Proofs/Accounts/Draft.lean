import Turnstile.Accounts
import Turnstile.Proofs.Except
import Turnstile.Proofs.Text.StoredForm

namespace Turnstile.Accounts

/-!
# Checked drafts

* `check_ok`: every supplied field of a checked draft has passed its rule, and what is stored is what the
  rule has given (`supplied_eq_some`).
* `stored_of_check`: what is stored is in stored form. `fields_of_check`: it is the stored form of what
  was typed.
* `FirstFault` is "of the fields that break their rules this is the first", and `check_eq_error_iff` says
  that this is what a check comes back with.
* `check_ne_userEmailExists`: whether an address is in use is not for a rule to say.
-/

/-! ### Single fields -/

section Supplied

variable {rule : String → Except Rejection String}

/-- A stored field was supplied, and its rule has given it. -/
theorem supplied_eq_some {field : Option String} {value : String}
    (h : supplied rule field = .ok (some value)) : ∃ raw, field = some raw ∧ rule raw = .ok value := by
  cases field with
  | none => cases h
  | some raw =>
    cases hraw : rule raw with
    | error r =>
      rw [supplied, hraw] at h
      cases h
    | ok value' =>
      rw [supplied, hraw] at h
      cases h
      exact ⟨raw, rfl, hraw⟩

theorem supplied_ne {r : Rejection} (hrule : ∀ raw, rule raw ≠ .error r) (field : Option String) :
    supplied rule field ≠ .error r := by
  intro h
  cases field with
  | none => cases h
  | some raw =>
    cases hraw : rule raw with
    | error r' =>
      rw [supplied, hraw] at h
      cases h
      exact hrule raw hraw
    | ok value =>
      rw [supplied, hraw] at h
      cases h

end Supplied

/-- No rule for a name speaks of addresses in use. -/
theorem name_ne_userEmailExists {missing invalid : Rejection} (hm : missing ≠ .userEmailExists)
    (hi : invalid ≠ .userEmailExists) (raw : String) :
    Field.name missing invalid raw ≠ .error .userEmailExists := by
  rw [Field.name]
  intro h
  split at h
  · exact hm (Except.error.inj h)
  · split at h
    · exact hi (Except.error.inj h)
    · cases h

theorem email_ne_userEmailExists (raw : String) : Field.email raw ≠ .error .userEmailExists := by
  rw [Field.email]
  intro h
  split at h
  · cases h
  · split at h <;> cases h

theorem password_ne_userEmailExists (raw : String) : Field.password raw ≠ .error .userEmailExists := by
  rw [Field.password]
  intro h
  split at h
  · cases h
  · split at h <;> cases h

/-- The addresses that pass are those of the right form. -/
theorem email_eq_ok_iff {raw email : String} : Field.email raw = .ok email ↔
    email = Email.canonical raw ∧ Email.canonical raw ≠ "" ∧
      Email.isFormat (Email.canonical raw) = true := by
  by_cases hsome : Email.canonical raw = ""
  · simp [Field.email, hsome]
  · by_cases hformat : Email.isFormat (Email.canonical raw) = true
    · simp only [Field.email, if_neg hsome, if_pos hformat, Except.ok.injEq]
      exact ⟨fun h => ⟨h.symm, hsome, hformat⟩, fun h => h.1.symm⟩
    · simp [Field.email, hsome, hformat]

/-- A password passes as it is, if it is long enough. -/
theorem password_eq_ok_iff {raw password : String} : Field.password raw = .ok password ↔
    password = raw ∧ raw ≠ "" ∧ Field.minPassword ≤ raw.length := by
  by_cases hsome : raw = ""
  · simp [Field.password, hsome]
  · by_cases hshort : raw.length < Field.minPassword
    · simp [Field.password, hsome, hshort]
    · simp only [Field.password, if_neg hsome, if_neg hshort, Except.ok.injEq]
      exact ⟨fun h => ⟨h.symm, hsome, Nat.le_of_not_lt hshort⟩, fun h => h.1.symm⟩

/-- A name passes in its stored form, if that is long enough. -/
theorem name_eq_ok_iff {missing invalid : Rejection} {raw name : String} :
    Field.name missing invalid raw = .ok name ↔ name = PersonName.canonical raw ∧
      PersonName.canonical raw ≠ "" ∧ Field.minName ≤ (PersonName.canonical raw).length := by
  by_cases hsome : PersonName.canonical raw = ""
  · simp [Field.name, hsome]
  · by_cases hshort : (PersonName.canonical raw).length < Field.minName
    · simp [Field.name, hsome, hshort]
    · simp only [Field.name, if_neg hsome, if_neg hshort, Except.ok.injEq]
      exact ⟨fun h => ⟨h.symm, hsome, Nat.le_of_not_lt hshort⟩, fun h => h.1.symm⟩

/-- An address that has passed its rule may be stored. -/
theorem email_stored {raw email : String} (h : Field.email raw = .ok email) : Email.Stored email := by
  obtain ⟨rfl, -, hformat⟩ := email_eq_ok_iff.1 h
  exact ⟨Email.canonical_canonical raw, hformat⟩

/-- So may a name. -/
theorem name_stored {missing invalid : Rejection} {raw name : String}
    (h : Field.name missing invalid raw = .ok name) : PersonName.Stored name := by
  obtain ⟨rfl, -, hlength⟩ := name_eq_ok_iff.1 h
  exact ⟨PersonName.canonical_canonical raw, hlength⟩

/-! ### Whole drafts -/

variable {d : UserDraft} {fields : Fields}

/-- Every field of a checked draft has passed its rule. -/
theorem check_ok (hd : check d = .ok fields) :
    supplied Field.email d.email = .ok fields.email ∧
    supplied Field.password d.password = .ok fields.password ∧
    supplied Field.givenNames d.givenNames = .ok fields.givenNames ∧
    supplied Field.surname d.surname = .ok fields.surname := by
  obtain ⟨email, hemail, hd⟩ := Except.ok_of_bind hd
  obtain ⟨password, hpassword, hd⟩ := Except.ok_of_bind hd
  obtain ⟨givenNames, hgiven, hd⟩ := Except.ok_of_bind hd
  obtain ⟨surname, hsurname, hd⟩ := Except.ok_of_bind hd
  cases hd
  exact ⟨hemail, hpassword, hgiven, hsurname⟩

/-- The fields may be stored as they are. -/
structure Fields.Stored (fields : Fields) : Prop where
  email : ∀ email, fields.email = some email → Email.Stored email
  givenNames : ∀ name, fields.givenNames = some name → PersonName.Stored name
  surname : ∀ name, fields.surname = some name → PersonName.Stored name

/-- **The fields of a checked draft may be stored.** -/
theorem stored_of_check (hd : check d = .ok fields) : fields.Stored := by
  obtain ⟨hemail, -, hgiven, hsurname⟩ := check_ok hd
  refine ⟨fun email h => ?_, fun name h => ?_, fun name h => ?_⟩
  · obtain ⟨raw, -, hraw⟩ := supplied_eq_some (h ▸ hemail)
    exact email_stored hraw
  · obtain ⟨raw, -, hraw⟩ := supplied_eq_some (h ▸ hgiven)
    exact name_stored hraw
  · obtain ⟨raw, -, hraw⟩ := supplied_eq_some (h ▸ hsurname)
    exact name_stored hraw

/-- No rule speaks of addresses in use: whether one is, only the database knows. -/
theorem check_ne_userEmailExists (d : UserDraft) : check d ≠ .error .userEmailExists := by
  intro h
  rcases Except.error_of_bind h with hemail | ⟨email, -, h⟩
  · exact supplied_ne email_ne_userEmailExists _ hemail
  rcases Except.error_of_bind h with hpassword | ⟨password, -, h⟩
  · exact supplied_ne password_ne_userEmailExists _ hpassword
  rcases Except.error_of_bind h with hgiven | ⟨givenNames, -, h⟩
  · exact supplied_ne (name_ne_userEmailExists (by decide) (by decide)) _ hgiven
  rcases Except.error_of_bind h with hsurname | ⟨surname, -, h⟩
  · exact supplied_ne (name_ne_userEmailExists (by decide) (by decide)) _ hsurname
  · cases h

/-- The address of a checked draft is the canonical form of what was typed. -/
theorem email_of_check (hd : check d = .ok fields) {email : String} (hemail : fields.email = some email) :
    ∃ raw, d.email = some raw ∧ Field.email raw = .ok email :=
  supplied_eq_some (hemail ▸ (check_ok hd).1)

/-- A checked draft has a password only if one was typed. -/
theorem password_of_check (hd : check d = .ok fields) (h : fields.password.isSome = true) :
    d.password.isSome = true := by
  obtain ⟨password, hpassword⟩ := Option.isSome_iff_exists.1 h
  obtain ⟨raw, hraw, -⟩ := supplied_eq_some (hpassword ▸ (check_ok hd).2.1)
  rw [hraw]
  rfl

/-- A password that passes is not empty. -/
theorem password_ne_empty (hd : check d = .ok fields) {password : String}
    (h : d.password = some password) : password ≠ "" := by
  have hpassword := (check_ok hd).2.1
  rw [h, supplied] at hpassword
  cases hraw : Field.password password with
  | error r =>
    rw [hraw] at hpassword
    cases hpassword
  | ok value => exact (password_eq_ok_iff.1 hraw).2.1

/-- The stored forms of the fields of a draft. -/
def storedForms (d : UserDraft) : Fields where
  email := d.email.map Email.canonical
  password := d.password
  givenNames := d.givenNames.map PersonName.canonical
  surname := d.surname.map PersonName.canonical

/-- A field that is supplied and passes its rule is put into the form that the rule gives. -/
theorem supplied_eq_map {rule : String → Except Rejection String} {form : String → String}
    (hrule : ∀ raw value, rule raw = .ok value → value = form raw) {field value : Option String}
    (h : supplied rule field = .ok value) : value = field.map form := by
  cases value with
  | none =>
    cases field with
    | none => rfl
    | some raw =>
      rw [supplied] at h
      cases hraw : rule raw <;> rw [hraw] at h <;> cases h
  | some value =>
    obtain ⟨raw, rfl, hraw⟩ := supplied_eq_some h
    rw [hrule raw value hraw]
    rfl

/-- **What a check gives** are the stored forms of what was typed. -/
theorem fields_of_check (hd : check d = .ok fields) : fields = storedForms d := by
  obtain ⟨hemail, hpassword, hgiven, hsurname⟩ := check_ok hd
  obtain ⟨email, password, givenNames, surname⟩ := fields
  obtain rfl := supplied_eq_map (fun _ _ h => (email_eq_ok_iff.1 h).1) hemail
  obtain rfl := supplied_eq_map (fun _ _ h => (name_eq_ok_iff.1 h).1) hgiven
  obtain rfl := supplied_eq_map (fun _ _ h => (name_eq_ok_iff.1 h).1) hsurname
  -- a password is kept as it was typed
  have hsame : password = d.password.map id :=
    supplied_eq_map (fun _ _ h => (password_eq_ok_iff.1 h).1) hpassword
  rw [Option.map_id_fun, id] at hsame
  rw [hsame]
  rfl

/-! ### Faults -/

/-- A field that is supplied obeys its rule. -/
def Obeys (rule : String → Except Rejection String) (field : Option String) : Prop :=
  ∀ raw, field = some raw → ∃ value, rule raw = .ok value

/-- A field is supplied and breaks its rule, which says so. -/
def Breaks (rule : String → Except Rejection String) (field : Option String) (r : Rejection) : Prop :=
  ∃ raw, field = some raw ∧ rule raw = .error r

/-- Of the fields of a draft that break their rules, the first breaks its rule in this way. -/
inductive FirstFault (d : UserDraft) (r : Rejection) : Prop where
  | email (fault : Breaks Field.email d.email r)
  | password (email : Obeys Field.email d.email) (fault : Breaks Field.password d.password r)
  | givenNames (email : Obeys Field.email d.email) (password : Obeys Field.password d.password)
      (fault : Breaks Field.givenNames d.givenNames r)
  | surname (email : Obeys Field.email d.email) (password : Obeys Field.password d.password)
      (givenNames : Obeys Field.givenNames d.givenNames) (fault : Breaks Field.surname d.surname r)

section Rule

variable {rule : String → Except Rejection String} {field : Option String} {r : Rejection}

theorem supplied_eq_error_iff : supplied rule field = .error r ↔ Breaks rule field r := by
  rw [Breaks]
  cases field with
  | none => exact ⟨(fun h => nomatch h), (fun ⟨_, h, _⟩ => nomatch h)⟩
  | some raw =>
    simp only [supplied, Option.some.injEq, exists_eq_left']
    cases rule raw <;> simp [Except.map]

theorem obeys_of_supplied {value : Option String} (h : supplied rule field = .ok value) :
    Obeys rule field := by
  rintro raw rfl
  cases hraw : rule raw with
  | error r =>
    rw [supplied, hraw] at h
    cases h
  | ok value => exact ⟨value, rfl⟩

theorem Obeys.supplied_eq_ok (h : Obeys rule field) : ∃ value, supplied rule field = .ok value := by
  cases hfield : supplied rule field with
  | ok value => exact ⟨value, rfl⟩
  | error r =>
    obtain ⟨raw, hraw, hfault⟩ := supplied_eq_error_iff.1 hfield
    obtain ⟨value, hvalue⟩ := h raw hraw
    rw [hfault] at hvalue
    cases hvalue

end Rule

/-- **What a check fails with** is the fault of the first field that breaks its rule. -/
theorem check_eq_error_iff {r : Rejection} : check d = .error r ↔ FirstFault d r := by
  constructor
  · intro h
    rcases Except.error_of_bind h with hfault | ⟨email, hemail, h⟩
    · exact .email (supplied_eq_error_iff.1 hfault)
    have memail := obeys_of_supplied hemail
    rcases Except.error_of_bind h with hfault | ⟨password, hpassword, h⟩
    · exact .password memail (supplied_eq_error_iff.1 hfault)
    have mpassword := obeys_of_supplied hpassword
    rcases Except.error_of_bind h with hfault | ⟨givenNames, hgiven, h⟩
    · exact .givenNames memail mpassword (supplied_eq_error_iff.1 hfault)
    have mgiven := obeys_of_supplied hgiven
    rcases Except.error_of_bind h with hfault | ⟨surname, -, h⟩
    · exact .surname memail mpassword mgiven (supplied_eq_error_iff.1 hfault)
    · cases h
  · intro h
    unfold check
    cases h with
    | email fault => rw [supplied_eq_error_iff.2 fault]; rfl
    | password email fault =>
      obtain ⟨_, hemail⟩ := email.supplied_eq_ok
      rw [hemail, supplied_eq_error_iff.2 fault]
      rfl
    | givenNames email password fault =>
      obtain ⟨_, hemail⟩ := email.supplied_eq_ok
      obtain ⟨_, hpassword⟩ := password.supplied_eq_ok
      rw [hemail, hpassword, supplied_eq_error_iff.2 fault]
      rfl
    | surname email password givenNames fault =>
      obtain ⟨_, hemail⟩ := email.supplied_eq_ok
      obtain ⟨_, hpassword⟩ := password.supplied_eq_ok
      obtain ⟨_, hgiven⟩ := givenNames.supplied_eq_ok
      rw [hemail, hpassword, hgiven, supplied_eq_error_iff.2 fault]
      rfl

/-- A draft without a fault is checked. -/
theorem check_of_no_fault (h : ∀ r, ¬ FirstFault d r) : check d = .ok (storedForms d) := by
  cases hd : check d with
  | error r => exact absurd (check_eq_error_iff.1 hd) (h r)
  | ok fields => rw [fields_of_check hd]

/-- A draft with nothing but an address, as it was typed. -/
def addressDraft : UserDraft := ⟨some " Ann@Example.com ", none, none, none⟩

theorem check_addressDraft :
    check addressDraft = .ok ⟨some "ann@example.com", none, none, none⟩ := by
  have hemail : Field.email " Ann@Example.com " = .ok "ann@example.com" := by
    have hcanonical : Email.canonical " Ann@Example.com " = "ann@example.com" := by decide +kernel
    have hformat : Email.isFormat "ann@example.com" = true := by decide +kernel
    rw [Field.email, hcanonical]
    simp only [hformat, if_true]
    rfl
  rw [check, addressDraft]
  show (do let email ← (Field.email " Ann@Example.com ").map some; _) = _
  rw [hemail]
  rfl

end Turnstile.Accounts
