import Mathlib.Logic.Function.Basic
import Turnstile.Proofs.Settings.Variables

namespace Turnstile

/-!
# What the service is started with

The settings that variables describe, and the fault of the first variable that describes none.

* `Settings.load_congr`: nothing is looked at but the values of eight variables, and those that are blank
  count as unset.
* `Settings.Describes` is "these are the settings that the variables describe", and `Settings.load_eq_ok_iff`
  says that these are loaded. `Settings.Describes.repadded`: blanks around the values do not matter.
* `Settings.Fits` says of each variable that can be at fault whether it is not, and `Settings.FirstFault`
  what is reported of the first one that is. `Settings.load_eq_error_iff`: this is what loading fails
  with.
* `load_exact` is the whole.
-/

namespace Settings

open Text

variable {vars vars' : Lookup} {s : Settings} {f : SettingsFault}

/-! ### What is looked at -/

/-- The variables. -/
def keys : List String :=
  ["DATABASE_URL", "DATABASE_MAX_CONNECTIONS", "TRANSACTION_TIMEOUT_SECS", "RUN_MIGRATIONS", "ENV",
    "SLACK_WEBHOOK_EVENTS", "SLACK_WEBHOOK_ERRORS", "LOG_FORMAT"]

/-- **Nothing else is looked at**, and of a blank value only that it is blank. -/
theorem load_congr (h : ∀ key ∈ keys, value? vars key = value? vars' key) : load vars = load vars' := by
  simp only [keys, List.forall_mem_cons, List.not_mem_nil, false_implies, implies_true, and_true] at h
  obtain ⟨hurl, hconnections, htimeout, hmigrations, henvironment, hevents, herrors, hformat⟩ := h
  simp only [load, timeoutSeconds, number, flag, environmentOf, logFormatOf, hurl, hconnections, htimeout,
    hmigrations, henvironment, hevents, herrors, hformat]

/-- A blank value counts as none. -/
theorem load_update_of_blank {key raw : String} (hblank : Blank raw) :
    load (Function.update vars key (some raw)) = load (Function.update vars key none) := by
  refine load_congr fun k _ => ?_
  by_cases hk : k = key
  · subst hk
    have hset : Unset (Function.update vars k (some raw)) k := by
      intro raw' hraw'
      rw [Function.update_self] at hraw'
      exact Option.some.inj hraw' ▸ hblank
    have hnone : Unset (Function.update vars k none) k := by
      intro raw' hraw'
      rw [Function.update_self] at hraw'
      cases hraw'
    rw [value?_eq_none_iff.2 hset, value?_eq_none_iff.2 hnone]
  · simp only [value?, Function.update_of_ne hk]

/-! ### Step by step -/

/-- The address of the database, without which there is no service. -/
def databaseUrlOf (vars : Lookup) : Except SettingsFault String :=
  match value? vars "DATABASE_URL" with
  | some url => .ok url
  | none => .error (.missing "DATABASE_URL")

/-- The settings that are made of what was read. -/
def assemble (vars : Lookup) (databaseUrl : String) (maxConnections seconds : Nat) (runMigrations : Bool)
    (environment : Environment) : Settings where
  databaseUrl := databaseUrl
  maxConnections := maxConnections
  transactionTimeout := .ofSeconds seconds
  runMigrations := runMigrations
  environment := environment
  webhooks :=
    { events := value? vars "SLACK_WEBHOOK_EVENTS"
      errors := value? vars "SLACK_WEBHOOK_ERRORS"
      enabled := !environment.isDevelopment }
  logFormat := logFormatOf vars

theorem load_eq (vars : Lookup) : load vars = (do
    let databaseUrl ← databaseUrlOf vars
    let maxConnections ← number vars "DATABASE_MAX_CONNECTIONS" connectionLimit 20
    let seconds ← timeoutSeconds vars
    let runMigrations ← flag vars "RUN_MIGRATIONS" true
    let environment ← environmentOf vars
    return assemble vars databaseUrl maxConnections seconds runMigrations environment) := by
  unfold load databaseUrlOf
  cases value? vars "DATABASE_URL" <;> rfl

theorem databaseUrlOf_eq_ok_iff {url : String} :
    databaseUrlOf vars = .ok url ↔ vars "DATABASE_URL" = some url ∧ ¬ Blank url := by
  rw [← value?_eq_some_iff, databaseUrlOf]
  cases value? vars "DATABASE_URL" <;> simp

theorem databaseUrlOf_eq_error_iff :
    databaseUrlOf vars = .error f ↔ Unset vars "DATABASE_URL" ∧ f = .missing "DATABASE_URL" := by
  rw [← value?_eq_none_iff, databaseUrlOf]
  cases value? vars "DATABASE_URL" <;> simp [eq_comm]

/-- The fault of a transaction that is given no time. -/
def noTime : SettingsFault := .invalid "TRANSACTION_TIMEOUT_SECS" "0" "must be greater than zero"

/-- What is read as the timeout. -/
abbrev ReadsTimeout (vars : Lookup) (seconds : Nat) : Prop :=
  Reads vars "TRANSACTION_TIMEOUT_SECS" 30 (SpellsNumber timeoutLimit) seconds

theorem number_eq_ok_iff {key : String} {limit default n : Nat} :
    number vars key limit default = .ok n ↔ Reads vars key default (SpellsNumber limit) n := by
  rw [number_eq, setting_eq_ok_iff (numberRule_follows limit)]

theorem timeoutSeconds_eq_ok_iff {seconds : Nat} :
    timeoutSeconds vars = .ok seconds ↔ ReadsTimeout vars seconds ∧ seconds ≠ 0 := by
  rw [ReadsTimeout, ← number_eq_ok_iff]
  constructor
  · intro h
    obtain ⟨n, hn, h⟩ := Except.ok_of_bind h
    by_cases hzero : n = 0
    · rw [if_pos hzero] at h
      cases h
    · rw [if_neg hzero] at h
      cases h
      exact ⟨hn, hzero⟩
  · rintro ⟨hn, hzero⟩
    rw [timeoutSeconds, hn]
    show (if seconds = 0 then _ else _) = _
    rw [if_neg hzero]
    rfl

theorem timeoutSeconds_eq_error_iff : timeoutSeconds vars = .error f ↔
    Refused vars "TRANSACTION_TIMEOUT_SECS" (numberRule timeoutLimit) f ∨
      ReadsTimeout vars 0 ∧ f = noTime := by
  rw [ReadsTimeout, ← number_eq_ok_iff, ← setting_eq_error_iff, ← number_eq]
  constructor
  · intro h
    rcases Except.error_of_bind h with h | ⟨n, hn, h⟩
    · exact .inl h
    · by_cases hzero : n = 0
      · rw [if_pos hzero] at h
        cases h
        rw [hzero] at hn
        exact .inr ⟨hn, by rw [hzero]; rfl⟩
      · rw [if_neg hzero] at h
        cases h
  · rintro (h | ⟨hn, rfl⟩)
    · rw [timeoutSeconds, h]
      rfl
    · rw [timeoutSeconds, hn]
      rfl

theorem logFormatOf_eq_json_iff :
    logFormatOf vars = .json ↔ ∃ raw, vars "LOG_FORMAT" = some raw ∧ SameLetters (trim raw) "json" := by
  have hjson (raw : String) : (trim raw).toLower = "json" ↔ SameLetters (trim raw) "json" := by
    rw [← toLower_eq_toLower_iff, show "json".toLower = "json" by decide +kernel]
  rw [logFormatOf]
  cases hvalue : value? vars "LOG_FORMAT" with
  | none =>
    refine iff_of_false (fun h => nomatch h) ?_
    rintro ⟨raw, hset, hsame⟩
    rw [trim_eq_empty_iff.2 (value?_eq_none_iff.1 hvalue raw hset), SameLetters] at hsame
    exact absurd hsame (by decide)
  | some raw =>
    obtain ⟨hset, -⟩ := value?_eq_some_iff.1 hvalue
    simp only [hset, Option.some.injEq, exists_eq_left', ← hjson]
    split <;> simp_all

/-! ### The settings -/

/-- These are the settings that the variables describe. -/
structure Describes (vars : Lookup) (s : Settings) : Prop where
  databaseUrl : vars "DATABASE_URL" = some s.databaseUrl ∧ ¬ Blank s.databaseUrl
  maxConnections : Reads vars "DATABASE_MAX_CONNECTIONS" 20 (SpellsNumber connectionLimit) s.maxConnections
  timeout : ∃ seconds, ReadsTimeout vars seconds ∧ seconds ≠ 0 ∧ s.transactionTimeout = .ofSeconds seconds
  runMigrations : Reads vars "RUN_MIGRATIONS" true (SpellsWord flagWords) s.runMigrations
  environment : Reads vars "ENV" .development (SpellsWord environmentWords) s.environment
  /-- Webhooks are taken as they are, unless they are blank. -/
  events : ∀ url, s.webhooks.events = some url ↔ vars "SLACK_WEBHOOK_EVENTS" = some url ∧ ¬ Blank url
  errors : ∀ url, s.webhooks.errors = some url ↔ vars "SLACK_WEBHOOK_ERRORS" = some url ∧ ¬ Blank url
  enabled : s.webhooks.enabled = true ↔ s.environment ≠ .development
  logFormat : s.logFormat = .json ↔ ∃ raw, vars "LOG_FORMAT" = some raw ∧ SameLetters (trim raw) "json"

theorem isDevelopment_eq_false_iff {e : Environment} : (!e.isDevelopment) = true ↔ e ≠ .development := by
  cases e <;> decide

/-- What was read is assembled to the settings that the variables describe, -/
theorem describes_assemble {url : String} {connections seconds : Nat} {migrations : Bool} {e : Environment}
    (hurl : databaseUrlOf vars = .ok url)
    (hconnections : number vars "DATABASE_MAX_CONNECTIONS" connectionLimit 20 = .ok connections)
    (hseconds : timeoutSeconds vars = .ok seconds)
    (hmigrations : flag vars "RUN_MIGRATIONS" true = .ok migrations)
    (he : environmentOf vars = .ok e) :
    Describes vars (assemble vars url connections seconds migrations e) where
  databaseUrl := databaseUrlOf_eq_ok_iff.1 hurl
  maxConnections := number_eq_ok_iff.1 hconnections
  timeout := by
    obtain ⟨hreads, hsome⟩ := timeoutSeconds_eq_ok_iff.1 hseconds
    exact ⟨seconds, hreads, hsome, rfl⟩
  runMigrations := by
    rwa [flag_eq, setting_eq_ok_iff flagRule_follows] at hmigrations
  environment := by
    rwa [environmentOf_eq, setting_eq_ok_iff environmentRule_follows] at he
  events := fun _ => value?_eq_some_iff
  errors := fun _ => value?_eq_some_iff
  enabled := isDevelopment_eq_false_iff
  logFormat := logFormatOf_eq_json_iff

/-- and there are no other settings that they describe. -/
theorem Describes.eq_assemble (h : Describes vars s) : ∃ seconds, timeoutSeconds vars = .ok seconds ∧
    s = assemble vars s.databaseUrl s.maxConnections seconds s.runMigrations s.environment := by
  obtain ⟨url, connections, timeout, migrations, environment, ⟨events, errors, enabled⟩, format⟩ := s
  obtain ⟨seconds, hreads, hsome, rfl⟩ := h.timeout
  refine ⟨seconds, timeoutSeconds_eq_ok_iff.2 ⟨hreads, hsome⟩, ?_⟩
  have hevents : events = value? vars "SLACK_WEBHOOK_EVENTS" :=
    Option.ext fun url => (h.events url).trans value?_eq_some_iff.symm
  have herrors : errors = value? vars "SLACK_WEBHOOK_ERRORS" :=
    Option.ext fun url => (h.errors url).trans value?_eq_some_iff.symm
  have henabled : enabled = !environment.isDevelopment :=
    Bool.eq_iff_iff.2 (h.enabled.trans isDevelopment_eq_false_iff.symm)
  have hformat : format = logFormatOf vars := by
    have hjson : format = .json ↔ logFormatOf vars = .json := h.logFormat.trans logFormatOf_eq_json_iff.symm
    revert hjson
    cases format <;> cases logFormatOf vars <;> simp
  rw [hevents, herrors, henabled, hformat]
  rfl

/-- **The settings that are loaded** are those that the variables describe. -/
theorem load_eq_ok_iff : load vars = .ok s ↔ Describes vars s := by
  rw [load_eq]
  constructor
  · intro h
    obtain ⟨url, hurl, h⟩ := Except.ok_of_bind h
    obtain ⟨connections, hconnections, h⟩ := Except.ok_of_bind h
    obtain ⟨seconds, hseconds, h⟩ := Except.ok_of_bind h
    obtain ⟨migrations, hmigrations, h⟩ := Except.ok_of_bind h
    obtain ⟨e, he, h⟩ := Except.ok_of_bind h
    cases h
    exact describes_assemble hurl hconnections hseconds hmigrations he
  · intro h
    obtain ⟨seconds, hseconds, hs⟩ := h.eq_assemble
    have hmigrations : flag vars "RUN_MIGRATIONS" true = .ok s.runMigrations := by
      rw [flag_eq, setting_eq_ok_iff flagRule_follows]
      exact h.runMigrations
    have he : environmentOf vars = .ok s.environment := by
      rw [environmentOf_eq, setting_eq_ok_iff environmentRule_follows]
      exact h.environment
    rw [databaseUrlOf_eq_ok_iff.2 h.databaseUrl, number_eq_ok_iff.2 h.maxConnections, hseconds,
      hmigrations, he]
    exact congrArg Except.ok hs.symm

/-! ### Blanks around the values -/

/-- The variables whose values may have blanks around them. -/
def padded : List String :=
  ["DATABASE_MAX_CONNECTIONS", "TRANSACTION_TIMEOUT_SECS", "RUN_MIGRATIONS", "ENV", "LOG_FORMAT"]

/-- The variables have the same values but for blanks around those that may have them. -/
def Repadded (vars vars' : Lookup) : Prop :=
  ∀ key, vars' key = vars key ∨
    key ∈ padded ∧ ∃ raw raw', vars key = some raw ∧ vars' key = some raw' ∧ SameInside raw raw'

theorem SameInside.symm {raw raw' : String} (h : SameInside raw raw') : SameInside raw' raw := by
  obtain ⟨core, front, back, front', back', hfront, hback, hfront', hback', hraw, hraw'⟩ := h
  exact ⟨core, front', back', front, back, hfront', hback', hfront, hback, hraw', hraw⟩

theorem Repadded.value?_eq (h : Repadded vars vars') {key : String} (hkey : key ∉ padded) :
    vars' key = vars key := (h key).resolve_right fun hpadded => hkey hpadded.1

/-- Such a variable is read as before. -/
theorem Repadded.reads (h : Repadded vars vars') {α : Type} {key : String} {default a : α}
    {spells : String → α → Prop}
    (hspells : ∀ {raw raw'}, SameInside raw raw' → (spells raw a ↔ spells raw' a))
    (hreads : Reads vars key default spells a) : Reads vars' key default spells a := by
  rcases h key with heq | ⟨-, raw, raw', hset, hset', hsame⟩
  · simpa only [Reads, Unset, heq] using hreads
  · rcases hreads with ⟨hunset, ha⟩ | ⟨raw'', hset'', hmeans⟩
    · refine .inl ⟨fun raw'' hraw'' => ?_, ha⟩
      obtain rfl : raw' = raw'' := Option.some.inj (hset'.symm.trans hraw'')
      exact hsame.blank_iff.1 (hunset raw hset)
    · obtain rfl : raw = raw'' := Option.some.inj (hset.symm.trans hset'')
      exact .inr ⟨raw', hset', (hspells hsame).1 hmeans⟩

theorem Repadded.symm (h : Repadded vars vars') : Repadded vars' vars := by
  intro key
  rcases h key with heq | ⟨hkey, raw, raw', hset, hset', hsame⟩
  · exact .inl heq.symm
  · exact .inr ⟨hkey, raw', raw, hset', hset, hsame.symm⟩

/-- The log is written in the same format. -/
theorem Repadded.logFormat (h : Repadded vars vars')
    (hjson : ∃ raw, vars "LOG_FORMAT" = some raw ∧ SameLetters (trim raw) "json") :
    ∃ raw, vars' "LOG_FORMAT" = some raw ∧ SameLetters (trim raw) "json" := by
  rcases h "LOG_FORMAT" with heq | ⟨-, raw, raw', hset, hset', hsame⟩
  · rwa [heq]
  · obtain ⟨raw'', hset'', hletters⟩ := hjson
    obtain rfl : raw = raw'' := Option.some.inj (hset.symm.trans hset'')
    exact ⟨raw', hset', hsame.trim_eq ▸ hletters⟩

/-- **Blanks around the values do not matter** to the settings that are described. -/
theorem Describes.repadded (h : Repadded vars vars') (describes : Describes vars s) : Describes vars' s where
  databaseUrl := by
    rw [h.value?_eq (by decide)]
    exact describes.databaseUrl
  maxConnections := h.reads (fun hsame => spellsNumber_iff hsame) describes.maxConnections
  timeout := by
    obtain ⟨seconds, hreads, hsome⟩ := describes.timeout
    exact ⟨seconds, h.reads (fun hsame => spellsNumber_iff hsame) hreads, hsome⟩
  runMigrations := h.reads (fun hsame => spellsWord_iff hsame) describes.runMigrations
  environment := h.reads (fun hsame => spellsWord_iff hsame) describes.environment
  events := by
    rw [h.value?_eq (by decide)]
    exact describes.events
  errors := by
    rw [h.value?_eq (by decide)]
    exact describes.errors
  enabled := describes.enabled
  logFormat := describes.logFormat.trans ⟨h.logFormat, h.symm.logFormat⟩

/-! ### Faults -/

/-- The variables that can be at fault. -/
inductive Checked where
  | databaseUrl
  | maxConnections
  | timeout
  | runMigrations
  | environment
  deriving DecidableEq

namespace Checked

/-- The name of the variable. -/
def key : Checked → String
  | databaseUrl => "DATABASE_URL"
  | maxConnections => "DATABASE_MAX_CONNECTIONS"
  | timeout => "TRANSACTION_TIMEOUT_SECS"
  | runMigrations => "RUN_MIGRATIONS"
  | environment => "ENV"

/-- The variables in the order in which faults count. -/
def order : List Checked := [databaseUrl, maxConnections, timeout, runMigrations, environment]

/-- The variables whose faults count before those of this one. -/
def earlier (v : Checked) : List Checked := order.takeWhile (· ≠ v)

/-- The text does not mean what the variable is for; this is the reason. -/
def Refuses : Checked → String → String → Prop
  | databaseUrl, _, _ => False
  | maxConnections, raw, reason => numberRule connectionLimit raw = .error reason
  | timeout, raw, reason => numberRule timeoutLimit raw = .error reason
  | runMigrations, raw, reason => flagRule raw = .error reason
  | environment, raw, reason => environmentRule raw = .error reason

/-- What comes of a variable by itself. -/
def outcome (vars : Lookup) : Checked → Except SettingsFault Unit
  | databaseUrl => (databaseUrlOf vars).map fun _ => ()
  | maxConnections => (number vars "DATABASE_MAX_CONNECTIONS" connectionLimit 20).map fun _ => ()
  | timeout => (timeoutSeconds vars).map fun _ => ()
  | runMigrations => (flag vars "RUN_MIGRATIONS" true).map fun _ => ()
  | environment => (environmentOf vars).map fun _ => ()

end Checked

/-- The variable is unset, or its text means something. -/
def Readable {α : Type} (vars : Lookup) (key : String) (spells : String → α → Prop) : Prop :=
  Unset vars key ∨ ∃ raw a, vars key = some raw ∧ spells raw a

/-- The variable is not at fault. Only the address of the database must be set, and no transaction may be
    left without time. -/
def Fits (vars : Lookup) : Checked → Prop
  | .databaseUrl => ¬ Unset vars "DATABASE_URL"
  | .maxConnections => Readable vars "DATABASE_MAX_CONNECTIONS" (SpellsNumber connectionLimit)
  | .timeout => Readable vars "TRANSACTION_TIMEOUT_SECS" fun raw seconds =>
      SpellsNumber timeoutLimit raw seconds ∧ seconds ≠ 0
  | .runMigrations => Readable vars "RUN_MIGRATIONS" (SpellsWord flagWords)
  | .environment => Readable vars "ENV" (SpellsWord environmentWords)

/-- What is reported of a variable at fault. -/
inductive Reports (vars : Lookup) : Checked → SettingsFault → Prop where
  /-- There is no address of a database. -/
  | missing (unset : Unset vars "DATABASE_URL") : Reports vars .databaseUrl (.missing "DATABASE_URL")
  /-- The text is reported as it is. -/
  | refused {v : Checked} {raw reason : String} (set : vars v.key = some raw) (some : ¬ Blank raw)
      (refuses : v.Refuses raw reason) : Reports vars v (.invalid v.key raw reason)
  /-- A timeout of zero is reported as a zero, however it is written. -/
  | noTime {raw : String} (set : vars "TRANSACTION_TIMEOUT_SECS" = some raw)
      (zero : SpellsNumber timeoutLimit raw 0) : Reports vars .timeout noTime

/-- The first variable at fault, and what is reported of it. -/
structure FirstFault (vars : Lookup) (v : Checked) (f : SettingsFault) : Prop where
  faulty : ¬ Fits vars v
  first : ∀ w ∈ v.earlier, Fits vars w
  reports : Reports vars v f

theorem readable_iff {α : Type} {key : String} {default : α} {spells : String → α → Prop} :
    Readable vars key spells ↔ ∃ a, Reads vars key default spells a := by
  constructor
  · rintro (hunset | ⟨raw, a, hset, hspells⟩)
    · exact ⟨default, .inl ⟨hunset, rfl⟩⟩
    · exact ⟨a, .inr ⟨raw, hset, hspells⟩⟩
  · rintro ⟨a, ⟨hunset, -⟩ | ⟨raw, hset, hspells⟩⟩
    · exact .inl hunset
    · exact .inr ⟨raw, a, hset, hspells⟩

/-- A variable is not at fault exactly if it comes out well. -/
theorem fits_iff {v : Checked} : Fits vars v ↔ v.outcome vars = .ok () := by
  cases v with
  | databaseUrl =>
    have hset : ¬ Unset vars "DATABASE_URL" ↔ ∃ url, databaseUrlOf vars = .ok url := by
      simp only [databaseUrlOf_eq_ok_iff, Unset, not_forall, exists_prop]
    exact hset.trans Except.map_unit_eq_ok_iff.symm
  | maxConnections =>
    simp only [Fits, Checked.outcome, Except.map_unit_eq_ok_iff, number_eq_ok_iff]
    exact readable_iff
  | timeout =>
    simp only [Fits, Checked.outcome, Except.map_unit_eq_ok_iff, timeoutSeconds_eq_ok_iff]
    constructor
    · rintro (hunset | ⟨raw, seconds, hset, hspells, hsome⟩)
      · exact ⟨30, .inl ⟨hunset, rfl⟩, by decide⟩
      · exact ⟨seconds, .inr ⟨raw, hset, hspells⟩, hsome⟩
    · rintro ⟨seconds, ⟨hunset, -⟩ | ⟨raw, hset, hspells⟩, hsome⟩
      · exact .inl hunset
      · exact .inr ⟨raw, seconds, hset, hspells, hsome⟩
  | runMigrations =>
    simp only [Fits, Checked.outcome, Except.map_unit_eq_ok_iff, flag_eq, setting_eq_ok_iff flagRule_follows]
    exact readable_iff
  | environment =>
    simp only [Fits, Checked.outcome, Except.map_unit_eq_ok_iff, environmentOf_eq,
      setting_eq_ok_iff environmentRule_follows]
    exact readable_iff

/-- The default of the timeout is not zero. -/
theorem readsTimeout_zero_iff : ReadsTimeout vars 0 ↔
    ∃ raw, vars "TRANSACTION_TIMEOUT_SECS" = some raw ∧ SpellsNumber timeoutLimit raw 0 := by
  constructor
  · rintro (⟨-, h⟩ | h)
    · cases h
    · exact h
  · exact .inr

/-- Apart from a missing address and a timeout of zero, faults are texts that are refused. -/
theorem reports_iff_refused {v : Checked} (hurl : v ≠ .databaseUrl) (htimeout : v ≠ .timeout) :
    Reports vars v f ↔ ∃ raw reason, vars v.key = some raw ∧ ¬ Blank raw ∧ v.Refuses raw reason ∧
      f = .invalid v.key raw reason := by
  constructor
  · intro h
    cases h with
    | missing => exact absurd rfl hurl
    | refused set some refuses => exact ⟨_, _, set, some, refuses, rfl⟩
    | noTime => exact absurd rfl htimeout
  · rintro ⟨raw, reason, set, some, refuses, rfl⟩
    exact .refused set some refuses

/-- What is reported of a variable is what comes of it. -/
theorem reports_iff {v : Checked} : Reports vars v f ↔ v.outcome vars = .error f := by
  cases v with
  | databaseUrl =>
    simp only [Checked.outcome, Except.map_eq_error_iff, databaseUrlOf_eq_error_iff]
    constructor
    · intro h
      cases h with
      | missing unset => exact ⟨unset, rfl⟩
      | refused _ _ refuses => exact refuses.elim
    · rintro ⟨unset, rfl⟩
      exact .missing unset
  | maxConnections =>
    simp only [Checked.outcome, Except.map_eq_error_iff, number_eq, setting_eq_error_iff]
    exact reports_iff_refused (by decide) (by decide)
  | timeout =>
    simp only [Checked.outcome, Except.map_eq_error_iff, timeoutSeconds_eq_error_iff, readsTimeout_zero_iff]
    constructor
    · intro h
      cases h with
      | refused set some refuses => exact .inl ⟨_, _, set, some, refuses, rfl⟩
      | noTime set zero => exact .inr ⟨⟨_, set, zero⟩, rfl⟩
    · rintro (⟨raw, reason, set, some, refuses, rfl⟩ | ⟨⟨raw, set, zero⟩, rfl⟩)
      · exact .refused (v := .timeout) set some refuses
      · exact .noTime set zero
  | runMigrations =>
    simp only [Checked.outcome, Except.map_eq_error_iff, flag_eq, setting_eq_error_iff]
    exact reports_iff_refused (by decide) (by decide)
  | environment =>
    simp only [Checked.outcome, Except.map_eq_error_iff, environmentOf_eq, setting_eq_error_iff]
    exact reports_iff_refused (by decide) (by decide)

theorem Checked.outcome_of_ok {v : Checked} {α : Type} {x : Except SettingsFault α} {a : α}
    (hv : v.outcome vars = x.map fun _ => ()) (hx : x = .ok a) : v.outcome vars = .ok () := by
  rw [hv, Except.map_unit_eq_ok_iff]
  exact ⟨a, hx⟩

theorem Checked.outcome_of_error {v : Checked} {α : Type} {x : Except SettingsFault α}
    (hv : v.outcome vars = x.map fun _ => ()) (hx : x = .error f) : v.outcome vars = .error f := by
  rw [hv, Except.map_eq_error_iff]
  exact hx

/-- Where settings are loaded, all variables come out well. -/
theorem outcome_of_load_ok (h : load vars = .ok s) (v : Checked) : v.outcome vars = .ok () := by
  rw [load_eq] at h
  obtain ⟨url, hurl, h⟩ := Except.ok_of_bind h
  obtain ⟨connections, hconnections, h⟩ := Except.ok_of_bind h
  obtain ⟨seconds, hseconds, h⟩ := Except.ok_of_bind h
  obtain ⟨migrations, hmigrations, h⟩ := Except.ok_of_bind h
  obtain ⟨e, he, h⟩ := Except.ok_of_bind h
  cases v with
  | databaseUrl => exact Checked.outcome_of_ok rfl hurl
  | maxConnections => exact Checked.outcome_of_ok rfl hconnections
  | timeout => exact Checked.outcome_of_ok rfl hseconds
  | runMigrations => exact Checked.outcome_of_ok rfl hmigrations
  | environment => exact Checked.outcome_of_ok rfl he

/-- Where they are not, there is a first one that does not. -/
theorem outcome_of_load_error (h : load vars = .error f) :
    ∃ v : Checked, (∀ w ∈ v.earlier, w.outcome vars = .ok ()) ∧ v.outcome vars = .error f := by
  rw [load_eq] at h
  rcases Except.error_of_bind h with hurl | ⟨url, hurl, h⟩
  · exact ⟨.databaseUrl, List.forall_mem_nil _, Checked.outcome_of_error rfl hurl⟩
  have hurl : ∀ w ∈ [Checked.databaseUrl], w.outcome vars = .ok () :=
    List.forall_mem_singleton.2 (Checked.outcome_of_ok rfl hurl)
  rcases Except.error_of_bind h with hconnections | ⟨connections, hconnections, h⟩
  · exact ⟨.maxConnections, hurl, Checked.outcome_of_error rfl hconnections⟩
  have hconnections : ∀ w ∈ [Checked.databaseUrl] ++ [.maxConnections], w.outcome vars = .ok () :=
    List.forall_mem_append.2 ⟨hurl, List.forall_mem_singleton.2 (Checked.outcome_of_ok rfl hconnections)⟩
  rcases Except.error_of_bind h with hseconds | ⟨seconds, hseconds, h⟩
  · exact ⟨.timeout, hconnections, Checked.outcome_of_error rfl hseconds⟩
  have hseconds : ∀ w ∈ [Checked.databaseUrl] ++ [.maxConnections] ++ [.timeout], w.outcome vars = .ok () :=
    List.forall_mem_append.2 ⟨hconnections, List.forall_mem_singleton.2 (Checked.outcome_of_ok rfl hseconds)⟩
  rcases Except.error_of_bind h with hmigrations | ⟨migrations, hmigrations, h⟩
  · exact ⟨.runMigrations, hseconds, Checked.outcome_of_error rfl hmigrations⟩
  rcases Except.error_of_bind h with he | ⟨e, -, h⟩
  · exact ⟨.environment, List.forall_mem_append.2
      ⟨hseconds, List.forall_mem_singleton.2 (Checked.outcome_of_ok rfl hmigrations)⟩,
      Checked.outcome_of_error rfl he⟩
  · cases h

/-- **Settings are loaded** exactly where no variable is at fault. -/
theorem exists_load_iff : (∃ s, load vars = .ok s) ↔ ∀ v, Fits vars v := by
  constructor
  · rintro ⟨s, hs⟩ v
    exact fits_iff.2 (outcome_of_load_ok hs v)
  · intro h
    cases hload : load vars with
    | ok s => exact ⟨s, rfl⟩
    | error f =>
      obtain ⟨v, -, hv⟩ := outcome_of_load_error hload
      rw [fits_iff.1 (h v)] at hv
      cases hv

/-- Of two variables one comes first. -/
theorem Checked.earlier_or (v w : Checked) : v = w ∨ v ∈ w.earlier ∨ w ∈ v.earlier := by
  cases v <;> cases w <;> decide

/-- There is one first fault at most. -/
theorem FirstFault.unique {v w : Checked} {g : SettingsFault} (hf : FirstFault vars v f)
    (hg : FirstFault vars w g) : f = g := by
  rcases v.earlier_or w with rfl | hv | hw
  · have hboth := (reports_iff.1 hf.reports).symm.trans (reports_iff.1 hg.reports)
    exact Except.error.inj hboth
  · exact absurd (hg.first v hv) hf.faulty
  · exact absurd (hf.first w hw) hg.faulty

/-- What is reported of a variable is its fault. -/
theorem Reports.not_fits {v : Checked} (h : Reports vars v f) : ¬ Fits vars v := by
  intro hfits
  have hboth := (fits_iff.1 hfits).symm.trans (reports_iff.1 h)
  cases hboth

theorem exists_firstFault (h : load vars = .error f) : ∃ v, FirstFault vars v f := by
  obtain ⟨v, hearlier, hv⟩ := outcome_of_load_error h
  have reports : Reports vars v f := reports_iff.2 hv
  exact ⟨v, reports.not_fits, fun w hw => fits_iff.2 (hearlier w hw), reports⟩

/-- **Loading fails** with what is reported of the first variable at fault. -/
theorem load_eq_error_iff : load vars = .error f ↔ ∃ v, FirstFault vars v f := by
  constructor
  · exact exists_firstFault
  · rintro ⟨v, first⟩
    cases hload : load vars with
    | ok s => exact absurd (exists_load_iff.1 ⟨s, hload⟩ v) first.faulty
    | error g =>
      obtain ⟨w, first'⟩ := exists_firstFault hload
      rw [first.unique first']

/-! ### What is returned -/

/-- Settings that the service can be started with. -/
structure Sound (s : Settings) : Prop where
  /-- A transaction has a second at least, -/
  timed : 1 ≤ s.transactionTimeout.seconds
  /-- operators are notified everywhere but in development, -/
  notifies : s.webhooks.enabled = true ↔ s.environment ≠ .development
  /-- and no webhook is blank. -/
  events : ∀ url, s.webhooks.events = some url → ¬ Blank url
  errors : ∀ url, s.webhooks.errors = some url → ¬ Blank url

theorem Describes.sound (h : Describes vars s) : s.Sound where
  timed := by
    obtain ⟨seconds, -, hsome, hs⟩ := h.timeout
    rw [hs]
    exact Nat.one_le_iff_ne_zero.2 hsome
  notifies := h.enabled
  events := fun url hurl => ((h.events url).1 hurl).2
  errors := fun url hurl => ((h.errors url).1 hurl).2

end Settings

/-! ### The whole -/

open Settings

/-- How settings are loaded. -/
structure LoadExact : Prop where
  /-- Nothing is looked at but the eight variables. -/
  only : ∀ vars vars' : Lookup, (∀ key ∈ keys, vars key = vars' key) → load vars = load vars'
  /-- A blank value counts as none. -/
  blank : ∀ (vars : Lookup) (key raw : String), Blank raw →
    load (Function.update vars key (some raw)) = load (Function.update vars key none)
  /-- Settings are loaded exactly where no variable is at fault; -/
  succeeds : ∀ vars, (∃ s, load vars = .ok s) ↔ ∀ v, Fits vars v
  /-- these are the settings that the variables describe, -/
  described : ∀ vars s, load vars = .ok s ↔ Describes vars s
  /-- and the service can be started with them. -/
  sound : ∀ vars s, load vars = .ok s → s.Sound
  /-- Blanks around the values do not matter to them. -/
  padded : ∀ vars vars' s, Repadded vars vars' → load vars = .ok s → load vars' = .ok s
  /-- Otherwise the first variable at fault is reported. -/
  fails : ∀ vars f, load vars = .error f ↔ ∃ v, FirstFault vars v f

/-- **Settings are loaded exactly** as the variables describe them. -/
theorem load_exact : LoadExact where
  only := by
    intro vars vars' h
    refine load_congr fun key hkey => ?_
    rw [value?, value?, h key hkey]
  blank := fun _ _ _ => load_update_of_blank
  succeeds := fun _ => exists_load_iff
  described := fun _ _ => load_eq_ok_iff
  sound := fun _ _ h => (load_eq_ok_iff.1 h).sound
  padded := fun _ _ _ repadded h => load_eq_ok_iff.2 ((load_eq_ok_iff.1 h).repadded repadded)
  fails := fun _ _ => load_eq_error_iff

/-- The variables of a service in production. -/
def productionVars : Lookup := fun key => [("DATABASE_URL", "postgres://db"), ("ENV", "prod")].lookup key

/-- The same, with blanks around a value. -/
def spacedVars : Lookup := fun key => [("DATABASE_URL", "postgres://db"), ("ENV", " prod\n")].lookup key

/-- Variables of which two are at fault. -/
def faultyVars : Lookup := fun key =>
  [("DATABASE_URL", "postgres://db"), ("TRANSACTION_TIMEOUT_SECS", " +00 "), ("ENV", "moon")].lookup key

theorem unset_of_none {vars : Lookup} {key : String} (hkey : vars key = none) : Unset vars key := by
  intro raw hraw
  rw [hkey] at hraw
  cases hraw

theorem fits_productionVars (v : Checked) : Fits productionVars v := by
  cases v with
  | databaseUrl =>
    intro hunset
    exact absurd (hunset "postgres://db" (by decide) 'p' (by decide)) (by decide)
  | maxConnections => exact .inl (unset_of_none (by decide))
  | timeout => exact .inl (unset_of_none (by decide))
  | runMigrations => exact .inl (unset_of_none (by decide))
  | environment =>
    have hprod : SpellsWord environmentWords "prod" .production := parse?_eq_some_iff.1 (by decide +kernel)
    exact .inr ⟨"prod", .production, by decide, hprod⟩

theorem repadded_spacedVars : Repadded productionVars spacedVars := by
  intro key
  by_cases hkey : key = "ENV"
  · have hnone : Blank "" := List.forall_mem_nil _
    have hspace : Blank " " := List.forall_mem_singleton.2 (by decide)
    have hnewline : Blank "\n" := List.forall_mem_singleton.2 (by decide)
    rw [hkey]
    exact .inr
      ⟨by decide, "prod", " prod\n", by decide, by decide, "prod", "", "", " ", "\n", hnone, hnone, hspace,
      hnewline, by decide, by decide⟩
  · have hfalse : (key == "ENV") = false := beq_false_of_ne hkey
    simp [productionVars, spacedVars, List.lookup_cons, hfalse]

theorem firstFault_faultyVars : FirstFault faultyVars .timeout noTime := by
  have hdigits : ∀ c ∈ ['0', '0'], Char.isDigit c = true := List.all_eq_true.1 (by decide)
  have hzero : SpellsNumber timeoutLimit " +00 " 0 :=
    ⟨⟨['0', '0'], by decide, hdigits, .inr (by decide), by decide⟩, by decide⟩
  have reports : Reports faultyVars .timeout noTime := .noTime (by decide) hzero
  refine ⟨reports.not_fits, ?_, reports⟩
  show ∀ w ∈ [Checked.databaseUrl, .maxConnections], Fits faultyVars w
  refine List.forall_mem_cons.2
    ⟨fun hunset => ?_, List.forall_mem_singleton.2 (.inl (unset_of_none (by decide)))⟩
  exact absurd (hunset "postgres://db" (by decide) 'p' (by decide)) (by decide)

/-- In production settings are loaded, also with blanks in them. Of two variables at fault the first is
    reported. -/
theorem load_exact_production : (∃ s, load spacedVars = .ok s ∧ s.environment = .production ∧ s.Sound) ∧
    load faultyVars = .error (.invalid "TRANSACTION_TIMEOUT_SECS" "0" "must be greater than zero") := by
  refine ⟨?_, (load_exact.fails _ _).2 ⟨.timeout, firstFault_faultyVars⟩⟩
  obtain ⟨s, hs⟩ := (load_exact.succeeds _).2 fits_productionVars
  refine ⟨s, load_exact.padded _ _ s repadded_spacedVars hs, ?_, load_exact.sound _ s hs⟩
  rcases ((load_exact.described _ s).1 hs).environment with ⟨hunset, -⟩ | ⟨raw, hset, hspells⟩
  · exact absurd (hunset "prod" (by decide) 'p' (by decide)) (by decide)
  · obtain rfl : "prod" = raw := Option.some.inj (hset.symm.trans (by decide)).symm
    have hprod : Environment.parse? "prod" = some .production := by decide +kernel
    exact (Option.some.inj (hprod.symm.trans (parse?_eq_some_iff.2 hspells))).symm

end Turnstile
