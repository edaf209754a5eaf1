import Mathlib.Data.List.Basic
import Turnstile.Proofs.Settings.Load
import Turnstile.Proofs.Webhook.Payload

namespace Turnstile

/-!
# Where operators are contacted

Which calls become requests, to which address, and what they come back with, read from the variables that the
service was started with.

* `Webhook.tellAll` makes one call after another, and `Webhook.exchange` lets a server answer each
  request as it likes, in view of all requests so far. `Webhook.requests_take_succ` and
  `Webhook.results_getElem?`: each call of a row does what it does alone, behind the requests of those
  before it.
* `Webhook.Reaches` is "the variables give an address for such calls, and the service is not in development".
  `Webhook.post?_eq_some_iff`: these calls become requests.
* `Webhook.Handles` says what one call does, and `contacts_exact` that every call of every row does it.
-/

namespace Webhook

open Settings (Blank Describes Lookup SpellsWord environmentWords)

/-! ### Calls in a row -/

/-- A server answers a request in view of all that were made so far, this one being the last. -/
def exchange (server : List Post → Reply) (post : Post) : StateM (List Post) Reply :=
  fun sent => (server (sent ++ [post]), sent ++ [post])

/-- Make a call. -/
def tell (server : List Post → Reply) (t : Targets) (call : Call) :
    StateM (List Post) (Except DeliveryFault Unit) :=
  deliver (exchange server) t call.notice

/-- Make calls one after another. -/
def tellAll (server : List Post → Reply) (t : Targets) (calls : List Call) :
    StateM (List Post) (List (Except DeliveryFault Unit)) := calls.mapM (tell server t)

/-- What the calls come back with. -/
def results (server : List Post → Reply) (t : Targets) (calls : List Call) :
    List (Except DeliveryFault Unit) :=
  ((tellAll server t calls).run []).1

/-- The requests that they have made. -/
def requests (server : List Post → Reply) (t : Targets) (calls : List Call) : List Post :=
  ((tellAll server t calls).run []).2

variable {server : List Post → Reply} {t : Targets} {sent : List Post} {call : Call}
    {calls front back : List Call}

theorem run_tellAll_cons : (tellAll server t (call :: calls)).run sent =
    (((tell server t call).run sent).1 :: ((tellAll server t calls).run ((tell server t call).run sent).2).1,
      ((tellAll server t calls).run ((tell server t call).run sent).2).2) := by
  rw [tellAll, List.mapM_cons]
  rfl

/-- **Calls are made one by one**: those behind others find the requests of these. -/
theorem run_tellAll_append : (tellAll server t (front ++ back)).run sent =
    (((tellAll server t front).run sent).1 ++
        ((tellAll server t back).run ((tellAll server t front).run sent).2).1,
      ((tellAll server t back).run ((tellAll server t front).run sent).2).2) := by
  rw [tellAll, List.mapM_append]
  rfl

/-- Each comes back with something. -/
theorem length_run_tellAll : ((tellAll server t calls).run sent).1.length = calls.length := by
  induction calls generalizing sent with
  | nil => rfl
  | cons call calls ih => rw [run_tellAll_cons, List.length_cons, ih, List.length_cons]

theorem length_results : (results server t calls).length = calls.length := length_run_tellAll

/-- **A call of a row** makes its request behind those of the calls before it, -/
theorem requests_take_succ {i : Nat} (hi : i < calls.length) : requests server t (calls.take (i + 1)) =
    ((tell server t calls[i]).run (requests server t (calls.take i))).2 := by
  rw [requests, List.take_succ_eq_append_getElem hi, run_tellAll_append, run_tellAll_cons]
  rfl

/-- and comes back with the answer to it. -/
theorem results_getElem? {i : Nat} (hi : i < calls.length) : (results server t calls)[i]? =
    some ((tell server t calls[i]).run (requests server t (calls.take i))).1 := by
  -- those in front of the call come back with `i` results, and what it comes back with is the next one
  have hcalls : calls = calls.take i ++ calls[i] :: calls.drop (i + 1) := by
    rw [← List.drop_eq_getElem_cons hi, List.take_append_drop]
  have hlength : ((tellAll server t (calls.take i)).run []).1.length = i := by
    rw [length_run_tellAll, List.length_take_of_le hi.le]
  have hresults : results server t calls = ((tellAll server t (calls.take i)).run []).1 ++
      ((tellAll server t (calls[i] :: calls.drop (i + 1))).run (requests server t (calls.take i))).1 := by
    conv_lhs => rw [results, hcalls, run_tellAll_append]
    rfl
  rw [hresults, List.getElem?_append_right hlength.le, hlength, Nat.sub_self, run_tellAll_cons]
  rfl

/-- One call makes the request that it is to make, if any, and comes back with the answer to it. -/
theorem run_tell : (tell server t call).run sent =
    match t.post? call.notice with
    | none => (.ok (), sent)
    | some post => ((server (sent ++ [post])).judge, sent ++ [post]) := by
  unfold tell deliver
  cases t.post? call.notice <;> rfl

/-! ### Addresses -/

/-- The variable with the address for a call. -/
def Call.key : Call → String
  | .event .. => "SLACK_WEBHOOK_EVENTS"
  | .failure .. => "SLACK_WEBHOOK_ERRORS"

/-- The variables name an environment, and not that of developers. -/
def Deployed (vars : Lookup) : Prop :=
  ∃ raw e, vars "ENV" = some raw ∧ SpellsWord environmentWords raw e ∧ e ≠ .development

/-- This is the address that the variables give for a call, and operators are told of it. -/
def Reaches (vars : Lookup) (call : Call) (url : String) : Prop :=
  vars call.key = some url ∧ ¬ Blank url ∧ Deployed vars

variable {vars : Lookup} {s : Settings}

/-- A text names one environment at most. -/
theorem environment_unique {raw : String} {e e' : Environment} (h : SpellsWord environmentWords raw e)
    (h' : SpellsWord environmentWords raw e') : e = e' := by
  rw [← Settings.parse?_eq_some_iff] at h h'
  exact Option.some.inj (h.symm.trans h')

/-- Operators are told of something exactly where the variables name another environment than that of
    developers. -/
theorem enabled_iff (describes : Describes vars s) : s.webhooks.enabled = true ↔ Deployed vars := by
  rw [describes.enabled]
  constructor
  · intro hdeployed
    -- an unset variable would mean development
    rcases describes.environment with ⟨-, hdefault⟩ | ⟨raw, hset, hspells⟩
    · exact absurd hdefault hdeployed
    · exact ⟨raw, s.environment, hset, hspells, hdeployed⟩
  · rintro ⟨raw, e, hset, hspells, hdeployed⟩
    rcases describes.environment with ⟨hunset, -⟩ | ⟨raw', hset', hspells'⟩
    · exact absurd (hunset raw hset) (Settings.environmentRule_follows.not_blank raw e hspells)
    · obtain rfl : raw = raw' := Option.some.inj (hset.symm.trans hset')
      rwa [environment_unique hspells' hspells]

theorem address_eq_some_iff (describes : Describes vars s) {url : String} :
    s.webhooks.address call.notice = some url ↔ vars call.key = some url ∧ ¬ Blank url := by
  cases call with
  | event => exact describes.events url
  | failure => exact describes.errors url

/-- **A call becomes a request** exactly where the variables give an address for it. -/
theorem post?_eq_some_iff (describes : Describes vars s) {post : Post} :
    s.webhooks.post? call.notice = some post ↔
      Reaches vars call post.url ∧ post.body = call.notice.payload := by
  rw [Targets.post?, Option.ite_none_right_eq_some, enabled_iff describes, Option.map_eq_some_iff]
  constructor
  · rintro ⟨hdeployed, url, hurl, rfl⟩
    obtain ⟨hset, hsome⟩ := (address_eq_some_iff describes).1 (Option.filter_eq_some_iff.1 hurl).1
    exact ⟨⟨hset, hsome, hdeployed⟩, rfl⟩
  · obtain ⟨url, body⟩ := post
    rintro ⟨⟨hset, hsome, hdeployed⟩, rfl⟩
    have hurl : url ≠ "" := by
      rintro rfl
      exact hsome (List.forall_mem_nil _)
    exact ⟨hdeployed, url, Option.filter_eq_some_iff.2 ⟨(address_eq_some_iff describes).2 ⟨hset, hsome⟩,
      by simpa using hurl⟩, rfl⟩

/-! ### One call -/

/-- What a call does behind the requests so far: those that there are `now`, and what it comes back with. -/
structure Handles (vars : Lookup) (server : List Post → Reply) (past : List Post) (call : Call)
    (result : Except DeliveryFault Unit) (now : List Post) : Prop where
  /-- One request is made, to the address that the variables give for the call, and only there. -/
  posted : ∀ url, Reaches vars call url ↔ ∃ body, now = past ++ [⟨url, body⟩]
  /-- It tells what the call is about. -/
  told : ∀ url body, now = past ++ [⟨url, body⟩] → Tells body call
  /-- Where there is no address nothing is done, -/
  silent : (∀ url, ¬ Reaches vars call url) ↔ now = past
  /-- and that is well. -/
  quiet : now = past → result = .ok ()
  /-- Otherwise the status of the answer decides, -/
  accepted : ∀ url status body, Reaches vars call url → server now = .answer status body →
    (result = .ok () ↔ 200 ≤ status ∧ status < 300)
  /-- and the answer is reported if it is not well. -/
  refused : ∀ url status body, Reaches vars call url → server now = .answer status body →
    ¬ (200 ≤ status ∧ status < 300) → result = .error (.refused status (body.getD ""))

theorem judge_answer_eq_ok_iff {status : Nat} {body : Option String} :
    (Reply.answer status body).judge = .ok () ↔ 200 ≤ status ∧ status < 300 := by
  rw [Reply.judge]
  split <;> simp_all

theorem judge_answer_of_not {status : Nat} {body : Option String} (h : ¬ (200 ≤ status ∧ status < 300)) :
    (Reply.answer status body).judge = .error (.refused status (body.getD "")) := if_neg h

theorem ne_append_singleton {α : Type} (xs : List α) (x : α) : xs ≠ xs ++ [x] := by
  intro h
  simpa using congrArg List.length h

/-- A call that reaches no one does nothing. -/
theorem handles_none (hnone : ∀ url, ¬ Reaches vars call url) :
    Handles vars server sent call (.ok ()) sent where
  posted := by
    intro url
    refine iff_of_false (hnone url) ?_
    rintro ⟨body, h⟩
    exact ne_append_singleton sent _ h
  told := fun _ _ h => absurd h (ne_append_singleton sent _)
  silent := iff_of_true hnone rfl
  quiet := fun _ => rfl
  accepted := fun url _ _ h => absurd h (hnone url)
  refused := fun url _ _ h => absurd h (hnone url)

/-- Any other call makes its request. -/
theorem handles_post {url : String} {body : Json} (hurl : Reaches vars call url) (htells : Tells body call) :
    Handles vars server sent call (server (sent ++ [⟨url, body⟩])).judge (sent ++ [⟨url, body⟩]) where
  posted := by
    intro url'
    constructor
    · intro hurl'
      obtain rfl : url = url' := Option.some.inj (hurl.1.symm.trans hurl'.1)
      exact ⟨body, rfl⟩
    · rintro ⟨body', h⟩
      cases List.singleton_inj.1 (List.append_cancel_left h)
      exact hurl
  told := by
    intro url' body' h
    cases List.singleton_inj.1 (List.append_cancel_left h)
    exact htells
  silent := iff_of_false (fun hnone => hnone url hurl) (ne_append_singleton sent _).symm
  quiet := fun h => absurd h.symm (ne_append_singleton sent _)
  accepted := by
    intro _ status _ _ hanswer
    rw [hanswer]
    exact judge_answer_eq_ok_iff
  refused := by
    intro _ status _ _ hanswer hstatus
    rw [hanswer]
    exact judge_answer_of_not hstatus

/-- **One call** is handled as the variables say. -/
theorem handles_tell (describes : Describes vars s) : Handles vars server sent call
    ((tell server s.webhooks call).run sent).1 ((tell server s.webhooks call).run sent).2 := by
  rw [run_tell]
  cases hpost : s.webhooks.post? call.notice with
  | none =>
    refine handles_none fun url hurl => ?_
    have hsome : s.webhooks.post? call.notice = some ⟨url, call.notice.payload⟩ :=
      (post?_eq_some_iff describes).2 ⟨hurl, rfl⟩
    rw [hpost] at hsome
    cases hsome
  | some post =>
    obtain ⟨url, body⟩ := post
    obtain ⟨hurl, rfl⟩ := (post?_eq_some_iff describes).1 hpost
    exact handles_post hurl (tells_payload call)

end Webhook

/-! ### The whole -/

open Webhook
open Settings (Blank SpellsWord environmentWords)

/-- How operators are contacted by a service that was started with the variables. -/
structure ContactsExact (vars : Settings.Lookup) (t : Targets) : Prop where
  /-- Whatever calls are made and whatever a server answers, each call comes back, -/
  answered : ∀ server calls, (results server t calls).length = calls.length
  /-- and it is handled as the variables say. -/
  handled : ∀ server calls (i : Nat) (hi : i < calls.length), ∃ result,
    (results server t calls)[i]? = some result ∧
      Handles vars server (requests server t (calls.take i)) calls[i] result
        (requests server t (calls.take (i + 1)))

/-- **Operators are contacted** exactly where the variables say. -/
theorem contacts_exact {vars : Settings.Lookup} {s : Settings} (h : Settings.load vars = .ok s) :
    ContactsExact vars s.webhooks where
  answered := fun _ _ => length_results
  handled := by
    intro server calls i hi
    refine ⟨_, results_getElem? hi, ?_⟩
    rw [requests_take_succ hi]
    exact handles_tell (Settings.load_eq_ok_iff.1 h)

/-- The variables of a service in production that is to tell of failures only. -/
def failuresOnlyVars : Settings.Lookup := fun key =>
  [("DATABASE_URL", "postgres://db"), ("ENV", " Prod\n"), ("SLACK_WEBHOOK_EVENTS", " "),
    ("SLACK_WEBHOOK_ERRORS", "https://hooks/errors")].lookup key

/-- The settings that they describe. -/
def failuresOnly : Settings where
  databaseUrl := "postgres://db"
  maxConnections := 20
  transactionTimeout := .ofSeconds 30
  runMigrations := true
  environment := .production
  webhooks := ⟨none, some "https://hooks/errors", true⟩
  logFormat := .pretty

/-- A failure with a cause that it quotes already, and an event. -/
def twoCalls : List Webhook.Call :=
  [.failure (Request.new "r" .epoch) "rolled back: gone" ["gone", "late"],
    .event (Request.new "r" .epoch) "New" "user"]

/-- The server is busy. -/
def busy (_ : List Post) : Reply := .answer 503 (some "busy")

theorem reaches_failuresOnly (request : Request) (message : String) (causes : List String) :
    Reaches failuresOnlyVars (.failure request message causes) "https://hooks/errors" := by
  have hprod : SpellsWord environmentWords " Prod\n" .production :=
    Settings.parse?_eq_some_iff.1 (by decide +kernel)
  have hsome : ¬ Blank "https://hooks/errors" := fun hblank => absurd (hblank 'h' (by decide)) (by decide)
  have hset : failuresOnlyVars "SLACK_WEBHOOK_ERRORS" = some "https://hooks/errors" := by decide
  exact ⟨hset, hsome, " Prod\n", .production, by decide, hprod, by decide⟩

theorem not_reaches_failuresOnly (request : Request) (title message url : String) :
    ¬ Reaches failuresOnlyVars (.event request title message) url := by
  rintro ⟨hset, hsome, -⟩
  obtain rfl : " " = url := Option.some.inj hset
  exact hsome (List.forall_mem_singleton.2 (by decide))

/-- Of a failure and an event the failure is posted. It tells its chain of messages, and what it comes
    back with is the refusal of the server. -/
theorem contacts_exact_failuresOnly : Settings.load failuresOnlyVars = .ok failuresOnly ∧
    (∃ body, requests busy failuresOnly.webhooks twoCalls = [⟨"https://hooks/errors", body⟩] ∧
      chain? body = some "rolled back: gone: late") ∧
    results busy failuresOnly.webhooks twoCalls = [.error (.refused 503 "busy"), .ok ()] := by
  have hload : Settings.load failuresOnlyVars = .ok failuresOnly := by decide +kernel
  have hexact := contacts_exact hload
  obtain ⟨first, hfirst, handlesFirst⟩ := hexact.handled busy twoCalls 0 (by decide)
  obtain ⟨second, hsecond, handlesSecond⟩ := hexact.handled busy twoCalls 1 (by decide)
  have hreaches := reaches_failuresOnly (Request.new "r" .epoch) "rolled back: gone" ["gone", "late"]
  have hevent := not_reaches_failuresOnly (Request.new "r" .epoch) "New" "user"
  obtain ⟨body, hone⟩ := (handlesFirst.posted _).1 hreaches
  have hboth := handlesSecond.silent.1 hevent
  obtain ⟨a, b, hpair⟩ := List.length_eq_two.1 (hexact.answered busy twoCalls)
  rw [hpair] at hfirst hsecond
  cases hfirst
  cases hsecond
  have hchain : chainText "rolled back: gone" ["gone", "late"] = "rolled back: gone: late" := by decide
  refine ⟨hload, ⟨body, hboth.trans hone, hchain ▸ (handlesFirst.told _ body hone).2⟩, ?_⟩
  have hrefused := handlesFirst.refused _ 503 (some "busy") hreaches rfl (by decide)
  rw [hpair, hrefused, handlesSecond.quiet hboth]
  rfl

end Turnstile
