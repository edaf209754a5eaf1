import Turnstile.Proofs.Transaction.Books
import Turnstile.Proofs.Service.Questions
import Turnstile.Proofs.Transaction.Conclude

namespace Turnstile

open Credential (Hasher)

/-!
# Notices to operators

Operators are told of what happens, and that is all: nothing depends on whether a notice can be delivered.

* `Program.Deaf` holds of programs that come to the same end, with the same books, however deliveries come
  out. Programs without notices are deaf (`deaf_of_asks`); the two that send one are, as they go on in the
  same way behind either answer (`announce_play`, `report_play`).
* `Books.events` are the business events that operators were told of. `Tells` is "a row was inserted and
  operators were told of it once, or neither".
* `notices_aside` says so of whole sequences of errands.
-/

/-! ### However deliveries come out -/

/-- The question is no notice. -/
def Effect.Quiet (e : Effect) : Prop := ∀ notice, e ≠ .notify notice

theorem Effect.Plain.quiet {e : Effect} (plain : e.Plain) : e.Quiet := by
  rintro notice rfl
  exact plain

/-- Only notices are answered by the notifier. -/
theorem Books.reply_eq_of_quiet {o : Outside} {b : Books} {e : Effect} (quiet : e.Quiet)
    (n n' : Notifier) : b.reply o n e = b.reply o n' e := by
  cases e with
  | notify notice => exact absurd rfl (quiet notice)
  | _ => rfl

/-- The program comes to the same end, with the same books, whatever becomes of the notices. -/
def Program.Deaf {α : Type} (p : Program α) : Prop :=
  ∀ (o : Outside) (n n' : Notifier) (b : Books), p.play o n b = p.play o n' b

namespace Program

variable {α β : Type} {p : Program α}

theorem Deaf.bind {f : α → Program β} (hp : p.Deaf) (hf : ∀ a, (f a).Deaf) : (p.bind f).Deaf := by
  intro o n n' b
  rw [play_bind, play_bind, hp o n n' b]
  exact hf _ o n n' _

theorem deaf_done (value : α) : (done value : Program α).Deaf := fun _ _ _ _ => rfl

theorem Deaf.map (f : α → β) (hp : p.Deaf) : (p.map f).Deaf := hp.bind fun _ => deaf_done _

/-- Who sends no notices is deaf. -/
theorem deaf_of_asks (asks : p.Asks Effect.Quiet) : p.Deaf := by
  intro o n n' b
  induction p generalizing b with
  | done value => rfl
  | ask e next ih =>
    rw [play, play, Books.reply_eq_of_quiet asks.1 n n']
    exact ih _ (asks.2 _) _

end Program

/-- An operation that is deaf. -/
structure Service.Deaf {α : Type} (m : Service α) : Prop where
  program : m.run.Deaf

namespace Service

variable {α β : Type} {m : Service α} {f : α → Service β}

theorem Deaf.bind (hm : m.Deaf) (hf : ∀ a, (f a).Deaf) : (m >>= f).Deaf := by
  refine ⟨Program.Deaf.bind hm.program fun result => ?_⟩
  cases result with
  | error failure => exact Program.deaf_done _
  | ok a => exact (hf a).program

theorem deaf_of_asks (asks : m.Asks Effect.Quiet) : m.Deaf :=
  ⟨Program.deaf_of_asks asks.program⟩

end Service

/-- Who goes on in the same way behind either answer to a notice has only told operators. -/
theorem Program.play_notify {α : Type} {o : Outside} {n : Notifier} {notice : Webhook.Notice}
    {next : Except Webhook.DeliveryFault Unit → Program α} {value : α}
    (same : ∀ delivery b, (next delivery).play o n b = (value, b)) (b : Books) :
    (ask (.notify notice) next).play o n b = (value, { b with told := b.told ++ [notice] }) :=
  same _ _

/-- **Telling operators of a new user** is all there is to it. -/
theorem Accounts.announce_play (o : Outside) (n : Notifier) (b : Books) (r : Request) (u : User) :
    (announce r u).run.play o n b
      = (.ok (), { b with told := b.told ++ [.event r newUserTitle (u.email.getD "")] }) := by
  refine Program.play_notify (fun delivery b => ?_) b
  cases delivery <;> rfl

/-- **Telling operators of a failure** is, too. -/
theorem Transaction.report_play (o : Outside) (n : Notifier) (b : Books) (r : Request) (f : SystemFailure) :
    (report r f).play o n b = ((), { b with told := b.told ++ [.failure r f.chain] }) := by
  simp only [report, Program.perform, Program.bind_eq, Program.ask_bind, Program.done_bind]
  rw [Program.play]
  refine Program.play_notify (fun delivery b => ?_) b
  cases delivery <;> rfl

/-! ### Operations and requests are deaf -/

theorem Accounts.announce_deaf (r : Request) (u : User) : (announce r u).Deaf :=
  ⟨fun o n n' b => by rw [announce_play, announce_play]⟩

theorem Transaction.report_deaf (r : Request) (f : SystemFailure) : (report r f).Deaf :=
  fun o n n' b => by rw [report_play, report_play]

section Deaf

variable {h : Hasher} {r : Request}

/-- **A sign-up** tells operators in the middle of its work, and does not listen. -/
theorem Accounts.create_deaf (draft : Option UserDraft) : (create h r draft).Deaf := by
  have plain (e : Effect) (he : e.Plain) : e.Quiet := he.quiet
  refine (Service.deaf_of_asks (Service.asks_orReject _ draft)).bind fun d => ?_
  refine (Service.deaf_of_asks (Service.asks_checked (check d))).bind fun fields => ?_
  refine (Service.deaf_of_asks (takeNewEmail_asks plain fields)).bind fun _ => ?_
  refine (Service.deaf_of_asks (takePassword_asks plain _ fields _)).bind fun u => ?_
  refine (Service.deaf_of_asks (Service.asks_users (fun _ => nofun))).bind fun u => ?_
  refine (Service.deaf_of_asks (log_asks plain _ _ _)).bind fun _ => ?_
  exact (announce_deaf r u).bind fun _ => Service.deaf_of_asks (Service.asks_pure u)

/-- **Every operation is deaf.** -/
theorem job_deaf (job : Job) : (job.program h r).Deaf := by
  have plain (e : Effect) (he : e.Plain) : e.Quiet := he.quiet
  cases job with
  | signUp draft =>
    exact (Accounts.create_deaf draft).bind fun _ => Service.deaf_of_asks (Service.asks_pure _)
  | _ =>
    refine Service.deaf_of_asks (job_asks plain _ ?_ ?_ ?_ ?_ ?_)
    · exact fun _ _ _ _ => nofun
    · exact fun _ => nofun
    · exact fun _ _ _ _ _ _ => nofun
    · exact fun _ _ _ => nofun
    · exact fun _ _ _ _ => nofun

namespace Transaction

theorem close_deaf (ending : Ending) (operation : Operation) : (close ending operation).Deaf := by
  refine Program.deaf_of_asks ((close_asks ending operation).mono ?_)
  rintro e ends notice rfl
  exact ends

theorem rollbackAfter_deaf (warning : String) (cause : Option SystemFailure) :
    (rollbackAfter r warning cause).Deaf := by
  refine Program.deaf_of_asks ((rollbackAfter_asks r warning cause).mono ?_)
  rintro e ends notice rfl
  exact ends

/-- **A conclusion is deaf**, whether it reports in front of the rollback or behind the commit. -/
theorem conclude_deaf {α : Type} (result : Except ServiceFailure α) : (conclude r result).Deaf := by
  rcases result with (rejection | f) | value
  · exact (rollbackAfter_deaf _ _).bind fun _ => Program.deaf_done _
  · exact (report_deaf r f).bind fun _ => (rollbackAfter_deaf _ _).bind fun _ => Program.deaf_done _
  · refine (close_deaf _ _).bind fun committed => ?_
    cases committed with
    | error f => exact (report_deaf r _).bind fun _ => Program.deaf_done _
    | ok => exact Program.deaf_done _

theorem start_deaf (timeout : Span) : (start r timeout).Deaf := by
  refine Program.deaf_of_asks ((start_asks r timeout).mono ?_)
  rintro e opening notice rfl
  exact opening

/-- **A request is deaf** if its operation is. -/
theorem run_deaf {α : Type} {operation : Program (Except ServiceFailure α)} (deaf : operation.Deaf)
    (timeout : Span) : (run r timeout operation).Deaf := by
  refine (start_deaf timeout).bind fun begun => ?_
  cases begun with
  | error f => exact Program.deaf_done _
  | ok => exact deaf.bind fun result => conclude_deaf result

/-- A probe asks for nothing else. -/
theorem probe_asks : probe.Asks (· = .backend .ping) := by
  refine Program.Asks.bind (Program.Asks.bind (Program.asks_perform rfl) fun answer => ?_) fun pinged => ?_
  · cases answer <;> exact trivial
  · cases pinged <;> exact trivial

theorem probe_deaf : probe.Deaf := by
  refine Program.deaf_of_asks (probe_asks.mono ?_)
  rintro e rfl
  exact fun _ => nofun

end Transaction

/-- **Every errand is deaf.** -/
theorem Errand.program_deaf (errand : Errand) : (errand.program h).Deaf := by
  cases errand with
  | begin r timeout => exact (Transaction.start_deaf timeout).map _
  | operation r job => exact (job_deaf job).program.map _
  | conclude place r result => exact (Transaction.conclude_deaf result).map _
  | request r timeout job => exact (Transaction.run_deaf (job_deaf job).program timeout).map _
  | healthCheck r timeout => exact (Transaction.run_deaf Transaction.probe_deaf timeout).map _

end Deaf

/-! ### Business events -/

/-- Whether operators are told of a business event, and not of a failure. -/
def Webhook.Notice.isEvent : Webhook.Notice → Bool
  | .event .. => true
  | .failure .. => false

/-- The business events that operators were told of. -/
def Books.events (b : Books) : List Webhook.Notice := b.told.filter Webhook.Notice.isEvent

/-- The question tells of no business event. -/
def Effect.Eventless (e : Effect) : Prop := ∀ r title text, e ≠ .notify (.event r title text)

/-- Nor does it change the table of users. -/
def Effect.Idle : Effect → Prop
  | .users (.create _) | .users (.save _) | .users (.delete _) | .notify (.event ..) => False
  | _ => True

theorem Effect.Plain.idle {e : Effect} (plain : e.Plain) : e.Idle := by
  cases e with
  | users call => cases call <;> exact plain
  | notify notice => exact plain.elim
  | _ => exact trivial

theorem Effect.Quiet.eventless {e : Effect} (quiet : e.Quiet) : e.Eventless := fun _ _ _ => quiet _

theorem Effect.Idle.eventless {e : Effect} (idle : e.Idle) : e.Eventless := by
  rintro r title text rfl
  exact idle

/-- Nothing new: the same users, and the same events. -/
structure Books.Alike (b b' : Books) : Prop where
  users : b'.store.users = b.store.users
  events : b'.events = b.events

/-- **A row was inserted and operators were told of it once, or neither.** What they are told is the address
    in the row, or nothing if there is none. -/
def Books.Tells (r : Request) (b b' : Books) : Prop :=
  b.Alike b' ∨ ∃ row : User, b'.store.users = b.store.users ++ [row] ∧
    b'.events = b.events ++ [.event r Accounts.newUserTitle (row.email.getD "")]

namespace Books

variable {r : Request} {o : Outside} {n : Notifier} {b b₁ b₂ : Books} {e : Effect}

theorem call_told {α : Type} (b : Books) (refusal : Except RepositoryFailure α)
    (answer : Except RepositoryFailure α × Store) : (b.call refusal answer).2.told = b.told := by
  cases refusal <;> rfl

theorem reply_events (eventless : e.Eventless) : (b.reply o n e).2.events = b.events := by
  cases e with
  | notify notice =>
    cases notice with
    | event r title text => exact absurd rfl (eventless r title text)
    | failure r chain =>
      show (b.told ++ [_]).filter _ = b.told.filter _
      rw [List.filter_append]
      exact List.append_nil _
  | users call => exact congrArg (List.filter _) (call_told _ _ _)
  | sessions call => exact congrArg (List.filter _) (call_told _ _ _)
  | begin =>
    show ((b.ask .begin).begun (o b.asked .begin)).2.events = b.events
    cases o b.asked .begin <;> rfl
  | _ => rfl

theorem reply_users (idle : e.Idle) : (b.reply o n e).2.store.users = b.store.users := by
  cases e with
  | users call =>
    -- a lookup, as the table is not changed
    show ((b.ask (.users call)).call (o b.asked (.users call)) (b.store.callUsers call)).2.store.users = _
    cases call with
    | getById id => cases o b.asked (.users (.getById id)) <;> rfl
    | getByEmail email => cases o b.asked (.users (.getByEmail email)) <;> rfl
    | _ => exact idle.elim
  | sessions call =>
    show ((b.ask (.sessions call)).call (o b.asked (.sessions call))
      (b.store.callSessions call)).2.store.users = _
    cases o b.asked (.sessions call) with
    | error f => rfl
    | ok _ => exact b.store.callSessions_users call
  | begin =>
    show ((b.ask .begin).begun (o b.asked .begin)).2.store.users = _
    cases o b.asked .begin <;> rfl
  | _ => rfl

/-- Who asks idle questions only leaves users and events alone. -/
theorem alike_of_asks {α : Type} {p : Program α} (asks : p.Asks Effect.Idle) (o : Outside) (n : Notifier)
    (b : Books) : b.Alike (p.play o n b).2 where
  users := Program.play_keeps (f := fun b => b.store.users) (fun _ _ idle => reply_users idle) asks b
  events := Program.play_keeps (fun _ _ idle => reply_events idle.eventless) asks b

/-- Inserting a user is refused, or it adds the row of the user that comes back. -/
theorem reply_create (o : Outside) (n : Notifier) (b : Books) (u : User) :
    (∃ f b', b.reply o n (.users (.create u)) = (.error f, b') ∧ b.Alike b') ∨
      ∃ v b', b.reply o n (.users (.create u)) = (.ok v, b') ∧
        b'.store.users = b.store.users ++ [Store.keptUser v] ∧ b'.events = b.events := by
  show (∃ f b', (b.ask _).call (o b.asked (.users (.create u))) (b.store.createUser (.create u) u) = _ ∧ _) ∨
    ∃ v b', (b.ask _).call (o b.asked (.users (.create u))) (b.store.createUser (.create u) u) = _ ∧ _
  cases o b.asked (.users (.create u)) with
  | error f => exact .inl ⟨f, _, rfl, rfl, rfl⟩
  | ok _ =>
    rw [Store.createUser_eq]
    by_cases taken : b.store.emailTaken u.email 0 = true
    · rw [if_pos taken]
      exact .inl ⟨_, _, rfl, rfl, rfl⟩
    · rw [if_neg taken]
      exact .inr ⟨_, _, rfl, rfl, rfl⟩

theorem Alike.trans (h : b.Alike b₁) (k : b₁.Alike b₂) : b.Alike b₂ :=
  ⟨k.users.trans h.users, k.events.trans h.events⟩

theorem Alike.tells (h : b.Alike b₁) (k : b₁.Tells r b₂) : b.Tells r b₂ := by
  rcases k with alike | ⟨row, users, events⟩
  · exact .inl (h.trans alike)
  · exact .inr ⟨row, by rw [users, h.users], by rw [events, h.events]⟩

theorem Tells.alike (h : b.Tells r b₁) (k : b₁.Alike b₂) : b.Tells r b₂ := by
  rcases h with alike | ⟨row, users, events⟩
  · exact .inl (alike.trans k)
  · exact .inr ⟨row, by rw [k.users, users], by rw [k.events, events]⟩

end Books

/-! ### Who tells of what -/

section Tells

variable {h : Hasher} {r : Request} {o : Outside} {n : Notifier}

/-- Behind idle questions, an operation goes on from books that are alike. -/
theorem Service.tells_bind {α β : Type} {m : Service α} {f : α → Service β} (asks : m.Asks Effect.Idle)
    (rest : ∀ a b, Books.Tells r b ((f a).run.play o n b).2) (b : Books) :
    b.Tells r ((m >>= f).run.play o n b).2 := by
  show b.Tells r ((m.run.bind (ExceptT.bindCont f)).play o n b).2
  have alike := Books.alike_of_asks asks.program o n b
  rw [Program.play_bind]
  generalize m.run.play o n b = result at alike ⊢
  obtain ⟨failure | a, b₁⟩ := result
  · exact .inl alike
  · exact alike.tells (rest a b₁)

/-- In front of idle questions, too. -/
theorem Program.tells_bind {α β : Type} {p : Program α} {f : α → Program β} {b : Books}
    (tells : b.Tells r (p.play o n b).2) (asks : ∀ a, (f a).Asks Effect.Idle) :
    b.Tells r ((p.bind f).play o n b).2 := by
  rw [play_bind]
  exact tells.alike (Books.alike_of_asks (asks _) o n _)

/-- Where a call on the users has failed, an operation fails. -/
theorem Service.play_users_error {β : Type} {context : String} {call : UserCall} {f : RepositoryFailure}
    {next : call.Result → Service β} {b b' : Books} (hreply : b.reply o n (.users call) = (.error f, b')) :
    (Service.users context call >>= next).run.play o n b = (.error (.repository context f), b') := by
  show (Program.ask (.users call) _).play o n b = _
  rw [Program.play, hreply]
  rfl

/-- Where it has succeeded, the operation goes on with the result. -/
theorem Service.play_users_ok {β : Type} {context : String} {call : UserCall} {result : call.Result}
    {next : call.Result → Service β} {b b' : Books} (hreply : b.reply o n (.users call) = (.ok result, b')) :
    (Service.users context call >>= next).run.play o n b = (next result).run.play o n b' := by
  show (Program.ask (.users call) _).play o n b = _
  rw [Program.play, hreply]
  rfl

/-- **A row that is inserted is told of**, by the address in it. -/
theorem Accounts.insert_tells (u : User) (b : Books) : b.Tells r ((do
    let u ← Service.users createContext (.create u)
    Service.log r .info "User created" [userField u.id]
    announce r u
    return u : Service User).run.play o n b).2 := by
  rcases Books.reply_create o n b u with ⟨f, b', hreply, alike⟩ | ⟨v, b', hreply, users, events⟩
  · rw [Service.play_users_error hreply]
    exact .inl alike
  · rw [Service.play_users_ok hreply]
    -- the entry in the log leaves no trace in the books
    show b.Tells r (((announce r v).run.bind (ExceptT.bindCont fun _ => pure v)).play o n b').2
    rw [Program.play_bind, announce_play]
    refine .inr ⟨Store.keptUser v, users, ?_⟩
    show (b'.told ++ [_]).filter _ = b.events ++ _
    rw [List.filter_append]
    exact congrArg (· ++ _) events

/-- **A sign-up tells operators of the row that it inserts**, and of nothing if it inserts none. -/
theorem Accounts.create_tells (draft : Option UserDraft) (b : Books) :
    b.Tells r ((create h r draft).run.play o n b).2 := by
  have plain (e : Effect) (he : e.Plain) : e.Idle := he.idle
  refine Service.tells_bind (Service.asks_orReject _ draft) (fun d => ?_) b
  refine Service.tells_bind (Service.asks_checked (check d)) fun fields => ?_
  refine Service.tells_bind (takeNewEmail_asks plain fields) fun _ => ?_
  refine Service.tells_bind (takePassword_asks plain _ fields _) fun u => ?_
  exact insert_tells _

namespace Transaction

theorem start_idle (timeout : Span) : (start r timeout).Asks Effect.Idle :=
  (start_asks r timeout).mono fun e opening => by cases e <;> first | exact opening.elim | exact trivial

theorem report_idle (f : SystemFailure) : (report r f).Asks Effect.Idle := by
  refine (Program.asks_perform (by exact trivial)).bind fun _ => ?_
  refine (Program.asks_perform (by exact trivial)).bind fun delivery => ?_
  cases delivery with
  | error fault => exact Program.asks_perform (by exact trivial)
  | ok => exact trivial

theorem Ends.idle {operation : Operation} {e : Effect} (ends : Ends operation e) : e.Idle := by
  cases e <;> first | exact ends.elim | exact trivial

/-- A conclusion tells of failures only. -/
theorem conclude_idle {α : Type} (result : Except ServiceFailure α) :
    (conclude r result).Asks Effect.Idle := by
  rcases result with (rejection | f) | value
  · exact ((rollbackAfter_asks _ _ _).mono fun _ => Ends.idle).bind fun _ => trivial
  · refine (report_idle f).bind fun _ => ?_
    exact ((rollbackAfter_asks _ _ _).mono fun _ => Ends.idle).bind fun _ => trivial
  · refine ((close_asks _ _).mono fun _ => Ends.idle).bind fun committed => ?_
    cases committed with
    | error f => exact (report_idle _).bind fun _ => trivial
    | ok => exact trivial

/-- What is asked in a request: what the operation asks, and idle questions around it. -/
theorem run_asks {α : Type} {P : Effect → Prop} (idle : ∀ e, e.Idle → P e)
    {operation : Program (Except ServiceFailure α)} (asks : operation.Asks P) (timeout : Span) :
    (run r timeout operation).Asks P := by
  refine ((start_idle timeout).mono idle).bind fun begun => ?_
  cases begun with
  | error f => exact trivial
  | ok => exact asks.bind fun result => (conclude_idle result).mono idle

/-- A request tells of what its operation does, whether or not it is committed. -/
theorem run_tells {α : Type} {operation : Program (Except ServiceFailure α)}
    (tells : ∀ b : Books, b.Tells r (operation.play o n b).2) (timeout : Span) (b : Books) :
    b.Tells r ((run r timeout operation).play o n b).2 := by
  have alike := Books.alike_of_asks (start_idle (r := r) timeout) o n b
  show b.Tells r (((start r timeout).bind _).play o n b).2
  rw [Program.play_bind]
  generalize (start r timeout).play o n b = result at alike ⊢
  obtain ⟨f | ⟨⟩, b₁⟩ := result
  · exact .inl alike
  · exact alike.tells (Program.tells_bind (tells b₁) fun result => conclude_idle result)

end Transaction

/-- The request for which somebody is signed up. -/
def Errand.signsUp : Errand → Option Request
  | operation r (.signUp _) | request r _ (.signUp _) => some r
  | _ => none

/-- **A sign-up tells operators of the row that it inserts**; nothing else tells them of an event. -/
def Visit.Tells (v : Visit) : Prop :=
  match v.errand.signsUp with
  | some r => v.before.Tells r v.after
  | none => v.after.events = v.before.events

/-- No other operation tells of an event. -/
theorem job_eventless {job : Job} (hjob : ∀ draft, job ≠ .signUp draft) :
    (job.program h r).Asks Effect.Eventless := by
  refine job_asks (fun e plain => plain.quiet.eventless) job ?_ ?_ ?_ ?_ ?_
  · exact fun draft hsignUp => absurd hsignUp (hjob draft)
  · exact fun draft hsignUp => absurd hsignUp (hjob draft)
  · exact fun _ _ _ _ _ _ _ _ => nofun
  · exact fun _ _ _ _ _ => nofun
  · exact fun _ _ _ _ _ _ => nofun

/-- No other errand does. -/
theorem Errand.program_eventless {errand : Errand} (hnone : errand.signsUp = none) :
    (errand.program h).Asks Effect.Eventless := by
  have eventless (e : Effect) (idle : e.Idle) : e.Eventless := idle.eventless
  cases errand with
  | begin r timeout => exact ((Transaction.start_idle timeout).mono eventless).bind fun _ => trivial
  | operation r job =>
    refine Program.Asks.bind (job_eventless ?_).program fun _ => trivial
    rintro draft rfl
    cases hnone
  | conclude place r result =>
    exact ((Transaction.conclude_idle result).mono eventless).bind fun _ => trivial
  | request r timeout job =>
    refine (Transaction.run_asks eventless (job_eventless ?_).program timeout).bind fun _ => trivial
    rintro draft rfl
    cases hnone
  | healthCheck r timeout =>
    have asks := Transaction.probe_asks.mono (by rintro e rfl; exact eventless _ trivial)
    exact (Transaction.run_asks eventless asks timeout).bind fun _ => trivial

theorem signUp_tells (draft : Option UserDraft) (b : Books) :
    b.Tells r (((Job.signUp draft).program h r).run.play o n b).2 :=
  Program.tells_bind (Accounts.create_tells draft b) fun result => by cases result <;> exact trivial

/-- **One errand.** -/
theorem visit_tells (errand : Errand) (b : Books) : (visit h o n b errand).Tells := by
  unfold Visit.Tells
  show match errand.signsUp with
    | some r => b.Tells r ((errand.program h).play o n (errand.focus b)).2
    | none => ((errand.program h).play o n (errand.focus b)).2.events = b.events
  cases hsigns : errand.signsUp with
  | none =>
    -- neither the program nor a look at another transaction tells of anything
    have hfocus : (errand.focus b).events = b.events := by cases errand <;> rfl
    rw [← hfocus]
    exact Program.play_keeps (fun _ _ => Books.reply_events) (Errand.program_eventless hsigns) _
  | some r =>
    cases errand with
    | operation r' job =>
      cases job with
      | signUp draft =>
        cases hsigns
        exact Program.tells_bind (signUp_tells draft b) fun _ => trivial
      | _ => cases hsigns
    | request r' timeout job =>
      cases job with
      | signUp draft =>
        cases hsigns
        exact Program.tells_bind (Transaction.run_tells (signUp_tells draft) timeout b) fun _ => trivial
      | _ => cases hsigns
    | _ => cases hsigns

end Tells

/-! ### Sequences of errands -/

section Visits

variable (h : Hasher) (o : Outside) (n : Notifier)

theorem visits_deaf (n' : Notifier) (b : Books) (errands : List Errand) :
    visits h o n b errands = visits h o n' b errands := by
  induction errands generalizing b with
  | nil => rfl
  | cons errand errands ih =>
    have hvisit : visit h o n b errand = visit h o n' b errand := by
      rw [visit, visit, errand.program_deaf o n n']
    rw [visits, visits, hvisit, ih]

theorem visits_tell (b : Books) (errands : List Errand) : ∀ v ∈ visits h o n b errands, v.Tells := by
  induction errands generalizing b with
  | nil => exact fun v hv => absurd hv List.not_mem_nil
  | cons errand errands ih => exact List.forall_mem_cons.2 ⟨visit_tells errand b, ih _⟩

/-- **Notices stand aside** from a sequence of errands. -/
structure NoticesAside (b : Books) (errands : List Errand) : Prop where
  /-- With another notifier, everything is the same: what comes back, and the books, that is, the rows, the
      transactions, what the database was called for, and even what operators were told. -/
  deaf : ∀ n', visits h o n' b errands = visits h o n b errands
  /-- Operators are told of each sign-up that has inserted its row, once, and of no other event. -/
  tells : ∀ v ∈ visits h o n b errands, v.Tells

/-- **Notices never influence what comes back or what is stored**, whatever is asked for and whatever
    becomes of the deliveries. -/
theorem notices_aside (b : Books) (errands : List Errand) : NoticesAside h o n b errands where
  deaf n' := visits_deaf h o n' n b errands
  tells := visits_tell h o n b errands

end Visits

end Turnstile
