import Mathlib.Data.List.Chain
import Mathlib.Data.List.Infix
import Turnstile.Failure.System

namespace Turnstile

/-!
# What operators are told of a failure

No message is lost from a chain of causes, and none is told that the text before it ends with already.

* `chainText_append` and `chainText_of_suffix`: a chain is made from the left to the right, and messages that
  the text ends with already add nothing to it.
* `Rendering` is "this text tells these messages": each is in it, and it is made of those that the text
  in front of them does not end with. `rendering_iff`: exactly the chain does.
* `SystemFailure.causes_suffix`: every failure quotes what caused it, unless its transaction was rolled
  back with a cause before. So nothing needs to be added to it (`SystemFailure.chain_eq_message`).
* `chains_exact` is the whole.
-/

variable {text message next : String} {causes : List String}

/-! ### One message -/

theorem endsWith_iff {text ending : List Char} : endsWith text ending = true ↔ ending <:+ text :=
  List.isSuffixOf_iff_suffix

/-- A message that the text ends with is not repeated. -/
theorem linkCause_of_suffix (h : next.toList <:+ text.toList) : linkCause text next = text :=
  if_pos (endsWith_iff.2 h)

/-- Any other message is added. -/
theorem linkCause_of_not_suffix (h : ¬ next.toList <:+ text.toList) :
    linkCause text next = text ++ ": " ++ next := if_neg (mt endsWith_iff.1 h)

theorem suffix_append (text next : String) : next.toList <:+ (text ++ next).toList := by
  rw [String.toList_append]
  exact List.suffix_append _ _

/-- Either way the text goes on from what it was, -/
theorem prefix_linkCause (text next : String) : text.toList <+: (linkCause text next).toList := by
  by_cases h : next.toList <:+ text.toList
  · rw [linkCause_of_suffix h]
  · rw [linkCause_of_not_suffix h, String.append_assoc, String.toList_append]
    exact List.prefix_append _ _

/-- and ends with the message. -/
theorem suffix_linkCause (text next : String) : next.toList <:+ (linkCause text next).toList := by
  by_cases h : next.toList <:+ text.toList
  · rwa [linkCause_of_suffix h]
  · rw [linkCause_of_not_suffix h]
    exact suffix_append _ _

/-! ### Chains -/

@[simp] theorem chainText_nil (message : String) : chainText message [] = message := rfl

theorem chainText_cons (message next : String) (causes : List String) :
    chainText message (next :: causes) = chainText (linkCause message next) causes := rfl

theorem chainText_append (message : String) (front back : List String) :
    chainText message (front ++ back) = chainText (chainText message front) back := List.foldl_append

theorem chainText_snoc (message : String) (front : List String) (last : String) :
    chainText message (front ++ [last]) = linkCause (chainText message front) last := chainText_append _ _ _

/-- A chain begins with its first message. -/
theorem prefix_chainText (message : String) (causes : List String) :
    message.toList <+: (chainText message causes).toList := by
  induction causes generalizing message with
  | nil => exact List.prefix_rfl
  | cons next causes ih => exact (prefix_linkCause message next).trans (ih (linkCause message next))

/-- It ends with its last one, -/
theorem suffix_chainText (message : String) (causes : List String) :
    ((message :: causes).getLast (List.cons_ne_nil _ _)).toList <:+ (chainText message causes).toList := by
  induction causes using List.reverseRecOn with
  | nil => exact List.suffix_rfl
  | append_singleton front last _ =>
    rw [chainText_snoc, List.getLast_cons (List.append_ne_nil_of_right_ne_nil _ (List.cons_ne_nil _ _)),
      List.getLast_append_singleton]
    exact suffix_linkCause _ _

/-- and all the others are in it, too. -/
theorem infix_chainText {m : String} (hm : m ∈ message :: causes) :
    m.toList <:+: (chainText message causes).toList := by
  rcases List.mem_cons.1 hm with rfl | hm
  · exact (prefix_chainText m causes).isInfix
  · obtain ⟨front, back, rfl⟩ := List.append_of_mem hm
    -- the text ended with the message at its turn, and has only grown since
    have hturn := suffix_linkCause (chainText message front) m
    have hgrown := prefix_chainText (linkCause (chainText message front) m) back
    rw [chainText_append, chainText_cons]
    exact hturn.isInfix.trans hgrown.isInfix

/-- Messages that the text ends with add nothing to it. -/
theorem chainText_of_suffix (h : ∀ m ∈ causes, m.toList <:+ text.toList) : chainText text causes = text := by
  induction causes with
  | nil => rfl
  | cons next causes ih =>
    obtain ⟨hnext, hcauses⟩ := List.forall_mem_cons.1 h
    rw [chainText_cons, linkCause_of_suffix hnext, ih hcauses]

/-- **Where every message ends with the next one**, the first one is the whole chain. -/
theorem chainText_of_quoted (h : (message :: causes).IsChain fun m n => n.toList <:+ m.toList) :
    chainText message causes = message := by
  have htrans : IsTrans String fun m n => n.toList <:+ m.toList := ⟨fun _ _ _ hm hn => hn.trans hm⟩
  exact chainText_of_suffix (List.pairwise_cons.1 h.pairwise).1

/-! ### Messages that stand by themselves -/

/-- The first message and, of the next `n`, the marked ones, with colons between them. -/
def rendered (message : String) (causes : List String) (told : Nat → Bool) (n : Nat) : String :=
  ": ".intercalate (message :: ((causes.take n).zipIdx.filter (told ·.2)).map (·.1))

/-- One more text behind joined texts. -/
theorem intercalate_snoc (message : String) (ms : List String) (m : String) :
    ": ".intercalate (message :: (ms ++ [m])) = ": ".intercalate (message :: ms) ++ ": " ++ m := by
  have h := String.intercalate_append_of_ne_nil (s := ": ") (List.cons_ne_nil message ms)
    (List.cons_ne_nil m [])
  rwa [String.intercalate_singleton, List.cons_append] at h

@[simp] theorem rendered_zero (message : String) (causes : List String) (told : Nat → Bool) :
    rendered message causes told 0 = message := by simp [rendered]

theorem rendered_succ (told : Nat → Bool) {n : Nat} (hn : n < causes.length) :
    rendered message causes told (n + 1)
      = if told n then rendered message causes told n ++ ": " ++ causes[n]
        else rendered message causes told n := by
  have hlength : (causes.take n).length = n := List.length_take_of_le (Nat.le_of_lt hn)
  unfold rendered
  rw [List.take_succ_eq_append_getElem hn, List.zipIdx_append, hlength, List.filter_append, List.map_append]
  by_cases htold : told n = true
  · rw [if_pos htold, ← intercalate_snoc]
    simp [htold]
  · rw [if_neg htold]
    simp [htold]

/-- The marks are on those messages that the text in front of them does not end with. -/
def Marks (message : String) (causes : List String) (told : Nat → Bool) : Prop :=
  ∀ (i : Nat) (hi : i < causes.length),
    told i = true ↔ ¬ causes[i].toList <:+ (rendered message causes told i).toList

/-- A text that tells the messages of a failure. -/
structure Rendering (message : String) (causes : List String) (whole : String) : Prop where
  /-- It begins with the first message -/
  starts : message.toList <+: whole.toList
  /-- and ends with the last one. -/
  ends : ((message :: causes).getLast (List.cons_ne_nil _ _)).toList <:+ whole.toList
  /-- Every message is in it. -/
  keeps : ∀ m ∈ message :: causes, m.toList <:+: whole.toList
  /-- It is made of the first message and those causes that the text in front of them does not end with. -/
  made : ∃ told, Marks message causes told ∧ whole = rendered message causes told causes.length

/-- One more message is rendered as it is linked, if its mark is right. -/
theorem rendered_step {told : Nat → Bool} {n : Nat} (hn : n < causes.length)
    (hmark : told n = true ↔ ¬ causes[n].toList <:+ (chainText message (causes.take n)).toList)
    (h : rendered message causes told n = chainText message (causes.take n)) :
    rendered message causes told (n + 1) = chainText message (causes.take (n + 1)) := by
  rw [rendered_succ told hn, h, List.take_succ_eq_append_getElem hn, chainText_snoc]
  by_cases htold : told n = true
  · rw [if_pos htold, linkCause_of_not_suffix (hmark.1 htold)]
  · rw [if_neg htold, linkCause_of_suffix (not_not.1 (mt hmark.2 htold))]

/-- Under the right marks, what is rendered up to any place is the chain up to there. -/
theorem Marks.rendered_eq {told : Nat → Bool} (marks : Marks message causes told) {n : Nat}
    (hn : n ≤ causes.length) : rendered message causes told n = chainText message (causes.take n) := by
  induction n with
  | zero => simp
  | succ n ih =>
    have hbefore := ih (Nat.le_of_lt hn)
    have hmark := marks n hn
    rw [hbefore] at hmark
    exact rendered_step hn hmark hbefore

/-- Whether the chain of the messages in front of a place does not end with the one there. -/
def standsApart (message : String) (causes : List String) (i : Nat) : Bool :=
  !endsWith (chainText message (causes.take i)).toList (causes.getD i "").toList

theorem standsApart_iff {i : Nat} (hi : i < causes.length) : standsApart message causes i = true ↔
    ¬ causes[i].toList <:+ (chainText message (causes.take i)).toList := by
  have hget : causes.getD i "" = causes[i] := by simp [hi]
  rw [standsApart, hget, Bool.not_eq_true', ← Bool.not_eq_true, endsWith_iff]

/-- There are such marks. -/
theorem marks_standsApart (message : String) (causes : List String) :
    Marks message causes (standsApart message causes) := by
  have hrendered (n : Nat) (hn : n ≤ causes.length) :
      rendered message causes (standsApart message causes) n = chainText message (causes.take n) := by
    induction n with
    | zero => simp
    | succ n ih => exact rendered_step hn (standsApart_iff hn) (ih (Nat.le_of_lt hn))
  intro i hi
  rw [hrendered i (Nat.le_of_lt hi)]
  exact standsApart_iff hi

/-- **Every chain tells its messages**: none is lost, and none is repeated. There is no other text that
    does. -/
theorem rendering_iff {whole : String} :
    Rendering message causes whole ↔ whole = chainText message causes := by
  have hmade {told : Nat → Bool} (marks : Marks message causes told) :
      rendered message causes told causes.length = chainText message causes := by
    rw [marks.rendered_eq le_rfl, List.take_length]
  constructor
  · intro rendering
    obtain ⟨told, marks, rfl⟩ := rendering.made
    exact hmade marks
  · rintro rfl
    have marks := marks_standsApart message causes
    exact ⟨prefix_chainText message causes, suffix_chainText message causes, fun _ hm => infix_chainText hm,
      _, marks, (hmade marks).symm⟩

/-- **Where no message ends what precedes it**, all of them are told. -/
theorem chainText_of_apart
    (h : ∀ (i : Nat) (hi : i < causes.length),
      ¬ causes[i].toList <:+ (": ".intercalate (message :: causes.take i)).toList) :
    chainText message causes = ": ".intercalate (message :: causes) := by
  have hall (n : Nat) (hn : n ≤ causes.length) :
      chainText message (causes.take n) = ": ".intercalate (message :: causes.take n) := by
    induction n with
    | zero => simp
    | succ n ih =>
      have hlt : n < causes.length := hn
      rw [List.take_succ_eq_append_getElem hlt, chainText_snoc, ih (Nat.le_of_lt hlt),
        linkCause_of_not_suffix (h n hlt), intercalate_snoc]
  have hwhole := hall causes.length le_rfl
  rwa [List.take_length] at hwhole

/-! ### The failures of the service -/

/-- A driver's report quotes what is beneath it. -/
theorem DriverFault.causes_suffix {f : DriverFault} {m : String} (hm : m ∈ f.causes) :
    m.toList <:+ f.message.toList := by
  cases f with
  | server error =>
    obtain rfl := List.mem_singleton.1 hm
    exact suffix_append _ _
  | column name fault =>
    obtain rfl := List.mem_singleton.1 hm
    exact suffix_append _ _
  | connection text =>
    obtain rfl := List.mem_singleton.1 hm
    exact suffix_append _ _
  | configuration text =>
    obtain rfl := List.mem_singleton.1 hm
    exact suffix_append _ _
  | rowNotFound | poolTimedOut | poolClosed | workerCrashed | protocol | columnNotFound => cases hm

/-- So does the failure of a repository operation. -/
theorem RepositoryFailure.causes_suffix {f : RepositoryFailure} {m : String} (hm : m ∈ f.causes) :
    m.toList <:+ f.message.toList := by
  cases f with
  | driver context fault =>
    rcases List.mem_cons.1 hm with rfl | hm
    · exact suffix_append _ _
    · exact (DriverFault.causes_suffix hm).trans (suffix_append _ _)
  | uniqueViolation | notFound | closed => cases hm

/-- What is quoted at the end of a text quotes in its turn. -/
theorem quoted_suffix {lead : String} {source : RepositoryFailure} {m : String}
    (hm : m ∈ source.message :: source.causes) : m.toList <:+ (lead ++ source.message).toList := by
  rcases List.mem_cons.1 hm with rfl | hm
  · exact suffix_append _ _
  · exact (RepositoryFailure.causes_suffix hm).trans (suffix_append _ _)

/-- The transaction of the operation had been rolled back with a cause before. -/
inductive SystemFailure.HasCause : SystemFailure → Prop where
  | intro (operation : Operation) (cause : SystemFailure) :
      HasCause (.transaction (.alreadyEnded operation (some cause)))

/-- **Every other failure quotes what caused it.** -/
theorem SystemFailure.causes_suffix {f : SystemFailure} (h : ¬ f.HasCause) {m : String} (hm : m ∈ f.causes) :
    m.toList <:+ f.message.toList := by
  cases f with
  | repository context source => exact quoted_suffix hm
  | credential context source =>
    obtain rfl := List.mem_singleton.1 hm
    exact suffix_append _ _
  | invariant context message => cases hm
  | transaction failure =>
    cases failure with
    | alreadyEnded operation cause =>
      cases cause with
      | none => cases hm
      | some cause => exact absurd (.intro operation cause) h
    | timeout after => cases hm
    | backend operation source => exact quoted_suffix hm
    | notBegun source => exact quoted_suffix hm

/-- Nothing needs to be added to it. -/
theorem SystemFailure.chain_eq_message {f : SystemFailure} (h : ¬ f.HasCause) : f.chain = f.message :=
  chainText_of_suffix fun _ hm => causes_suffix h hm

/-- Of a transaction that had been rolled back with a cause, operators are told the cause, too. -/
theorem SystemFailure.chain_alreadyEnded {operation : Operation} {cause : SystemFailure}
    (h : ¬ cause.HasCause)
    (hnew : ¬ cause.message.toList <:+
      (TransactionFailure.alreadyEnded operation (some cause)).message.toList) :
    (transaction (.alreadyEnded operation (some cause))).chain
      = (transaction (.alreadyEnded operation (some cause))).message ++ ": " ++ cause.chain := by
  -- what the cause quotes stands at the end of the text as soon as the cause does
  have hquoted : ∀ m ∈ cause.causes, m.toList <:+ (linkCause (TransactionFailure.alreadyEnded operation
      (some cause)).message cause.message).toList :=
    fun m hm => (causes_suffix h hm).trans (suffix_linkCause _ _)
  calc (transaction (.alreadyEnded operation (some cause))).chain
      = chainText (linkCause (TransactionFailure.alreadyEnded operation (some cause)).message cause.message)
          cause.causes := rfl
    _ = linkCause (TransactionFailure.alreadyEnded operation (some cause)).message cause.message :=
        chainText_of_suffix hquoted
    _ = _ := by
        rw [linkCause_of_not_suffix hnew, chain_eq_message h]
        rfl

/-! ### The whole -/

/-- What the chains of causes tell. -/
structure ChainsExact : Prop where
  /-- A text is the chain exactly if it tells the messages; -/
  rendering : ∀ message causes whole, Rendering message causes whole ↔ whole = chainText message causes
  /-- it is the first of them if every message ends with the next one, -/
  quoted : ∀ message causes, (message :: causes).IsChain (fun m n => n.toList <:+ m.toList) →
    chainText message causes = message
  /-- and all of them if none ends what precedes it. -/
  apart : ∀ message causes, (∀ (i : Nat) (hi : i < causes.length),
      ¬ causes[i].toList <:+ (": ".intercalate (message :: causes.take i)).toList) →
    chainText message causes = ": ".intercalate (message :: causes)
  /-- The chain of a system failure is its own message, -/
  single : ∀ f : SystemFailure, ¬ f.HasCause → f.chain = f.message
  /-- unless its transaction had been rolled back with a cause; the chain of the cause is added then. -/
  ended : ∀ (operation : Operation) (cause : SystemFailure), ¬ cause.HasCause →
    ¬ cause.message.toList <:+ (TransactionFailure.alreadyEnded operation (some cause)).message.toList →
    (SystemFailure.transaction (.alreadyEnded operation (some cause))).chain
      = (SystemFailure.transaction (.alreadyEnded operation (some cause))).message ++ ": " ++ cause.chain

/-- **No cause is lost, and none is told again** where it was told already. -/
theorem chains_exact : ChainsExact where
  rendering := fun _ _ _ => rendering_iff
  quoted := fun _ _ => chainText_of_quoted
  apart := fun _ _ => chainText_of_apart
  single := fun _ => SystemFailure.chain_eq_message
  ended := fun _ _ => SystemFailure.chain_alreadyEnded

/-- Messages that stand apart are all told, one that is quoted is not told again, and who rolls back a
    transaction that the deadline had ended is told of the deadline. -/
theorem chains_exact_expired : chainText "outer" ["inner", "root"] = "outer: inner: root" ∧
    chainText "wrapped: inner" ["inner"] = "wrapped: inner" ∧
    (SystemFailure.transaction
      (.alreadyEnded .rollback (some (.transaction (.timeout (.ofSeconds 30)))))).chain
      = "service transaction rollback error: transaction already ended: "
          ++ "service transaction timeout error: transaction timed out after: 30s" := by
  refine ⟨?_, ?_, ?_⟩
  · rw [chains_exact.apart "outer" ["inner", "root"]]
    · decide
    · intro i hi
      match i, hi with
      | 0, _ =>
        show ¬ "inner".toList <:+ (": ".intercalate ["outer"]).toList
        decide
      | 1, _ =>
        show ¬ "root".toList <:+ (": ".intercalate ["outer", "inner"]).toList
        decide
  · exact chains_exact.quoted "wrapped: inner" ["inner"] (by decide)
  · have hsingle : ¬ (SystemFailure.transaction (.timeout (.ofSeconds 30))).HasCause := fun h => nomatch h
    rw [chains_exact.ended .rollback _ hsingle (by decide +kernel), chains_exact.single _ hsingle]
    decide +kernel

end Turnstile
