import BeanMetrics.Proofs.Collection.Isolation
import BeanMetrics.Proofs.ObjectName.Written

/-!
What a client asks for a snapshot and what comes of it. It asks three questions in order and stops at the
first answer that is none, or at a search that finds nothing; there is a snapshot exactly if all that
was asked was answered. Without a snapshot a pass is made all the same: it finds nothing, writes
nothing to the store and counts as a pass.
-/

namespace BeanMetrics

/-! ### Answers -/

/-- The value that an answer brings: it has a status of success, its body is a reply, and the reply
reports success as well. -/
def Answer.value? : Answer → Option Json
  | .response status body =>
    if 200 ≤ status ∧ status < 300 then
      match Reply.ofText body with
      | .ok reply => if reply.status = 200 then some reply.value else none
      | .error _ => none
    else none
  | _ => none

theorem Client.value?_eq_some_iff {timeoutMillis : Nat} {answer : Answer} {value : Json} :
    answer.value? = some value ↔
      ∃ reply, replyOf timeoutMillis answer = .ok reply ∧ reply.value = value := by
  cases answer with
  | refused => simp [Answer.value?, replyOf]
  | dropped => simp [Answer.value?, replyOf]
  | overdue => simp [Answer.value?, replyOf]
  | cutShort status => by_cases hs : 200 ≤ status ∧ status < 300 <;> simp [Answer.value?, replyOf, hs]
  | response status body =>
    by_cases hs : 200 ≤ status ∧ status < 300
    · cases hr : Reply.ofText body with
      | error e => simp [Answer.value?, replyOf, hs, hr, Except.bind]
      | ok reply =>
        by_cases hok : reply.status = 200
        · simp [Answer.value?, replyOf, hs, hr, Except.bind, Reply.succeed, hok]
        · simp [Answer.value?, replyOf, hs, hr, Except.bind, Reply.succeed, hok]
    · simp [Answer.value?, replyOf, hs]

namespace Question

def fits : Question → Json → Bool
  | .search _, .array _ => true
  | .list _, .object _ => true
  | .read _, .object _ => true
  | _, _ => false

def isAnsweredBy (question : Question) (answer : Answer) : Bool := answer.value?.any question.fits

/-- Whether the answer is that there is no object: a list without names. -/
def isFutile : Question → Answer → Bool
  | .search _, answer =>
    answer.value?.any fun
      | .array elements =>
        elements.all fun element => (element.string?.bind ObjectName.ofText?).isNone
      | _ => false
  | _, _ => false

/-- Whether nothing is asked after this answer. -/
def isLast (question : Question) (answer : Answer) : Bool :=
  !question.isAnsweredBy answer || question.isFutile answer

end Question

def Pattern.questions (p : Pattern) : List Question :=
  [.search p.text, .list p.domain.source, .read p.text]

/-- Questions with the answers to them: they are asked in order, and asking goes on as long as an answer
lets it, and no longer. -/
structure Conversation (questions : List Question) (answers : List Answer)
    (asked : List (Question × Answer)) : Prop where
  inOrder : asked <+: questions.zip answers
  goesOn : ∀ x ∈ asked.dropLast, x.1.isLast x.2 = false
  stops : asked = questions.zip answers ∨ ∃ x ∈ asked.getLast?, x.1.isLast x.2 = true

theorem Conversation.single (question : Question) (answer : Answer) :
    Conversation [question] [answer] [(question, answer)] :=
  ⟨List.prefix_refl _, fun _ h => absurd h List.not_mem_nil, .inl rfl⟩

theorem Conversation.last {question : Question} {answer : Answer} (h : question.isLast answer = true)
    (questions : List Question) (answers : List Answer) :
    Conversation (question :: questions) (answer :: answers) [(question, answer)] where
  inOrder := ⟨questions.zip answers, rfl⟩
  goesOn _ hx := absurd hx List.not_mem_nil
  stops := .inr ⟨(question, answer), rfl, h⟩

theorem Conversation.cons {question : Question} {answer : Answer} {questions : List Question}
    {answers : List Answer} {asked : List (Question × Answer)} (h : question.isLast answer = false)
    (ha : Conversation questions answers asked) :
    Conversation (question :: questions) (answer :: answers) ((question, answer) :: asked) where
  inOrder := List.cons_prefix_cons.mpr ⟨rfl, ha.inOrder⟩
  goesOn x hx := by
    cases asked with
    | nil => cases hx
    | cons next asked =>
      rcases List.mem_cons.mp hx with rfl | hm
      · exact h
      · exact ha.goesOn x hm
  stops := by
    rcases ha.stops with rfl | ⟨x, hx, hl⟩
    · exact .inl rfl
    · cases asked with
      | nil => cases hx
      | cons next asked => exact .inr ⟨x, by simpa [List.getLast?_cons_cons] using hx, hl⟩

namespace Agent

def upcoming (agent : Agent) (n : Nat) : List Answer :=
  (agent.answers ++ List.replicate n agent.afterwards).take n

theorem upcoming_succ (agent : Agent) (n : Nat) (request : AgentRequest) :
    agent.upcoming (n + 1) =
      (agent.exchange request).2 :: (agent.exchange request).1.upcoming n := by
  obtain ⟨answers, afterwards, exchanges⟩ := agent
  cases answers with
  | nil => simp [upcoming, exchange, List.replicate_succ]
  | cons answer answers =>
    have htake : (answers ++ List.replicate (n + 1) afterwards).take n =
        (answers ++ List.replicate n afterwards).take n := by
      rw [List.replicate_succ', ← List.append_assoc, List.take_append_of_le_length (by simp)]
    simp [upcoming, exchange, htake]

theorem upcoming_three (agent : Agent) (r₁ r₂ r₃ : AgentRequest) :
    let first := agent.exchange r₁
    let second := first.1.exchange r₂
    agent.upcoming 3 = [first.2, second.2, (second.1.exchange r₃).2] := by
  intro first second
  rw [agent.upcoming_succ 2 r₁, first.1.upcoming_succ 1 r₂, second.1.upcoming_succ 0 r₃]
  rfl

end Agent

namespace Client

variable {c : Client} {agent : Agent} {url : Url} {p : Pattern}

/-! ### One question -/

def requestOf (c : Client) (url : Url) (question : Question) : AgentRequest :=
  ⟨"POST", url.target, c.authorization, question.body⟩

theorem ask_of_url (h : Url.ofText c.baseUrl = .ok url) (agent : Agent) (question : Question) :
    c.ask agent question =
      ((agent.exchange (c.requestOf url question)).1,
        replyOf c.timeoutMillis (agent.exchange (c.requestOf url question)).2) := by
  rw [ask, h]
  rfl

theorem bind_replyOf_eq_ok_iff {α : Type} {timeoutMillis : Nat} {answer : Answer}
    {parse : Json → Except AgentError α} {found : α} :
    ((replyOf timeoutMillis answer).bind fun reply => parse reply.value) = .ok found ↔
      ∃ value, answer.value? = some value ∧ parse value = .ok found := by
  constructor
  · intro h
    cases hr : replyOf timeoutMillis answer with
    | error e =>
      rw [hr] at h
      cases h
    | ok reply =>
      rw [hr] at h
      exact ⟨reply.value, value?_eq_some_iff.mpr ⟨reply, hr, rfl⟩, h⟩
  · rintro ⟨value, hv, hp⟩
    obtain ⟨reply, hr, rfl⟩ := value?_eq_some_iff.mp hv
    rw [hr]
    exact hp

theorem isAnsweredBy_iff {α : Type} {timeoutMillis : Nat} {question : Question} {answer : Answer}
    {parse : Json → Except AgentError α}
    (hp : ∀ value, question.fits value = true ↔ ∃ found, parse value = .ok found) :
    question.isAnsweredBy answer = true ↔
      ∃ found, ((replyOf timeoutMillis answer).bind fun reply => parse reply.value) = .ok found := by
  rw [Question.isAnsweredBy, Option.any_eq_true]
  simp only [hp, bind_replyOf_eq_ok_iff]
  constructor
  · rintro ⟨value, hv, found, hf⟩
    exact ⟨found, value, hv, hf⟩
  · rintro ⟨found, value, hv, hf⟩
    exact ⟨value, hv, found, hf⟩

theorem fits_search_iff (text : String) (value : Json) :
    (Question.search text).fits value = true ↔ ∃ names, ReplyValue.searched value = .ok names := by
  cases value <;> simp [Question.fits, ReplyValue.searched]

theorem fits_list_iff (domain : String) (value : Json) :
    (Question.list domain).fits value = true ↔
      ∃ listed, ReplyValue.listed domain value = .ok listed := by
  cases value <;> simp [Question.fits, ReplyValue.listed]

/-- The values of an object that was read have a name, as a pattern that is none can be read as one. -/
theorem fits_read_iff {text : String} (h : Pattern.ofText? text = some p) (value : Json) :
    (Question.read p.text).fits value = true ↔
      ∃ read, ReplyValue.read p p.text value = .ok read := by
  cases value with
  | object members =>
    cases hp : p.isPattern with
    | true => simp [Question.fits, ReplyValue.read, hp]
    | false =>
      obtain ⟨name, hn, -⟩ := Pattern.exists_name_of_not_isPattern h hp
      simp [Question.fits, ReplyValue.read, hp, hn]
  | _ => simp [Question.fits, ReplyValue.read]

theorem searched_eq_nil_iff {text : String} {answer : Answer} {names : List ObjectName}
    (h : ∃ value, answer.value? = some value ∧ ReplyValue.searched value = .ok names) :
    (Question.search text).isFutile answer = true ↔ names = [] := by
  obtain ⟨value, hv, hs⟩ := h
  cases value with
  | array elements =>
    obtain rfl := Except.ok.inj hs
    simp only [Question.isFutile, hv, Option.any_some, List.filterMap_filterMap,
      List.filterMap_eq_nil_iff, List.all_eq_true, Option.isNone_iff_eq_none]
  | _ => cases hs

/-! ### The questions for a snapshot -/

theorem isLast_of_error {question : Question} {answer : Answer}
    (h : ¬ question.isAnsweredBy answer = true) : question.isLast answer = true := by
  simp [Question.isLast, h]

theorem snapshot_of_search_error {after : Agent} {e : AgentError}
    (h : c.search agent p = (after, .error e)) : c.snapshot agent p = (after, .error e) := by
  rw [snapshot, h]

theorem snapshot_of_search_nil {after : Agent} (h : c.search agent p = (after, .ok [])) :
    c.snapshot agent p = (after, .ok .empty) := by
  rw [snapshot, h]

section

variable {after after' : Agent} {names : List ObjectName} (hne : names ≠ [])
  (h : c.search agent p = (after, .ok names))

include hne h

theorem snapshot_of_list_error {e : AgentError}
    (hl : c.list after p.domain.source = (after', .error e)) :
    c.snapshot agent p = (after', .error e) := by
  cases names with
  | nil => exact absurd rfl hne
  | cons name names =>
    rw [snapshot, h]
    dsimp only
    rw [hl]

theorem snapshot_of_list {listed : List ReplyValue.Listed}
    (hl : c.list after p.domain.source = (after', .ok listed)) :
    c.snapshot agent p =
      ((c.read after' p).1, (c.read after' p).2.map (Snapshot.assemble names listed)) := by
  cases names with
  | nil => exact absurd rfl hne
  | cons name names =>
    rw [snapshot, h]
    dsimp only
    rw [hl]
    dsimp only
    obtain ⟨after'', result⟩ := c.read after' p
    cases result <;> rfl

end

/-- What was asked for a snapshot: a conversation, whose exchanges are kept, and which was answered
throughout exactly if there is a snapshot. -/
structure Recounts (c : Client) (url : Url) (agent : Agent) (p : Pattern)
    (asked : List (Question × Answer)) : Prop where
  conversation : Conversation p.questions (agent.upcoming 3) asked
  exchanges : (c.snapshot agent p).1.exchanges =
    agent.exchanges ++ asked.map (fun x => (c.requestOf url x.1, x.2))
  answered : (∃ snapshot, (c.snapshot agent p).2 = .ok snapshot) ↔
    ∀ x ∈ asked, x.1.isAnsweredBy x.2 = true

section

variable {a₁ a₂ a₃ : Answer} (hu : agent.upcoming 3 = [a₁, a₂, a₃])

include hu

theorem recounts_of_search_error {after : Agent} {e : AgentError}
    (h : c.search agent p = (after, .error e))
    (hx : after.exchanges = agent.exchanges ++ [(c.requestOf url (.search p.text), a₁)])
    (ha : ¬ (Question.search p.text).isAnsweredBy a₁ = true) :
    c.Recounts url agent p [(.search p.text, a₁)] where
  conversation := hu ▸ .last (isLast_of_error ha) _ _
  exchanges := by
    rw [snapshot_of_search_error h, hx]
    rfl
  answered := by simp [snapshot_of_search_error h, ha]

theorem recounts_of_search_nil {after : Agent} (h : c.search agent p = (after, .ok []))
    (hx : after.exchanges = agent.exchanges ++ [(c.requestOf url (.search p.text), a₁)])
    (ha : (Question.search p.text).isAnsweredBy a₁ = true)
    (hf : (Question.search p.text).isFutile a₁ = true) :
    c.Recounts url agent p [(.search p.text, a₁)] where
  conversation := by
    have hlast : (Question.search p.text).isLast a₁ = true := by simp [Question.isLast, hf]
    exact hu ▸ .last hlast _ _
  exchanges := by
    rw [snapshot_of_search_nil h, hx]
    rfl
  answered := by simp [snapshot_of_search_nil h, ha]

variable {after : Agent} {names : List ObjectName} (hne : names ≠ [])
  (h : c.search agent p = (after, .ok names)) (hg : (Question.search p.text).isLast a₁ = false)

include hne h hg

theorem recounts_of_list_error {after' : Agent} {e : AgentError}
    (hl : c.list after p.domain.source = (after', .error e))
    (hx : after'.exchanges = agent.exchanges ++
      [(c.requestOf url (.search p.text), a₁), (c.requestOf url (.list p.domain.source), a₂)])
    (hla : ¬ (Question.list p.domain.source).isAnsweredBy a₂ = true) :
    c.Recounts url agent p [(.search p.text, a₁), (.list p.domain.source, a₂)] where
  conversation := hu ▸ .cons hg (.last (isLast_of_error hla) _ _)
  exchanges := by
    rw [snapshot_of_list_error hne h hl, hx]
    rfl
  answered := by simp [snapshot_of_list_error hne h hl, hla]

theorem recounts_of_list {after' : Agent} {listed : List ReplyValue.Listed}
    (hl : c.list after p.domain.source = (after', .ok listed))
    (ha : (Question.search p.text).isAnsweredBy a₁ = true)
    (hla : (Question.list p.domain.source).isAnsweredBy a₂ = true)
    (hx : (c.read after' p).1.exchanges = agent.exchanges ++
      [(c.requestOf url (.search p.text), a₁), (c.requestOf url (.list p.domain.source), a₂),
        (c.requestOf url (.read p.text), a₃)])
    (hr : (Question.read p.text).isAnsweredBy a₃ = true ↔ ∃ read, (c.read after' p).2 = .ok read) :
    c.Recounts url agent p
      [(.search p.text, a₁), (.list p.domain.source, a₂), (.read p.text, a₃)] where
  conversation := by
    have hgoes : (Question.list p.domain.source).isLast a₂ = false := by
      simp [Question.isLast, Question.isFutile, hla]
    exact hu ▸ .cons hg (.cons hgoes (.single _ _))
  exchanges := by
    rw [snapshot_of_list hne h hl, hx]
    rfl
  answered := by
    rw [snapshot_of_list hne h hl]
    simp only [List.forall_mem_cons, ha, hla, hr]
    cases (c.read after' p).2 <;> simp [Except.map]

end

/-- The questions for a snapshot are asked in order, up to the first answer that lets nothing follow, and
there is a snapshot exactly if all that was asked was answered. -/
theorem exists_recounts (h : Url.ofText c.baseUrl = .ok url) {text : String}
    (hp : Pattern.ofText? text = some p) (agent : Agent) : ∃ asked, c.Recounts url agent p asked := by
  let first := agent.exchange (c.requestOf url (.search p.text))
  let second := first.1.exchange (c.requestOf url (.list p.domain.source))
  let third := second.1.exchange (c.requestOf url (.read p.text))
  have hu : agent.upcoming 3 = [first.2, second.2, third.2] := agent.upcoming_three _ _ _
  have hsearched := @isAnsweredBy_iff _ c.timeoutMillis _ first.2 _ (fits_search_iff p.text)
  have hlisted := @isAnsweredBy_iff _ c.timeoutMillis _ second.2 _ (fits_list_iff p.domain.source)
  have hread := @isAnsweredBy_iff _ c.timeoutMillis _ third.2 _ (fits_read_iff hp)
  have hsearch : c.search agent p = (first.1, (replyOf c.timeoutMillis first.2).bind fun reply =>
    ReplyValue.searched reply.value) := by rw [search, ask_of_url h]
  have hlist : c.list first.1 p.domain.source = (second.1, (replyOf c.timeoutMillis second.2).bind
    fun reply => ReplyValue.listed p.domain.source reply.value) := by rw [list, ask_of_url h]
  have hvalues : c.read second.1 p = (third.1, (replyOf c.timeoutMillis third.2).bind fun reply =>
    ReplyValue.read p p.text reply.value) := by rw [read, ask_of_url h]
  cases hs : (replyOf c.timeoutMillis first.2).bind fun reply => ReplyValue.searched reply.value with
  | error e =>
    rw [hs] at hsearch
    exact ⟨_, recounts_of_search_error hu hsearch rfl (by simp [hsearched, hs])⟩
  | ok names =>
    rw [hs] at hsearch
    have hyes : (Question.search p.text).isAnsweredBy first.2 = true := hsearched.mpr ⟨names, hs⟩
    have hfutile := @searched_eq_nil_iff p.text _ _ (bind_replyOf_eq_ok_iff.mp hs)
    by_cases hne : names = []
    · rw [hne] at hsearch
      exact ⟨_, recounts_of_search_nil hu hsearch rfl hyes (hfutile.mpr hne)⟩
    · have hnot : (Question.search p.text).isFutile first.2 = false := by
        simpa using mt hfutile.mp hne
      have hgoes : (Question.search p.text).isLast first.2 = false := by
        simp [Question.isLast, hyes, hnot]
      cases hl : (replyOf c.timeoutMillis second.2).bind fun reply =>
          ReplyValue.listed p.domain.source reply.value with
      | error e =>
        rw [hl] at hlist
        have hno : ¬ (Question.list p.domain.source).isAnsweredBy second.2 = true := by
          simp [hlisted, hl]
        refine ⟨_, recounts_of_list_error hu hne hsearch hgoes hlist ?_ hno⟩
        simp [first, second, Agent.exchange]
      | ok listed =>
        rw [hl] at hlist
        refine ⟨_, recounts_of_list hu hne hsearch hgoes hlist hyes (hlisted.mpr ⟨listed, hl⟩) ?_ ?_⟩
        · rw [hvalues]
          simp [first, second, third, Agent.exchange]
        · rw [hvalues, hread]

theorem snapshot_of_url_error {fault : Url.Fault} (h : Url.ofText c.baseUrl = .error fault) :
    c.snapshot agent p = (agent, .error (.responseFailed fault.message)) := by
  have hsearch : c.search agent p = (agent, .error (.responseFailed fault.message)) := by
    rw [search, ask, h]
    rfl
  exact snapshot_of_search_error hsearch

end Client

theorem Counter.add_zero (c : Counter) : c.add 0 = c := by
  simp [Counter.add]

namespace Engine

/-! ### Passes without a snapshot -/

/-- A pass that finds nothing: it leaves the store as it is, and counts as a pass over no objects with
nothing failed and nothing dropped. -/
structure PassesEmpty (e after : Engine) (nanos : Nat) : Prop where
  store : after.store = e.store
  telemetry : after.telemetry =
    { e.telemetry with
      scrapes := e.telemetry.scrapes.increment
      scrapeSeconds := secondsOfNanos nanos
      objectsScraped := .ofNat 0 }

theorem collect_of_objects_eq_nil {e : Engine} {registry : Registry}
    (h : Pass.objects registry e.pattern = []) (nanos : Nat) :
    PassesEmpty e (e.collect registry nanos).1 nanos ∧ (e.collect registry nanos).2 = .ok [] := by
  have hrun : Pass.run e.settings e.pattern registry e.recorders =
      .having .none e.recorders.reset := by
    rw [Pass.run, h]
    rfl
  rw [collect, hrun]
  refine ⟨⟨rfl, ?_⟩, rfl⟩
  simp [Run.having, Telemetry.recordPass, passStats, Effect.none, Counter.add_zero]

theorem scrape_of_pattern_eq_none {e : Engine} (h : e.pattern = none) (source : Source) (nanos : Nat) :
    ∃ after, e.scrape source nanos = (source, after, .ok []) ∧ PassesEmpty e after nanos := by
  have hobjects : Pass.objects Snapshot.empty.registry e.pattern = [] := by rw [h, Pass.objects]
  obtain ⟨hp, hr⟩ := collect_of_objects_eq_nil hobjects nanos
  refine ⟨_, ?_, hp⟩
  rw [scrape, h, ← hr]

theorem scrape_of_error {e : Engine} {p : Pattern} (hp : e.pattern = some p) {c : Client}
    {agent : Agent} {fault : AgentError} (h : (c.snapshot agent p).2 = .error fault) (nanos : Nat) :
    ∃ after, e.scrape (.agent c agent) nanos = (.agent c (c.snapshot agent p).1, after, .ok []) ∧
      PassesEmpty e after nanos := by
  let unreachable := Snapshot.unreachable fault.message
  have hobjects : Pass.objects unreachable.registry e.pattern = [] := by
    rw [hp, Pass.objects]
    rfl
  have hsnapshot : (Source.agent c agent).snapshot p =
      (.agent c (c.snapshot agent p).1, unreachable) := by
    rw [Source.snapshot]
    generalize c.snapshot agent p = result at h ⊢
    obtain ⟨after, found⟩ := result
    dsimp only at h
    rw [h]
  obtain ⟨hempty, hr⟩ := collect_of_objects_eq_nil hobjects nanos
  refine ⟨_, ?_, hempty⟩
  rw [scrape, hp]
  dsimp only
  rw [hsnapshot, ← hr]

/-- A snapshot is taken as a whole or not at all. Its three questions are a search for the pattern, a
listing of its domain and a read of the pattern. A beginning of them is asked, up to the first answer that
lets nothing follow, and there is a snapshot exactly if all that was asked was answered. If there is none,
a pass is made that finds nothing; and if there is no pattern, so is one, and nothing is asked. -/
theorem all_or_nothing (c : Client) (agent : Agent) {text : String} {p : Pattern}
    (hp : Pattern.ofText? text = some p) {s : Settings} {t : Telemetry} {e : Engine}
    (ha : e.Alike (create s t)) (nanos : Nat) :
    (∀ url, Url.ofText c.baseUrl = .ok url →
      p.questions.map (c.requestOf url) =
        [⟨"POST", url.target, c.authorization,
           .object [("mbean", .string text), ("type", .string "search")]⟩,
         ⟨"POST", url.target, c.authorization,
           .object [("path", .string p.domain.source), ("type", .string "list")]⟩,
         ⟨"POST", url.target, c.authorization,
           .object [("config", .object [("ignoreErrors", .boolean true)]), ("mbean", .string text),
             ("type", .string "read")]⟩] ∧
      ∃ asked, Conversation p.questions (agent.upcoming 3) asked ∧
        (c.snapshot agent p).1.exchanges =
          agent.exchanges ++ asked.map (fun x => (c.requestOf url x.1, x.2)) ∧
        ((∃ snapshot, (c.snapshot agent p).2 = .ok snapshot) ↔
          ∀ x ∈ asked, x.1.isAnsweredBy x.2 = true)) ∧
    (∀ fault, Url.ofText c.baseUrl = .error fault →
      c.snapshot agent p = (agent, .error (.responseFailed fault.message))) ∧
    (Pattern.ofText? s.objectPattern = some p →
      ∀ fault, (c.snapshot agent p).2 = .error fault →
        ∃ after, e.scrape (.agent c agent) nanos = (.agent c (c.snapshot agent p).1, after, .ok []) ∧
          PassesEmpty e after nanos) ∧
    (Pattern.ofText? s.objectPattern = none → ∀ source,
      ∃ after, e.scrape source nanos = (source, after, .ok []) ∧ PassesEmpty e after nanos) := by
  refine ⟨fun url hu => ?_, fun fault hu => Client.snapshot_of_url_error hu, fun hs fault hf => ?_,
    fun hs source => ?_⟩
  · obtain ⟨asked, h⟩ := Client.exists_recounts hu hp agent
    refine ⟨?_, asked, h.conversation, h.exchanges, h.answered⟩
    -- the members of a body are in the order of their keys
    rw [← Pattern.text_of_ofText? hp]
    rfl
  · exact scrape_of_error (ha.pattern.trans hs) hf nanos
  · exact scrape_of_pattern_eq_none (ha.pattern.trans hs) source nanos

/-- The answers of an agent that finds the status of the node, but does not list its domain. -/
def listRejected : List Answer :=
  [.response 200
    "\x7b\"request\": \x7b\"type\": \"search\"\x7d, \"value\": [\"io.crate.monitoring:type=NodeStatus\"], \"status\": 200\x7d",
   .response 200
    "\x7b\"request\": \x7b\"type\": \"list\"\x7d, \"error\": \"no such domain\", \"status\": 404\x7d"]

/-- The third question is not asked, and a pass finds nothing. -/
theorem all_or_nothing_listRejected :
    let c := Client.create "http://localhost:8778/jolokia" 5000
    let agent := Agent.answering listRejected
    let p : Pattern := ⟨"io.crate.monitoring:*", ⟨"io.crate.monitoring"⟩, [], true⟩
    let e := create .default (.since .zero)
    Pattern.ofText? Settings.default.objectPattern = some p ∧
      (c.snapshot agent p).1.exchanges.length = 2 ∧
      (c.snapshot agent p).2.toOption.isNone = true ∧
      ∃ after, e.scrape (.agent c agent) 0 = (.agent c (c.snapshot agent p).1, after, .ok []) ∧
        PassesEmpty e after 0 := by
  intro c agent p e
  have hp : Pattern.ofText? Settings.default.objectPattern = some p := by rfl
  have hlength : (c.snapshot agent p).1.exchanges.length = 2 := by decide +kernel
  have hnone : (c.snapshot agent p).2.toOption.isNone = true := by decide +kernel
  obtain ⟨-, -, hscrape, -⟩ := all_or_nothing c agent hp (.refl e) 0
  refine ⟨hp, hlength, hnone, ?_⟩
  cases hr : (c.snapshot agent p).2 with
  | error fault => exact hscrape hp fault hr
  | ok snapshot =>
    rw [hr] at hnone
    cases hnone

end Engine
end BeanMetrics
