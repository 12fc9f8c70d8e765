import AwaitLint.Proofs.ConcurrentCalls
import AwaitLint.Proofs.KeyBytes
import AwaitLint.Proofs.ResultContent

/-! # Answers from the store say what an analysis would say

Whatever is readable in the store was computed, without a fault, for a call with the digest under which
it is kept. This holds after every event, whichever calls are on the way. If no two of the calls have
different messages with one digest, such a result agrees with the analysis of every call that finds it.
-/

namespace AwaitLint

/-- The result was computed for one of these inquiries, which has this digest, and has no fault. -/
def AnalysisResult.ComputedFor (settings : Settings) (qs : List Inquiry) (hash : String)
    (r : AnalysisResult) : Prop :=
  ∃ q ∈ qs, CodeKey.of settings q.code q.filename = hash ∧ r.fault = none ∧
    ∃ id tickets, r = (compute settings id q tickets).1

/-- Everything readable in the store was computed for one of these inquiries. -/
def Store.Sound (settings : Settings) (qs : List Inquiry) (s : Store) : Prop :=
  ∀ hash r, s.kept? hash = some r → r.ComputedFor settings qs hash

/-- Where the result of a call with this inquiry, identifier and digest comes from. -/
def Stage.Sound (settings : Settings) (qs : List Inquiry) (q : Inquiry) (id hash : String) : Stage → Prop
  | asked => True
  | missed => True
  | analyzed r => r.fault = none ∧ ∃ tickets, r = (AnalysisResult.compute settings id q tickets).1
  | answered r false => ∃ tickets, r = (AnalysisResult.compute settings id q tickets).1
  | answered r true => ∃ kept : AnalysisResult, kept.ComputedFor settings qs hash ∧
      r = Service.reuse ⟨q, id, hash, some kept⟩ kept

structure Call.Sound (settings : Settings) (qs : List Inquiry) (c : Call) : Prop where
  mem : c.inquiry ∈ qs
  codeHash : CodeKey.of settings c.inquiry.code c.inquiry.filename = c.codeHash
  stage : c.stage.Sound settings qs c.inquiry c.analysisId c.codeHash

/-- What holds of the store and of all calls at every time. -/
structure Traffic.Sound (settings : Settings) (qs : List Inquiry) (t : Traffic) : Prop where
  store : t.service.store.Sound settings qs
  calls : ∀ c ∈ t.calls, c.Sound settings qs

variable {settings : Settings} {qs : List Inquiry}

/-! ## What a step of a call does -/

namespace Service

theorem store_find (hash : String) (s : Service) : (s.find hash).2.store = s.store := by
  unfold find
  split <;> rfl

theorem kept?_of_find {hash : String} {s : Service} {r : AnalysisResult}
    (h : (s.find hash).1 = some r) : s.store.kept? hash = some r := by
  unfold find at h
  split at h
  · next r' hr =>
    obtain rfl : r' = r := Option.some.inj h
    exact kept?_of_readable hr
  · cases h

/-- Only a result that was computed under its digest and has no fault is kept. -/
theorem sound_keep {hash : String} {r : AnalysisResult} {s : Service} (hs : s.store.Sound settings qs)
    (hr : r.ComputedFor settings qs hash) (ttl : Option Int) :
    (s.keep settings hash r ttl).2.store.Sound settings qs := by
  intro hash' r' hkept
  rcases kept?_keep settings hash hash' r ttl s with h | ⟨rfl, h⟩
  · exact hs hash' r' (h ▸ hkept)
  · obtain ⟨q, hq, hkey, hfault, id, tickets, rfl⟩ := hr
    rw [h, AnalysisResult.ofText?_compute] at hkept
    obtain rfl := Option.some.inj hkept
    exact ⟨q, hq, hkey, hfault, id, tickets, rfl⟩

end Service

theorem Call.sound_advance {c : Call} {s : Service} (hc : c.Sound settings qs)
    (hs : s.store.Sound settings qs) :
    (c.advance settings s).1.Sound settings qs ∧ (c.advance settings s).2.store.Sound settings qs := by
  obtain ⟨q, id, hash, stage⟩ := c
  obtain ⟨hq, hhash, hstage⟩ := hc
  cases stage with
  | asked =>
    have hstore : (s.find hash).2.store.Sound settings qs := by
      rw [Service.store_find]
      exact hs
    simp only [advance]
    cases hf : (s.find hash).1 with
    | some r =>
      have hr : r.ComputedFor settings qs hash := hs hash r (Service.kept?_of_find hf)
      exact ⟨⟨hq, hhash, r, hr, rfl⟩, hstore⟩
    | none => exact ⟨⟨hq, hhash, trivial⟩, hstore⟩
  | missed =>
    refine ⟨⟨hq, hhash, ?_⟩, hs⟩
    simp only [advance]
    split
    · exact ⟨s.tickets, rfl⟩
    · next h => exact ⟨by simpa using h, s.tickets, rfl⟩
  | analyzed r =>
    obtain ⟨hfault, tickets, hr⟩ := hstage
    refine ⟨⟨hq, hhash, tickets, hr⟩, ?_⟩
    exact Service.sound_keep hs ⟨q, hq, hhash, hfault, id, tickets, hr⟩ none
  | answered r wasKept => exact ⟨⟨hq, hhash, hstage⟩, hs⟩

/-! ## What every run preserves -/

theorem Store.sound_expire {s : Store} (hs : s.Sound settings qs) (key : String) :
    (s.expire key).Sound settings qs := by
  intro hash r hkept
  rw [kept?, lookup_expire] at hkept
  split at hkept
  · cases hkept
  · exact hs hash r hkept

namespace Traffic

theorem sound_step {t : Traffic} (ht : t.Sound settings qs) {e : Event} (he : arrivals [e] ⊆ qs) :
    (t.step settings e).Sound settings qs := by
  cases e with
  | arrive q =>
    have hq : q ∈ qs := he (by simp [arrivals])
    refine ⟨ht.store, fun c hc => ?_⟩
    rcases List.mem_append.1 hc with hc | hc
    · exact ht.calls c hc
    · obtain rfl := List.mem_singleton.1 hc
      exact ⟨hq, rfl, trivial⟩
  | advance i =>
    simp only [step, advance]
    split
    · next c hc =>
      obtain ⟨hcall, hstore⟩ := Call.sound_advance (ht.calls c (List.mem_of_getElem? hc)) ht.store
      refine ⟨hstore, fun c' hc' => ?_⟩
      rcases List.mem_or_eq_of_mem_set hc' with hc' | rfl
      · exact ht.calls c' hc'
      · exact hcall
    · exact ht
  | outage down => exact ⟨ht.store, ht.calls⟩
  | expire key => exact ⟨Store.sound_expire ht.store key, ht.calls⟩

theorem sound_run {events : List Event} {t : Traffic} (ht : t.Sound settings qs)
    (he : arrivals events ⊆ qs) : (run settings events t).Sound settings qs := by
  induction events generalizing t with
  | nil => exact ht
  | cons e events ih =>
    have split : arrivals (e :: events) = arrivals [e] ++ arrivals events := by
      rw [arrivals, arrivals, arrivals, ← List.filterMap_append]
      rfl
    rw [split] at he
    rw [run_cons]
    have hstep := sound_step ht (List.Subset.trans (List.subset_append_left _ _) he)
    exact ih hstep (List.Subset.trans (List.subset_append_right _ _) he)

theorem sound_of_empty {s : Service} (empty : ∀ hash, s.store.kept? hash = none) :
    Sound settings qs ⟨s, []⟩ := by
  refine ⟨fun hash r h => ?_, by simp⟩
  rw [empty hash] at h
  cases h

end Traffic

/-! ## What an answer says -/

/-- Among these inquiries, what is digested differs only if the digests do. -/
def CollisionFree (settings : Settings) (qs : List Inquiry) : Prop :=
  ∀ q ∈ qs, ∀ q' ∈ qs,
    let message := CodeKey.message q.code q.filename settings.fingerprint
    let message' := CodeKey.message q'.code q'.filename settings.fingerprint
    Sha256.digest message = Sha256.digest message' → message = message'

/-- Of two inquiries whose texts parse, one key means one text and one file name. -/
theorem CollisionFree.same_text (free : CollisionFree settings qs) {q q' : Inquiry} (hq : q ∈ qs)
    (hq' : q' ∈ qs) (hp : ∃ tree, Grammar.parseText q.code.toList = .ok tree)
    (hp' : ∃ tree, Grammar.parseText q'.code.toList = .ok tree)
    (h : CodeKey.of settings q.code q.filename = CodeKey.of settings q'.code q'.filename) :
    q.code = q'.code ∧ q.filename.getD "" = q'.filename.getD "" := by
  obtain ⟨tree, hp⟩ := hp
  obtain ⟨tree', hp'⟩ := hp'
  exact CodeKey.message_inj (Grammar.not_mem_of_parseText hp) (Grammar.not_mem_of_parseText hp')
    (free q hq q' hq' (CodeKey.digest_eq_of_ofRuleset_eq h))

namespace AnalysisResult

/-- The answer to a call: what an analysis of its text says, with its own identifiers. -/
structure Answers (settings : Settings) (c : Call) (wasKept : Bool) (r : AnalysisResult) : Prop where
  agrees : ∀ tickets, r.Agrees (compute settings c.analysisId c.inquiry tickets).1
  analysisId : r.analysisId = c.analysisId
  requestId : r.requestId = c.inquiry.requestId
  fromCache : r.fromCache = true ↔ wasKept = true

theorem answers_compute (settings : Settings) (c : Call) (tickets : Tickets) :
    (compute settings c.analysisId c.inquiry tickets).1.Answers settings c false := by
  obtain ⟨hid, hrequest, hcache, -⟩ := compute_carries settings c.analysisId c.inquiry tickets
  refine ⟨fun tickets' => ?_, hid, hrequest, by simp [hcache]⟩
  exact compute_agrees settings rfl rfl _ _ tickets tickets'

/-- A kept result answers a call under its digest as an analysis would. -/
theorem ComputedFor.answers_reuse {c : Call} {r : AnalysisResult} (free : CollisionFree settings qs)
    (hc : c.Sound settings qs) (hp : ∃ tree, Grammar.parseText c.inquiry.code.toList = .ok tree)
    (hr : r.ComputedFor settings qs c.codeHash) :
    (Service.reuse ⟨c.inquiry, c.analysisId, c.codeHash, some r⟩ r).Answers settings c true := by
  obtain ⟨q, hq, hkey, hfault, id, tickets, rfl⟩ := hr
  have hpq : ∃ tree, Grammar.parseText q.code.toList = .ok tree :=
    ((compute_fault _ _ _ _).1 hfault).imp fun _ h => (Grammar.parseFile_eq_ok.1 h).2
  obtain ⟨hcode, hname⟩ := free.same_text hq hc.mem hpq hp (hkey.trans hc.codeHash.symm)
  refine ⟨fun tickets' => ?_, rfl, rfl, by simp [Service.reuse]⟩
  have agrees := compute_agrees settings hcode hname id c.analysisId tickets tickets'
  exact ⟨agrees.suggestions, agrees.rulesApplied, agrees.functions, agrees.codeHash, agrees.fault⟩

end AnalysisResult

theorem Call.Sound.answers {c : Call} {r : AnalysisResult} {wasKept : Bool}
    (free : CollisionFree settings qs) (hc : c.Sound settings qs) (hs : c.stage = .answered r wasKept)
    (hp : ∃ tree, Grammar.parseText c.inquiry.code.toList = .ok tree) : r.Answers settings c wasKept := by
  have hstage := hc.stage
  rw [hs] at hstage
  cases wasKept with
  | false =>
    obtain ⟨tickets, rfl⟩ := hstage
    exact AnalysisResult.answers_compute settings c tickets
  | true =>
    obtain ⟨kept, hkept, rfl⟩ := hstage
    exact hkept.answers_reuse free hc hp

namespace Traffic

/-- What can be relied on after a run, whichever steps of the calls and failures of the store it mixes. -/
structure Reliable (settings : Settings) (first : Nat) (events : List Event) (t : Traffic) : Prop where
  calls : t.calls.map Call.inquiry = arrivals events
  /-- The identifiers are new, as long as there are unused ones. -/
  identifiers : t.service.tickets.next ≤ Nat.pow 16 12 → (t.calls.map Call.analysisId).Nodup ∧
    ∀ n < first, Tickets.label "an" 12 n ∉ t.calls.map Call.analysisId
  /-- A call is answered once it has taken three steps. -/
  answered : ∀ before after i, events = before ++ after → i < (arrivals before).length →
    3 ≤ after.count (.advance i) → ∃ c r wasKept, t.calls[i]? = some c ∧ c.stage = .answered r wasKept
  answers : ∀ c ∈ t.calls, ∀ r wasKept, c.stage = .answered r wasKept →
    (∃ tree, Grammar.parseText c.inquiry.code.toList = .ok tree) → r.Answers settings c wasKept
  /-- What is kept was computed, and parsed. -/
  kept : ∀ hash r, t.service.store.kept? hash = some r →
    r.codeHash = hash ∧ r.fromCache = false ∧ r.fault = none

/-- A service whose store begins without readable results answers every call as an analysis would. -/
theorem run_reliable (settings : Settings) (s : Service) (events : List Event)
    (empty : ∀ hash, s.store.kept? hash = none) (free : CollisionFree settings (arrivals events)) :
    (run settings events ⟨s, []⟩).Reliable settings s.tickets.next events := by
  have start : Sound settings (arrivals events) ⟨s, []⟩ := by
    refine ⟨fun hash r h => ?_, by simp⟩
    rw [empty hash] at h
    cases h
  have sound := sound_run start (List.Subset.refl _)
  have numbered : Numbered s.tickets.next ⟨s, []⟩ := ⟨Nat.le_refl _, [], .nil, by simp, rfl⟩
  refine ⟨?_, (numbered_run settings events numbered).identifiers_new, ?_, ?_, ?_⟩
  · simpa using map_inquiry_run settings events ⟨s, []⟩
  · rintro before after i rfl hi hcount
    have hlength := congrArg List.length (map_inquiry_run settings before ⟨s, []⟩)
    rw [run_append]
    refine answered_of_count settings after ?_ hcount
    simp only [List.length_map, List.map_nil, List.nil_append] at hlength
    rwa [hlength]
  · exact fun c hc r wasKept hs hp => (sound.calls c hc).answers free hs hp
  · intro hash r hr
    obtain ⟨q, -, hkey, hfault, id, tickets, rfl⟩ := sound.store hash r hr
    obtain ⟨-, -, hcache, hhash⟩ := AnalysisResult.compute_carries settings id q tickets
    exact ⟨hhash.trans hkey, hcache, hfault⟩

/-- Settings with one name and two patterns. -/
def fewPatterns : Settings :=
  { Settings.default with
    parallelCombinators := "asyncio.gather"
    handlerPatterns := "*/api/*"
    servicePatterns := "*/services/*" }

def twoAwaits : String := "async def f():\n    a = await g()\n    b = await h()\n"

/-- One text twice, without a file name and with an empty one, and another text between them. -/
def sharedText : List Inquiry :=
  [⟨twoAwaits, none, "first"⟩, ⟨"x = 1\n", some "x.py", "other"⟩, ⟨twoAwaits, some "", "second"⟩]

/-- The calls take turns. The store does not answer the second one and does not keep its result; what it
keeps for the first one expires after the third one has found it. -/
def takingTurns : List Traffic.Event :=
  sharedText.map .arrive ++
    [.advance 0, .outage [.get, .set], .advance 1, .advance 0, .advance 1, .advance 1, .outage [],
      .advance 0, .advance 2, .advance 2, .advance 2,
      .expire (Service.keyOf (CodeKey.of fewPatterns twoAwaits none))]

theorem collisionFree_sharedText : CollisionFree fewPatterns sharedText := by
  have names : fewPatterns.combinators = ["asyncio.gather"] := by decide +kernel
  have sorted : sortedNames ["asyncio.gather"] = ["asyncio.gather"] := List.mergeSort_singleton _
  have fingerprint : fewPatterns.fingerprint = "asyncio.gather|*/api/*|*/services/*" := by
    rw [Settings.fingerprint, names, sorted]
    decide +kernel
  unfold CollisionFree
  rw [fingerprint]
  decide +kernel

/-- A store whose only value is no result. -/
def litteredStore : Store := { entries := [(Service.keyOf "0", "no result")] }

theorem kept?_litteredStore (hash : String) : litteredStore.kept? hash = none := by
  have unreadable : AnalysisResult.ofText? "no result" = none := by decide +kernel
  unfold Store.kept? Store.lookup litteredStore
  by_cases h : (Service.keyOf "0" == Service.keyOf hash) = true
  · simp only [List.find?_cons, h, Option.map_some, Option.bind_some, unreadable]
  · simp only [List.find?_cons, h, List.find?_nil, Option.map_none, Option.bind_none]

theorem run_reliable_takingTurns :
    let t := run fewPatterns takingTurns ⟨{ store := litteredStore, tickets := ⟨0⟩ }, []⟩
    t.Reliable fewPatterns 0 takingTurns ∧ ∃ c ∈ t.calls, ∃ r wasKept,
      c.inquiry.requestId = "second" ∧ c.stage = .answered r wasKept ∧ r.Answers fewPatterns c wasKept := by
  have reliable := run_reliable fewPatterns { store := litteredStore, tickets := ⟨0⟩ } takingTurns
    kept?_litteredStore collisionFree_sharedText
  obtain ⟨c, r, wasKept, hc, hs⟩ := reliable.answered (sharedText.map .arrive) _ 2 rfl (by decide) (by decide)
  have hmem := List.mem_of_getElem? hc
  have hq : sharedText[2]? = some c.inquiry := by
    have hmap := congrArg (·[2]?) reliable.calls
    rw [List.getElem?_map, hc] at hmap
    exact hmap.symm
  have parses : ∀ q, sharedText[2]? = some q →
      q.requestId = "second" ∧ (Grammar.parseText q.code.toList).isOk = true := by
    rintro q ⟨⟩
    decide +kernel
  obtain ⟨hid, hok⟩ := parses _ hq
  exact ⟨reliable, c, hmem, r, wasKept, hid, hs,
    reliable.answers c hmem r wasKept hs (Grammar.exists_of_isOk hok)⟩

end Traffic

end AwaitLint
