import AwaitLint.Proofs.CachedAnswers
import Mathlib.Algebra.Ring.Nat

/-! # What is counted for calls

At every time each counter is what it was at first and a share for every call, which depends only on how
far that call has come. So when all calls are answered, the counters can be read off the answers, however
the calls took turns and whatever the store held, refused or forgot.
-/

namespace AwaitLint

namespace Counters

/-- The number of findings of a kind. -/
def reported (k : Kind) (c : Counters) : Nat :=
  match k with
  | .waterfallChain => c.waterfallChains
  | .preferParallelCombinator => c.parallelRuns

theorem reported_finding (k k' : Kind) (c : Counters) :
    (c.finding k').reported k = c.reported k + [k'].count k := by
  cases k <;> cases k' <;> rfl

theorem findings_cons (k : Kind) (ks : List Kind) (c : Counters) :
    c.findings (k :: ks) = (c.finding k).findings ks := rfl

theorem reported_findings (k : Kind) (ks : List Kind) (c : Counters) :
    (c.findings ks).reported k = c.reported k + ks.count k := by
  induction ks generalizing c with
  | nil => rfl
  | cons k' ks ih =>
    have split : (k' :: ks).count k = [k'].count k + ks.count k := by
      rw [← List.count_append, List.singleton_append]
    rw [findings_cons, ih, reported_finding, split, Nat.add_assoc]

/-- Findings change no other counter. -/
theorem findings_frame (ks : List Kind) (c : Counters) :
    (c.findings ks).hits = c.hits ∧ (c.findings ks).misses = c.misses ∧
      (c.findings ks).parseErrors = c.parseErrors := by
  induction ks generalizing c with
  | nil => exact ⟨rfl, rfl, rfl⟩
  | cons k ks ih =>
    have first : (c.finding k).hits = c.hits ∧ (c.finding k).misses = c.misses ∧
        (c.finding k).parseErrors = c.parseErrors := by
      cases k <;> exact ⟨rfl, rfl, rfl⟩
    obtain ⟨hhits, hmisses, herrors⟩ := ih (c.finding k)
    exact ⟨hhits.trans first.1, hmisses.trans first.2.1, herrors.trans first.2.2⟩

end Counters

/-- The number of suggestions of a kind. -/
def AnalysisResult.ofKind (k : Kind) (r : AnalysisResult) : Nat := r.suggestions.countP fun x => x.rule = k

namespace Service

theorem find_cases (h : String) (s : Service) :
    (∃ r, s.find h = (some r, { s with counters := s.counters.hit })) ∨
      s.find h = (none, { s with counters := s.counters.miss }) := by
  unfold find
  split
  · next r _ => exact .inl ⟨r, rfl⟩
  · exact .inr rfl

theorem counters_keep (settings : Settings) (h : String) (r : AnalysisResult) (ttl : Option Int)
    (s : Service) : (s.keep settings h r ttl).2.counters = s.counters := by
  unfold keep
  split <;> rfl

theorem lookups_count (r : AnalysisResult) (c : Counters) :
    (count r c).hits = c.hits ∧ (count r c).misses = c.misses := by
  unfold count
  split
  · exact ⟨rfl, rfl⟩
  · obtain ⟨hhits, hmisses, -⟩ := Counters.findings_frame (r.suggestions.map (·.rule)) c.analysis
    exact ⟨hhits, hmisses⟩

theorem parseErrors_count (r : AnalysisResult) (c : Counters) :
    (count r c).parseErrors = c.parseErrors + if r.fault.isSome then 1 else 0 := by
  unfold count
  split
  · rfl
  · exact (Counters.findings_frame (r.suggestions.map (·.rule)) c.analysis).2.2

theorem reported_count (k : Kind) (r : AnalysisResult) (c : Counters) :
    (count r c).reported k = c.reported k + if r.fault.isSome then 0 else r.ofKind k := by
  unfold count
  split
  · cases k <;> rfl
  · have start : c.analysis.reported k = c.reported k := by cases k <;> rfl
    have counted : (r.suggestions.map (·.rule)).count k = r.ofKind k := by
      rw [List.count, List.countP_map]
      exact List.countP_congr fun x _ => by simp
    rw [Counters.reported_findings, start, counted]

end Service

/-- A text that does not parse has no suggestions. -/
theorem AnalysisResult.suggestions_of_fault (settings : Settings) (id : String) (q : Inquiry) (t : Tickets)
    (h : (compute settings id q t).1.fault.isSome) : (compute settings id q t).1.suggestions = [] := by
  unfold compute at h ⊢
  split
  · rfl
  · next ho => simp [ho, ofOutcome] at h

/-! ## Shares of the calls -/

theorem sum_map_set {α : Type} (share : α → Nat) {xs : List α} {i : Nat} {x : α} (h : xs[i]? = some x)
    (y : α) : ((xs.set i y).map share).sum + share x = (xs.map share).sum + share y := by
  induction xs generalizing i with
  | nil => simp at h
  | cons z xs ih =>
    cases i with
    | zero =>
      obtain rfl : z = x := by simpa using h
      simp only [List.set_cons_zero, List.map_cons, List.sum_cons]
      omega
    | succ i =>
      have rest := ih (i := i) (by simpa using h)
      simp only [List.set_cons_succ, List.map_cons, List.sum_cons]
      omega

/-- The share of a call: `base` when it has missed, and the weight of its result when it has one. -/
def Stage.share (base : Nat) (weight : AnalysisResult → Nat) : Stage → Nat
  | asked => 0
  | missed => base
  | analyzed r => weight r
  | answered r _ => weight r

/-- A counter that grows by `base` on a miss, by the weight of a result that is found in the store, and
up to the weight of a result that is computed. -/
structure Counters.Weighs (settings : Settings) (counter : Counters → Nat) (base : Nat)
    (weight : AnalysisResult → Nat) : Prop where
  hit : ∀ c p r, counter c.hit = counter c + weight (Service.reuse p r)
  miss : ∀ c, counter c.miss = counter c + base
  count : ∀ id q tickets c, let r := (AnalysisResult.compute settings id q tickets).1
    counter (Service.count r c) + base = counter c + weight r

variable {settings : Settings} {counter : Counters → Nat} {base : Nat} {weight : AnalysisResult → Nat}

/-- What a call adds to its share when it takes a step is added to the counter. -/
theorem Counters.Weighs.advance (hw : Weighs settings counter base weight) (c : Call) (s : Service) :
    counter (c.advance settings s).2.counters + c.stage.share base weight =
      counter s.counters + (c.advance settings s).1.stage.share base weight := by
  obtain ⟨q, id, hash, stage⟩ := c
  cases stage with
  | asked =>
    rcases Service.find_cases hash s with ⟨r, hf⟩ | hf
    · have hit := hw.hit s.counters ⟨q, id, hash, some r⟩ r
      simpa [Call.advance, hf, Stage.share] using hit
    · have miss := hw.miss s.counters
      simpa [Call.advance, hf, Stage.share] using miss
  | missed =>
    have counted := hw.count id q s.tickets s.counters
    cases fault : (AnalysisResult.compute settings id q s.tickets).1.fault.isSome <;>
      simpa [Call.advance, fault, Stage.share] using counted
  | analyzed r => simp [Call.advance, Service.counters_keep, Stage.share]
  | answered r wasKept => rfl

namespace Traffic

/-- The shares of all calls. -/
def shares (base : Nat) (weight : AnalysisResult → Nat) (t : Traffic) : Nat :=
  (t.calls.map fun c => c.stage.share base weight).sum

theorem counter_step (hw : Counters.Weighs settings counter base weight) (e : Event) (t : Traffic) :
    counter (t.step settings e).service.counters + t.shares base weight =
      counter t.service.counters + (t.step settings e).shares base weight := by
  cases e with
  | arrive q => simp [step, arrive, shares, Stage.share]
  | advance i =>
    simp only [step, advance]
    split
    · next c hc =>
      have call := hw.advance c t.service
      have others := sum_map_set (fun c => c.stage.share base weight) hc (c.advance settings t.service).1
      simp only [shares]
      omega
    · rfl
  | outage down => rfl
  | expire key => rfl

theorem counter_run (hw : Counters.Weighs settings counter base weight) (events : List Event)
    (t : Traffic) : counter (run settings events t).service.counters + t.shares base weight =
      counter t.service.counters + (run settings events t).shares base weight := by
  induction events generalizing t with
  | nil => rfl
  | cons e events ih =>
    have first := counter_step hw e t
    have rest := ih (t.step settings e)
    rw [run_cons]
    omega

end Traffic

/-! ## What the counters weigh -/

namespace Counters

theorem weighs_lookups (settings : Settings) :
    Weighs settings (fun c => c.hits + c.misses) 1 fun _ => 1 where
  hit c _ _ := Nat.add_right_comm c.hits 1 c.misses
  miss c := (Nat.add_assoc c.hits c.misses 1).symm
  count id q tickets c := by
    obtain ⟨hhits, hmisses⟩ :=
      Service.lookups_count (AnalysisResult.compute settings id q tickets).1 c
    simp only [hhits, hmisses]

theorem weighs_hits (settings : Settings) :
    Weighs settings hits 0 fun r => if r.fromCache then 1 else 0 where
  hit _ _ _ := rfl
  miss _ := rfl
  count id q tickets c := by
    have fresh := (AnalysisResult.compute_carries settings id q tickets).2.2.1
    simp [fresh, (Service.lookups_count _ c).1]

theorem weighs_parseErrors (settings : Settings) : Weighs settings parseErrors 0
    fun r => if !r.fromCache && r.fault.isSome then 1 else 0 where
  hit _ _ _ := rfl
  miss _ := rfl
  count id q tickets c := by
    have fresh := (AnalysisResult.compute_carries settings id q tickets).2.2.1
    simp [fresh, Service.parseErrors_count]

theorem weighs_reported (settings : Settings) (k : Kind) : Weighs settings (reported k) 0
    fun r => if !r.fromCache then r.ofKind k else 0 where
  hit _ _ _ := by cases k <;> rfl
  miss _ := by cases k <;> rfl
  count id q tickets c := by
    have fresh := (AnalysisResult.compute_carries settings id q tickets).2.2.1
    have nothing := AnalysisResult.suggestions_of_fault settings id q tickets
    simp only [Service.reported_count, fresh]
    split
    -- a text that does not parse is not counted here, and there is nothing to count
    · next fault => simp [AnalysisResult.ofKind, nothing fault]
    · simp

end Counters

/-! ## When all calls are answered -/

namespace Traffic

/-- The results of the calls that are answered. -/
def results (t : Traffic) : List AnalysisResult := t.calls.filterMap Call.result?

/-- Every call is answered. -/
def Complete (t : Traffic) : Prop := ∀ c ∈ t.calls, c.result?.isSome

variable {t : Traffic}

theorem Complete.map_results (h : t.Complete) {β : Type} {f : Call → β} {g : AnalysisResult → β}
    (hf : ∀ c r, c.result? = some r → f c = g r) : t.calls.map f = t.results.map g := by
  have known : ∀ c ∈ t.calls, c.result?.map g = some (f c) := by
    intro c hc
    obtain ⟨r, hr⟩ := Option.isSome_iff_exists.1 (h c hc)
    rw [hr, Option.map_some, hf c r hr]
  rw [results, List.map_filterMap, List.filterMap_congr known, List.filterMap_eq_map']

theorem Complete.shares_eq (h : t.Complete) (base : Nat) (weight : AnalysisResult → Nat) :
    t.shares base weight = (t.results.map weight).sum := by
  have stages : ∀ c r, Call.result? c = some r → c.stage.share base weight = weight r := by
    rintro ⟨q, id, hash, stage⟩ r hr
    cases stage with
    | answered r' wasKept =>
      obtain rfl : r' = r := Option.some.inj hr
      rfl
    | _ => cases hr
  rw [shares, h.map_results stages]

theorem sum_map_ite {α : Type} (p : α → Bool) (f : α → Nat) (xs : List α) :
    (xs.map fun x => if p x then f x else 0).sum = ((xs.filter p).map f).sum := by
  induction xs with
  | nil => rfl
  | cons x xs ih => cases h : p x <;> simp [h, ih]

theorem sum_map_one_of {α : Type} (p : α → Bool) (xs : List α) :
    (xs.map fun x => if p x then 1 else 0).sum = xs.countP p := by
  rw [sum_map_ite, List.map_const', List.sum_replicate_nat, List.countP_eq_length_filter, Nat.mul_one]

/-- What a counter shows when all calls are answered. -/
theorem Complete.counter_eq {s : Service} {events : List Event}
    (h : (run settings events ⟨s, []⟩).Complete) (hw : Counters.Weighs settings counter base weight) :
    counter (run settings events ⟨s, []⟩).service.counters =
      counter s.counters + ((run settings events ⟨s, []⟩).results.map weight).sum := by
  have all := counter_run hw events ⟨s, []⟩
  rwa [h.shares_eq base weight] at all

/-- If all calls of a run are answered, there is a hit or a miss for each call. The hits are the answers
from the store; the texts that did not parse and the suggestions of each kind are counted for the other
answers. -/
theorem run_counts_answers (settings : Settings) (s : Service) (events : List Event)
    (complete : (run settings events ⟨s, []⟩).Complete) :
    let t := run settings events ⟨s, []⟩
    let before := s.counters
    let after := t.service.counters
    t.results.length = (arrivals events).length ∧
    after.hits + after.misses = before.hits + before.misses + (arrivals events).length ∧
    after.hits = before.hits + t.results.countP (·.fromCache) ∧
    after.parseErrors =
      before.parseErrors + t.results.countP (fun r => !r.fromCache && r.fault.isSome) ∧
    ∀ k, after.reported k = before.reported k +
      ((t.results.filter fun r => !r.fromCache).map fun r => r.ofKind k).sum := by
  intro t before after
  have calls : t.calls.length = (arrivals events).length := by
    simpa using congrArg List.length (map_inquiry_run settings events ⟨s, []⟩)
  have answers : t.results.length = (arrivals events).length := by
    have units := complete.map_results (f := fun _ => ()) (g := fun _ => ()) fun _ _ _ => rfl
    have lengths := congrArg List.length units
    rw [List.length_map, List.length_map] at lengths
    exact lengths.symm.trans calls
  refine ⟨answers, ?_, ?_, ?_, ?_⟩
  · have lookups := complete.counter_eq (Counters.weighs_lookups settings)
    rw [List.map_const', List.sum_replicate_nat, Nat.mul_one, answers] at lookups
    exact lookups
  · have hits := complete.counter_eq (Counters.weighs_hits settings)
    rwa [sum_map_one_of] at hits
  · have errors := complete.counter_eq (Counters.weighs_parseErrors settings)
    rwa [sum_map_one_of] at errors
  · intro k
    have found := complete.counter_eq (Counters.weighs_reported settings k)
    rwa [sum_map_ite] at found

/-- All calls are answered if each has taken three steps after the last one has arrived. -/
theorem complete_of_count (settings : Settings) (s : Service) (before after : List Event)
    (last : arrivals after = [])
    (steps : ∀ i < (arrivals before).length, 3 ≤ after.count (.advance i)) :
    (run settings (before ++ after) ⟨s, []⟩).Complete := by
  have arrived : ((run settings before ⟨s, []⟩).calls).length = (arrivals before).length := by
    simpa using congrArg List.length (map_inquiry_run settings before ⟨s, []⟩)
  have all : (run settings (before ++ after) ⟨s, []⟩).calls.length = (arrivals before).length := by
    have lengths := congrArg List.length (map_inquiry_run settings (before ++ after) ⟨s, []⟩)
    rw [arrivals, List.filterMap_append, ← arrivals, ← arrivals, last] at lengths
    simpa using lengths
  intro c hc
  obtain ⟨i, hi, rfl⟩ := List.getElem_of_mem hc
  have bound : i < (arrivals before).length := all ▸ hi
  obtain ⟨c, r, wasKept, hc', hs⟩ := answered_of_count settings after (arrived ▸ bound) (steps i bound)
  rw [← run_append, List.getElem?_eq_getElem hi] at hc'
  rw [Option.some.inj hc', Call.result?, hs]
  rfl

theorem run_counts_answers_takingTurns :
    let s : Service := { store := litteredStore, tickets := ⟨0⟩ }
    let t := run fewPatterns takingTurns ⟨s, []⟩
    t.Complete ∧ t.results.length = 3 ∧
      t.service.counters.hits + t.service.counters.misses = s.counters.hits + s.counters.misses + 3 ∧
      t.service.counters.hits = s.counters.hits + t.results.countP (·.fromCache) := by
  intro s t
  have three : (arrivals takingTurns).length = 3 := rfl
  have complete : t.Complete :=
    complete_of_count fewPatterns s (sharedText.map .arrive) (takingTurns.drop 3) (by decide) (by decide)
  obtain ⟨answers, lookups, hits, -, -⟩ := run_counts_answers fewPatterns s takingTurns complete
  rw [three] at answers lookups
  exact ⟨complete, answers, lookups, hits⟩

end Traffic

end AwaitLint
