import AwaitLint.Call
import AwaitLint.Proofs.Hexadecimal
import Mathlib.Data.List.Nodup

/-! # Calls that run side by side

Between any two steps of a call other calls may take theirs, commands of the store may begin or cease to
fail, and entries may expire. A call that is alone on the way does what the service does.
-/

namespace AwaitLint

/-- What can happen next. -/
inductive Traffic.Event
  | arrive (q : Inquiry)
  | advance (i : Nat)
  /-- From now on these commands fail, and no others. -/
  | outage (down : List Command)
  | expire (key : String)
  deriving DecidableEq, Repr

def Store.expire (key : String) (s : Store) : Store :=
  { s with entries := s.entries.filter fun e => e.1 != key }

namespace Store

theorem lookup_expire (key key' : String) (s : Store) :
    (s.expire key).lookup key' = if key' = key then none else s.lookup key' := by
  unfold expire lookup
  dsimp only
  rw [List.find?_filter]
  by_cases hk : key' = key
  · simp [hk]
  · rw [if_neg hk]
    congr 2
    funext e
    by_cases he : e.1 = key' <;> simp_all

theorem lookup_get {key : String} {s : Store} {found : Option String} (h : s.get key = .ok found) :
    s.lookup key = found := by
  unfold get attempt at h
  split at h
  · cases h
  · exact Except.ok.inj h

theorem lookup_set {key value : String} {ttl : Int} {s s' : Store} (h : s.set key value ttl = .ok s')
    (key' : String) : s'.lookup key' = if key' = key then some value else s.lookup key' := by
  unfold set attempt at h
  split at h
  · cases h
  · obtain rfl := Except.ok.inj h
    exact lookup_put key key' value s

/-- The result that the store holds under a digest, whether or not it answers. -/
def kept? (codeHash : String) (s : Store) : Option AnalysisResult :=
  (s.lookup (Service.keyOf codeHash)).bind AnalysisResult.ofText?

end Store

namespace Service

theorem keyOf_inj {h h' : String} : keyOf h = keyOf h' ↔ h = h' := by
  unfold keyOf
  exact String.append_right_inj _

theorem kept?_of_readable {h : String} {s : Store} {r : AnalysisResult} (hr : readable h s = some r) :
    s.kept? h = some r := by
  unfold readable at hr
  split at hr
  · next text he =>
    rw [Store.kept?, Store.lookup_get he]
    exact hr
  · cases hr
  · cases hr

/-- What the store holds after a result was to be kept: the result, if the store took it. -/
theorem kept?_keep (settings : Settings) (h h' : String) (r : AnalysisResult) (ttl : Option Int)
    (s : Service) : (s.keep settings h r ttl).2.store.kept? h' = s.store.kept? h' ∨
      h' = h ∧ (s.keep settings h r ttl).2.store.kept? h' = AnalysisResult.ofText? r.toText := by
  unfold keep
  split
  · next store hset =>
    simp only [Store.kept?, Store.lookup_set hset, keyOf_inj]
    by_cases hh : h' = h
    · exact .inr ⟨hh, by rw [if_pos hh, Option.bind_some]⟩
    · exact .inl (by rw [if_neg hh])
  · exact .inl rfl

end Service

/-- A service with all the calls that have arrived, oldest first. -/
structure Traffic where
  service : Service
  calls : List Call := []

namespace Traffic

def arrive (settings : Settings) (q : Inquiry) (t : Traffic) : Traffic :=
  let (id, tickets) := t.service.tickets.draw "an" 12
  let call : Call := ⟨q, id, CodeKey.of settings q.code q.filename, .asked⟩
  ⟨{ t.service with tickets := tickets }, t.calls ++ [call]⟩

def advance (settings : Settings) (i : Nat) (t : Traffic) : Traffic :=
  match t.calls[i]? with
  | some c =>
    let (c, s) := c.advance settings t.service
    ⟨s, t.calls.set i c⟩
  | none => t

def withStore (f : Store → Store) (t : Traffic) : Traffic :=
  { t with service := { t.service with store := f t.service.store } }

def step (settings : Settings) (t : Traffic) : Event → Traffic
  | .arrive q => t.arrive settings q
  | .advance i => t.advance settings i
  | .outage down => t.withStore fun s => { s with down := down }
  | .expire key => t.withStore (Store.expire key)

def run (settings : Settings) (events : List Event) (t : Traffic) : Traffic :=
  events.foldl (step settings) t

theorem run_cons (settings : Settings) (e : Event) (events : List Event) (t : Traffic) :
    run settings (e :: events) t = run settings events (t.step settings e) := rfl

theorem run_append (settings : Settings) (before after : List Event) (t : Traffic) :
    run settings (before ++ after) t = run settings after (run settings before t) :=
  List.foldl_append

/-- The calls that arrive during a run, in order. -/
def arrivals (events : List Event) : List Inquiry :=
  events.filterMap fun
    | .arrive q => some q
    | _ => none

end Traffic

theorem Call.advance_fields (settings : Settings) (c : Call) (s : Service) :
    (c.advance settings s).1.inquiry = c.inquiry ∧
      (c.advance settings s).1.analysisId = c.analysisId ∧
      (c.advance settings s).1.codeHash = c.codeHash := by
  unfold advance
  split
  · dsimp only
    split <;> exact ⟨rfl, rfl, rfl⟩
  · exact ⟨rfl, rfl, rfl⟩
  · exact ⟨rfl, rfl, rfl⟩
  · exact ⟨rfl, rfl, rfl⟩

namespace Traffic

/-- The other calls, and what a call drew on arrival, stay as they are. -/
theorem map_advance {β : Type} {f : Call → β} (settings : Settings)
    (hf : ∀ c s, f (c.advance settings s).1 = f c) (i : Nat) (t : Traffic) :
    (t.advance settings i).calls.map f = t.calls.map f := by
  unfold advance
  split
  · next c hc =>
    obtain ⟨hi, rfl⟩ := List.getElem?_eq_some_iff.1 hc
    dsimp only
    rw [List.map_set, hf, ← List.getElem_map f (h := by simpa using hi), List.set_getElem_self]
  · rfl

theorem map_inquiry_step (settings : Settings) (e : Event) (t : Traffic) :
    (t.step settings e).calls.map Call.inquiry = t.calls.map Call.inquiry ++ arrivals [e] := by
  cases e with
  | arrive q => simp [step, arrive, arrivals]
  | advance i =>
    simpa [step, arrivals] using map_advance settings (fun c s => (c.advance_fields settings s).1) i t
  | outage down => simp [step, withStore, arrivals]
  | expire key => simp [step, withStore, arrivals]

/-- The calls of a run are those that arrive in it. -/
theorem map_inquiry_run (settings : Settings) (events : List Event) (t : Traffic) :
    (run settings events t).calls.map Call.inquiry = t.calls.map Call.inquiry ++ arrivals events := by
  induction events generalizing t with
  | nil => simp [run, arrivals]
  | cons e events ih =>
    rw [run_cons, ih, map_inquiry_step, List.append_assoc, arrivals, arrivals, ← List.filterMap_append]
    rfl

end Traffic

/-! ## Every call has a new identifier -/

theorem Suggestion.le_next_ofDiagnostics (filename : Option String) (ds : List Diagnostic) (t : Tickets) :
    t.next ≤ (ofDiagnostics filename ds t).2.next := by
  induction ds generalizing t with
  | nil => exact Nat.le_refl _
  | cons d ds ih =>
    rw [ofDiagnostics]
    exact Nat.le_trans (Nat.le_succ _) (ih _)

theorem AnalysisResult.le_next_compute (settings : Settings) (id : String) (q : Inquiry) (t : Tickets) :
    t.next ≤ (compute settings id q t).2.next := by
  unfold compute
  split
  · exact Nat.le_refl _
  · exact Suggestion.le_next_ofDiagnostics _ _ _

theorem Service.tickets_find (h : String) (s : Service) : (s.find h).2.tickets = s.tickets := by
  unfold find
  split <;> rfl

theorem Service.tickets_keep (settings : Settings) (h : String) (r : AnalysisResult) (ttl : Option Int)
    (s : Service) : (s.keep settings h r ttl).2.tickets = s.tickets := by
  unfold keep
  split <;> rfl

theorem Call.le_next_advance (settings : Settings) (c : Call) (s : Service) :
    s.tickets.next ≤ (c.advance settings s).2.tickets.next := by
  unfold advance
  split
  · dsimp only
    split <;> exact Nat.le_of_eq (by rw [Service.tickets_find])
  · exact AnalysisResult.le_next_compute settings c.analysisId c.inquiry s.tickets
  · exact Nat.le_of_eq (by rw [Service.tickets_keep])
  · exact Nat.le_refl _

namespace Traffic

/-- The calls are identified by numbers that were drawn one after another, none of them below `first`. -/
def Numbered (first : Nat) (t : Traffic) : Prop :=
  first ≤ t.service.tickets.next ∧ ∃ numbers : List Nat, numbers.Pairwise (· < ·) ∧
    (∀ n ∈ numbers, first ≤ n ∧ n < t.service.tickets.next) ∧
    t.calls.map Call.analysisId = numbers.map (Tickets.label "an" 12)

variable {first : Nat} {t : Traffic}

theorem numbered_step (settings : Settings) (e : Event) (h : t.Numbered first) :
    (t.step settings e).Numbered first := by
  obtain ⟨hfirst, numbers, sorted, bounds, labels⟩ := h
  cases e with
  | arrive q =>
    refine ⟨Nat.le_succ_of_le hfirst, numbers ++ [t.service.tickets.next], ?_, ?_, ?_⟩
    · refine List.pairwise_append.2 ⟨sorted, List.pairwise_singleton _ _, ?_⟩
      intro n hn m hm
      rw [List.mem_singleton.1 hm]
      exact (bounds n hn).2
    · intro n hn
      rcases List.mem_append.1 hn with hn | hn
      · exact ⟨(bounds n hn).1, Nat.lt_succ_of_lt (bounds n hn).2⟩
      · rw [List.mem_singleton.1 hn]
        exact ⟨hfirst, Nat.lt_succ_self _⟩
    · simp only [step, arrive, List.map_append, labels]
      rfl
  | advance i =>
    have hle : t.service.tickets.next ≤ (t.advance settings i).service.tickets.next := by
      unfold advance
      split
      · exact Call.le_next_advance settings _ _
      · exact Nat.le_refl _
    refine ⟨Nat.le_trans hfirst hle, numbers, sorted, ?_, ?_⟩
    · exact fun n hn => ⟨(bounds n hn).1, Nat.lt_of_lt_of_le (bounds n hn).2 hle⟩
    · exact (map_advance settings (fun c s => (c.advance_fields settings s).2.1) i t).trans labels
  | outage down => exact ⟨hfirst, numbers, sorted, bounds, labels⟩
  | expire key => exact ⟨hfirst, numbers, sorted, bounds, labels⟩

theorem numbered_run (settings : Settings) (events : List Event) (h : t.Numbered first) :
    (run settings events t).Numbered first := by
  induction events generalizing t with
  | nil => exact h
  | cons e events ih => exact ih (numbered_step settings e h)

/-- As long as the numbers fit the digits, no identifier is used twice, and none is one of an earlier
number. -/
theorem Numbered.identifiers_new (h : t.Numbered first) (hn : t.service.tickets.next ≤ Nat.pow 16 12) :
    (t.calls.map Call.analysisId).Nodup ∧
      ∀ n < first, Tickets.label "an" 12 n ∉ t.calls.map Call.analysisId := by
  obtain ⟨-, numbers, sorted, bounds, labels⟩ := h
  have small : ∀ n ∈ numbers, n < Nat.pow 16 12 := fun n hm => Nat.lt_of_lt_of_le (bounds n hm).2 hn
  rw [labels]
  constructor
  · refine List.Nodup.map_on ?_ (sorted.imp Nat.ne_of_lt)
    exact fun n hn m hm he => Tickets.label_inj (small n hn) (small m hm) he
  · intro n hlt hmem
    obtain ⟨m, hm, he⟩ := List.mem_map.1 hmem
    have hnm : n < m := Nat.lt_of_lt_of_le hlt (bounds m hm).1
    have hmn : m = n := Tickets.label_inj (small m hm) (Nat.lt_trans hnm (small m hm)) he
    omega

end Traffic

/-! ## Every call is answered -/

/-- The number of steps behind a call; three are enough. -/
def Stage.rank : Stage → Nat
  | asked => 0
  | missed => 1
  | analyzed _ => 2
  | answered _ _ => 3

theorem Call.rank_advance (settings : Settings) (c : Call) (s : Service) :
    min 3 (c.stage.rank + 1) ≤ (c.advance settings s).1.stage.rank := by
  unfold advance
  split
  · next h =>
    dsimp only
    split <;> simp [h, Stage.rank]
  · next h =>
    simp only [h]
    split <;> simp [Stage.rank]
  · next h => simp [h, Stage.rank]
  · next h => simp [h, Stage.rank]

namespace Traffic

theorem rank_step (settings : Settings) (e : Event) {t : Traffic} {i : Nat} {c : Call}
    (hc : t.calls[i]? = some c) : ∃ c', (t.step settings e).calls[i]? = some c' ∧
      min 3 (c.stage.rank + [e].count (.advance i)) ≤ c'.stage.rank := by
  cases e with
  | arrive q =>
    refine ⟨c, ?_, Nat.min_le_right _ _⟩
    obtain ⟨hi, -⟩ := List.getElem?_eq_some_iff.1 hc
    simp only [step, arrive]
    rw [List.getElem?_append_left hi, hc]
  | advance j =>
    by_cases hij : j = i
    · subst hij
      obtain ⟨hi, -⟩ := List.getElem?_eq_some_iff.1 hc
      refine ⟨(c.advance settings t.service).1, ?_, ?_⟩
      · simp only [step, advance, hc]
        simp [hi]
      · simpa using c.rank_advance settings t.service
    · have hcount : [Event.advance j].count (.advance i) = 0 := by simp [hij]
      refine ⟨c, ?_, hcount ▸ Nat.min_le_right _ _⟩
      simp only [step, advance]
      split
      · dsimp only
        rw [List.getElem?_set_ne hij, hc]
      · exact hc
  | outage down => exact ⟨c, hc, Nat.min_le_right _ _⟩
  | expire key => exact ⟨c, hc, Nat.min_le_right _ _⟩

theorem rank_run (settings : Settings) (events : List Event) {t : Traffic} {i : Nat} {c : Call}
    (hc : t.calls[i]? = some c) : ∃ c', (run settings events t).calls[i]? = some c' ∧
      min 3 (c.stage.rank + events.count (.advance i)) ≤ c'.stage.rank := by
  induction events generalizing t c with
  | nil => exact ⟨c, hc, Nat.min_le_right _ _⟩
  | cons e events ih =>
    obtain ⟨c', hc', hle⟩ := rank_step settings e hc
    obtain ⟨c'', hc'', hle'⟩ := ih hc'
    refine ⟨c'', hc'', ?_⟩
    have hcount : (e :: events).count (.advance i) =
        [e].count (.advance i) + events.count (.advance i) := by
      rw [← List.count_append, List.singleton_append]
    omega

/-- Whatever else happens, a call that takes three steps is answered. -/
theorem answered_of_count (settings : Settings) (events : List Event) {t : Traffic} {i : Nat}
    (hi : i < t.calls.length) (h : 3 ≤ events.count (.advance i)) :
    ∃ c r wasKept, (run settings events t).calls[i]? = some c ∧ c.stage = .answered r wasKept := by
  obtain ⟨c, hc, hle⟩ := rank_run settings events (List.getElem?_eq_getElem hi)
  have hrank : 3 ≤ c.stage.rank := by omega
  cases hs : c.stage with
  | answered r wasKept => exact ⟨c, r, wasKept, hc, hs⟩
  | _ => simp [hs, Stage.rank] at hrank

/-- A call that arrives and takes three steps is answered, under its place among the arrivals. -/
theorem exists_answered (settings : Settings) (s : Service) {before after : List Event} {i : Nat}
    (hi : i < (arrivals before).length) (h : 3 ≤ after.count (.advance i)) :
    ∃ c r wasKept, (run settings (before ++ after) ⟨s, []⟩).calls[i]? = some c ∧
      c.stage = .answered r wasKept ∧ (arrivals (before ++ after))[i]? = some c.inquiry := by
  have arrived := congrArg List.length (map_inquiry_run settings before ⟨s, []⟩)
  simp only [List.length_map, List.map_nil, List.nil_append] at arrived
  obtain ⟨c, r, wasKept, hc, hs⟩ := answered_of_count settings after (arrived ▸ hi) h
  rw [← run_append] at hc
  refine ⟨c, r, wasKept, hc, hs, ?_⟩
  have inquiries := congrArg (·[i]?) (map_inquiry_run settings (before ++ after) ⟨s, []⟩)
  simp only [List.getElem?_map, hc, List.map_nil, List.nil_append, Option.map_some] at inquiries
  exact inquiries.symm

end Traffic

/-! ## The two halves of a call

The halves of a call of the service are runs in which nothing else happens, so calls of the service that
take turns are covered.
-/

/-- The call that has taken its first half. -/
def Pending.call (p : Pending) : Call where
  inquiry := p.inquiry
  analysisId := p.analysisId
  codeHash := p.codeHash
  stage := match p.kept with
    | some r => .answered (Service.reuse p r) true
    | none => .missed

/-- Two more steps are the second half. -/
theorem Pending.advance_advance (settings : Settings) (p : Pending) (s : Service) :
    let (c, s₁) := p.call.advance settings s
    c.advance settings s₁ =
      ({ p.call with stage := .answered (s.finish settings p).1 p.kept.isSome },
        (s.finish settings p).2) := by
  obtain ⟨q, id, hash, kept⟩ := p
  cases kept with
  | some r => rfl
  | none =>
    let r := (AnalysisResult.compute settings id q s.tickets).1
    let s₁ : Service := { s with
      tickets := (AnalysisResult.compute settings id q s.tickets).2
      counters := Service.count r s.counters }
    have analysis : (⟨q, id, hash, none⟩ : Pending).call.advance settings s =
        (⟨q, id, hash, if r.fault.isSome then .answered r false else .analyzed r⟩, s₁) := rfl
    have second : s.finish settings ⟨q, id, hash, none⟩ =
        if r.fault.isSome then (r, s₁) else (r, (s₁.keep settings hash r none).2) := rfl
    rw [analysis, second]
    cases r.fault.isSome <;> rfl

namespace Traffic

theorem run_start (settings : Settings) (q : Inquiry) (t : Traffic) :
    run settings [.arrive q, .advance t.calls.length] t =
      ⟨(t.service.start settings q).2, t.calls ++ [(t.service.start settings q).1.call]⟩ := by
  obtain ⟨service, calls⟩ := t
  have arrived (s : Service) (c : Call) : advance settings calls.length ⟨s, calls ++ [c]⟩ =
      ⟨(c.advance settings s).2, calls ++ [(c.advance settings s).1]⟩ := by
    simp [advance]
  simp only [run_cons, step, arrive, arrived, Call.advance, Service.start]
  generalize Service.find _ _ = found
  obtain ⟨kept, s⟩ := found
  cases kept with
  | some r => rfl
  | none => rfl

theorem run_finish (settings : Settings) (p : Pending) {t : Traffic} {i : Nat}
    (hi : t.calls[i]? = some p.call) :
    run settings [.advance i, .advance i] t =
      ⟨(t.service.finish settings p).2, t.calls.set i
        { p.call with stage := .answered (t.service.finish settings p).1 p.kept.isSome }⟩ := by
  obtain ⟨hlt, -⟩ := List.getElem?_eq_some_iff.1 hi
  have halves := p.advance_advance settings t.service
  dsimp only at halves
  simp only [run_cons, step, advance, hi, List.getElem?_set_self hlt, halves, List.set_set]
  rfl

/-- A call during which nothing else happens is a call of the service. -/
theorem run_alone (settings : Settings) (q : Inquiry) (t : Traffic) :
    ∃ c wasKept, run settings (.arrive q :: List.replicate 3 (.advance t.calls.length)) t =
        ⟨(t.service.analyze settings q).2, t.calls ++ [c]⟩ ∧
      c.inquiry = q ∧ c.stage = .answered (t.service.analyze settings q).1 wasKept := by
  have hsplit : (.arrive q :: List.replicate 3 (.advance t.calls.length) : List Event) =
      [.arrive q, .advance t.calls.length] ++ [.advance t.calls.length, .advance t.calls.length] := rfl
  rw [hsplit, run_append, run_start, run_finish settings (t.service.start settings q).1 (by simp)]
  refine ⟨{ (t.service.start settings q).1.call with
    stage := .answered (t.service.analyze settings q).1 (t.service.start settings q).1.kept.isSome },
    _, ?_, rfl, rfl⟩
  simp only [List.set_append_right _ _ (Nat.le_refl _), Nat.sub_self, List.set_cons_zero]
  rfl

end Traffic

end AwaitLint
