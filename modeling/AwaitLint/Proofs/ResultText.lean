import AwaitLint.Proofs.JsonRoundTrip
import AwaitLint.Service

/-! # Results read back from the text under which they are kept

A suggestion is read within its bounds, and within its bounds it is read back as it was.
-/

namespace AwaitLint

open Record

namespace Record

variable {α β : Type}

@[simp] theorem Checked.under_ok (step : Step) (a : α) : (Checked.ok a).under step = .ok a := rfl

@[simp] theorem Checked.functor_map_ok (f : α → β) (a : α) : (f <$> Checked.ok a) = .ok (f a) := rfl

@[simp] theorem Checked.seq_ok (f : α → β) (a : α) : (Checked.ok f <*> Checked.ok a) = .ok (f a) := rfl

theorem Checked.map_eq_ok {f : α → β} {x : Checked α} {b : β} :
    (f <$> x) = .ok b ↔ ∃ a, x = .ok a ∧ f a = b := by
  cases x <;> simp [Functor.map, Checked.seq]

theorem Checked.seq_eq_ok {f : Checked (α → β)} {x : Checked α} {b : β} :
    (f <*> x) = .ok b ↔ ∃ g a, f = .ok g ∧ x = .ok a ∧ g a = b := by
  cases f <;> cases x <;> simp [Seq.seq, Checked.seq]

theorem Checked.under_eq_ok {step : Step} {x : Checked α} {a : α} : x.under step = .ok a ↔ x = .ok a := by
  cases x <;> simp [Checked.under]

theorem Checked.holds_of_ensure {holds : α → Bool} {p : Problem} {x : Checked α} {a : α}
    (h : x.ensure holds p = .ok a) : x = .ok a ∧ holds a = true := by
  cases x with
  | ok b =>
    rw [ensure] at h
    split at h
    · cases h
      exact ⟨rfl, by assumption⟩
    · cases h
  | bad is => cases h

theorem Fields.exists_of_required {fs : Fields} {name : String} {d : Decoder α} {a : α}
    (h : fs.required name d = .ok a) : ∃ j, d j = .ok a := by
  rw [required, Checked.under_eq_ok] at h
  split at h
  · exact ⟨_, h⟩
  · cases h

theorem Fields.exists_of_optional {fs : Fields} {name : String} {d : Decoder α} {absent a : α}
    (h : fs.optional name d absent = .ok a) : a = absent ∨ ∃ j, d j = .ok a := by
  unfold optional at h
  split at h
  · exact .inr ⟨_, Checked.under_eq_ok.1 h⟩
  · cases h
    exact .inl rfl

theorem Decoder.items_map {d : Decoder α} {f : α → Json} {xs : List α} (h : ∀ x ∈ xs, d (f x) = .ok x)
    (n : Nat) : Decoder.items d n (xs.map f) = .ok xs := by
  induction xs generalizing n with
  | nil => rfl
  | cons x xs ih =>
    rw [List.map_cons, Decoder.items, h x List.mem_cons_self,
      ih fun y hy => h y (List.mem_cons_of_mem _ hy)]
    rfl

end Record

theorem Record.Decoder.nullable_ofOption {α : Type} {d : Decoder α} {f : α → Json} {o : Option α}
    (hn : ∀ a, f a ≠ .null) (h : ∀ a ∈ o, d (f a) = .ok a) :
    Decoder.nullable d (.ofOption f o) = .ok o := by
  cases o with
  | none => rfl
  | some a =>
    rw [Json.ofOption, Decoder.nullable, h a rfl]
    · rfl
    · exact hn a

theorem Json.faithful_ofOption {α : Type} {f : α → Json} {o : Option α} (h : ∀ a ∈ o, (f a).Faithful) :
    (Json.ofOption f o).Faithful := by
  cases o with
  | none => simp [Json.ofOption, Json.Faithful]
  | some a => exact h a rfl

theorem Json.faithfulAll_map {α : Type} {f : α → Json} {xs : List α} (h : ∀ x ∈ xs, (f x).Faithful) :
    Json.FaithfulAll (xs.map f) := by
  induction xs with
  | nil => simp [Json.FaithfulAll]
  | cons x xs ih =>
    rw [List.map_cons, Json.FaithfulAll]
    exact ⟨h x List.mem_cons_self, ih fun y hy => h y (List.mem_cons_of_mem _ hy)⟩

theorem Json.faithful_str (s : String) : (Json.str s).Faithful := by simp [Json.Faithful]

theorem Kind.oneOf_byText (k : Kind) : Decoder.oneOf Kind.byText (.str k.text) = .ok k := by
  cases k <;> rfl

namespace Suggestion

/-- The bounds that a suggestion is read with hold. -/
structure Admissible (s : Suggestion) : Prop where
  severity : 1 ≤ s.severity ∧ s.severity ≤ 5
  confidence : s.confidence.le (.ofNat 1) = true ∧ Binary64.zero.le s.confidence = true

/-- The bounds hold, and the numbers read back. -/
structure Keepable (s : Suggestion) : Prop extends s.Admissible where
  readsBack : Json.ReadsBack s.confidence ∧ Json.ReadsBack s.score

theorem le_severity? {j : Json} {n : Int} (h : severity? j = .ok n) : 1 ≤ n ∧ n ≤ 5 := by
  obtain ⟨h, least⟩ := Checked.holds_of_ensure h
  exact ⟨of_decide_eq_true least, of_decide_eq_true (Checked.holds_of_ensure h).2⟩

theorem le_confidence? {j : Json} {x : Binary64} (h : confidence? j = .ok x) :
    x.le (.ofNat 1) = true ∧ Binary64.zero.le x = true := by
  obtain ⟨h, least⟩ := Checked.holds_of_ensure h
  exact ⟨(Checked.holds_of_ensure h).2, least⟩

/-- The bounds hold for every suggestion that is read. -/
theorem admissible_of_decoder {e : Expects} {j : Json} {s : Suggestion} (h : decoder e j = .ok s) :
    s.Admissible := by
  unfold decoder record at h
  split at h
  · simp only [Checked.seq_eq_ok, Checked.map_eq_ok] at h
    -- the fields from the last one back; the severity and the confidence are the fourth and the fifth
    obtain ⟨_, _, ⟨_, _, ⟨_, _, ⟨_, _, ⟨_, _, ⟨_, _, ⟨_, confidence, ⟨_, severity, ⟨_, _, ⟨_, _, ⟨_, -, rfl⟩, -,
      rfl⟩, -, rfl⟩, hseverity, rfl⟩, hconfidence, rfl⟩, -, rfl⟩, -, rfl⟩, -, rfl⟩, -, rfl⟩, -, rfl⟩, -, rfl⟩ := h
    obtain ⟨_, hconfidence⟩ := Fields.exists_of_required hconfidence
    refine ⟨?_, le_confidence? hconfidence⟩
    rcases Fields.exists_of_optional hseverity with hdefault | ⟨_, hseverity⟩
    · simp [hdefault]
    · exact le_severity? hseverity
  · cases h

theorem decoder_toJson {s : Suggestion} (h : s.Admissible) (e : Expects) : decoder e s.toJson = .ok s := by
  have filename : Decoder.nullable Decoder.string (.ofOption .str s.filename) = .ok s.filename :=
    Decoder.nullable_ofOption (by simp) fun _ _ => rfl
  have severity : severity? (.int s.severity) = .ok s.severity := by
    simp [severity?, Decoder.integer, Checked.ensure, h.severity]
  have confidence : confidence? (.float s.confidence) = .ok s.confidence := by
    simp [confidence?, Decoder.number, Checked.ensure, h.confidence]
  rw [toJson, decoder, record]
  simp [Fields.required, Fields.optional, Fields.get?, severity, confidence, filename,
    Kind.oneOf_byText, Decoder.string, Decoder.integer, Decoder.number]

theorem faithful_toJson {s : Suggestion} (h : s.Keepable) : s.toJson.Faithful := by
  have filename : (Json.ofOption .str s.filename).Faithful :=
    Json.faithful_ofOption fun _ _ => Json.faithful_str _
  simp [toJson, Json.Faithful, Json.FaithfulFields, filename, h.readsBack]

end Suggestion

theorem FunctionInfo.decoder_toJson (f : FunctionInfo) (e : Expects) : decoder e f.toJson = .ok f := by
  rw [toJson, decoder, record]
  simp [Fields.required, Fields.get?, Decoder.string, Decoder.integer, Decoder.boolean]

theorem FunctionInfo.faithful_toJson (f : FunctionInfo) : f.toJson.Faithful := by
  simp [toJson, Json.Faithful, Json.FaithfulFields]

theorem ParseFault.decoder_toJson (f : ParseFault) (e : Expects) : decoder e f.toJson = .ok f := by
  rw [toJson, decoder, record]
  simp [Fields.required, Fields.get?, Decoder.string, Decoder.integer]

theorem ParseFault.faithful_toJson (f : ParseFault) : f.toJson.Faithful := by
  simp [toJson, Json.Faithful, Json.FaithfulFields]

namespace AnalysisResult

theorem decoder_toJson {r : AnalysisResult} (h : ∀ s ∈ r.suggestions, s.Keepable) (e : Expects) :
    decoder e r.toJson = .ok r := by
  have filename : Decoder.nullable Decoder.string (.ofOption .str r.filename) = .ok r.filename :=
    Decoder.nullable_ofOption (by simp) fun _ _ => rfl
  have suggestions : Decoder.list (Suggestion.decoder e) (.arr (r.suggestions.map Suggestion.toJson)) =
      .ok r.suggestions :=
    Decoder.items_map (fun s hs => Suggestion.decoder_toJson (h s hs).toAdmissible e) 0
  have rules : Decoder.list (Decoder.oneOf Kind.byText) (.arr (r.rulesApplied.map fun k => .str k.text)) =
      .ok r.rulesApplied :=
    Decoder.items_map (fun k _ => Kind.oneOf_byText k) 0
  have functions : Decoder.list (FunctionInfo.decoder e) (.arr (r.functions.map FunctionInfo.toJson)) =
      .ok r.functions :=
    Decoder.items_map (fun f _ => FunctionInfo.decoder_toJson f e) 0
  have fault : Decoder.nullable (ParseFault.decoder e) (.ofOption ParseFault.toJson r.fault) =
      .ok r.fault :=
    Decoder.nullable_ofOption (by simp [ParseFault.toJson]) fun f _ => ParseFault.decoder_toJson f e
  rw [toJson, decoder, record]
  simp [Fields.required, Fields.optional, Fields.get?, filename, suggestions, rules, functions, fault,
    Decoder.string, Decoder.boolean]

theorem faithful_toJson {r : AnalysisResult} (h : ∀ s ∈ r.suggestions, s.Keepable) :
    r.toJson.Faithful := by
  have filename : (Json.ofOption .str r.filename).Faithful :=
    Json.faithful_ofOption fun _ _ => Json.faithful_str _
  have suggestions : Json.FaithfulAll (r.suggestions.map Suggestion.toJson) :=
    Json.faithfulAll_map fun s hs => Suggestion.faithful_toJson (h s hs)
  have rules : Json.FaithfulAll (r.rulesApplied.map fun k => .str k.text) :=
    Json.faithfulAll_map fun _ _ => Json.faithful_str _
  have functions : Json.FaithfulAll (r.functions.map FunctionInfo.toJson) :=
    Json.faithfulAll_map fun f _ => f.faithful_toJson
  have fault : (Json.ofOption ParseFault.toJson r.fault).Faithful :=
    Json.faithful_ofOption fun f _ => f.faithful_toJson
  simp [toJson, Json.Faithful, Json.FaithfulFields, filename, suggestions, rules, functions, fault]

/-- A result that may be kept is read back from its text. -/
theorem ofText?_toText {r : AnalysisResult} (h : ∀ s ∈ r.suggestions, s.Keepable) :
    ofText? r.toText = some r := by
  have hj := faithful_toJson h
  rw [ofText?, toText, Json.onlyFinite_of_faithful hj, Json.read_compact hj]
  simp only [decoder_toJson h]

end AnalysisResult

end AwaitLint
