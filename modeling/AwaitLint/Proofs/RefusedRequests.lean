import AwaitLint.Proofs.Directives
import AwaitLint.Proofs.ResultText
import AwaitLint.Server.Handler

/-! # Which requests are let in, and what a refused one leaves behind

A batch is let in exactly if its language is known, the number of its files is within bounds and each of its
files would be let in alone. Otherwise the first objection decides: the language, the number of files, the
first file that is too large. A request that is refused, for whatever reason, leaves the store and the
counters as they are.
-/

namespace AwaitLint

open Record

namespace Text

/-! ## Sizes and small letters -/

theorem byteLength_eq_utf8Size (c : Char) : byteLength c = c.utf8Size := by
  have value : c.toNat = c.val.toNat := rfl
  simp only [byteLength, Char.utf8Size, value, UInt32.le_iff_toNat_le, UInt32.toNat_ofNatLT]
  split_ifs <;> omega

theorem byteCount_eq_utf8ByteSize (cs : List Char) : byteCount cs = (String.ofList cs).utf8ByteSize := by
  induction cs with
  | nil => simp [byteCount]
  | cons c cs ih =>
    have split : String.ofList (c :: cs) = String.singleton c ++ String.ofList cs := by
      rw [String.singleton_eq_ofList, ← String.ofList_append, List.singleton_append]
    rw [split, String.utf8ByteSize_append, String.utf8ByteSize_singleton, ← ih, ← byteLength_eq_utf8Size]
    rfl

theorem toLower_of_not_ascii {c : Char} (h : 128 ≤ c.toNat) : c.toLower = c := by
  have upper : ¬ (c.val ≥ 'A'.val ∧ c.val ≤ 'Z'.val) := by
    rintro ⟨-, hz⟩
    have : c.toNat ≤ 90 := UInt32.le_iff_toNat_le.1 hz
    omega
  exact dif_neg upper

/-- The letters that are the small forms of ASCII letters only. -/
def IsPlain (c : Char) : Prop := c.toNat < 128 ∧ c ≠ 'i' ∧ c ≠ 'k'

instance : DecidablePred IsPlain := fun c => inferInstanceAs (Decidable (c.toNat < 128 ∧ c ≠ 'i' ∧ c ≠ 'k'))

/-- What is not ASCII has a small form that starts with no plain letter. -/
theorem lowerAfter_cons_of_not_ascii {c : Char} (h : 128 ≤ c.toNat) (before cs : List Char) :
    ∃ d rest, lowerAfter before (c :: cs) = d :: rest ∧ ¬ IsPlain d := by
  rw [lowerAfter]
  by_cases sigma : c.toNat = 0x3A3
  · rw [if_pos sigma]
    refine ⟨_, _, rfl, ?_⟩
    split <;> exact fun plain => absurd plain.1 (by decide)
  by_cases dotted : c.toNat = 0x130
  · rw [if_neg sigma, if_pos dotted]
    exact ⟨_, _, rfl, fun plain => plain.2.1 rfl⟩
  rw [if_neg sigma, if_neg dotted]
  refine ⟨_, _, rfl, fun plain => ?_⟩
  by_cases sign : c.toNat = kelvin
  · exact plain.2.2 (lowerChar_kelvin sign)
  · exact absurd plain.1 (Nat.not_lt.2 (lowerChar_far h dotted sign).1)

theorem lowerAfter_eq_iff {word : List Char} (plain : ∀ c ∈ word, IsPlain c) {before cs : List Char} :
    lowerAfter before cs = word ↔ cs.map Char.toLower = word := by
  induction cs generalizing before word with
  | nil => rfl
  | cons c cs ih =>
    by_cases ascii : c.toNat < 128
    · have small : lowerAfter before (c :: cs) = c.toLower :: lowerAfter (c :: before) cs := by
        rw [lowerAfter, if_neg (by omega), if_neg (by omega), lowerChar, if_pos ascii]
        rfl
      rw [small, List.map_cons]
      cases word with
      | nil => simp
      | cons w word =>
        rw [List.cons.injEq, List.cons.injEq, ih fun d hd => plain d (List.mem_cons_of_mem _ hd)]
    · obtain ⟨d, rest, hd, far⟩ := lowerAfter_cons_of_not_ascii (Nat.not_lt.1 ascii) before cs
      rw [hd, List.map_cons, toLower_of_not_ascii (Nat.not_lt.1 ascii)]
      constructor
      · rintro rfl
        exact absurd (plain d List.mem_cons_self) far
      · rintro rfl
        exact absurd (plain c List.mem_cons_self).1 ascii

end Text

/-! ## What is checked -/

namespace Admission

/-- The language is the known one, with its letters in either case. -/
def Supports (language : String) : Prop := language.toList.map Char.toLower = "python".toList

instance (language : String) : Decidable (Supports language) := inferInstanceAs (Decidable (_ = _))

/-- The file is larger than the settings allow. -/
def isTooLarge (s : Settings) (code : String) : Bool := decide (s.maxCodeBytes < code.utf8ByteSize)

theorem checkLanguage_eq (language : String) : checkLanguage language =
    if Supports language then .ok () else .error (.unsupportedLanguage language) := by
  have same : Text.lower language = "python" ↔ Supports language := by
    rw [Text.lower, Supports, ← String.toList_inj, String.toList_ofList]
    exact Text.lowerAfter_eq_iff (by simp [Text.IsPlain])
  rw [checkLanguage]
  simp only [same]

theorem checkSize_eq (s : Settings) (code : String) (filename : Option String) : checkSize s code filename =
    if isTooLarge s code then .error (.codeTooLarge filename code.utf8ByteSize s.maxCodeBytes) else .ok () := by
  simp only [checkSize, isTooLarge, Text.byteCount_eq_utf8ByteSize, String.ofList_toList, decide_eq_true_eq]

theorem checkText_eq_ok_iff {s : Settings} {language code : String} {filename : Option String} :
    checkText s language code filename = .ok () ↔ Supports language ∧ isTooLarge s code = false := by
  rw [checkText, checkSize_eq, checkLanguage_eq]
  cases isTooLarge s code with
  | true => simp [bind, Except.bind]
  | false => by_cases h : Supports language <;> simp [bind, Except.bind, h]

/-- Once the language is known, the first file that is too large stops the check of the files. -/
theorem forM_checkText {s : Settings} {language : String} (h : Supports language)
    (files : List (Option String × String)) :
    (files.forM fun f => checkText s language f.2 f.1) =
      match files.find? fun f => isTooLarge s f.2 with
      | some f => .error (.codeTooLarge f.1 f.2.utf8ByteSize s.maxCodeBytes)
      | none => .ok () := by
  induction files with
  | nil => rfl
  | cons f files ih =>
    rw [List.find?_cons]
    change (checkText s language f.2 f.1 >>= fun _ => files.forM fun f => checkText s language f.2 f.1) = _
    rw [ih]
    cases large : isTooLarge s f.2 with
    | true => simp [checkText, checkSize_eq, large, bind, Except.bind]
    | false => rw [checkText_eq_ok_iff.2 ⟨h, large⟩]; rfl

/-- A batch is checked for its language, then for the number of its files, then for their sizes. -/
theorem checkBatch_eq (s : Settings) (language : String) (files : List (Option String × String)) :
    checkBatch s language files =
      if Supports language then
        if files.length = 0 then .error .noFiles
        else if s.maxBatchFiles < files.length then .error (.tooManyFiles files.length s.maxBatchFiles)
        else match files.find? fun f => isTooLarge s f.2 with
          | some f => .error (.codeTooLarge f.1 f.2.utf8ByteSize s.maxCodeBytes)
          | none => .ok ()
      else .error (.unsupportedLanguage language) := by
  rw [checkBatch, checkLanguage_eq, checkCount]
  by_cases known : Supports language
  · simp only [known, if_true, Int.natCast_eq_zero]
    rw [← forM_checkText known]
    split_ifs <;> rfl
  · simp only [known, if_false]
    rfl

end Admission

/-! ## Questions as they are sent -/

theorem Record.Decoder.nullable_string (text : Option String) :
    nullable string (.ofOption .str text) = .ok text :=
  nullable_ofOption (by simp) fun _ _ => rfl

theorem Json.faithful_optional_str (text : Option String) : (ofOption str text).Faithful :=
  faithful_ofOption fun _ _ => faithful_str _

theorem AnalyzeRequest.decoder_toJson (q : AnalyzeRequest) (e : Expects) : decoder e q.toJson = .ok q := by
  rw [toJson, decoder, record]
  simp [Fields.required, Fields.optional, Fields.get?, Decoder.nullable_string, Decoder.string]

theorem AnalyzeRequest.faithful_toJson (q : AnalyzeRequest) : q.toJson.Faithful := by
  simp [toJson, Json.Faithful, Json.FaithfulFields, Json.faithful_optional_str]

theorem SourceFile.decoder_toJson (f : SourceFile) (e : Expects) : decoder e f.toJson = .ok f := by
  rw [toJson, decoder, record]
  simp [Fields.required, Fields.optional, Fields.get?, Decoder.nullable_string, Decoder.string]

theorem SourceFile.faithful_toJson (f : SourceFile) : f.toJson.Faithful := by
  simp [toJson, Json.Faithful, Json.FaithfulFields, Json.faithful_optional_str]

theorem BatchRequest.decoder_toJson (q : BatchRequest) (e : Expects) : decoder e q.toJson = .ok q := by
  have files : Decoder.list (SourceFile.decoder e) (.arr (q.files.map SourceFile.toJson)) = .ok q.files :=
    Decoder.items_map (fun f _ => f.decoder_toJson e) 0
  rw [toJson, decoder, record]
  simp [Fields.required, Fields.optional, Fields.get?, files, Decoder.string]

theorem BatchRequest.faithful_toJson (q : BatchRequest) : q.toJson.Faithful := by
  have files : Json.FaithfulAll (q.files.map SourceFile.toJson) :=
    Json.faithfulAll_map fun f _ => f.faithful_toJson
  simp [toJson, Json.Faithful, Json.FaithfulFields, files]

namespace Server

variable {α : Type} {s : Setup} {r : Request} {v : Service}

/-- The request goes to the place with a body that is read as the question. -/
structure Request.Asks (r : Request) (e : Endpoint) (d : Decoder α) (q : α) : Prop where
  target : Target.of r.method (pathOf r.path) = .endpoint e
  body : bodyRecord d r = .ok q

/-- A request with a value as its body. -/
def Request.post (e : Endpoint) (value : Json) : Request where
  method := "POST"
  path := e.path
  body := value.compact

theorem Request.asks_post {e : Endpoint} {d : Decoder α} {fields : List (String × Json)} {q : α}
    (target : Target.of "POST" (pathOf e.path) = .endpoint e) (faithful : (Json.obj fields).Faithful)
    (decoded : d (.obj fields) = .ok q) : (Request.post e (.obj fields)).Asks e d q where
  target := target
  body := by
    have text := Json.toList_compact_obj fields
    have nonempty : (Json.obj fields).compact ≠ "" := by
      intro h
      rw [h] at text
      cases text
    have read := Json.read_compact faithful
    rw [text] at read
    have value : bodyValue (Request.post e (.obj fields)) = .ok (.obj fields) := by
      simp [bodyValue, Request.post, nonempty, Request.header?, saysJson, text, read]
    rw [bodyRecord, value]
    simp only [decoded]

theorem Request.asks_post_analyze (q : AnalyzeRequest) :
    (Request.post .analyze q.toJson).Asks .analyze (AnalyzeRequest.decoder .fields) q :=
  asks_post (by decide +kernel) q.faithful_toJson (q.decoder_toJson .fields)

theorem Request.asks_post_batch (q : BatchRequest) :
    (Request.post .batch q.toJson).Asks .batch (BatchRequest.decoder .fields) q :=
  asks_post (by decide +kernel) q.faithful_toJson (q.decoder_toJson .fields)

/-! ## Answers -/

/-- The response turns the request away for this reason. -/
def Response.Refuses (a : Response) (status : Nat) (reason : Refusal) : Prop :=
  a.status = status ∧ a.content = .detail reason.message

theorem identify_keeps (r : Request) (v : Service) :
    (identify r v).2.store = v.store ∧ (identify r v).2.counters = v.counters := by
  unfold identify
  split
  · split <;> exact ⟨rfl, rfl⟩
  · exact ⟨rfl, rfl⟩

theorem analyze_of_status_ne {id : String} (h : (analyze s id r v).1.1 ≠ 200) :
    (analyze s id r v).2 = v := by
  unfold analyze at h ⊢
  split at h
  · rfl
  · split at h
    · rfl
    · exact absurd rfl h

theorem batch_of_status_ne {id : String} (h : (batch s id r v).1.1 ≠ 200) : (batch s id r v).2 = v := by
  unfold batch at h ⊢
  dsimp only at h ⊢
  split at h
  · rfl
  · split at h
    · rfl
    · exact absurd rfl h

/-- Only an answer with the status 200 touches the service, apart from the identifier of the request. -/
theorem handle_of_status_ne (h : (handle s r v).1.status ≠ 200) : (handle s r v).2 = (identify r v).2 := by
  simp only [handle] at h ⊢
  unfold answer at h ⊢
  split at h
  case h_4 => exact analyze_of_status_ne h
  case h_5 => exact batch_of_status_ne h
  all_goals rfl

theorem status_ne_ok (e : Refusal) : e.status ≠ 200 := by cases e <;> simp [Refusal.status]

/-- A question about one text is answered or turned away as it is checked. -/
theorem status_handle_analyze {q : AnalyzeRequest}
    (asks : r.Asks .analyze (AnalyzeRequest.decoder .fields) q) : (handle s r v).1.status = 200 ↔
      Admission.checkText s.settings q.language q.code q.filename = .ok () := by
  have answered : (handle s r v).1.status = (analyze s (identify r v).1 r (identify r v).2).1.1 := by
    simp only [handle, answer, asks.target]
  rw [answered, analyze, asks.body]
  dsimp only
  cases Admission.checkText s.settings q.language q.code q.filename with
  | ok => simp
  | error e => simpa [refused] using status_ne_ok e

/-- What is checked for a batch. -/
def checkedFiles (q : BatchRequest) : List (Option String × String) := q.files.map fun f => (f.filename, f.code)

section Batches

variable {q : BatchRequest} (asks : r.Asks .batch (BatchRequest.decoder .fields) q)

include asks

theorem status_handle_batch :
    (handle s r v).1.status = 200 ↔ Admission.checkBatch s.settings q.language (checkedFiles q) = .ok () := by
  have answered : (handle s r v).1.status = (batch s (identify r v).1 r (identify r v).2).1.1 := by
    simp only [handle, answer, asks.target]
  rw [answered, batch, asks.body, checkedFiles]
  dsimp only
  cases Admission.checkBatch s.settings q.language (q.files.map fun f => (f.filename, f.code)) with
  | ok => simp
  | error e => simpa [refused] using status_ne_ok e

theorem refuses_handle_batch {e : Refusal}
    (h : Admission.checkBatch s.settings q.language (checkedFiles q) = .error e) :
    (handle s r v).1.Refuses e.status e := by
  rw [checkedFiles] at h
  simp [Response.Refuses, handle, answer, asks.target, batch, asks.body, h, refused]

end Batches

/-! ## A batch and its files -/

/-- Every request that asks about the file alone, in this language, is answered. -/
def Setup.AcceptsAlone (s : Setup) (language : String) (f : SourceFile) : Prop :=
  ∀ r : Request, r.Asks .analyze (AnalyzeRequest.decoder .fields) ⟨language, f.code, f.filename⟩ →
    ∀ v, (handle s r v).1.status = 200

theorem Setup.acceptsAlone_iff {language : String} {f : SourceFile} : s.AcceptsAlone language f ↔
    Admission.Supports language ∧ (f.code.utf8ByteSize : Int) ≤ s.settings.maxCodeBytes := by
  have checked : Admission.checkText s.settings language f.code f.filename = .ok () ↔
      Admission.Supports language ∧ (f.code.utf8ByteSize : Int) ≤ s.settings.maxCodeBytes := by
    simp [Admission.checkText_eq_ok_iff, Admission.isTooLarge]
  rw [← checked]
  constructor
  · intro accepts
    have asks := Request.asks_post_analyze ⟨language, f.code, f.filename⟩
    exact (status_handle_analyze asks).1 (accepts _ asks default)
  · intro h r asks v
    exact (status_handle_analyze asks).2 h

/-- The first file of a batch that is too large. -/
def firstTooLarge? (s : Settings) (q : BatchRequest) : Option SourceFile :=
  q.files.find? fun f => decide (s.maxCodeBytes < f.code.utf8ByteSize)

theorem find?_checkedFiles (s : Settings) (q : BatchRequest) :
    ((checkedFiles q).find? fun f => Admission.isTooLarge s f.2) =
      (firstTooLarge? s q).map fun f => (f.filename, f.code) := by
  rw [checkedFiles, List.find?_map]
  rfl

theorem checkBatch_checkedFiles (s : Settings) (q : BatchRequest) :
    Admission.checkBatch s q.language (checkedFiles q) =
      if Admission.Supports q.language then
        if q.files.length = 0 then .error .noFiles
        else if s.maxBatchFiles < q.files.length then
          .error (.tooManyFiles q.files.length s.maxBatchFiles)
        else match firstTooLarge? s q with
          | some f => .error (.codeTooLarge f.filename f.code.utf8ByteSize s.maxCodeBytes)
          | none => .ok ()
      else .error (.unsupportedLanguage q.language) := by
  have length : (checkedFiles q).length = q.files.length := List.length_map _
  rw [Admission.checkBatch_eq, find?_checkedFiles, length]
  cases firstTooLarge? s q <;> rfl

/-- A batch passes the checks exactly if nothing can be objected to it. -/
theorem checkBatch_eq_ok_iff {s : Settings} {q : BatchRequest} :
    Admission.checkBatch s q.language (checkedFiles q) = .ok () ↔
      Admission.Supports q.language ∧ 1 ≤ q.files.length ∧ q.files.length ≤ s.maxBatchFiles ∧
        firstTooLarge? s q = none := by
  rw [checkBatch_checkedFiles]
  split_ifs with known empty many
  · simp [empty]
  · simp [many]
  · have least : 1 ≤ q.files.length := Nat.one_le_iff_ne_zero.2 empty
    cases firstTooLarge? s q <;> simp [known, least, Int.not_lt.1 many]
  · simp [known]

/-- A file that fits into eight bytes, one that does not, and a larger one. -/
def sizedBatch : BatchRequest where
  language := "Python"
  files := [⟨some "a.py", "x = 1\n"⟩, ⟨some "b.py", "x = 'é'\n"⟩, ⟨none, "async def f(): pass\n"⟩]

end Server

end AwaitLint
