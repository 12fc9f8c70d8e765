import AwaitLint.Digest.CodeKey
import AwaitLint.Grammar.Statement
import AwaitLint.Proofs.Hexadecimal

/-! # What a key determines

The bytes that are digested for a key determine the text and the file name, up to a missing one, if the
text has no zero byte. A text that parses has none. The digest is written without loss.
-/

namespace AwaitLint

namespace Text

/-- The first byte tells how many bytes follow, so the bytes of a character end where they end. -/
theorem encodeChar_append_inj {c d : Char} {xs ys : List Nat}
    (h : encodeChar c ++ xs = encodeChar d ++ ys) : c = d ∧ xs = ys := by
  have hc : c.toNat < 0xD800 ∨ 0xDFFF < c.toNat ∧ c.toNat < 0x110000 := c.valid
  have hd : d.toNat < 0xD800 ∨ 0xDFFF < d.toNat ∧ d.toNat < 0x110000 := d.valid
  have same : c.toNat = d.toNat ∧ xs = ys := by
    simp only [encodeChar] at h
    split_ifs at h <;> simp only [List.cons_append, List.nil_append, List.cons.injEq] at h
    -- lengths that differ give first bytes that differ
    all_goals first
      | omega
      | exact ⟨by omega, by simp_all⟩
  exact ⟨Char.ext (UInt32.toNat_inj.1 same.1), same.2⟩

theorem encode_inj {cs ds : List Char} (h : encode cs = encode ds) : cs = ds := by
  have nonempty : ∀ c : Char, encodeChar c ≠ [] := by
    intro c
    simp only [encodeChar]
    split_ifs <;> exact List.cons_ne_nil _ _
  induction cs generalizing ds with
  | nil =>
    cases ds with
    | nil => rfl
    | cons d ds =>
      rw [encode, encode, List.flatMap_cons] at h
      exact absurd (List.append_eq_nil_iff.1 h.symm).1 (nonempty d)
  | cons c cs ih =>
    cases ds with
    | nil =>
      rw [encode, encode, List.flatMap_cons] at h
      exact absurd (List.append_eq_nil_iff.1 h).1 (nonempty c)
    | cons d ds =>
      rw [encode, encode, List.flatMap_cons, List.flatMap_cons] at h
      obtain ⟨rfl, hrest⟩ := encodeChar_append_inj h
      rw [ih hrest]

end Text

namespace Sha256

theorem lt_of_mem_bytesOf {count n b : Nat} (h : b ∈ bytesOf count n) : b < 256 := by
  induction count generalizing n with
  | zero => simp [bytesOf] at h
  | succ count ih =>
    rw [bytesOf, List.mem_append, List.mem_singleton] at h
    rcases h with h | rfl
    · exact ih h
    · exact Nat.mod_lt _ (by decide)

theorem lt_of_mem_digest {message : List Nat} {b : Nat} (h : b ∈ digest message) : b < 256 := by
  obtain ⟨w, -, hb⟩ := List.mem_flatMap.1 h
  exact lt_of_mem_bytesOf hb

end Sha256

namespace CodeKey

/-- The parts with a zero after each of them, as one text. -/
theorem message_eq_encode (code : String) (filename : Option String) (ruleset : String) :
    message code filename ruleset = Text.encode (code.toList ++ '\x00' ::
      ((filename.getD "").toList ++ '\x00' :: (ruleset.toList ++ ['\x00']))) := by
  have zero : Text.encodeChar '\x00' = [0] := rfl
  simp [message, Text.encode, zero]

/-- A separator that does not occur before it is found at one place. -/
theorem append_separator_inj {α : Type} {a : α} {xs ys us vs : List α} (hx : a ∉ xs)
    (hy : a ∉ ys) (h : xs ++ a :: us = ys ++ a :: vs) : xs = ys ∧ us = vs := by
  rcases List.append_eq_append_iff.1 h with ⟨c, rfl, hc⟩ | ⟨c, rfl, hc⟩
  · cases c with
    | nil => simp_all
    | cons x c => exact absurd (by simp [(List.cons.inj hc).1]) hy
  · cases c with
    | nil => simp_all
    | cons x c => exact absurd (by simp [(List.cons.inj hc).1]) hx

/-- A separator that occurs on one side only once is the one on the other side. -/
theorem append_separator_inj_of_not_mem {α : Type} {a : α} {xs ys us vs : List α} (hx : a ∉ xs)
    (hu : a ∉ us) (h : xs ++ a :: us = ys ++ a :: vs) : xs = ys ∧ us = vs := by
  rcases List.append_eq_append_iff.1 h with ⟨c, rfl, hc⟩ | ⟨c, rfl, hc⟩
  · cases c with
    | nil => simp_all
    | cons x c => exact absurd (by simp [(List.cons.inj hc).2]) hu
  · cases c with
    | nil => simp_all
    | cons x c => exact absurd (by simp [(List.cons.inj hc).1]) hx

variable {code code' : String} {filename filename' : Option String} {ruleset : String}

/-- Under one fingerprint, what is digested is the text and the file name with a zero between them. -/
theorem parts_eq_of_message_eq (h : message code filename ruleset = message code' filename' ruleset) :
    code.toList ++ '\x00' :: (filename.getD "").toList =
      code'.toList ++ '\x00' :: (filename'.getD "").toList := by
  rw [message_eq_encode, message_eq_encode] at h
  have text := Text.encode_inj h
  simp only [← List.cons_append, ← List.append_assoc] at text
  exact List.append_cancel_right (List.append_cancel_right text)

/-- For texts without a zero, what is digested determines the text and the file name. -/
theorem message_inj (hc : '\x00' ∉ code.toList) (hc' : '\x00' ∉ code'.toList)
    (h : message code filename ruleset = message code' filename' ruleset) :
    code = code' ∧ filename.getD "" = filename'.getD "" :=
  (append_separator_inj hc hc' (parts_eq_of_message_eq h)).imp String.toList_inj.1 String.toList_inj.1

/-- The same if the text and the file name of one of them have no zero. -/
theorem message_inj_of_not_mem (hc : '\x00' ∉ code.toList) (hf : '\x00' ∉ (filename.getD "").toList)
    (h : message code filename ruleset = message code' filename' ruleset) :
    code = code' ∧ filename.getD "" = filename'.getD "" :=
  (append_separator_inj_of_not_mem hc hf (parts_eq_of_message_eq h)).imp String.toList_inj.1
    String.toList_inj.1

/-- One key, one digest. -/
theorem digest_eq_of_ofRuleset_eq {code code' : String} {filename filename' : Option String}
    {ruleset ruleset' : String} (h : ofRuleset code filename ruleset = ofRuleset code' filename' ruleset') :
    Sha256.digest (message code filename ruleset) = Sha256.digest (message code' filename' ruleset') :=
  Text.hexOfBytes_inj (fun _ => Sha256.lt_of_mem_digest) (fun _ => Sha256.lt_of_mem_digest) h

end CodeKey

/-- A text that parses has no zero. -/
theorem Grammar.not_mem_of_parseText {text : List Char} {tree : Node} (h : parseText text = .ok tree) :
    '\x00' ∉ text := by
  intro hz
  have : text.contains '\x00' = true := List.contains_iff_mem.2 hz
  simp only [parseText, this, if_true, reduceCtorEq] at h

end AwaitLint
