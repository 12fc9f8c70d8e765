import AwaitLint.Proofs.TextLines

/-! # Strings line by line

The parser goes through a string at once, over line ends, while the scan for comments looks for the end
of the string in one line after the other. Within each line both come to the same place.
-/

namespace AwaitLint

open Text Grammar.LexState Comment

/-- A backslash takes the next character with it. -/
theorem Text.escapeInduction {motive : List Char → Prop} (nil : motive []) (lone : motive ['\\'])
    (pair : ∀ c cs, motive cs → motive ('\\' :: c :: cs))
    (cons : ∀ c cs, c ≠ '\\' → motive cs → motive (c :: cs)) : ∀ cs, motive cs
  | [] => nil
  | c :: cs => by
    by_cases hc : c = '\\'
    · subst hc
      cases cs with
      | nil => exact lone
      | cons d ds => exact pair d ds (escapeInduction nil lone pair cons ds)
    · exact cons c cs hc (escapeInduction nil lone pair cons cs)

def Text.IsQuote (q : Char) : Prop := q = '"' ∨ q = '\''

theorem Text.IsQuote.ne_backslash {q : Char} (h : IsQuote q) : q ≠ '\\' := by
  rcases h with rfl | rfl <;> decide

theorem Text.IsQuote.inner {q : Char} (h : IsQuote q) : IsInner q := by
  rcases h with rfl | rfl <;> exact ⟨by decide, by decide⟩

variable {quote : Char}

/-! ## One quote -/

namespace Comment

theorem shortEnd_cons {c : Char} (hc : c ≠ '\\') (n : Nat) (cs : List Char) :
    shortEnd quote n (c :: cs) =
      if c = quote then .closed (n + 1) else if c = '\n' then .missing else shortEnd quote (n + 1) cs := by
  rw [shortEnd.eq_def]
  split <;> simp_all

theorem shortEnd_escape {c : Char} (hc : IsInner c) (n : Nat) (cs : List Char) :
    shortEnd quote n ('\\' :: c :: cs) = shortEnd quote (n + 2) cs := by
  rw [shortEnd, if_neg hc.2]
  · intro hend
    exact absurd hend hc.2
  · intro hreturn
    exact absurd hreturn hc.1

theorem laterEnd_cons {c : Char} (hc : c ≠ '\\') (n : Nat) (cs : List Char) :
    laterEnd quote n (c :: cs) = if c = quote then some (n + 1) else laterEnd quote (n + 1) cs := by
  rw [laterEnd.eq_def]
  split <;> simp_all

theorem laterEnd_escape {c : Char} (hc : IsInner c) (n : Nat) (cs : List Char) :
    laterEnd quote n ('\\' :: c :: cs) = laterEnd quote (n + 2) cs := by
  rw [laterEnd, if_neg hc.2]

theorem endsJoined_append (b : List Char) {e : List Char} (ends : IsLineEnd e) (hne : e ≠ []) :
    endsJoined (b ++ '\\' :: e) = true := by
  rcases ends with rfl | rfl | rfl
  · exact absurd rfl hne
  · simp [endsJoined]
  · simp [endsJoined]

/-- A backslash at the end of a line joins it to the next one. -/
theorem shortEnd_lineEnd {e : List Char} (ends : IsLineEnd e) (hne : e ≠ []) (n : Nat) :
    shortEnd quote n ('\\' :: e) = .joined := by
  rcases ends with rfl | rfl | rfl
  · exact absurd rfl hne
  · rfl
  · rfl

theorem laterEnd_lineEnd (h : IsQuote quote) {e : List Char} (ends : IsLineEnd e) (n : Nat) :
    laterEnd quote n ('\\' :: e) = none := by
  rcases ends with rfl | rfl | rfl
  · simp [laterEnd, h.ne_backslash.symm]
  · rfl
  · simp [laterEnd, h.inner.2.symm]

end Comment

namespace Grammar.LexState

theorem ne_nil_of_stringLength {size n m : Nat} (hsize : 0 ≠ size) {cs : List Char}
    (ends : stringLength quote size 0 n cs = some m) : cs ≠ [] := by
  rintro rfl
  rw [stringLength.eq_def] at ends
  simp [hsize] at ends

theorem stringLength_cons {size run n : Nat} (hrun : run ≠ size) {c : Char} (hc : c ≠ '\\')
    (hend : c = '\n' → size ≠ 1) (cs : List Char) :
    stringLength quote size run n (c :: cs) =
      if c = quote then stringLength quote size (run + 1) (n + 1) cs
      else stringLength quote size 0 (n + 1) cs := by
  rw [stringLength.eq_def]
  dsimp only
  rw [if_neg hrun, if_neg (fun h => hend h.1 h.2), if_neg hc]

theorem stringLength_escape (h : IsQuote quote) {size run n : Nat} (hrun : run ≠ size) (c : Char)
    (cs : List Char) :
    stringLength quote size run n ('\\' :: c :: cs) = stringLength quote size 0 (n + 2) cs := by
  rw [stringLength.eq_def]
  dsimp only
  rw [if_neg hrun, if_neg (by simp), if_neg h.ne_backslash.symm, if_pos rfl]

end Grammar.LexState

/-- A string with one quote ends on a line, or the line ends in a backslash and the string goes on in
the next line. -/
theorem ends_or_joined (h : IsQuote quote) {b t : List Char} (inner : ∀ c ∈ b, IsInner c) {n m : Nat}
    (ends : stringLength quote 1 0 n (b ++ '\n' :: t) = some m) :
    (∃ k ≤ b.length, m = n + k ∧ ∀ e n', shortEnd quote n' (b ++ e) = .closed (n' + k) ∧
      laterEnd quote n' (b ++ e) = some (n' + k)) ∨
    stringLength quote 1 0 (n + b.length + 1) t = some m ∧ ∃ b', b = b' ++ ['\\'] ∧
      ∀ e, IsLineEnd e → ∀ n', (e ≠ [] → shortEnd quote n' (b ++ e) = .joined) ∧
        laterEnd quote n' (b ++ e) = none := by
  induction b using escapeInduction generalizing n with
  | nil =>
    -- the line ends before the string does
    rw [List.nil_append, stringLength.eq_def] at ends
    simp at ends
  | lone =>
    rw [List.cons_append, List.nil_append, stringLength_escape h (by decide)] at ends
    refine .inr ⟨ends, [], rfl, fun e he n' => ⟨fun hne => ?_, ?_⟩⟩
    · exact shortEnd_lineEnd he hne n'
    · exact laterEnd_lineEnd h he n'
  | pair c cs ih =>
    have hc : IsInner c := inner c (by simp)
    rw [List.cons_append, List.cons_append, stringLength_escape h (by decide)] at ends
    simp only [List.cons_append, shortEnd_escape hc, laterEnd_escape hc]
    rcases ih (fun d hd => inner d (by simp [hd])) ends with ⟨k, hk, rfl, hclosed⟩ | ⟨hmore, b', rfl, hjoined⟩
    · refine .inl ⟨2 + k, by simp; omega, by omega, fun e n' => ?_⟩
      rw [← Nat.add_assoc]
      exact hclosed e (n' + 2)
    · refine .inr ⟨?_, '\\' :: c :: b', rfl, fun e he n' => hjoined e he (n' + 2)⟩
      rw [← hmore, List.length_cons, List.length_cons]
      congr 1
      omega
  | cons c cs hslash ih =>
    have hc : IsInner c := inner c (by simp)
    rw [List.cons_append, stringLength_cons (by decide) hslash (fun hend => absurd hend hc.2)] at ends
    simp only [List.cons_append, shortEnd_cons hslash, laterEnd_cons hslash]
    by_cases hquote : c = quote
    · subst hquote
      simp only [if_true] at ends ⊢
      rw [stringLength.eq_def] at ends
      have hm : n + 1 = m := by simpa using ends
      exact .inl ⟨1, by simp, hm.symm, fun e n' => ⟨rfl, rfl⟩⟩
    · simp only [if_neg hquote, if_neg hc.2] at ends ⊢
      rcases ih (fun d hd => inner d (by simp [hd])) ends with ⟨k, hk, rfl, hclosed⟩ | ⟨hmore, b', rfl, hjoined⟩
      · refine .inl ⟨1 + k, by simp; omega, by omega, fun e n' => ?_⟩
        rw [← Nat.add_assoc]
        exact hclosed e (n' + 1)
      · refine .inr ⟨?_, c :: b', rfl, fun e he n' => hjoined e he (n' + 1)⟩
        rw [← hmore, List.length_cons]
        congr 1
        omega

/-! ## Three quotes -/

namespace Comment

theorem tripleEnd_cons {c : Char} (hc : c ≠ '\\') {cs : List Char}
    (hopen : ∀ rest, c :: cs ≠ quote :: quote :: quote :: rest) (n : Nat) :
    tripleEnd quote n (c :: cs) = tripleEnd quote (n + 1) cs := by
  rw [tripleEnd.eq_def]
  split
  · next heq => cases heq
  · next heq => exact absurd (List.cons.inj heq).1 hc
  · next heq =>
    rw [heq] at hopen
    obtain ⟨-, rfl⟩ := List.cons.inj heq
    rw [if_neg]
    rintro ⟨rfl, rfl, rfl⟩
    exact hopen _ rfl
  · next heq =>
    obtain ⟨-, rfl⟩ := List.cons.inj heq
    rfl

theorem tripleEnd_escape {c : Char} (hc : IsInner c) (n : Nat) (cs : List Char) :
    tripleEnd quote n ('\\' :: c :: cs) = tripleEnd quote (n + 2) cs := by
  rw [tripleEnd, if_neg hc.2]

theorem tripleEnd_closed (h : IsQuote quote) (n : Nat) (cs : List Char) :
    tripleEnd quote n (quote :: quote :: quote :: cs) = some (n + 3) := by
  rw [tripleEnd, if_pos ⟨rfl, rfl, rfl⟩]
  exact h.ne_backslash

/-- Quotes that are fewer than three do not count. -/
theorem tripleEnd_run (h : IsQuote quote) {run : Nat} (hrun : run < 3) {cs : List Char}
    (hcs : ∀ rest, cs ≠ quote :: rest) (n : Nat) :
    tripleEnd quote n (List.replicate run quote ++ cs) = tripleEnd quote (n + run) cs := by
  induction run generalizing n with
  | zero => rfl
  | succ run ih =>
    have hfew (rest : List Char) :
        quote :: (List.replicate run quote ++ cs) ≠ quote :: quote :: quote :: rest := by
      intro heq
      rcases run with _ | _ | run
      · exact hcs _ (List.cons.inj heq).2
      · exact hcs _ (List.cons.inj (List.cons.inj heq).2).2
      · omega
    rw [List.replicate_succ, List.cons_append, tripleEnd_cons h.ne_backslash hfew, ih (by omega),
      Nat.add_right_comm, Nat.add_assoc]

theorem tripleEnd_run_cons (h : IsQuote quote) {run : Nat} (hrun : run < 3) {c : Char} (hc : c ≠ quote)
    (cs : List Char) (n : Nat) :
    tripleEnd quote n (List.replicate run quote ++ c :: cs) = tripleEnd quote (n + run) (c :: cs) :=
  tripleEnd_run h hrun (fun _ heq => hc (List.cons.inj heq).1) n

theorem tripleEnd_lineEnd {e : List Char} (ends : IsLineEnd e) (n : Nat) :
    tripleEnd quote n e = none := by
  rcases ends with rfl | rfl | rfl
  · rfl
  · rfl
  · rfl

theorem tripleEnd_joined {e : List Char} (ends : IsLineEnd e) (n : Nat) :
    tripleEnd quote n ('\\' :: e) = none := by
  rcases ends with rfl | rfl | rfl
  · rfl
  · rfl
  · rfl

end Comment

/-- A string with three quotes ends on a line, or it goes on in the next line. `run` quotes stand right
before the place. -/
theorem ends_or_goes_on (h : IsQuote quote) {b t : List Char} (inner : ∀ c ∈ b, IsInner c) {run n m : Nat}
    (hrun : run < 3) (ends : stringLength quote 3 run (n + run) (b ++ '\n' :: t) = some m) :
    (∃ k ≤ b.length, m = n + run + k ∧ ∀ e n',
      tripleEnd quote n' (List.replicate run quote ++ (b ++ e)) = some (n' + run + k)) ∨
    stringLength quote 3 0 (n + run + b.length + 1) t = some m ∧
      ∀ e, IsLineEnd e → ∀ n', tripleEnd quote n' (List.replicate run quote ++ (b ++ e)) = none := by
  induction b using escapeInduction generalizing run n with
  | nil =>
    rw [List.nil_append, stringLength_cons (by omega) (by decide) (by decide),
      if_neg h.inner.2.symm] at ends
    refine .inr ⟨ends, fun e he n' => ?_⟩
    have hother (rest : List Char) : e ≠ quote :: rest := by
      rintro rfl
      exact he.not_mem h.inner (List.mem_cons_self ..)
    rw [List.nil_append, tripleEnd_run h hrun hother n', tripleEnd_lineEnd he]
  | lone =>
    rw [List.cons_append, List.nil_append, stringLength_escape h (by omega)] at ends
    refine .inr ⟨ends, fun e he n' => ?_⟩
    rw [List.cons_append, tripleEnd_run_cons h hrun h.ne_backslash.symm, List.nil_append,
      tripleEnd_joined he]
  | pair c cs ih =>
    have hc : IsInner c := inner c (by simp)
    rw [List.cons_append, List.cons_append, stringLength_escape h (by omega)] at ends
    simp only [List.cons_append, tripleEnd_run_cons h hrun h.ne_backslash.symm, tripleEnd_escape hc]
    have hrest := ih (fun d hd => inner d (by simp [hd])) (by decide : 0 < 3) ends
    simp only [List.replicate_zero, List.nil_append, Nat.add_zero] at hrest
    rcases hrest with ⟨k, hk, rfl, hclosed⟩ | ⟨hmore, hopen⟩
    · refine .inl ⟨2 + k, by simp; omega, by omega, fun e n' => ?_⟩
      rw [hclosed, Nat.add_assoc (n' + run)]
    · refine .inr ⟨?_, fun e he n' => hopen e he (n' + run + 2)⟩
      rw [← hmore, List.length_cons, List.length_cons]
      congr 1
      omega
  | cons c cs hslash ih =>
    have hc : IsInner c := inner c (by simp)
    rw [List.cons_append, stringLength_cons (by omega) hslash (fun _ => by decide)] at ends
    by_cases hquote : c = quote
    · subst hquote
      rw [if_pos rfl] at ends
      by_cases hthird : run = 2
      · subst hthird
        rw [stringLength.eq_def] at ends
        have hm : n + 2 + 1 = m := by simpa using ends
        exact .inl ⟨1, by simp, hm.symm, fun e n' => tripleEnd_closed h n' (cs ++ e)⟩
      · have hrest := ih (fun d hd => inner d (by simp [hd])) (by omega : run + 1 < 3) ends
        simp only [List.replicate_succ', List.append_assoc, List.singleton_append] at hrest
        rcases hrest with ⟨k, hk, rfl, hclosed⟩ | ⟨hmore, hopen⟩
        · refine .inl ⟨1 + k, by simp; omega, by omega, fun e n' => ?_⟩
          rw [List.cons_append, hclosed, Nat.add_assoc n' run, Nat.add_assoc n', Nat.add_assoc run]
        · refine .inr ⟨?_, hopen⟩
          rw [← hmore, List.length_cons]
          congr 1
          omega
    · rw [if_neg hquote] at ends
      have hrest := ih (fun d hd => inner d (by simp [hd])) (by decide : 0 < 3) ends
      simp only [List.replicate_zero, List.nil_append, Nat.add_zero] at hrest
      have hnext (e : List Char) (n' : Nat) : tripleEnd quote n' (List.replicate run quote ++ (c :: cs ++ e)) =
          tripleEnd quote (n' + run + 1) (cs ++ e) := by
        rw [List.cons_append, tripleEnd_run_cons h hrun hquote,
          tripleEnd_cons hslash (fun _ heq => hquote (List.cons.inj heq).1)]
      simp only [hnext]
      rcases hrest with ⟨k, hk, rfl, hclosed⟩ | ⟨hmore, hopen⟩
      · refine .inl ⟨1 + k, by simp; omega, by omega, fun e n' => ?_⟩
        rw [hclosed, Nat.add_assoc (n' + run)]
      · refine .inr ⟨?_, fun e he n' => hopen e he (n' + run + 1)⟩
        rw [← hmore, List.length_cons]
        congr 1
        omega

/-! ## Either kind -/

namespace Comment.OpenString

/-- How many quotes begin and end the string. -/
def size (o : OpenString) : Nat := if o.triple then 3 else 1

theorem size_ne_zero (o : OpenString) : 0 ≠ o.size := by
  unfold size
  split <;> decide

/-- Where the string ends on a later line. -/
def end? (o : OpenString) (text : List Char) : Option Nat :=
  if o.triple then tripleEnd o.quote 0 text else laterEnd o.quote 0 text

/-- A string that goes on over line ends: it ends on the next line, or it goes on there too. -/
theorem end_or_goes_on (o : OpenString) (h : IsQuote o.quote) {b t : List Char} (inner : ∀ c ∈ b, IsInner c)
    {n m : Nat} (ends : stringLength o.quote o.size 0 n (b ++ '\n' :: t) = some m) :
    (∃ k ≤ b.length, m = n + k ∧ ∀ e, o.end? (b ++ e) = some k) ∨
    stringLength o.quote o.size 0 (n + b.length + 1) t = some m ∧
      ∀ e, IsLineEnd e → o.end? (b ++ e) = none ∧ (e ≠ [] → o.triple = false → endsJoined (b ++ e) = true) := by
  cases htriple : o.triple with
  | false =>
    simp only [size, end?, htriple, Bool.false_eq_true, if_false] at ends ⊢
    rcases ends_or_joined h inner ends with ⟨k, hk, hm, hclosed⟩ | ⟨hmore, b', rfl, hjoined⟩
    · exact .inl ⟨k, hk, hm, fun e => by rw [(hclosed e 0).2, Nat.zero_add]⟩
    · refine .inr ⟨hmore, fun e he => ⟨(hjoined e he 0).2, fun hne _ => ?_⟩⟩
      rw [List.append_assoc]
      exact endsJoined_append b' he hne
  | true =>
    simp only [size, end?, htriple, if_true] at ends ⊢
    have hcases := ends_or_goes_on h inner (by decide : 0 < 3) ends
    simp only [List.replicate_zero, List.nil_append, Nat.add_zero] at hcases
    rcases hcases with ⟨k, hk, hm, hclosed⟩ | ⟨hmore, hopen⟩
    · exact .inl ⟨k, hk, hm, fun e => by rw [hclosed e 0, Nat.zero_add]⟩
    · exact .inr ⟨hmore, fun e he => ⟨hopen e he 0, by simp⟩⟩

end Comment.OpenString

end AwaitLint
