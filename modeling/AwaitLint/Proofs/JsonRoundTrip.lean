import AwaitLint.Proofs.JsonScalars

/-! # What is written as JSON reads back

A value whose numbers read back and whose objects have no key twice is read back from its text. The
reader's fuel suffices, since no value needs more of it than its text has characters.
-/

namespace AwaitLint.Json

mutual

/-- The numbers of the value read back, and no object in it has a key twice. -/
def Faithful : Json → Prop
  | float x => ReadsBack x
  | arr items => FaithfulAll items
  | obj fields => (fields.map Prod.fst).Nodup ∧ FaithfulFields fields
  | null => True
  | bool _ => True
  | int _ => True
  | str _ => True

def FaithfulAll : List Json → Prop
  | [] => True
  | x :: xs => Faithful x ∧ FaithfulAll xs

def FaithfulFields : List (String × Json) → Prop
  | [] => True
  | (_, v) :: fs => Faithful v ∧ FaithfulFields fs

end

mutual

theorem onlyFinite_of_faithful : ∀ {j : Json}, j.Faithful → j.onlyFinite = j
  | float x, h => by
    rw [Faithful] at h
    simp [onlyFinite, h.isFinite]
  | arr items, h => by
    rw [Faithful] at h
    rw [onlyFinite, onlyFiniteAll_of_faithful h]
  | obj fields, h => by
    rw [Faithful] at h
    rw [onlyFinite, onlyFiniteFields_of_faithful h.2]
  | null, _ => rfl
  | bool _, _ => rfl
  | int _, _ => rfl
  | str _, _ => rfl

theorem onlyFiniteAll_of_faithful : ∀ {xs : List Json}, FaithfulAll xs → onlyFiniteAll xs = xs
  | [], _ => rfl
  | x :: xs, h => by
    rw [FaithfulAll] at h
    rw [onlyFiniteAll, onlyFinite_of_faithful h.1, onlyFiniteAll_of_faithful h.2]

theorem onlyFiniteFields_of_faithful :
    ∀ {fs : List (String × Json)}, FaithfulFields fs → onlyFiniteFields fs = fs
  | [], _ => rfl
  | (k, v) :: fs, h => by
    rw [FaithfulFields] at h
    rw [onlyFiniteFields, onlyFinite_of_faithful h.1, onlyFiniteFields_of_faithful h.2]

end

/-! ## Texts -/

/-- The texts of items or fields, one after the other with commas between them. -/
def joinedText (texts : List String) : List Char := (String.intercalate "," texts).toList

theorem joinedText_singleton (t : String) : joinedText [t] = t.toList := by
  simp [joinedText]

theorem joinedText_cons (t u : String) (texts : List String) :
    joinedText (t :: u :: texts) = t.toList ++ ',' :: joinedText (u :: texts) := by
  simp [joinedText, String.intercalate_cons_cons]

theorem joinedText_head {t : String} {c : Char} {cs : List Char} (h : t.toList = c :: cs)
    (texts : List String) : ∃ more, joinedText (t :: texts) = c :: more := by
  cases texts with
  | nil => exact ⟨cs, by rw [joinedText_singleton, h]⟩
  | cons u texts => exact ⟨cs ++ ',' :: joinedText (u :: texts), by rw [joinedText_cons, h]; rfl⟩

theorem blanks_cons {c : Char} (h : Input.isBlank c = false) (cs : List Char) (pos : Nat) :
    Input.blanks ⟨c :: cs, pos⟩ = ⟨c :: cs, pos⟩ := by
  simp [Input.blanks, Input.drop, h]

theorem stops_nil : Stops [] := by simp [Stops]

theorem stops_comma (cs : List Char) : Stops (',' :: cs) := by simp [Stops]

theorem stops_bracket (cs : List Char) : Stops (']' :: cs) := by simp [Stops]

theorem stops_brace (cs : List Char) : Stops ('\x7d' :: cs) := by simp [Stops]

theorem number_head {cs : List Char} {pos : Nat} {r : Json × Input}
    (h : readNumber? ⟨cs, pos⟩ = some r) :
    ∃ c t, cs = c :: t ∧ Input.isBlank c = false ∧ c ≠ ']' := by
  obtain ⟨c, t, hc, hcs | hcs⟩ := exists_digit_of_readNumber? h
  · have other : ∀ d : Char, d.isDigit = false → c ≠ d := by
      rintro d hd rfl
      rw [hc] at hd
      cases hd
    exact ⟨c, t, hcs, by simp [Input.isBlank, other], other _ rfl⟩
  · exact ⟨'-', c :: t, hcs, rfl, by decide⟩

/-- The text of a value starts with no blank, and with no bracket that would end an array. -/
theorem compact_head {j : Json} (h : j.Faithful) :
    ∃ c cs, j.compact.toList = c :: cs ∧ Input.isBlank c = false ∧ c ≠ ']' := by
  cases j with
  | null => exact ⟨'n', _, rfl, rfl, by decide⟩
  | bool b => cases b <;> exact ⟨_, _, rfl, rfl, by decide⟩
  | int n =>
    have hn := readNumber?_toString n stops_nil 0
    rw [List.append_nil] at hn
    exact number_head hn
  | float x =>
    rw [Faithful] at h
    have hx := h [] 0 stops_nil
    rw [List.append_nil] at hx
    exact number_head hx
  | str s => exact ⟨'"', _, toList_quote s, rfl, by decide⟩
  | arr items => exact ⟨'[', _, by rw [compact]; simp; rfl, rfl, by decide⟩
  | obj fields => exact ⟨'\x7b', _, by rw [compact]; simp; rfl, rfl, by decide⟩

theorem toList_compact_arr (items : List Json) :
    (arr items).compact.toList = '[' :: (joinedText (compactAll items) ++ [']']) := by
  simp [compact, joinedText]

theorem toList_compact_obj (fields : List (String × Json)) :
    (obj fields).compact.toList = '\x7b' :: (joinedText (compactFields fields) ++ ['\x7d']) := by
  simp [compact, joinedText]

theorem setField_of_not_mem {fields : List (String × Json)} {k : String}
    (h : k ∉ fields.map Prod.fst) (v : Json) : setField fields k v = fields ++ [(k, v)] := by
  have hany : fields.any (·.1 == k) = false := by
    simp only [List.any_eq_false, beq_iff_eq]
    exact fun f hf e => h (e ▸ List.mem_map_of_mem hf)
  simp [setField, hany]

/-! ## Values -/

/-- The text of the value, with something behind it that does not go on with a number, is read as the
value if there is a unit of fuel for each character. -/
def Reads (j : Json) : Prop :=
  ∀ rest fuel pos, Stops rest → j.compact.toList.length ≤ fuel →
    readValue fuel ⟨j.compact.toList ++ rest, pos⟩ =
      .ok (j, ⟨rest, pos + j.compact.toList.length⟩)

theorem readItems_compactAll {xs : List Json} (hne : xs ≠ [])
    (h : ∀ x ∈ xs, x.Faithful ∧ x.Reads) (rest : List Char) (fuel : Nat)
    (hf : (joinedText (compactAll xs)).length < fuel) (acc : List Json) (pos : Nat) :
    readItems fuel acc ⟨joinedText (compactAll xs) ++ ']' :: rest, pos⟩ =
      .ok (.arr (acc.reverse ++ xs), ⟨rest, pos + (joinedText (compactAll xs)).length + 1⟩) := by
  induction xs generalizing fuel acc pos with
  | nil => exact absurd rfl hne
  | cons x xs ih =>
    obtain ⟨fuel, rfl⟩ : ∃ k, fuel = k + 1 := ⟨fuel - 1, by omega⟩
    obtain ⟨-, hx⟩ := h x List.mem_cons_self
    cases xs with
    | nil =>
      simp only [compactAll, joinedText_singleton] at hf ⊢
      rw [readItems, hx _ _ _ (stops_bracket rest) (by omega)]
      simp [blanks_cons (c := ']') rfl]
    | cons y ys =>
      have later := ih (List.cons_ne_nil y ys) (fun z hz => h z (List.mem_cons_of_mem _ hz)) fuel
        (by simp only [compactAll, joinedText_cons, List.length_append, List.length_cons] at hf ⊢; omega)
        (x :: acc) (pos + x.compact.toList.length + 1)
      obtain ⟨c, cs, hc, hblank, -⟩ := compact_head (h y (by simp)).1
      obtain ⟨more, hmore⟩ := joinedText_head hc (compactAll ys)
      simp only [compactAll, joinedText_cons, List.length_append, List.length_cons] at hf later ⊢
      rw [List.append_assoc, List.cons_append, readItems, hx _ _ _ (stops_comma _) (by omega)]
      simp only [blanks_cons (c := ',') rfl, Input.drop_mk, List.drop_succ_cons, List.drop_zero]
      rw [hmore, List.cons_append, blanks_cons hblank, ← List.cons_append, ← hmore, later]
      simp [Nat.add_assoc, Nat.add_comm, Nat.add_left_comm]

/-- A key, a colon and a value are read before it matters what follows them. -/
theorem readFields_field {k : String} {v : Json} (hfaithful : v.Faithful) (hv : v.Reads)
    {more : List Char} (hs : Stops more) {fuel : Nat}
    (hf : (quote k ++ ":" ++ v.compact).toList.length ≤ fuel) {acc : List (String × Json)}
    (fresh : k ∉ acc.map Prod.fst) (pos : Nat) :
    readFields (fuel + 1) acc ⟨(quote k ++ ":" ++ v.compact).toList ++ more, pos⟩ =
      let i := Input.blanks ⟨more, pos + (quote k ++ ":" ++ v.compact).toList.length⟩
      match i.rest with
      | '\x7d' :: _ => .ok (.obj (acc ++ [(k, v)]), i.drop 1)
      | ',' :: _ => readFields fuel (acc ++ [(k, v)]) (i.drop 1).blanks
      | _ => .error i.pos := by
  have text : (quote k ++ ":" ++ v.compact).toList = (quote k).toList ++ ':' :: v.compact.toList := by
    simp
  rw [text, List.length_append, List.length_cons] at hf ⊢
  obtain ⟨c, cs, hc, hblank, -⟩ := compact_head hfaithful
  obtain ⟨body, hq⟩ : ∃ body, (quote k).toList = '"' :: body := ⟨_, toList_quote k⟩
  have key : readString fuel ⟨(quote k).toList ++ ':' :: (v.compact.toList ++ more), pos⟩ = _ :=
    readString_quote k _ (by omega) pos
  have value := hv more fuel (pos + (quote k).toList.length + 1) hs (by omega)
  rw [hc, List.cons_append] at value
  rw [List.append_assoc, List.cons_append, hq, List.cons_append, readFields, ← List.cons_append, ← hq,
    key]
  simp only [blanks_cons (c := ':') rfl, Input.drop_mk, List.drop_succ_cons, List.drop_zero, hc,
    List.cons_append, blanks_cons hblank, value, setField_of_not_mem fresh]
  have place : pos + (quote k).toList.length + 1 + (c :: cs).length =
      pos + ((quote k).toList.length + ((c :: cs).length + 1)) := by omega
  rw [place, hq]
  rfl

theorem readFields_compactFields {fs : List (String × Json)} (hne : fs ≠ [])
    (h : ∀ f ∈ fs, f.2.Faithful ∧ f.2.Reads) (rest : List Char) (fuel : Nat)
    (hf : (joinedText (compactFields fs)).length < fuel) (acc : List (String × Json))
    (hn : ((acc ++ fs).map Prod.fst).Nodup) (pos : Nat) :
    readFields fuel acc ⟨joinedText (compactFields fs) ++ '\x7d' :: rest, pos⟩ =
      .ok (.obj (acc ++ fs), ⟨rest, pos + (joinedText (compactFields fs)).length + 1⟩) := by
  induction fs generalizing fuel acc pos with
  | nil => exact absurd rfl hne
  | cons f fs ih =>
    obtain ⟨k, v⟩ := f
    obtain ⟨fuel, rfl⟩ : ∃ n, fuel = n + 1 := ⟨fuel - 1, by omega⟩
    obtain ⟨hfaithful, hv⟩ : v.Faithful ∧ v.Reads := h (k, v) List.mem_cons_self
    have fresh : k ∉ acc.map Prod.fst := by
      simp only [List.map_append, List.map_cons] at hn
      exact fun hk => (List.nodup_append.1 hn).2.2 k hk k List.mem_cons_self rfl
    cases fs with
    | nil =>
      simp only [compactFields, joinedText_singleton] at hf ⊢
      rw [readFields_field hfaithful hv (stops_brace rest) (by omega) fresh]
      simp [blanks_cons (c := '\x7d') rfl]
    | cons g gs =>
      have later := ih (List.cons_ne_nil g gs) (fun z hz => h z (List.mem_cons_of_mem _ hz)) fuel
        (by simp only [compactFields, joinedText_cons, List.length_append, List.length_cons] at hf ⊢; omega)
        (acc ++ [(k, v)]) (by simpa using hn)
        (pos + (quote k ++ ":" ++ v.compact).toList.length + 1)
      have opening : (quote g.1 ++ ":" ++ g.2.compact).toList =
          '"' :: (g.1.toList.flatMap escapeChar ++ '"' :: ':' :: g.2.compact.toList) := by
        simp [toList_quote]
      obtain ⟨more, hmore⟩ := joinedText_head opening (compactFields gs)
      simp only [compactFields, joinedText_cons, List.length_append, List.length_cons] at hf later ⊢
      rw [List.append_assoc, List.cons_append,
        readFields_field hfaithful hv (stops_comma _) (by omega) fresh]
      simp only [blanks_cons (c := ',') rfl, Input.drop_mk, List.drop_succ_cons, List.drop_zero]
      rw [hmore, List.cons_append, blanks_cons (c := '"') rfl, ← List.cons_append, ← hmore, later]
      simp [Nat.add_assoc, Nat.add_comm, Nat.add_left_comm]

theorem exists_fuel {j : Json} (h : j.Faithful) {fuel : Nat} (hf : j.compact.toList.length ≤ fuel) :
    ∃ n, fuel = n + 1 := by
  obtain ⟨c, cs, hc, -⟩ := compact_head h
  rw [hc, List.length_cons] at hf
  exact ⟨fuel - 1, by omega⟩

theorem reads_of_readNumber? {j : Json} (hj : j.Faithful)
    (h : ∀ rest pos, Stops rest → readNumber? ⟨j.compact.toList ++ rest, pos⟩ =
      some (j, ⟨rest, pos + j.compact.toList.length⟩)) : j.Reads := by
  intro rest fuel pos hs hf
  obtain ⟨fuel, rfl⟩ := exists_fuel hj hf
  exact readValue_of_readNumber? (h rest pos hs) fuel

theorem reads_str (s : String) : (str s).Reads := by
  intro rest fuel pos _ hf
  obtain ⟨fuel, rfl⟩ := exists_fuel (by simp [Faithful]) hf
  obtain ⟨body, hq⟩ : ∃ body, (quote s).toList = '"' :: body := ⟨_, toList_quote s⟩
  have key := readString_quote s rest hf pos
  rw [hq, List.cons_append] at key
  rw [compact, hq, List.cons_append, readValue]
  simp only [key]

theorem reads_arr {items : List Json} (h : FaithfulAll items)
    (hitems : ∀ x ∈ items, x.Faithful ∧ x.Reads) : (arr items).Reads := by
  intro rest fuel pos _ hf
  obtain ⟨fuel, rfl⟩ := exists_fuel (by rwa [Faithful]) hf
  cases items with
  | nil => rfl
  | cons x xs =>
    obtain ⟨c, cs, hc, hblank, hend⟩ := compact_head (hitems x List.mem_cons_self).1
    obtain ⟨more, hmore⟩ := joinedText_head hc (compactAll xs)
    rw [← compactAll] at hmore
    rw [toList_compact_arr, List.length_cons, List.length_append, List.length_singleton] at hf
    have inside := readItems_compactAll (List.cons_ne_nil x xs) hitems rest fuel (by omega) [] (pos + 1)
    rw [toList_compact_arr, List.cons_append, List.append_assoc, List.singleton_append, readValue]
    simp only [Input.drop_mk, List.drop_succ_cons, List.drop_zero]
    rw [hmore, List.cons_append] at inside ⊢
    rw [blanks_cons hblank]
    split
    · next h => exact absurd (List.cons.inj h).1 hend
    · rw [inside]
      simp
      omega

theorem reads_obj {fields : List (String × Json)} (hn : (fields.map Prod.fst).Nodup)
    (h : FaithfulFields fields) (hfields : ∀ f ∈ fields, f.2.Faithful ∧ f.2.Reads) :
    (obj fields).Reads := by
  intro rest fuel pos _ hf
  obtain ⟨fuel, rfl⟩ := exists_fuel (by rw [Faithful]; exact ⟨hn, h⟩) hf
  cases fields with
  | nil => rfl
  | cons f fs =>
    have opening : (quote f.1 ++ ":" ++ f.2.compact).toList =
        '"' :: (f.1.toList.flatMap escapeChar ++ '"' :: ':' :: f.2.compact.toList) := by
      simp [toList_quote]
    obtain ⟨more, hmore⟩ := joinedText_head opening (compactFields fs)
    rw [← compactFields] at hmore
    rw [toList_compact_obj, List.length_cons, List.length_append, List.length_singleton] at hf
    have inside := readFields_compactFields (List.cons_ne_nil f fs) hfields rest fuel (by omega) []
      hn (pos + 1)
    rw [toList_compact_obj, List.cons_append, List.append_assoc, List.singleton_append, readValue]
    simp only [Input.drop_mk, List.drop_succ_cons, List.drop_zero]
    rw [hmore, List.cons_append] at inside ⊢
    rw [blanks_cons (c := '"') rfl]
    simp only [inside]
    simp
    omega

mutual

theorem reads_of_faithful : ∀ {j : Json}, j.Faithful → j.Reads
  | null, h => by
    intro rest fuel pos _ hf
    obtain ⟨fuel, rfl⟩ := exists_fuel h hf
    rfl
  | bool b, h => by
    intro rest fuel pos _ hf
    obtain ⟨fuel, rfl⟩ := exists_fuel h hf
    cases b <;> rfl
  | int n, h => reads_of_readNumber? h fun _ pos hs => readNumber?_toString n hs pos
  | float x, h => reads_of_readNumber? h fun rest pos hs => by
    rw [Faithful] at h
    exact h rest pos hs
  | str s, _ => reads_str s
  | arr items, h => by
    rw [Faithful] at h
    exact reads_arr h (readsAll_of_faithful h)
  | obj fields, h => by
    rw [Faithful] at h
    exact reads_obj h.1 h.2 (readsFields_of_faithful h.2)

theorem readsAll_of_faithful : ∀ {xs : List Json}, FaithfulAll xs → ∀ x ∈ xs, x.Faithful ∧ x.Reads
  | [], _ => by simp
  | x :: xs, h => by
    rw [FaithfulAll] at h
    exact List.forall_mem_cons.2 ⟨⟨h.1, reads_of_faithful h.1⟩, readsAll_of_faithful h.2⟩

theorem readsFields_of_faithful :
    ∀ {fs : List (String × Json)}, FaithfulFields fs → ∀ f ∈ fs, f.2.Faithful ∧ f.2.Reads
  | [], _ => by simp
  | (k, v) :: fs, h => by
    rw [FaithfulFields] at h
    exact List.forall_mem_cons.2 ⟨⟨h.1, reads_of_faithful h.1⟩, readsFields_of_faithful h.2⟩

end

/-- The text of a value is read as the value. -/
theorem read_compact {j : Json} (h : j.Faithful) : read j.compact.toList = .ok j := by
  obtain ⟨c, cs, hc, hblank, -⟩ := compact_head h
  have value := reads_of_faithful h [] (2 * j.compact.toList.length + 4) 0 stops_nil (by omega)
  rw [List.append_nil, hc] at value
  rw [read, hc, blanks_cons hblank, value]
  rfl

end AwaitLint.Json
