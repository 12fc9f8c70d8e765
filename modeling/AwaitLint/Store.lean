/-! # The store of texts behind the cache -/

namespace AwaitLint

/-- What a store is asked to do. -/
inductive Command | get | set | ping
  deriving DecidableEq, Repr

/-- Why a store does not answer. -/
inductive StoreError
  | down
  deriving DecidableEq, Repr

def StoreError.message : StoreError → String
  | down => "redis down"

/-- Texts by key, oldest key first, the lifetime that was given last, and the commands that fail at
the moment. -/
structure Store where
  entries : List (String × String) := []
  lastTtl : Option Int := none
  down : List Command := []
  deriving DecidableEq, Repr, Inhabited

namespace Store

/-- What the store holds, whether or not it answers. -/
def lookup (key : String) (s : Store) : Option String :=
  (s.entries.find? (·.1 == key)).map (·.2)

/-- A new key comes last, a known one keeps its place. -/
def put (key value : String) (s : Store) : Store :=
  { s with entries :=
      if s.entries.any (·.1 == key) then
        s.entries.map fun e => if e.1 == key then (key, value) else e
      else s.entries ++ [(key, value)] }

theorem lookup_put (key key' value : String) (s : Store) :
    (s.put key value).lookup key' = if key' = key then some value else s.lookup key' := by
  unfold put lookup
  dsimp only
  split
  · next known =>
    have same : ((fun e : String × String => e.1 == key') ∘
        fun e => if e.1 == key then (key, value) else e) = fun e => e.1 == key' := by
      funext e
      simp only [Function.comp]
      split <;> simp_all
    rw [List.find?_map, same]
    cases h : s.entries.find? fun e => e.1 == key' with
    | none =>
      have other : key' ≠ key := by
        rintro rfl
        obtain ⟨e, he, hk⟩ := List.any_eq_true.1 known
        exact List.find?_eq_none.1 h e he hk
      simp [other]
    | some e =>
      obtain rfl : e.1 = key' := by simpa using List.find?_some h
      by_cases hk : e.1 = key <;> simp [hk]
  · next fresh =>
    have absent : (s.entries.find? fun e => e.1 == key) = none :=
      List.find?_eq_none.2 fun e he hk => fresh (List.any_eq_true.2 ⟨e, he, hk⟩)
    rw [List.find?_append]
    by_cases hk : key' = key
    · simp [hk, absent]
    · simp [hk, Ne.symm hk]

def attempt {α} (c : Command) (s : Store) (a : α) : Except StoreError α :=
  if s.down.contains c then .error .down else .ok a

def get (key : String) (s : Store) : Except StoreError (Option String) :=
  s.attempt .get (s.lookup key)

def set (key value : String) (ttl : Int) (s : Store) : Except StoreError Store :=
  s.attempt .set { s.put key value with lastTtl := some ttl }

def ping (s : Store) : Except StoreError Unit := s.attempt .ping ()

end Store

end AwaitLint
