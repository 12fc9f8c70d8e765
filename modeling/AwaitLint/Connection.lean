import AwaitLint.Store

/-! # The connection to the store

One client is held at a time. It is made when it is first needed, and making it does not connect. Clients
come from a library, which may refuse an address; `refusal` is what it says then.
-/

namespace AwaitLint

/-- A client that was made, with how often it was closed. -/
structure Client where
  url : String
  decodes : Bool
  closed : Nat
  deriving DecidableEq, Repr

/-- All clients that were made, oldest first, and the one that is held. -/
structure Connection where
  clients : List Client := []
  held : Option Nat := none
  deriving DecidableEq, Repr, Inhabited

namespace Connection

/-- The held client, or a new one. -/
def acquire (refusal : String → Option String) (url : String) (c : Connection) :
    Except String (Nat × Connection) :=
  match c.held with
  | some n => .ok (n, c)
  | none =>
    match refusal url with
    | none => .ok (c.clients.length, ⟨c.clients ++ [⟨url, true, 0⟩], some c.clients.length⟩)
    | some text => .error text

/-- Closes the held client; without one nothing happens. -/
def close (c : Connection) : Connection :=
  match c.held with
  | some n => ⟨c.clients.modify n fun k => { k with closed := k.closed + 1 }, none⟩
  | none => c

/-- Whether the store answers, in words. -/
def status (refusal : String → Option String) (url : String) (down : List Command) (c : Connection) :
    String × Connection :=
  match c.acquire refusal url with
  | .ok (_, c) => (if down.contains .ping then "error: " ++ StoreError.down.message else "ok", c)
  | .error text => ("error: " ++ text, c)

end Connection

end AwaitLint
