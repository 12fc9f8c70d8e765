import AwaitLint.Grammar.Diagnosis.Peg

/-! # Words of the grammar -/

namespace AwaitLint.Grammar.Diagnosis

instance : Coe ExpressionRule Peg := ⟨fun r => .call (.expression r)⟩

instance : Coe StatementRule Peg := ⟨fun r => .call (.statement r)⟩

instance : Coe PatternRule Peg := ⟨fun r => .call (.pattern r)⟩

/-! ## Tokens -/

def sign (p : Punct) : Peg := .token (· == .punct p)

def word (k : Keyword) : Peg := .token (· == .keyword k)

def soft (text : String) : Peg := .token (· == .name text true)

def name : Peg := .token fun
  | .name _ _ => true
  | _ => false

def string : Peg := .token fun
  | .string _ => true
  | _ => false

def lineEnd : Peg := .token (· == .newline)

def indent : Peg := .token (· == .indent)

def dedent : Peg := .token (· == .dedent)

/-- A word with a meaning of its own in some places, or a part of one that starts it. -/
def softKeyword : Peg := .token fun
  | .name id true => ["_", "case", "match"].any fun word => id.toList.isPrefixOf word.toList
  | _ => false

def textEnd : Peg := .token (· == .endmarker)

def demandColon : Peg := .demand (.punct .colon) "':'"

/-! ## Alternatives -/

/-- An alternative that only has to match. -/
def row (items : List Peg) : Alternative := .mk items fun _ => .made .other []

def alt (items : List Peg) (act : Action) : Alternative := .mk items act

/-- The alternative that is another rule. -/
def is (p : Peg) : Alternative := .mk [p] fun xs => .same (xs.headD .nothing)

/-- An alternative that matches a mistake. -/
def mistake (p : Peg) : Alternative := .mk [.checked p] fun xs => .same (xs.headD .nothing)

/-- A group of alternatives that only have to match. -/
def oneOf (rows : List (List Peg)) : Peg := .any (rows.map row)

/-- At least one. -/
def oneOrMore (p : Peg) : Peg :=
  .any [.mk [p, .many p] fun
    | [x, .mk _ _ _ xs] => .made .several (x :: xs)
    | _ => .refused]

/-! ## Actions -/

def pick (xs : List Piece) (n : Nat) : Piece := xs.getD n .nothing

/-- Passes on a piece. -/
def pass (n : Nat) : Action := fun xs => .same (pick xs n)

/-- The pieces that a piece brings to the one it belongs to. -/
def brought (x : Piece) : List Piece :=
  match x.form with
  | .several => x.parts
  | .absent => []
  | _ => [x]

def made (form : Form) (parts : List Nat) : Action := fun xs =>
  .made form (parts.flatMap fun n => brought (pick xs n))

/-- Reports a problem at a piece. -/
def blame (n : Nat) (text : String) : Action := fun xs =>
  .wrong (pick xs n).start (.misuse text)

/-- Reports a problem with a kind of expression. -/
def blameTitle (n : Nat) (before after : String) : Action := fun xs =>
  .wrong (pick xs n).start (.misuse (before ++ (pick xs n).title ++ after))

/-- Reports a problem at the last token read. -/
def complain (text : String) : Action := fun _ => .wrongHere (.misuse text)

def missing (text : String) : Action := fun _ => .wrongHere (.expected text)

def missingColon : Action := missing "':'"

/-- Reports that the block of a statement is missing, which starts with a piece. -/
def missingBlock (n : Nat) (owner : String) : Action := fun xs =>
  .wrongHere (.expectedBlock owner (pick xs n).start.line)

/-- Reports the first part that is no target. -/
def blameTarget (n : Nat) (use : Piece.Use) : Action := fun xs =>
  match (pick xs n).badTarget? use with
  | some x =>
    .wrong x.start (.misuse ((if use = .deleted then "cannot delete " else "cannot assign to ")
      ++ x.title))
  | none => .refused

end AwaitLint.Grammar.Diagnosis
