import ApiDocs.Source.Tree
/-!
Parsing expressions.

A grammar gives an expression for each of its rules; alternatives are tried in order, and the first
that matches counts.  Some alternatives match what is wrong; they are tried only when a text has been
refused, to find the place that is to blame, and end with a complaint.
-/

namespace ApiDocs.Source

inductive Terminal where
  | name
  | number
  | imaginary
  | string
  | newline
  | indent
  | dedent
  | finish
  | word (t : Text)
  | soft (t : Text)
  /-- A name that is a keyword somewhere, or begins one. -/
  | anySoft
  | sign (t : Text)
  deriving Repr

def Terminal.accepts : Terminal → Token → Bool
  | .name, t => t.kind = .name
  | .number, t => t.kind = .number
  | .imaginary, t => t.kind = .number && t.text.getLast?.any fun c => c == 0x6A || c == 0x4A
  | .string, t => t.kind = .string
  | .newline, t => t.kind = .newline
  | .indent, t => t.kind = .indent
  | .dedent, t => t.kind = .dedent
  | .finish, t => t.kind = .finish
  | .word w, t => t.kind = .keyword && t.text == w
  | .soft w, t => t.kind = .name && t.text == w
  | .anySoft, t => t.kind = .name && softKeywords.any (Text.startsWith · t.text)
  | .sign s, t => t.kind = .operator && t.text == s

def Terminal.expected : Terminal → Text
  | .sign s => ("expected '" : Text) ++ s ++ ("'" : Text)
  | _ => "invalid syntax"

/-- What is wrong with a matched sequence: it is put in words, and a line is to blame. -/
inductive Complaint where
  | latest (wording : Text)
  | part (n : Nat) (wording : Text)
  | kind (n : Nat) (before after : Text)
  | keyword (n : Nat)
  | indented (n : Nat) (what : Text)
  | target (usage : Usage) (n : Nat)
  /-- Two expressions in brackets without a comma between them; the first is not a statement of old. -/
  | comma
  | oldStatement
  | argumentOrder
  /-- The last of several arguments is a generator that is not in brackets. -/
  | generator
  deriving Repr

/-- A parsing expression over rules of type `ρ`. -/
inductive Peg (ρ : Type) where
  | token (t : Terminal)
  | rule (r : ρ)
  | seq (ps : List (Peg ρ))
  | choice (ps : List (Peg ρ))
  | opt (p : Peg ρ)
  | many (p : Peg ρ)
  | many1 (p : Peg ρ)
  /-- Once or more often, with separators. -/
  | separated (separator p : Peg ρ)
  | ahead (p : Peg ρ)
  | notAhead (p : Peg ρ)
  | cut
  | forced (t : Terminal)
  | literals
  | label (l : Label) (p : Peg ρ)
  /-- Of a sequence only one part is kept. -/
  | pick (n : Nat) (p : Peg ρ)
  /-- A part of a rule that is parsed by a call of its own. -/
  | inner (p : Peg ρ)
  | chain (start : Peg ρ) (links : List (Label × Peg ρ))
  /-- Tried only when the text has been refused. -/
  | special (p : Peg ρ)
  /-- Nothing special is tried inside. -/
  | ordinary (p : Peg ρ)
  | refuse (c : Complaint) (p : Peg ρ)

/-- A grammar: an expression for each rule, the rules whose matches are remembered, and the rule for the
expressions inside formatted strings. -/
structure Grammar (ρ : Type) where
  body : ρ → Peg ρ
  isMemo : ρ → Bool
  field : ρ

def oldStatements : List Text := ["print","exec"]

def Tree.isOldStatement (t : Tree) : Bool :=
  match t with
  | .node (.name _) _ _ _ => oldStatements.contains t.spelled
  | _ => false

def Tree.positional (t : Tree) : List Tree :=
  let given := (t.part 0).members
  let named := (t.part 1).members
  given ++ named.filter fun a => a.label? = some .starred

def nth (n : Nat) (parts : List Tree) : Tree := parts[n]?.getD Tree.absent

def Tree.hasMapping (t : Tree) : Bool := (t.part 1).members.any fun a => a.label? = some .mapping

/-- The wording for a target that none can be. -/
def Usage.wording (usage : Usage) (t : Tree) : Text :=
  (if usage = .deleted then "cannot delete " else "cannot assign to " : Text) ++ t.called

/-- The line that a complaint blames, and its wording, if it has a reason.  `latest` is the line of the last
token that was looked at, and `depth` the number of brackets open after the matched sequence. -/
def Complaint.blame (latest depth : Nat) (parts : List Tree) : Complaint → Option (Nat × Text)
  | .latest wording => some (latest,wording)
  | .part n wording => some ((nth n parts).line,wording)
  | .kind n before after => some ((nth n parts).line,before ++ (nth n parts).called ++ after)
  | .keyword n => some ((nth n parts).line,("cannot assign to " : Text) ++ (nth n parts).spelled)
  | .indented n what =>
    some (latest,("expected an indented block after " : Text) ++ what ++ (" on line " : Text) ++
      Text.ofNat (nth n parts).line)
  | .target usage n => ((nth n parts).badTarget usage).map fun t => (t.line,usage.wording t)
  | .comma =>
    let first := nth 1 parts
    if first.isOldStatement || depth = 0 then none
    else some (first.line,"invalid syntax. Perhaps you forgot a comma?")
  | .oldStatement =>
    let first := nth 0 parts
    if first.isOldStatement then
      some (first.line,("Missing parentheses in call to '" : Text) ++ first.spelled ++
        ("'. Did you mean " : Text) ++ first.spelled ++ ("(...)?" : Text))
    else none
  | .argumentOrder =>
    some (latest,if (nth 0 parts).hasMapping then "positional argument follows keyword argument unpacking"
      else "positional argument follows keyword argument")
  | .generator =>
    let arguments := (nth 0 parts).positional
    if arguments.length ≤ 1 then none
    else arguments.getLast?.map fun t => (t.line,"Generator expression must be parenthesized")

end ApiDocs.Source
