import ApiDocs.Interpreter
import ApiDocs.Source.Lexer
import ApiDocs.Source.Literal
import ApiDocs.Source.Peg
/-!
Parsing by a grammar.

A text is parsed once without the special alternatives.  When it is refused it is parsed again with
them, and the complaint that is reached first names the line to blame; without a complaint it is the
line of the furthest token that the first run looked at.  Tokens that cannot be read count too: the run
stops where it looks at one, and a faulty token further on goes before a complaint.  What is wrong is put in
words; those about an expression in a formatted string say so.

A rule is parsed by a call, and so is each repetition and each group in it.  Only so many calls may be open
at once, and a run that needs more stops for good.
-/

namespace ApiDocs.Source

/-- What was remembered: for each token the rules that were tried there, with their matches. -/
abbrev Memo (ρ : Type) := Array (List (ρ × Option (Tree × Nat)))

/-- What a run leaves behind: how many tokens were looked at, what is remembered, and how many calls are
open. -/
structure Trace (ρ : Type) where
  looked : Nat := 0
  memo : Memo ρ
  calls : Nat := 0

inductive Refusal where
  | notPython (line : Nat) (wording : Text)
  | noMemory
  deriving DecidableEq, Repr

/-- How an expression ends: it matches up to a token, or not, where no later alternative may be tried
after a cut; or the run stops, finally when no token can be read or no call can be made. -/
inductive Outcome where
  | hit (tree : Tree) (mark : Nat)
  | miss (isCut : Bool)
  | stop (why : Refusal) (isFinal : Bool)

/-- How a call ends whose expression ends so: a cut holds for its own alternatives only. -/
def Outcome.settled : Outcome → Outcome
  | .miss _ => .miss false
  | o => o

def nodeAt (ts : Tokens) (mark : Nat) (label : Label) (parts : List Tree) : Tree :=
  match ts.tokens[mark]? with
  | some t => .node label t.line t.column parts
  | none => .node label 0 0 parts

def tokenTree (t : Token) : Tree :=
  match t.kind with
  | .name => .node (.name t.text) t.line t.column []
  | .number => .node (.number t.text) t.line t.column []
  | _ => .leaf t

def maxNumberDigits : Nat := 4300

/-- The token is a decimal integer with too many digits; zeros alone are not too many. -/
def hasTooManyDigits (t : Token) : Bool :=
  t.kind = .number && maxNumberDigits < t.text.length &&
    t.text.all (fun c => Text.isDigit c || c == 0x5F) && t.text.any (fun c => c ≠ 0x30 && c ≠ 0x5F) &&
    maxNumberDigits < (t.text.filter Text.isDigit).length

/-- The number of brackets open after the token in front of a mark. -/
def depthBefore (ts : Tokens) (mark : Nat) : Nat :=
  (ts.tokens[mark - 1]?.map (·.depth)).getD 0

def latestLine (ts : Tokens) (looked : Nat) : Nat :=
  (ts.tokens[looked - 1]?.map (·.line)).getD 0

/-- Words about an expression, which may be one in a formatted string. -/
def worded (inString : Bool) (wording : Text) : Text :=
  if inString then ("f-string: " : Text) ++ wording else wording

/-- What is wrong where no further token can be read. -/
def Tokens.endRefusal (ts : Tokens) (inString : Bool) : Refusal :=
  match ts.ending with
  | .complete => .notPython (latestLine ts ts.tokens.size) []
  | .fault line wording => .notPython line wording
  | .halt line wording _ => .notPython line (worded inString wording)

/-- What is wrong when a run of the given extent blames a line: a faulty token further on goes before it, and
so do brackets that were opened in an earlier line and are never closed. -/
def Tokens.settle (ts : Tokens) (inString : Bool) (looked line : Nat) (wording : Text) : Refusal :=
  match ts.ending with
  | .complete => .notPython line wording
  | .fault faulty wording => .notPython faulty wording
  | .halt _ _ (some (bracket,opened)) =>
    if opened < latestLine ts looked then .notPython opened (worded inString (neverClosed bracket))
    else .notPython line wording
  | .halt _ _ none => .notPython line wording

def tooManyDigits (t : Token) : Text :=
  ("Exceeds the limit (4300 digits) for integer string conversion: value has " : Text) ++
    Text.ofNat (t.text.filter Text.isDigit).length ++
    (" digits; use sys.set_int_max_str_digits() to increase the limit" : Text) ++
    (" - Consider hexadecimal for huge integer literals to avoid decimal conversion limits." : Text)

/-- The expressions in a formatted string that begins in a given line are parsed in order by `field`,
which takes the line where an expression begins; `blame` is for a fault of the string.  The result is the
number of levels that the string takes. -/
def runPieces (field : Nat → Text → Except Refusal Tree) (blame : Text → Refusal) (line : Nat) :
    List Piece → Except Refusal Nat
  | [] => .ok 1
  | .fault wording :: _ => .error (blame wording)
  | .text level :: rest => (runPieces field blame line rest).map (max (2 * level + 2))
  | .expression level source lines :: rest =>
    match field (line + lines) (0x28 :: source ++ [0x29]) with
    | .error why => .error why
    | .ok tree => (runPieces field blame line rest).map (max (2 * level + 2 + tree.depth))

def literalValue (field : Nat → Text → Except Refusal Tree) (blame : Text → Refusal) (line : Nat) (l : Literal) :
    Except Refusal StringValue :=
  if l.isFormatted then (runPieces field blame line l.pieces).map .formatted
  else if l.isOctets then .ok .octets
  else match decodeBody l.isRaw l.body with
    | .error wording => .error (blame wording)
    | .ok text => .ok (.text text)

/-- The values of string literals in a row.  `octets` tells what the earlier ones are; `blame` is for faults,
with the line if it is that of a literal. -/
def runLiterals (field : Nat → Text → Except Refusal Tree) (blame : Option Nat → Text → Refusal)
    (octets : Option Bool) : List Token → Except Refusal (List StringValue)
  | [] => .ok []
  | t :: rest =>
    let l := Literal.ofToken t.text
    if l.isOctets && l.body.any (0x80 ≤ ·) then
      .error (blame t.line "bytes can only contain ASCII literal characters")
    else match (if l.isOctets then octetsFault? l.isRaw l.body else none) with
      | some wording => .error (blame none wording)
      | none =>
        let mixed := octets.any (· != l.isOctets)
        if mixed && l.isFormatted then .error (blame none "cannot mix bytes and nonbytes literals")
        else match literalValue field (blame none) t.line l with
          | .error why => .error why
          | .ok value =>
            if mixed then .error (blame none "cannot mix bytes and nonbytes literals")
            else (runLiterals field blame (some l.isOctets) rest).map (value :: ·)

variable {ρ : Type} [DecidableEq ρ]

/-- A call, for which there has to be room. -/
def call (s : Trace ρ) (body : Trace ρ → Outcome × Trace ρ) : Outcome × Trace ρ :=
  if Interpreter.parserCalls ≤ s.calls then (.stop .noMemory true,s)
  else
    match body { s with calls := s.calls + 1 } with
    | (o,after) => (o,{ after with calls := s.calls })

/-- The token at a mark, which is looked at; the run stops where no token can be read. -/
def look (ts : Tokens) (inString : Bool) (mark : Nat) (s : Trace ρ) : Except Refusal Token × Trace ρ :=
  match ts.tokens[mark]? with
  | some t => (.ok t,{ s with looked := max s.looked (mark + 1) })
  | none => (.error (ts.endRefusal inString),s)

def matchToken (ts : Tokens) (inString isForced : Bool) (t : Terminal) (mark : Nat) (s : Trace ρ) :
    Outcome × Trace ρ :=
  match look ts inString mark s with
  | (.error why,s) => (.stop why true,s)
  | (.ok token,s) =>
    if t.accepts token then
      if hasTooManyDigits token then
        (.stop (.notPython token.line (worded inString (tooManyDigits token))) false,s)
      else (.hit (tokenTree token) (mark + 1),s)
    else if isForced then (.stop (.notPython token.line (worded inString t.expected)) false,s)
    else (.miss false,s)

/-- The string tokens from a mark on, reversed; the token behind them is looked at. -/
def stringTokens (fuel : Nat) (ts : Tokens) (inString : Bool) (read : List Token) (mark : Nat) (s : Trace ρ) :
    Except Refusal (List Token × Nat) × Trace ρ :=
  match fuel with
  | 0 => (.ok (read,mark),s)
  | fuel + 1 =>
    match look ts inString mark s with
    | (.error why,s) => (.error why,s)
    | (.ok token,s) =>
      if token.kind = .string then stringTokens fuel ts inString (token :: read) (mark + 1) s
      else (.ok (read,mark),s)

/-- What a run works with: a grammar, the parser of expressions inside formatted strings, which takes
the line where one begins, the tokens, and whether they are those of such an expression. -/
structure Context (ρ : Type) where
  grammar : Grammar ρ
  field : Nat → Text → Except Refusal Tree
  tokens : Tokens
  inString : Bool

/-- How an expression ends when the fuel does. -/
def Context.exhausted (c : Context ρ) (s : Trace ρ) : Outcome × Trace ρ :=
  (.stop (.notPython (latestLine c.tokens s.looked) []) true,s)

mutual

/-- An expression is matched from a mark on.  `special` tells that special alternatives are tried. -/
def run (c : Context ρ) (fuel : Nat) (special : Bool) (p : Peg ρ) (mark : Nat) (s : Trace ρ) :
    Outcome × Trace ρ :=
  match fuel with
  | 0 => c.exhausted s
  | fuel + 1 =>
    match p with
    | .token t => matchToken c.tokens c.inString false t mark s
    | .forced t => matchToken c.tokens c.inString true t mark s
    | .rule r => call s fun s =>
      if c.grammar.isMemo r then
        match (s.memo[mark]?.getD []).find? (·.1 = r) with
        | some (_,some (tree,after)) => (.hit tree after,s)
        | some (_,none) => (.miss false,s)
        | none =>
          match run c fuel special (c.grammar.body r) mark s with
          | (.stop why isFinal,s) => (.stop why isFinal,s)
          | (o,s) =>
            let entry := match o with
              | .hit tree after => (r,some (tree,after))
              | _ => (r,none)
            (o.settled,{ s with memo := s.memo.modify mark (entry :: ·) })
      else
        match run c fuel special (c.grammar.body r) mark s with
        | (o,s) => (o.settled,s)
    | .inner p => call s fun s =>
      match run c fuel special p mark s with
      | (o,s) => (o.settled,s)
    | .seq ps => runSeq c fuel special ps false [] mark mark s
    | .choice ps => runChoice c fuel special ps mark s
    | .opt p =>
      match run c fuel special p mark s with
      | (.miss _,s) => (.hit .absent mark,s)
      | o => o
    | .many p => call s fun s => runMany c fuel special none p [] mark mark s
    | .many1 p => call s fun s =>
      match run c fuel special p mark s with
      | (.hit tree after,s) => runMany c fuel special none p [tree] mark after s
      | o => o
    | .separated separator p => call s fun s =>
      match run c fuel special p mark s with
      | (.hit tree after,s) => call s fun s => runMany c fuel special (some separator) p [tree] mark after s
      | o => o
    | .ahead p =>
      match run c fuel special p mark s with
      | (.hit _ _,s) => (.hit .absent mark,s)
      | o => o
    | .notAhead p =>
      match run c fuel special p mark s with
      | (.hit _ _,s) => (.miss false,s)
      | (.miss _,s) => (.hit .absent mark,s)
      | o => o
    | .cut => (.hit .absent mark,s)
    | .literals =>
      match stringTokens (c.tokens.tokens.size + 1) c.tokens c.inString [] mark s with
      | (.error why,s) => (.stop why true,s)
      | (.ok ([],_),s) => (.miss false,s)
      | (.ok (tokens,after),s) =>
        let blame (line : Option Nat) (wording : Text) : Refusal :=
          .notPython (line.getD (latestLine c.tokens s.looked)) (worded c.inString wording)
        match runLiterals c.field blame none tokens.reverse with
        | .error why => (.stop why false,s)
        | .ok values => (.hit (nodeAt c.tokens mark (StringValue.label values) []) after,s)
    | .label l p =>
      match run c fuel special p mark s with
      | (.hit (.node .row line column parts) after,s) => (.hit (.node l line column parts) after,s)
      | (.hit tree after,s) => (.hit (nodeAt c.tokens mark l [tree]) after,s)
      | o => o
    | .pick n p =>
      match run c fuel special p mark s with
      | (.hit tree after,s) => (.hit (tree.part n) after,s)
      | o => o
    | .chain start links => call s fun s =>
      match run c fuel special start mark s with
      | (.hit tree after,s) => runChain c fuel special links tree mark after s
      | o => o
    | .special p => if special then run c fuel special p mark s else (.miss false,s)
    | .ordinary p => run c fuel false p mark s
    | .refuse complaint p =>
      match run c fuel special p mark s with
      | (.hit tree after,s) =>
        match complaint.blame (latestLine c.tokens s.looked) (depthBefore c.tokens after) tree.parts with
        | some (line,wording) => (.stop (.notPython line (worded c.inString wording)) false,s)
        | none => (.miss true,s)
      | o => o

/-- The rest of a sequence; `parts` are the parts so far, reversed. -/
def runSeq (c : Context ρ) (fuel : Nat) (special : Bool) (ps : List (Peg ρ))
    (isCut : Bool) (parts : List Tree) (start mark : Nat) (s : Trace ρ) : Outcome × Trace ρ :=
  match fuel with
  | 0 => c.exhausted s
  | fuel + 1 =>
    match ps with
    | [] => (.hit (nodeAt c.tokens start .row parts.reverse) mark,s)
    | .cut :: rest => runSeq c fuel special rest true (.absent :: parts) start mark s
    | p :: rest =>
      match run c fuel special p mark s with
      | (.hit tree mark,s) => runSeq c fuel special rest isCut (tree :: parts) start mark s
      | (.miss alsoCut,s) => (.miss (isCut || alsoCut),s)
      | o => o

def runChoice (c : Context ρ) (fuel : Nat) (special : Bool) (ps : List (Peg ρ))
    (mark : Nat) (s : Trace ρ) : Outcome × Trace ρ :=
  match fuel with
  | 0 => c.exhausted s
  | fuel + 1 =>
    match ps with
    | [] => (.miss false,s)
    | p :: rest =>
      match run c fuel special p mark s with
      | (.miss false,s) => runChoice c fuel special rest mark s
      | (.miss true,s) => (.miss false,s)
      | o => o

/-- More of a repetition; `parts` are the parts so far, reversed. -/
def runMany (c : Context ρ) (fuel : Nat) (special : Bool)
    (separator : Option (Peg ρ)) (p : Peg ρ) (parts : List Tree) (start mark : Nat) (s : Trace ρ) :
    Outcome × Trace ρ :=
  match fuel with
  | 0 => c.exhausted s
  | fuel + 1 =>
    let done : Outcome := .hit (nodeAt c.tokens start .row parts.reverse) mark
    match (match separator with
      | none => (Outcome.hit .absent mark,s)
      | some q => run c fuel special q mark s) with
    | (.stop why isFinal,s) => (.stop why isFinal,s)
    | (.miss _,s) => (done,s)
    | (.hit _ after,s) =>
      match run c fuel special p after s with
      | (.stop why isFinal,s) => (.stop why isFinal,s)
      | (.miss _,s) => (done,s)
      | (.hit tree after,s) =>
        if after ≤ mark then (done,s)
        else runMany c fuel special separator p (tree :: parts) start after s

def runChain (c : Context ρ) (fuel : Nat) (special : Bool)
    (links : List (Label × Peg ρ)) (tree : Tree) (start mark : Nat) (s : Trace ρ) :
    Outcome × Trace ρ :=
  match fuel with
  | 0 => c.exhausted s
  | fuel + 1 =>
    match runLinks c fuel special links mark s with
    | (.hit link after,s) =>
      let label := (link.label?).getD .other
      runChain c fuel special links (nodeAt c.tokens start label (tree :: link.parts)) start after s
    | (.miss _,s) => (.hit tree mark,s)
    | o => o

def runLinks (c : Context ρ) (fuel : Nat) (special : Bool)
    (links : List (Label × Peg ρ)) (mark : Nat) (s : Trace ρ) : Outcome × Trace ρ :=
  match fuel with
  | 0 => c.exhausted s
  | fuel + 1 =>
    match links with
    | [] => (.miss false,s)
    | (label,p) :: rest =>
      match run c fuel special p mark s with
      | (.hit link after,s) => (.hit (nodeAt c.tokens mark label [link]) after,s)
      | (.miss _,s) => runLinks c fuel special rest mark s
      | o => o

end

/-- Why a run of the given extent that stops has no tree. -/
def Tokens.refusal (ts : Tokens) (inString : Bool) (looked : Nat) (why : Refusal) (isFinal : Bool) : Refusal :=
  match why with
  | .notPython line wording => if isFinal then why else ts.settle inString looked line wording
  | .noMemory => .noMemory

/-- What is wrong when there is no complaint: `first` is how far the first run looked, `second` how far the
second one did. -/
def Tokens.unexpected (ts : Tokens) (inString : Bool) (first second : Nat) : Refusal :=
  match ts.tokens[first - 1]? with
  | none => .notPython 1 (worded inString "error at start before reading any input")
  | some t =>
    match t.kind with
    | .indent => .notPython (latestLine ts second) (worded inString "unexpected indent")
    | .dedent => .notPython (latestLine ts second) (worded inString "unexpected unindent")
    | _ => ts.settle inString second t.line (worded inString "invalid syntax")

/-- The tree of tokens by a rule of a grammar.  The expressions in formatted strings are nested at most as
deeply as given. -/
def parseTokens (g : Grammar ρ) (fuel : Nat) (nesting : Nat) (inString : Bool) (r : ρ) (ts : Tokens) :
    Except Refusal Tree :=
  match nesting with
  | 0 => .error (.notPython (latestLine ts ts.tokens.size) [])
  | nesting + 1 =>
    let field (line : Nat) (source : Text) : Except Refusal Tree :=
      parseTokens g fuel nesting true g.field (lex line source)
    let empty : Memo ρ := Array.replicate (ts.tokens.size + 1) []
    match run ⟨g,field,ts,inString⟩ fuel false (.rule r) 0 { memo := empty } with
    | (.hit tree _,_) => .ok tree
    | (.stop why isFinal,s) => .error (ts.refusal inString s.looked why isFinal)
    | (.miss _,first) =>
      match run ⟨g,field,ts,inString⟩ fuel true (.rule r) 0 { looked := first.looked, memo := empty } with
      | (.stop why isFinal,s) => .error (ts.refusal inString s.looked why isFinal)
      | (_,second) => .error (ts.unexpected inString first.looked second.looked)

def parseFuel (t : Text) : Nat := 200 * t.length + 10000

/-- The tree of a text by a rule of a grammar. -/
def parse (g : Grammar ρ) (r : ρ) (t : Text) : Except Refusal Tree :=
  parseTokens g (parseFuel t) (t.length + 1) false r (lex 1 t)

end ApiDocs.Source
