import ApiDocs.Source.Peg
/-!
The grammar of Python modules.

Rules named `wrong…` describe what is not Python: they are tried only in texts that have been refused.
-/

namespace ApiDocs.Source

inductive Rule where
  -- statements
  | file | statements | statement | simpleLine | simple | compound | block
  | assignment | annotatedValue | augment | returning | raising | globals | nonlocals | deleting
  | asserting | importing | importName | importFrom | importTargets | importAs | dottedAs | dottedName
  | decorators | classDefinition | classBody | functionDefinition | functionBody
  -- parameters
  | params | parameters | slashPlain | slashDefault | starParams | doubleStar | plainParam
  | starredParam | defaultParam | anyParam | param | default
  | lambdaParams | lambdaParameters | lambdaSlashPlain | lambdaSlashDefault | lambdaStar
  | lambdaDoubleStar | lambdaPlain | lambdaDefault | lambdaAny
  -- compound statements
  | ifStatement | elifBranch | elseBranch | whileStatement | forStatement | withStatement | withItem
  | tryStatement | exceptBranch | exceptStarBranch | finallyBranch
  -- patterns
  | matchStatement | subject | caseBranch | guard | patterns | pattern | asPattern | orPattern
  | closedPattern | literalPattern | complexNumber | signedNumber | signedReal | realNumber
  | imaginaryNumber | literalKey | captureTarget | attributeName | nameOrAttribute | sequencePattern
  | openSequence | someSequence | maybeStarPattern | starPattern | mappingPattern | pairPatterns
  | doubleStarPattern | classPattern | positionalPatterns | keywordPatterns
  -- expressions
  | evaluation | field | expressions | expression | yielding | starExpressions | starExpression | starNamedExpressions
  | starNamedExpression | assignmentExpression | namedExpression | disjunction | conjunction
  | inversion | comparison | bitOr | bitXor | bitAnd | shift | sum | term | factor | power
  | awaited | primary | slices | slice | atom | group | lambda | strings | list | tuple | set | dict
  | pairs | pair | keyValue | forClauses | forClause | listComp | setComp | generator | dictComp
  | arguments | args | kwargs | starredArgument | namedOrStarred | namedOrDoubleStarred
  -- targets
  | starTargets | starTargetList | starTargetTuple | starTarget | starAtomTarget | starAtom
  | singleTarget | attributeTarget | targetPrimary | targetAhead | deleteTargets | deleteTarget
  | deleteAtom
  -- what is wrong
  | wrongArguments | wrongKeyword | ordinaryExpression | wrongOldStatement | wrongExpression
  | wrongNamed | wrongAssignment | wrongAnnotationTarget | wrongDelete | wrongBlock
  | wrongComprehension | wrongDictComprehension | wrongParameters | wrongParametersHead
  | wrongDefault | wrongStar | wrongDoubleStar | wrongLambdaParameters | wrongLambdaHead
  | wrongLambdaStar | wrongLambdaDoubleStar | wrongWithItem | wrongForTarget | wrongGroup
  | wrongImportTargets | wrongWith | wrongWithBlock | wrongTry | wrongExcept | wrongFinally
  | wrongExceptBlock | wrongExceptStarBlock | wrongMatch | wrongCase | wrongAsPattern
  | wrongClassPattern | wrongClassArguments | wrongIf | wrongElif | wrongElse | wrongWhile | wrongFor
  | wrongFunction | wrongClass | wrongPairs | wrongPair
  deriving DecidableEq, Repr

namespace Rule

open Peg

abbrev Expr := Peg Rule

def op (s : String) : Expr := token (.sign s)

def kw (s : String) : Expr := token (.word s)

/-- A name that is a keyword here. -/
def soft (s : String) : Expr := token (.soft s)

def name : Expr := token .name

def newline : Expr := token .newline

/-- A name that is no expression. -/
def identifier : Expr := label .identifier name

def r (r : Rule) : Expr := rule r

def ops (ss : List String) : Expr := choice (ss.map op)

/-- A sequence that is parsed by a call of its own. -/
def part (ps : List Expr) : Expr := inner (seq ps)

def maybe (ps : List Expr) : Expr := opt (part ps)

/-- One of several operators, parsed by a call of its own. -/
def oneOf (ss : List String) : Expr := inner (ops ss)

def commas (p : Expr) : Expr := separated (op ",") p

/-- Several expressions with commas between them and maybe one at the end. -/
def commaList (p : Expr) : Expr := pick 0 (seq [commas p,opt (op ",")])

/-- What stands between two operators. -/
def between (opening closing : String) (p : Expr) : Expr := seq [op opening,p,op closing]

/-- An expression that has no meaning of its own here. -/
def other (p : Expr) : Expr := label .other p

def constant (s : String) : Expr := label (.constant s) (kw s)

/-- A line ends where a group of indented lines has to follow, and none does; part `n` is the keyword of what
is not followed by them. -/
def noBlock (n : Nat) (what : String) (ps : List Expr) : Expr :=
  refuse (.indented n what) (seq (ps ++ [op ":",newline,notAhead (token .indent)]))

/-- A line ends where a colon has to stand. -/
def noColon (ps : List Expr) : Expr := refuse (.latest "expected ':'") (seq (ps ++ [newline]))

def wrong (n : Nat) (wording : String) (ps : List Expr) : Expr := refuse (.part n wording) (seq ps)

/-! Wordings that several rules share. -/

def equality : String := "invalid syntax. Maybe you meant '==' or ':=' instead of '='?"

def bareGenerator : String := "Generator expression must be parenthesized"

def mappingLast : String := "arguments cannot follow var-keyword argument"

def bareStar : String := "named arguments must follow bare *"

def mixedBranches : String := "cannot have both 'except' and 'except*' on the same 'try'"

def asName : Expr := maybe [kw "as",name]

def assignedValue : Expr := inner (choice [r yielding,r starExpressions])

def branch (ps : List Expr) : Expr := seq (ps ++ [r block])

/-- Statements and what they consist of. -/
def statementBody : Rule → Option Expr
  | file => some (pick 0 (seq [opt (r statements),token .finish]))
  | statements => some (many1 (r statement))
  | statement => some (choice [r compound,r simpleLine])
  | simpleLine => some (choice
      [pick 0 (seq [r simple,notAhead (op ";"),newline]),
        pick 0 (seq [separated (op ";") (r simple),opt (op ";"),newline])])
  | simple => some (choice
      [other (r assignment),
        label .expression (r starExpressions),
        other (seq [ahead (kw "return"),r returning]),
        other (seq [ahead (inner (choice [kw "import",kw "from"])),r importing]),
        other (seq [ahead (kw "raise"),r raising]),
        other (kw "pass"),
        other (seq [ahead (kw "del"),r deleting]),
        label .expression (pick 1 (seq [ahead (kw "yield"),inner (r yielding)])),
        other (seq [ahead (kw "assert"),r asserting]),
        other (kw "break"),
        other (kw "continue"),
        other (seq [ahead (kw "global"),r globals]),
        other (seq [ahead (kw "nonlocal"),r nonlocals])])
  | compound => some (choice
      [pick 1 (seq [ahead (inner (choice [kw "def",op "@",kw "async"])),r functionDefinition]),
        pick 1 (seq [ahead (kw "if"),r ifStatement]),
        pick 1 (seq [ahead (inner (choice [kw "class",op "@"])),r classDefinition]),
        pick 1 (seq [ahead (inner (choice [kw "with",kw "async"])),r withStatement]),
        pick 1 (seq [ahead (inner (choice [kw "for",kw "async"])),r forStatement]),
        pick 1 (seq [ahead (kw "try"),r tryStatement]),
        pick 1 (seq [ahead (kw "while"),r whileStatement]),
        r matchStatement])
  | block => some (choice
      [pick 2 (seq [newline,token .indent,r statements,token .dedent]),
        r simpleLine,
        special (r wrongBlock)])
  | assignment => some (choice
      [seq [name,op ":",r expression,maybe [op "=",r annotatedValue]],
        seq [inner (choice [between "(" ")" (r singleTarget),r attributeTarget]),op ":",r expression,
          maybe [op "=",r annotatedValue]],
        seq [many1 (part [r starTargets,op "="]),assignedValue,notAhead (op "=")],
        seq [r singleTarget,r augment,cut,assignedValue],
        special (r wrongAssignment)])
  | annotatedValue => some (choice [r yielding,r starExpressions])
  | augment => some (ops
      ["+=","-=","*=","@=","/=","%=","&=","|=","^=","<<=",">>=","**=","//="])
  | returning => some (seq [kw "return",opt (r starExpressions)])
  | raising => some (choice
      [seq [kw "raise",r expression,maybe [kw "from",r expression]],kw "raise"])
  | globals => some (seq [kw "global",commas identifier])
  | nonlocals => some (seq [kw "nonlocal",commas identifier])
  | deleting => some (choice
      [seq [kw "del",r deleteTargets,ahead (inner (choice [op ";",newline]))],
        special (r wrongDelete)])
  | asserting => some (seq [kw "assert",r expression,maybe [op ",",r expression]])
  | importing => some (choice [r importName,r importFrom])
  | importName => some (seq [kw "import",inner (commas (r dottedAs))])
  | importFrom => some (choice
      [seq [kw "from",many (oneOf [".","..."]),r dottedName,kw "import",r importTargets],
        seq [kw "from",many1 (oneOf [".","..."]),kw "import",r importTargets]])
  | importTargets => some (choice
      [seq [op "(",inner (commas (r importAs)),opt (op ","),op ")"],
        seq [inner (commas (r importAs)),notAhead (op ",")],
        other (op "*"),
        special (r wrongImportTargets)])
  | importAs => some (seq [name,asName])
  | dottedAs => some (seq [r dottedName,asName])
  | dottedName => some (chain (inner name) [(.row,seq [op ".",name])])
  | decorators => some (other (many1 (part [op "@",r namedExpression,newline])))
  | classDefinition => some (choice [seq [r decorators,r classBody],r classBody])
  | classBody => some (choice
      [special (r wrongClass),
        other (seq [kw "class",name,maybe [op "(",opt (r arguments),op ")"],op ":",r block])])
  | functionDefinition => some (choice [seq [r decorators,r functionBody],r functionBody])
  | functionBody => some (choice
      [special (r wrongFunction),
        label .function (seq
          [kw "def",name,forced (.sign "("),opt (r params),op ")",
            maybe [op "->",r expression],forced (.sign ":"),r block]),
        label .function (seq
          [kw "async",kw "def",name,forced (.sign "("),opt (r params),op ")",
            maybe [op "->",r expression],forced (.sign ":"),r block])])
  | _ => none

def lambdaName : Expr := inner (other identifier)

/-! Parameters of functions end at a closing bracket, and those of lambda expressions at a colon. -/

/-- A part of a list, with a comma behind it or in front of what closes the list. -/
def listed (closing : String) (ps : List Expr) : Expr :=
  choice [seq (ps ++ [op ","]),seq (ps ++ [ahead (op closing)])]

def parameterList (slashed slashedDefault plain withDefault star : Rule) : Expr := choice
  [seq [r slashed,many (r plain),many (r withDefault),opt (r star)],
    seq [r slashedDefault,many (r withDefault),opt (r star)],
    seq [many1 (r plain),many (r withDefault),opt (r star)],
    seq [many1 (r withDefault),opt (r star)],
    r star]

def parameterBody : Rule → Option Expr
  | params => some (choice [special (r wrongParameters),other (r parameters)])
  | parameters => some (parameterList slashPlain slashDefault plainParam defaultParam starParams)
  | slashPlain => some (listed ")" [many1 (r plainParam),op "/"])
  | slashDefault => some (listed ")" [many (r plainParam),many1 (r defaultParam),op "/"])
  | starParams => some (choice
      [special (r wrongStar),
        seq [op "*",r plainParam,many (r anyParam),opt (r doubleStar)],
        seq [op "*",r starredParam,many (r anyParam),opt (r doubleStar)],
        seq [op "*",op ",",many1 (r anyParam),opt (r doubleStar)],
        r doubleStar])
  | doubleStar => some (choice [special (r wrongDoubleStar),seq [op "**",r plainParam]])
  | plainParam => some (listed ")" [r param])
  | starredParam => some (listed ")" [inner (other (seq [identifier,part [op ":",r starExpression]]))])
  | defaultParam => some (listed ")" [r param,r default])
  | anyParam => some (listed ")" [r param,opt (r default)])
  | param => some (other (seq [identifier,maybe [op ":",r expression]]))
  | default => some (choice [seq [op "=",r expression],special (r wrongDefault)])
  | lambdaParams => some (choice [special (r wrongLambdaParameters),other (r lambdaParameters)])
  | lambdaParameters => some (parameterList lambdaSlashPlain lambdaSlashDefault lambdaPlain lambdaDefault lambdaStar)
  | lambdaSlashPlain => some (listed ":" [many1 (r lambdaPlain),op "/"])
  | lambdaSlashDefault => some (listed ":" [many (r lambdaPlain),many1 (r lambdaDefault),op "/"])
  | lambdaStar => some (choice
      [special (r wrongLambdaStar),
        seq [op "*",r lambdaPlain,many (r lambdaAny),opt (r lambdaDoubleStar)],
        seq [op "*",op ",",many1 (r lambdaAny),opt (r lambdaDoubleStar)],
        r lambdaDoubleStar])
  | lambdaDoubleStar => some (choice
      [special (r wrongLambdaDoubleStar),seq [op "**",r lambdaPlain]])
  | lambdaPlain => some (listed ":" [lambdaName])
  | lambdaDefault => some (listed ":" [lambdaName,r default])
  | lambdaAny => some (listed ":" [lambdaName,opt (r default)])
  | _ => none

/-- Compound statements other than definitions. -/
def compoundBody : Rule → Option Expr
  | ifStatement => some (choice
      [special (r wrongIf),
        other (seq [kw "if",r namedExpression,op ":",r block,r elifBranch]),
        other (seq [kw "if",r namedExpression,op ":",r block,opt (r elseBranch)])])
  | elifBranch => some (choice
      [special (r wrongElif),
        other (seq [kw "elif",r namedExpression,op ":",r block,r elifBranch]),
        other (seq [kw "elif",r namedExpression,op ":",r block,opt (r elseBranch)])])
  | elseBranch => some (choice [special (r wrongElse),branch [kw "else",forced (.sign ":")]])
  | whileStatement => some (choice
      [special (r wrongWhile),
        other (seq [kw "while",r namedExpression,op ":",r block,opt (r elseBranch)])])
  | forStatement =>
    let loop := [kw "for",r starTargets,kw "in",cut,r starExpressions,op ":",r block,
      opt (r elseBranch)]
    some (choice
      [special (r wrongFor),
        other (seq loop),
        other (seq (kw "async" :: loop)),
        special (r wrongForTarget)])
  | withStatement =>
    let bracketed := [kw "with",op "(",commas (r withItem),opt (op ","),op ")",op ":",r block]
    let bare := [kw "with",commas (r withItem),op ":",r block]
    some (choice
      [special (r wrongWithBlock),
        other (seq bracketed),
        other (seq bare),
        other (seq (kw "async" :: bracketed)),
        other (seq (kw "async" :: bare)),
        special (r wrongWith)])
  | withItem => some (choice
      [other (seq [r expression,kw "as",r starTarget,ahead (oneOf [",",")",":"])]),
        special (r wrongWithItem),
        other (r expression)])
  | tryStatement => some (choice
      [special (r wrongTry),
        other (seq [kw "try",forced (.sign ":"),r block,r finallyBranch]),
        other (seq [kw "try",forced (.sign ":"),r block,many1 (r exceptBranch),
          opt (r elseBranch),opt (r finallyBranch)]),
        other (seq [kw "try",forced (.sign ":"),r block,many1 (r exceptStarBranch),
          opt (r elseBranch),opt (r finallyBranch)])])
  | exceptBranch => some (choice
      [special (r wrongExceptBlock),
        other (branch [kw "except",r expression,asName,op ":"]),
        other (branch [kw "except",op ":"]),
        special (r wrongExcept)])
  | exceptStarBranch => some (choice
      [special (r wrongExceptStarBlock),
        other (branch [kw "except",op "*",r expression,asName,op ":"]),
        special (r wrongExcept)])
  | finallyBranch => some (choice
      [special (r wrongFinally),branch [kw "finally",forced (.sign ":")]])
  | matchStatement => some (choice
      [other (seq [soft "match",r subject,op ":",newline,token .indent,many1 (r caseBranch),
          token .dedent]),
        special (r wrongMatch)])
  | subject => some (choice
      [label .tuple (seq [r starNamedExpression,op ",",opt (r starNamedExpressions)]),r namedExpression])
  | caseBranch => some (choice
      [special (r wrongCase),
        other (seq [soft "case",r patterns,opt (r guard),op ":",r block])])
  | guard => some (seq [kw "if",r namedExpression])
  | _ => none

def patternBody : Rule → Option Expr
  | patterns => some (choice [other (r openSequence),r pattern])
  | pattern => some (choice [r asPattern,r orPattern])
  | asPattern => some (choice
      [other (seq [r orPattern,kw "as",r captureTarget]),special (r wrongAsPattern)])
  | orPattern => some (label .alternatives (separated (op "|") (r closedPattern)))
  | closedPattern => some (choice
      [r literalPattern,
        inner (r captureTarget),
        inner (soft "_"),
        inner (other (seq [r attributeName,notAhead (oneOf [".","(","="])])),
        inner (pick 1 (between "(" ")" (r pattern))),
        r sequencePattern,
        r mappingPattern,
        r classPattern])
  | literalPattern => some (choice
      [other (pick 0 (seq [r signedNumber,notAhead (oneOf ["+","-"])])),
        other (r complexNumber),
        other (r strings),
        constant "None",
        constant "True",
        constant "False"])
  | literalKey => some (choice
      [pick 0 (seq [r signedNumber,notAhead (oneOf ["+","-"])]),
        r complexNumber,
        r strings,
        constant "None",
        constant "True",
        constant "False"])
  | complexNumber => some (choice
      [label .sum (seq [r signedReal,op "+",r imaginaryNumber]),
        label .sum (seq [r signedReal,op "-",r imaginaryNumber])])
  | signedNumber => some (choice [token .number,label .signed (seq [op "-",token .number])])
  | signedReal => some (choice [r realNumber,label .signed (seq [op "-",r realNumber])])
  | realNumber => some (choice [wrong 0 "real number required in complex literal" [token .imaginary],token .number])
  | imaginaryNumber => some (choice [token .imaginary,wrong 0 "imaginary number required in complex literal" [token .number]])
  | captureTarget => some (pick 1 (seq [notAhead (soft "_"),name,notAhead (oneOf [".","(","="])]))
  | attributeName => some (chain (label .attribute (seq [inner (inner name),op ".",name]))
      [(.attribute,seq [op ".",name])])
  | nameOrAttribute => some (choice [r attributeName,name])
  | sequencePattern => some (other (choice
      [between "[" "]" (opt (r someSequence)),between "(" ")" (opt (r openSequence))]))
  | openSequence => some (seq [r maybeStarPattern,op ",",opt (r someSequence)])
  | someSequence => some (commaList (r maybeStarPattern))
  | maybeStarPattern => some (choice [r starPattern,r pattern])
  | starPattern => some (other (choice
      [seq [op "*",label .identifier (r captureTarget)],seq [op "*",inner (label .identifier (soft "_"))]]))
  | mappingPattern => some (other (choice
      [seq [op "\x7b",op "\x7d"],
        seq [op "\x7b",r doubleStarPattern,opt (op ","),op "\x7d"],
        seq [op "\x7b",r pairPatterns,op ",",r doubleStarPattern,opt (op ","),op "\x7d"],
        seq [op "\x7b",r pairPatterns,opt (op ","),op "\x7d"]]))
  | pairPatterns => some (commas
      (part [inner (choice [r literalKey,r attributeName]),op ":",r pattern]))
  | doubleStarPattern => some (seq [op "**",label .identifier (r captureTarget)])
  | classPattern => some (other (choice
      [seq [r nameOrAttribute,op "(",op ")"],
        seq [r nameOrAttribute,op "(",r positionalPatterns,opt (op ","),op ")"],
        seq [r nameOrAttribute,op "(",r keywordPatterns,opt (op ","),op ")"],
        seq [r nameOrAttribute,op "(",r positionalPatterns,op ",",r keywordPatterns,
          opt (op ","),op ")"],
        special (r wrongClassPattern)]))
  | positionalPatterns => some (commas (r pattern))
  | keywordPatterns => some (commas (part [name,op "=",r pattern]))
  | _ => none

/-- Binary operators that group from the left. -/
def leftward (l : Label) (operand : Rule) (operators : List String) : Expr :=
  chain (r operand) (operators.map fun o => (l,seq [op o,r operand]))

/-- The second half of a comparison. -/
def comparisonTail : Expr :=
  let half (signs : List Expr) : Expr := part (signs ++ [r bitOr])
  inner (choice
    [half [op "=="],half [inner (op "!=")],half [op "<="],half [op "<"],half [op ">="],half [op ">"],
      half [kw "not",kw "in"],label .membership (half [kw "in"]),half [kw "is",kw "not"],half [kw "is"]])

/-- A name bound inside an expression, or an expression that is not bound. -/
def boundOrFree : Expr :=
  inner (choice [r assignmentExpression,pick 0 (seq [r expression,notAhead (op ":=")])])

def positionalArgument : Expr :=
  inner (choice [r starredArgument,pick 0 (seq [boundOrFree,notAhead (op "=")])])

def expressionBody : Rule → Option Expr
  | evaluation => some (pick 0 (seq [r expressions,many newline,token .finish]))
  | field => some (r starExpressions)
  | expressions => some (choice
      [label .tuple (seq [r expression,many1 (part [op ",",r expression]),opt (op ",")]),
        label .tuple (seq [r expression,op ","]),
        r expression])
  | expression => some (choice
      [special (r wrongExpression),
        special (r wrongOldStatement),
        label .conditional (seq [r disjunction,kw "if",r disjunction,kw "else",r expression]),
        r disjunction,
        r lambda])
  | yielding => some (choice
      [label .yielding (seq [kw "yield",kw "from",r expression]),
        label .yielding (seq [kw "yield",opt (r starExpressions)])])
  | starExpressions => some (choice
      [label .tuple (seq [r starExpression,many1 (part [op ",",r starExpression]),opt (op ",")]),
        label .tuple (seq [r starExpression,op ","]),
        r starExpression])
  | starExpression => some (choice [label .starred (seq [op "*",r bitOr]),r expression])
  | starNamedExpressions => some (commaList (r starNamedExpression))
  | starNamedExpression => some (choice [label .starred (seq [op "*",r bitOr]),r namedExpression])
  | assignmentExpression => some (label .binding (seq [name,op ":=",cut,r expression]))
  | namedExpression => some (choice
      [r assignmentExpression,
        special (r wrongNamed),
        pick 0 (seq [r expression,notAhead (op ":=")])])
  | disjunction => some (choice
      [label .operation (seq [r conjunction,many1 (part [kw "or",r conjunction])]),r conjunction])
  | conjunction => some (choice
      [label .operation (seq [r inversion,many1 (part [kw "and",r inversion])]),r inversion])
  | inversion => some (choice [label .operation (seq [kw "not",r inversion]),r comparison])
  | comparison => some (choice
      [label .comparison (seq [r bitOr,many1 comparisonTail]),r bitOr])
  | bitOr => some (leftward .operation bitXor ["|"])
  | bitXor => some (leftward .operation bitAnd ["^"])
  | bitAnd => some (leftward .operation shift ["&"])
  | shift => some (leftward .operation sum ["<<",">>"])
  | sum => some (leftward .sum term ["+","-"])
  | term => some (leftward .operation factor ["*","/","//","%","@"])
  | factor => some (choice
      [label .signed (seq [op "+",r factor]),
        label .signed (seq [op "-",r factor]),
        label .operation (seq [op "~",r factor]),
        r power])
  | power => some (choice [label .operation (seq [r awaited,op "**",r factor]),r awaited])
  | awaited => some (choice [label .awaiting (seq [kw "await",r primary]),r primary])
  | primary => some (chain (r atom)
      [(.attribute,seq [op ".",name]),
        (.call,r generator),
        (.call,between "(" ")" (opt (r arguments))),
        (.subscript,between "[" "]" (r slices))])
  | slices => some (choice
      [pick 0 (seq [r slice,notAhead (op ",")]),
        label .tuple (commaList (inner (choice [r slice,r starredArgument])))])
  | slice => some (choice
      [other (seq [opt (r expression),op ":",opt (r expression),
          maybe [op ":",opt (r expression)]]),
        r namedExpression])
  | atom => some (choice
      [name,
        constant "True",
        constant "False",
        constant "None",
        pick 1 (seq [ahead (token .string),r strings]),
        token .number,
        pick 1 (seq [ahead (op "("),inner (choice [r tuple,r group,r generator])]),
        pick 1 (seq [ahead (op "["),inner (choice [r list,r listComp])]),
        pick 1 (seq [ahead (op "\x7b"),inner (choice [r dict,r set,r dictComp,r setComp])]),
        label (.constant "...") (op "...")])
  | group => some (choice
      [pick 1 (between "(" ")" (inner (choice [r yielding,r namedExpression]))),special (r wrongGroup)])
  | lambda => some (label .lambda (seq [kw "lambda",opt (r lambdaParams),op ":",r expression]))
  | strings => some (inner literals)
  | list => some (label .list (between "[" "]" (opt (r starNamedExpressions))))
  | tuple => some (label .tuple (between "(" ")"
      (maybe [r starNamedExpression,op ",",opt (r starNamedExpressions)])))
  | set => some (label .set (between "\x7b" "\x7d" (r starNamedExpressions)))
  | dict => some (choice
      [label .dict (between "\x7b" "\x7d" (opt (r pairs))),
        between "\x7b" "\x7d" (r wrongPairs)])
  | pairs => some (commaList (r pair))
  | pair => some (choice [label .unpacked (seq [op "**",r bitOr]),r keyValue])
  | keyValue => some (label .pair (seq [r expression,op ":",r expression]))
  | forClauses => some (many1 (r forClause))
  | forClause =>
    let clause := [kw "for",r starTargets,kw "in",cut,r disjunction,
      many (part [kw "if",r disjunction])]
    some (choice [other (seq (kw "async" :: clause)),other (seq clause),special (r wrongForTarget)])
  | listComp => some (choice
      [label (.comprehension "list") (seq [op "[",r namedExpression,r forClauses,op "]"]),special (r wrongComprehension)])
  | setComp => some (choice
      [label (.comprehension "set") (seq [op "\x7b",r namedExpression,r forClauses,op "\x7d"]),
        special (r wrongComprehension)])
  | generator => some (choice
      [label .generator (seq [op "(",boundOrFree,r forClauses,op ")"]),special (r wrongComprehension)])
  | dictComp => some (choice
      [label (.comprehension "dict") (seq [op "\x7b",r keyValue,r forClauses,op "\x7d"]),
        special (r wrongDictComprehension)])
  | arguments => some (choice
      [pick 0 (seq [r args,opt (op ","),ahead (op ")")]),special (r wrongArguments)])
  | args => some (choice
      [label .arguments (seq [commas positionalArgument,opt (inner (pick 1 (seq [op ",",r kwargs])))]),
        label .arguments (seq [ahead (seq []),r kwargs])])
  | kwargs => some (choice
      [seq [commas (r namedOrStarred),op ",",commas (r namedOrDoubleStarred)],
        commas (r namedOrStarred),
        commas (r namedOrDoubleStarred)])
  | starredArgument => some (choice
      [label .starred (seq [op "*",r expression]),refuse (.latest "Invalid star expression") (op "*")])
  | namedOrStarred => some (choice
      [special (r wrongKeyword),other (seq [name,op "=",r expression]),r starredArgument])
  | namedOrDoubleStarred => some (choice
      [special (r wrongKeyword),other (seq [name,op "=",r expression]),
        label .mapping (seq [op "**",r expression])])
  | _ => none

def targetBody : Rule → Option Expr
  | starTargets => some (choice
      [pick 0 (seq [r starTarget,notAhead (op ",")]),
        label .tuple (seq [r starTarget,many (part [op ",",r starTarget]),opt (op ",")])])
  | starTargetList => some (commaList (r starTarget))
  | starTargetTuple => some (choice
      [seq [r starTarget,many1 (part [op ",",r starTarget]),opt (op ",")],
        seq [r starTarget,op ","]])
  | starTarget => some (choice
      [label .starred (seq [op "*",inner (pick 1 (seq [notAhead (op "*"),r starTarget]))]),
        r starAtomTarget])
  | starAtomTarget => some (choice
      [label .attribute (seq [r targetPrimary,op ".",name,notAhead (r targetAhead)]),
        label .subscript (seq [r targetPrimary,op "[",r slices,op "]",notAhead (r targetAhead)]),
        r starAtom])
  | starAtom => some (choice
      [name,
        pick 1 (between "(" ")" (r starAtomTarget)),
        label .tuple (between "(" ")" (opt (r starTargetTuple))),
        label .list (between "[" "]" (opt (r starTargetList)))])
  | singleTarget => some (choice
      [r attributeTarget,name,pick 1 (between "(" ")" (r singleTarget))])
  | attributeTarget => some (choice
      [label .attribute (seq [r targetPrimary,op ".",name,notAhead (r targetAhead)]),
        label .subscript
          (seq [r targetPrimary,op "[",r slices,op "]",notAhead (r targetAhead)])])
  | targetPrimary => some (chain (pick 0 (seq [r atom,ahead (r targetAhead)]))
      [(.attribute,seq [op ".",name,ahead (r targetAhead)]),
        (.subscript,seq [op "[",r slices,op "]",ahead (r targetAhead)]),
        (.call,seq [r generator,ahead (r targetAhead)]),
        (.call,seq [op "(",opt (r arguments),op ")",ahead (r targetAhead)])])
  | targetAhead => some (ops ["(","[","."])
  | deleteTargets => some (commaList (r deleteTarget))
  | deleteTarget => some (choice
      [label .attribute (seq [r targetPrimary,op ".",name,notAhead (r targetAhead)]),
        label .subscript (seq [r targetPrimary,op "[",r slices,op "]",notAhead (r targetAhead)]),
        r deleteAtom])
  | deleteAtom => some (choice
      [name,
        pick 1 (between "(" ")" (r deleteTarget)),
        label .tuple (between "(" ")" (opt (r deleteTargets))),
        label .list (between "[" "]" (opt (r deleteTargets)))])
  | _ => none

/-- What is wrong with the value of a key. -/
def wrongValues : List Expr :=
  [wrong 2 "cannot use a starred expression in a dictionary value" [r expression,op ":",op "*",r bitOr],
    wrong 1 "expression expected after dictionary key and ':'" [r expression,op ":",ahead (oneOf ["\x7d",","])]]

/-- What is wrong with the order of parameters; `head` are some with a default. -/
def wrongOrder (plain head slashed slashedDefault any : Rule) (bracketed : Expr) : Expr :=
  let first := inner (choice [r slashed,r slashedDefault])
  choice
    [wrong 2 "non-default argument follows default argument" [many (r plain),r head,r plain],
      bracketed,
      wrong 0 "at least one argument must precede /" [op "/",op ","],
      wrong 2 "/ may appear only once" [first,many (r any),op "/"],
      wrong 5 "/ must be ahead of *" [opt first,many (r any),op "*",inner (choice [op ",",r plain]),many (r any),op "/"],
      wrong 2 "expected comma between / and *" [many1 (r any),op "/",op "*"]]

def wrongStars (bare name : Expr) (plain any : Rule) : Expr :=
  let starred := inner (choice [r plain,op ","])
  choice
    [bare,
      wrong 2 "var-positional argument cannot have default value" [op "*",name,op "="],
      wrong 3 "* argument may appear only once" [op "*",starred,many (r any),op "*",starred]]

def wrongMapping (name : Expr) : Expr := choice
  [wrong 2 "var-keyword argument cannot have default value" [op "**",name,op "="],
    wrong 3 mappingLast [op "**",name,op ",",name],
    wrong 3 mappingLast [op "**",name,op ",",oneOf ["*","**","/"]]]

/-- What is wrong with expressions, arguments and parameters. -/
def wrongExpressionBody : Rule → Option Expr
  | wrongArguments => some (choice
      [wrong 0 "iterable argument unpacking follows keyword argument unpacking" [r args,op ",",op "*"],
        wrong 0 bareGenerator [r expression,r forClauses,op ",",
          opt (inner (choice [r args,seq [r expression,r forClauses]]))],
        wrong 0 equality [name,op "=",r expression,r forClauses],
        refuse .generator (seq [r args,r forClauses]),
        wrong 2 bareGenerator [r args,op ",",r expression,r forClauses],
        refuse .argumentOrder (seq [r args,op ",",r args])])
  | wrongKeyword => some (choice
      [refuse (.keyword 0) (seq [inner (choice [kw "True",kw "False",kw "None"]),op "="]),
        wrong 0 equality [name,op "=",r expression,r forClauses],
        wrong 1 "expression cannot contain assignment, perhaps you meant \"==\"?"
          [notAhead (part [name,op "="]),r expression,op "="]])
  | ordinaryExpression => some (ordinary (choice
      [label .conditional (seq [r disjunction,kw "if",r disjunction,kw "else",r expression]),
        r disjunction,
        r lambda]))
  | wrongOldStatement => some
      (refuse .oldStatement (seq [name,notAhead (op "("),r starExpressions]))
  | wrongExpression => some (choice
      [refuse .comma (seq [notAhead (inner (choice [seq [name,token .string],token .anySoft])),
          r disjunction,r ordinaryExpression]),
        wrong 0 "expected 'else' after 'if' expression"
          [r disjunction,kw "if",r disjunction,notAhead (inner (choice [kw "else",op ":"]))]])
  | wrongNamed => some (choice
      [refuse (.kind 0 "cannot use assignment expressions with " "") (seq [r expression,op ":=",r expression]),
        wrong 0 equality [name,op "=",r bitOr,notAhead (oneOf ["=",":="])],
        refuse (.kind 1 "cannot assign to " " here. Maybe you meant '==' instead of '='?")
          (seq [notAhead (inner (choice [r list,r tuple,r generator,kw "True",kw "None",kw "False"])),
            r bitOr,op "=",r bitOr,notAhead (oneOf ["=",":="])])])
  | wrongAssignment => some (choice
      [refuse (.kind 0 "only single target (not " ") can be annotated")
          (seq [r wrongAnnotationTarget,op ":",r expression]),
        wrong 0 "only single target (not tuple) can be annotated"
          [r starNamedExpression,op ",",many (r starNamedExpressions),op ":",r expression],
        wrong 0 "illegal target for annotation" [r expression,op ":",r expression],
        refuse (.target .assigned 1)
          (seq [many (part [r starTargets,op "="]),r starExpressions,op "="]),
        wrong 1 "assignment to yield expression not possible" [many (part [r starTargets,op "="]),r yielding,op "="],
        refuse (.kind 0 "'" "' is an illegal expression for augmented assignment")
          (seq [r starExpressions,r augment,assignedValue])])
  | wrongAnnotationTarget => some (choice
      [r list,r tuple,pick 1 (between "(" ")" (r wrongAnnotationTarget))])
  | wrongDelete => some (refuse (.target .deleted 1) (seq [kw "del",r starExpressions]))
  | wrongComprehension => some (choice
      [wrong 1 "iterable unpacking cannot be used in comprehension"
          [oneOf ["[","(","\x7b"],r starredArgument,r forClauses],
        wrong 1 "did you forget parentheses around the comprehension target?"
          [oneOf ["[","\x7b"],r starNamedExpression,op ",",r starNamedExpressions,r forClauses],
        wrong 1 "did you forget parentheses around the comprehension target?"
          [oneOf ["[","\x7b"],r starNamedExpression,op ",",r forClauses]])
  | wrongDictComprehension => some
      (wrong 1 "dict unpacking cannot be used in dict comprehension" [op "\x7b",op "**",r bitOr,r forClauses,op "\x7d"])
  | wrongParameters => some (wrongOrder plainParam wrongParametersHead slashPlain slashDefault anyParam
      (wrong 1 "Function parameters cannot be parenthesized"
        [many (r plainParam),op "(",many1 (r plainParam),opt (op ","),op ")"]))
  | wrongParametersHead => some (choice [r slashDefault,many1 (r defaultParam)])
  | wrongDefault => some (wrong 0 "expected default value expression" [op "=",ahead (oneOf [")",","])])
  | wrongStar => some (wrongStars
      (wrong 0 bareStar [op "*",inner (choice [op ")",seq [op ",",oneOf [")","**"]]])]) (r param) plainParam anyParam)
  | wrongDoubleStar => some (wrongMapping (r param))
  | wrongLambdaParameters => some (wrongOrder lambdaPlain wrongLambdaHead lambdaSlashPlain lambdaSlashDefault lambdaAny
      (wrong 1 "Lambda expression parameters cannot be parenthesized"
        [many (r lambdaPlain),op "(",commas lambdaName,opt (op ","),op ")"]))
  | wrongLambdaHead => some (choice [r lambdaSlashDefault,many1 (r lambdaDefault)])
  -- Here it is the last token that is blamed.
  | wrongLambdaStar => some (wrongStars
      (refuse (.latest bareStar) (seq [op "*",inner (choice [op ":",seq [op ",",oneOf [":","**"]]])])) lambdaName
      lambdaPlain lambdaAny)
  | wrongLambdaDoubleStar => some (wrongMapping lambdaName)
  | wrongGroup => some (choice
      [wrong 1 "cannot use starred expression here" [op "(",r starredArgument,op ")"],
        wrong 1 "cannot use double starred expression here" [op "(",op "**",r expression,op ")"]])
  | wrongPairs => some (choice
      (seq [commas (r pair),op ",",r wrongPair] :: wrongValues))
  | wrongPair => some (choice
      (wrong 0 "':' expected after dictionary key" [r expression,notAhead (op ":")] :: wrongValues))
  | _ => none

/-- What is wrong with statements. -/
def wrongStatementBody : Rule → Option Expr
  | wrongBlock => some (refuse (.latest "expected an indented block") (seq [newline,notAhead (token .indent)]))
  | wrongWithItem => some (refuse (.target .assigned 2)
      (seq [r expression,kw "as",r expression,ahead (oneOf [",",")",":"])]))
  | wrongForTarget => some (refuse (.target .iterated 2)
      (seq [opt (kw "async"),kw "for",r starExpressions]))
  | wrongImportTargets => some
      (refuse (.latest "trailing comma not allowed without surrounding parentheses")
        (seq [inner (commas (r importAs)),op ",",newline]))
  | wrongWith =>
    let target := maybe [kw "as",r starTarget]
    some (choice
      [noColon [opt (kw "async"),kw "with",commas (part [r expression,target])],
        noColon [opt (kw "async"),kw "with",op "(",commas (part [r expressions,target]),
          opt (op ","),op ")"]])
  | wrongWithBlock =>
    let target := maybe [kw "as",r starTarget]
    some (choice
      [noBlock 1 "'with' statement" [opt (kw "async"),kw "with",commas (part [r expression,target])],
        noBlock 1 "'with' statement" [opt (kw "async"),kw "with",op "(",commas (part [r expressions,target]),
          opt (op ","),op ")"]])
  | wrongTry => some (choice
      [noBlock 0 "'try' statement" [kw "try"],
        refuse (.latest "expected 'except' or 'finally' block") (seq [kw "try",op ":",r block,
          notAhead (inner (choice [kw "except",kw "finally"]))]),
        wrong 4 mixedBranches [kw "try",op ":",many (r block),many1 (r exceptBranch),kw "except",op "*",r expression,
          asName,op ":"],
        wrong 4 mixedBranches [kw "try",op ":",many (r block),many1 (r exceptStarBranch),kw "except",
          maybe [r expression,asName],op ":"]])
  | wrongExcept => some (choice
      [wrong 2 "multiple exception types must be parenthesized"
          [kw "except",opt (op "*"),r expression,op ",",r expressions,asName,op ":"],
        noColon [kw "except",opt (op "*"),r expression,asName],
        noColon [kw "except"],
        refuse (.latest "expected one or more exception types")
          (seq [kw "except",op "*",inner (choice [newline,op ":"])])])
  | wrongFinally => some (noBlock 0 "'finally' statement" [kw "finally"])
  | wrongExceptBlock => some (choice
      [noBlock 0 "'except' statement" [kw "except",r expression,asName],noBlock 0 "'except' statement" [kw "except"]])
  | wrongExceptStarBlock => some (noBlock 0 "'except*' statement" [kw "except",op "*",r expression,asName])
  | wrongMatch => some (choice
      [noColon [soft "match",r subject],noBlock 0 "'match' statement" [soft "match",r subject]])
  | wrongCase => some (choice
      [noColon [soft "case",r patterns,opt (r guard)],
        noBlock 0 "'case' statement" [soft "case",r patterns,opt (r guard)]])
  | wrongAsPattern => some (choice
      [wrong 2 "cannot use '_' as a target" [r orPattern,kw "as",soft "_"],
        wrong 3 "invalid pattern target" [r orPattern,kw "as",notAhead name,r expression]])
  | wrongClassPattern => some (wrong 2 "positional patterns follow keyword patterns"
      [r nameOrAttribute,op "(",r wrongClassArguments])
  | wrongClassArguments => some (pick 3 (seq
      [maybe [r positionalPatterns,op ","],r keywordPatterns,op ",",r positionalPatterns]))
  | wrongIf => some (choice
      [noColon [kw "if",r namedExpression],noBlock 0 "'if' statement" [kw "if",r namedExpression]])
  | wrongElif => some (choice
      [noColon [kw "elif",r namedExpression],noBlock 0 "'elif' statement" [kw "elif",r namedExpression]])
  | wrongElse => some (noBlock 0 "'else' statement" [kw "else"])
  | wrongWhile => some (choice
      [noColon [kw "while",r namedExpression],noBlock 0 "'while' statement" [kw "while",r namedExpression]])
  | wrongFor =>
    let loop := [opt (kw "async"),kw "for",r starTargets,kw "in",r starExpressions]
    some (choice [noColon loop,noBlock 1 "'for' statement" loop])
  | wrongFunction => some (noBlock 1 "function definition"
      [opt (kw "async"),kw "def",name,op "(",opt (r params),op ")",
        maybe [op "->",r expression]])
  | wrongClass =>
    let head := [kw "class",name,maybe [op "(",opt (r arguments),op ")"]]
    some (choice [noColon head,noBlock 0 "class definition" head])
  | _ => none

/-- The expression of each rule. -/
def body (rule : Rule) : Expr :=
  ((statementBody rule).orElse fun _ => (expressionBody rule).orElse fun _ =>
    (targetBody rule).orElse fun _ => (parameterBody rule).orElse fun _ =>
    (compoundBody rule).orElse fun _ => (patternBody rule).orElse fun _ =>
    (wrongExpressionBody rule).orElse fun _ => wrongStatementBody rule).getD (choice [])

/-- The rules whose matches are remembered. -/
def isMemo : Rule → Bool
  | simple | block | expression | starExpression | disjunction | conjunction | inversion | factor
  | awaited | strings | arguments | starTarget | starAtomTarget | deleteTarget | closedPattern
  | starPattern | wrongNamed | bitOr | bitXor | bitAnd | shift | sum | term | primary
  | targetPrimary | dottedName | attributeName => true
  | _ => false

end Rule

def moduleGrammar : Grammar Rule := ⟨Rule.body,Rule.isMemo,.field⟩

end ApiDocs.Source
