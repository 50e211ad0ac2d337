import ApiDocs.Text.Basic
/-!
Tokens of Python source text.
-/

namespace ApiDocs.Source

inductive Kind where
  | name
  | keyword
  | number
  | string
  | operator
  | newline
  | indent
  | dedent
  | finish
  deriving DecidableEq, Repr

/-- A token with the place where it begins and the number of brackets open after it. -/
structure Token where
  kind : Kind
  text : Text
  line : Nat
  column : Nat
  depth : Nat
  deriving Repr

def keywords : List Text :=
  (["False","None","True","and","as","assert","async","await","break","class","continue",
      "def","del","elif","else","except","finally","for","from","global","if","import","in",
      "is","lambda","nonlocal","not","or","pass","raise","return","try","while","with",
      "yield"] : List String).map Text.ofString

/-- The names that are keywords where a statement or pattern needs one. -/
def softKeywords : List Text := ["_","case","match"]

def longOperators : List Text := ["**=","//=","<<=",">>=","..."]

def pairOperators : List Text :=
  (["!=","%=","&=","**","*=","+=","-=","->","//","/=",":=","<<","<=","<>","==",">=",
      ">>","@=","^=","|="] : List String).map Text.ofString

/-- How the tokens of a text end. -/
inductive Ending where
  | complete
  | fault (line : Nat) (wording : Text)
  /-- Indentation or a continued line that goes wrong, or brackets open at the end; `opened` is the
  innermost open bracket with its line. -/
  | halt (line : Nat) (wording : Text) (opened : Option (Nat × Nat))
  deriving DecidableEq, Repr

def neverClosed (bracket : Nat) : Text := 0x27 :: bracket :: ("' was never closed" : Text)

/-- The tokens of a text up to its end or to where no further token can be read. -/
structure Tokens where
  tokens : Array Token
  ending : Ending

end ApiDocs.Source
