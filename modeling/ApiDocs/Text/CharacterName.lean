import ApiDocs.Text.CharacterNameTable
import ApiDocs.Text.PointRange
/-!
Code points by their names.

Most names stand in a table; those of Hangul syllables are spelled by their letters, and those of
ideographs and of some scripts end in the number of the code point.
-/

namespace ApiDocs

def Text.upperAscii (t : Text) : Text := t.map fun c => if 0x61 ≤ c ∧ c ≤ 0x7A then c - 0x20 else c

namespace CharacterName

/-! ## Names in the table -/

/-- The small letters for the n-th word of `nameWords`. -/
def codeOf (n : Nat) : Text :=
  if n < 26 then [0x61 + n] else [0x61 + (n / 26 - 1),0x61 + n % 26]

def indexFrom (n : Nat) (word : Text) : List Text → Option Nat
  | [] => none
  | w :: rest => if w = word then some n else indexFrom (n + 1) word rest

def spelled (word : Text) : Text :=
  match indexFrom 0 word (nameWords.flatMap fun (line : String) => Text.splitOn 0x20 line) with
  | some n => codeOf n
  | none => word

/-- The number of words at the beginning of a name that are those of another one. -/
def sharedWords : List Text → List Text → Nat
  | a :: restA, b :: restB => if a = b then sharedWords restA restB + 1 else 0
  | _, _ => 0

/-- Where a search in the table stands: the next code point, and how many of the first words of the
last name are those of the name that is sought. -/
structure Search where
  next : Nat := 0
  shared : Nat := 0

/-- The gap in front of an entry, the number of words that it shares with the one before it, and its
own words. -/
def readEntry (entry : Text) : Nat × Nat × Text :=
  let gap := entry.takeWhile (· ≠ 0x2B)
  let own := entry.drop (gap.length + 1)
  match (if own.isEmpty then (0,entry) else (PointRange.number gap,own)) with
  | (gap,k :: words) => (gap,(Text.hexValue? k).getD 0,words)
  | (gap,[]) => (gap,0,[])

/-- An entry is compared with the words that are sought: the search goes on, or ends with the code
point of the entry. -/
def Search.step (sought : List Text) (s : Search) (entry : Text) : Search ⊕ Nat :=
  let (gap,k,words) := readEntry entry
  let c := s.next + gap
  if s.shared < k then .inl { s with next := c + 1 }
  else
    let words := Text.splitOn 0x20 words
    let rest := sought.drop k
    let shared := sharedWords words rest
    if shared = words.length ∧ shared = rest.length then .inr c else .inl ⟨c + 1,k + shared⟩

def Search.entries (sought : List Text) (s : Search) : List Text → Search ⊕ Nat
  | [] => .inl s
  | entry :: rest =>
    match s.step sought entry with
    | .inl s => s.entries sought rest
    | .inr c => .inr c

def Search.lines (sought : List Text) (s : Search) : List String → Option Nat
  | [] => none
  | line :: rest =>
    match s.entries sought (Text.splitOn 0x3B line) with
    | .inl s => s.lines sought rest
    | .inr c => some c

def listed? (name : Text) : Option Nat :=
  ({} : Search).lines ((Text.splitOn 0x20 name).map spelled) nameTable

def alias? (name : Text) : Option Nat :=
  (aliasTable.flatMap fun (line : String) => Text.splitOn 0x3B line).findSome? fun entry =>
    match Text.splitOn 0x3D entry with
    | [other,number] => if other = name then some (PointRange.number number) else none
    | _ => none

/-! ## Names that follow a rule -/

/-- The ranges of code points whose names end in their numbers, after the same beginning. -/
def numbered : List (Text × List PointRange) :=
  [("CJK COMPATIBILITY IDEOGRAPH-",PointRange.ofTable ["f900-fa6d fa70-fad9 2f800-2fa1d"]),
    ("KHITAN SMALL SCRIPT CHARACTER-",PointRange.ofTable ["18b00-18cd5"]),
    ("NUSHU CHARACTER-",PointRange.ofTable ["1b170-1b2fb"])]

/-- The code points of the ideographs that are numbered with leading zeros too. -/
def ideographs : List PointRange := PointRange.ofTable
  ["3400-4dbf 4e00-9fff 20000-2a6df 2a700-2b738 2b740-2b81d 2b820-2cea1 2ceb0-2ebe0 30000-3134a"]

def ideographHead : Text := "CJK UNIFIED IDEOGRAPH-"

def isCapitalHex (c : Nat) : Bool := Text.isDigit c || (0x41 ≤ c && c ≤ 0x46)

def ideograph? (digits : Text) : Option Nat :=
  let n := PointRange.number digits
  if (digits.length = 4 ∨ digits.length = 5) ∧ digits.all isCapitalHex ∧
      PointRange.covers ideographs n then some n
  else none

/-- The code point whose name ends in its number, which has no leading zeros. -/
def numbered? (name : Text) : Option Nat :=
  numbered.findSome? fun (head,ranges) =>
    let digits := name.drop head.length
    let n := PointRange.number digits
    if name.startsWith head && digits.all isCapitalHex && digits.head? != some 0x30 &&
        PointRange.covers ranges n then some n
    else none

def syllableHead : Text := "HANGUL SYLLABLE "

/-- The letters that a syllable begins with; one of them is not spelled. -/
def firstLetters : List Text :=
  Text.splitOn 0x2C "G,GG,N,D,DD,R,M,B,BB,S,SS,,J,JJ,C,K,T,P,H"

def vowels : List Text :=
  Text.splitOn 0x2C "A,AE,YA,YAE,EO,E,YEO,YE,O,WA,WAE,OE,YO,U,WEO,WE,WI,YU,EU,YI,I"

/-- The letters that a syllable ends with, after nothing. -/
def lastLetters : List Text :=
  Text.splitOn 0x2C ",G,GG,GS,N,NJ,NH,D,L,LG,LM,LB,LS,LT,LP,LH,M,B,BS,S,SS,NG,J,C,K,T,P,H"

def isVowelLetter (c : Nat) : Bool := [0x41,0x45,0x49,0x4F,0x55,0x57,0x59].contains c

def syllable? (letters : Text) : Option Nat := do
  let first := letters.takeWhile (!isVowelLetter ·)
  let rest := letters.drop first.length
  let vowel := rest.takeWhile isVowelLetter
  let last := rest.drop vowel.length
  let l ← indexFrom 0 first firstLetters
  let v ← indexFrom 0 vowel vowels
  let t ← indexFrom 0 last lastLetters
  return 0xAC00 + (l * 21 + v) * 28 + t

end CharacterName

/-- The code point of a name.  Small letters stand for capitals, except in the names of syllables and
numbered ideographs. -/
def characterNamed? (name : Text) : Option Nat :=
  if name.startsWith CharacterName.syllableHead then
    CharacterName.syllable? (name.drop CharacterName.syllableHead.length)
  else if name.startsWith CharacterName.ideographHead then
    CharacterName.ideograph? (name.drop CharacterName.ideographHead.length)
  else
    let name := name.upperAscii
    (CharacterName.numbered? name).orElse fun _ =>
      (CharacterName.listed? name).orElse fun _ => CharacterName.alias? name

end ApiDocs
