import ApiDocs.Console.EmojiTable
import ApiDocs.Text.Blank
import ApiDocs.Text.LowerCase
import ApiDocs.Text.PointRange
/-!
Emoji by their names.

A name between colons stands for its emoji, in capitals or small letters; `-emoji` or `-text` behind it
asks for one of two variants.  A word between colons that is no name is kept with its colons.
-/

namespace ApiDocs.Console

/-! ## Names -/

def emojiOfEntry (entry : Text) : Text × Text :=
  (entry.takeWhile (· ≠ 0x3D),
    (Text.splitOn 0x2B ((entry.dropWhile (· ≠ 0x3D)).drop 1)).map PointRange.number)

def emojiIn? (name : Text) : List String → Option Text
  | [] => none
  | line :: rest =>
    match ((Text.splitOn 0x20 line).map emojiOfEntry).find? (·.1 = name) with
    | some (_,emoji) => some emoji
    | none => emojiIn? name rest

/-- The endings of names that ask for a skin tone. -/
def skinTones : List (Text × Nat) :=
  [("_light_skin_tone",0x1F3FB),("_medium-light_skin_tone",0x1F3FC),
    ("_medium_skin_tone",0x1F3FD),("_medium-dark_skin_tone",0x1F3FE),
    ("_dark_skin_tone",0x1F3FF)]

/-- The variant of an emoji in a skin tone: the tone follows the first sign, in place of a selector. -/
def toned (tone : Nat) : Text → Text
  | [] => []
  | c :: 0xFE0F :: rest => c :: tone :: rest
  | c :: rest => c :: tone :: rest

def tonedEmojiNamed? (name : Text) : Option Text :=
  skinTones.findSome? fun (ending,tone) =>
    if name.endsWith ending then
      (emojiIn? (name.take (name.length - ending.length)) tonedEmoji).map (toned tone)
    else none

def emojiNamed? (name : Text) : Option Text :=
  (emojiIn? name plainEmoji).or ((emojiIn? name tonedEmoji).or (tonedEmojiNamed? name))

/-! ## Names in a text -/

/-- The endings that ask for a variant, and the selectors of the variants. -/
def variantEndings : List (Text × Nat) := [("-emoji",0xFE0F),("-text",0xFE0E)]

def emojiOfWord? (word : Text) : Option Text :=
  let (name,variant) : Text × Text := match variantEndings.find? fun (ending,_) => word.endsWith ending with
    | some (ending,selector) => (word.take (word.length - ending.length),[selector])
    | none => (word,[])
  (emojiNamed? name.lower).map (· ++ variant)

/-- The word in front of the next colon and what follows the colon, if nothing in between is blank. -/
def wordToColon? : Text → Option (Text × Text)
  | [] => none
  | c :: rest =>
    if c = 0x3A then some ([],rest)
    else if isBlank c then none
    else (wordToColon? rest).map fun (word,after) => (c :: word,after)

/-- The text with emoji in place of their names.  The fuel exceeds the length of the text. -/
def withEmojiWithin : (fuel : Nat) → Text → Text
  | 0, t => t
  | _ + 1, [] => []
  | fuel + 1, c :: rest =>
    if c = 0x3A then
      match wordToColon? rest with
      | some (word,after) =>
        (emojiOfWord? word).getD (0x3A :: word ++ [0x3A]) ++ withEmojiWithin fuel after
      | none => c :: withEmojiWithin fuel rest
    else c :: withEmojiWithin fuel rest

def withEmoji (t : Text) : Text := withEmojiWithin (t.length + 1) t

end ApiDocs.Console
