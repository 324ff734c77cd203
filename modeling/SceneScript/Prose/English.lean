import SceneScript.Text.Basic
import SceneScript.Text.Alphabetic
/-!
# English typography

Straight quotes become curly pairs, doubled hyphens dashes, three full stops an ellipsis. The font has no italic
face: between asterisks, letters become the Cyrillic characters that were redrawn as italic Latin ones, and a few
accented letters have characters of their own.
-/
namespace SceneScript.Prose

/-- Writes guillemets as double angle brackets. -/
def replaceGuillemets (t : Text) : Text :=
  t.map fun c => if c = '«' then '《' else if c = '»' then '》' else c

/-- Pairs up straight quotes. `counts` decides, from whether a quote is open, the character before and the text after,
if a mark is a quote at all. A quote that is never closed stays straight. -/
def pairQuotes (mark opening closing : Char) (counts : Bool → Option Char → Text → Bool) (t : Text) : Text :=
  go none [] none t
where
  /-- `outer` is the text before the open quote and `inner?` the text after it, both reversed. -/
  go (prev : Option Char) (outer : Text) (inner? : Option Text) : Text → Text
    | [] =>
      match inner? with
      | some inner => (inner ++ mark :: outer).reverse
      | none => outer.reverse
    | c :: rest =>
      match decide (c = mark) && counts inner?.isSome prev rest, inner? with
      | true, some inner => go (some c) (closing :: (inner ++ opening :: outer)) none rest
      | true, none => go (some c) outer (some []) rest
      | false, some inner => go (some c) outer (some (c :: inner)) rest
      | false, none => go (some c) (c :: outer) none rest

/-- An apostrophe is a quote unless it stands inside a word, or closes a word while no quote is open. -/
def isSingleQuote (quoteOpen : Bool) (prev : Option Char) (rest : Text) : Bool :=
  match prev, rest with
  | some before, after :: _ => !(isAlphabetic before && (!quoteOpen || isAlphabetic after))
  | _, _ => true

def pairSingleQuotes (t : Text) : Text := pairQuotes '\'' '‘' '’' isSingleQuote t

def pairDoubleQuotes (t : Text) : Text := pairQuotes '"' '“' '”' (fun _ _ _ => true) t

/-- The character an accented letter is drawn with, upright or italic. -/
def accented? (italic : Bool) (c : Char) : Option Char :=
  match italic, c with
  | true, 'Ï' => some 'Ъ'
  | true, 'é' => some 'Э'
  | true, 'ï' => some 'ъ'
  | false, 'Ï' => some 'Ю'
  | false, 'é' => some 'э'
  | false, 'ï' => some 'ю'
  | false, 'ä' => some 'ь'
  | false, 'ö' => some 'я'
  | _, _ => none

/-- The character a letter is drawn with: italic capitals run from `А`, small ones from `а`. -/
def drawn (italic : Bool) (c : Char) : Char :=
  if italic && c.isUpper then Char.ofNat ('А'.toNat + (c.toNat - 'A'.toNat))
  else if italic && c.isLower then Char.ofNat ('а'.toNat + (c.toNat - 'a'.toNat))
  else (accented? italic c).getD c

/-- Draws ellipses, italics and accents. An asterisk switches italics and disappears. -/
def drawLetters (t : Text) : Text :=
  go false [] t
where
  go (italic : Bool) (done : Text) : Text → Text
    | [] => done.reverse
    | '.' :: '.' :: '.' :: rest => go italic ('…' :: done) rest
    | c :: rest =>
      if c = '*' then go (!italic) done rest else go italic (drawn italic c :: done) rest

/-- A spoken text that ends with a corner bracket ends with a curly quote instead. -/
def closeSpeech (t : Text) : Text :=
  if Text.hasWord ['】', '「'] t && t.getLast? == some '」' then t.dropLast ++ ['”'] else t

def applyEnglish (t : Text) : Text :=
  let quoted := Text.replacePair '」' '%' ['”', '%'] (Text.replacePair '】' '「' ['】', '“'] (closeSpeech t))
  let dashed := Text.replacePair '-' '-' ['—'] quoted
  drawLetters (pairDoubleQuotes (pairSingleQuotes dashed))

end SceneScript.Prose
