import AgentFlow.Text.CodePoint

/-!
# Operations on text

Splitting into lines and words, joining, trimming and repeating.  Splitting and joining with a line
break are inverse, so a text and its list of lines are two views of the same thing.
-/

namespace AgentFlow.Text

def ofNat (n : Nat) : Text := ofChars (Nat.toDigits 10 n)

/-- The decimal digits of an integer, after a minus sign when it is negative. -/
def ofInt : Int → Text
  | .ofNat n => ofNat n
  | .negSucc n => '-' :: ofNat (n + 1)

/-- The lower-case hexadecimal digits of a number, padded with zeros to a width. -/
def ofHex (width n : Nat) : Text :=
  let digits := Nat.toDigits 16 n
  ofChars (List.replicate (width - digits.length) '0' ++ digits)

/-- The pieces of a text between occurrences of a separator; there is always at least one. -/
def splitOn (separator : CodePoint) : Text → List Text
  | [] => [[]]
  | c :: rest =>
    match splitOn separator rest with
    | [] => [[c]]
    | piece :: pieces =>
      if c = separator then [] :: piece :: pieces else (c :: piece) :: pieces

def lines (t : Text) : List Text := splitOn '\n' t

/-- A text with a line feed for every line break: a carriage return, alone or before a line feed, is
one too. -/
def unifyBreaks : Text → Text
  | [] => []
  | [c] => [if c = '\r' then '\n' else c]
  | c :: d :: rest =>
    if c = '\r' then
      if d = '\n' then '\n' :: unifyBreaks rest else '\n' :: unifyBreaks (d :: rest)
    else c :: unifyBreaks (d :: rest)

/-- The pieces one after the other, with a separator between neighbours. -/
def join (separator : Text) : List Text → Text
  | [] => []
  | [piece] => piece
  | piece :: next :: rest => piece ++ separator ++ join separator (next :: rest)

def unlines (pieces : List Text) : Text := join "\n" pieces

/-- The text of a number without the white space around it. -/
def withoutMargin (t : Text) : Text :=
  ((t.dropWhile CodePoint.isMargin).reverse.dropWhile CodePoint.isMargin).reverse

def trimStart (t : Text) : Text := t.dropWhile CodePoint.isBlank

def trimEnd (t : Text) : Text := (t.reverse.dropWhile CodePoint.isBlank).reverse

def trim (t : Text) : Text := trimEnd (trimStart t)

def isBlank (t : Text) : Bool := t.all CodePoint.isBlank

def repeated (n : Nat) (t : Text) : Text := (List.replicate n t).flatten

def startsWith (t head : Text) : Bool := head.isPrefixOf t

def endsWith (t tail : Text) : Bool := tail.isSuffixOf t

/-- The maximal runs of characters that are not white space. -/
def words (t : Text) : List Text :=
  (t.foldr (fun c pieces =>
    if c.isBlank then [] :: pieces
    else match pieces with
      | [] => [[c]]
      | piece :: rest => (c :: piece) :: rest) [[]]).filter (!·.isEmpty)

/-- Compares two texts by their code point numbers, a proper beginning being smaller. -/
def compare : Text → Text → Ordering
  | [], [] => .eq
  | [], _ :: _ => .lt
  | _ :: _, [] => .gt
  | a :: as, b :: bs => (Ord.compare a.toNat b.toNat).then (compare as bs)

def le (a b : Text) : Bool := compare a b != .gt

def sort (texts : List Text) : List Text := texts.mergeSort le

def dedup (texts : List Text) : List Text :=
  texts.foldl (fun kept t => if t ∈ kept then kept else kept ++ [t]) []

end AgentFlow.Text
