import ModuleDocs.Text.Range

/-! Texts are lists of characters, so that every operation on them is a recursion or a library
operator on lists. This module holds white space, trimming, case without regard to language, prefixes,
splitting, and the division of a text into lines and words. -/
namespace ModuleDocs

abbrev Text := List Char

instance : Coe String Text := ⟨String.toList⟩

def whiteRanges : List (Nat × Nat) :=
  [(0x9, 0xD), (0x20, 0x20), (0x85, 0x85), (0xA0, 0xA0), (0x1680, 0x1680), (0x2000, 0x200A),
   (0x2028, 0x2029), (0x202F, 0x202F), (0x205F, 0x205F), (0x3000, 0x3000)]

def isWhite (c : Char) : Bool := inRanges whiteRanges c.toNat

def dropEndWhile {α : Type} (p : α → Bool) (xs : List α) : List α :=
  (xs.reverse.dropWhile p).reverse

namespace Text

def trimStart (s : Text) : Text := s.dropWhile isWhite
def trimEnd (s : Text) : Text := dropEndWhile isWhite s
def trim (s : Text) : Text := trimEnd (trimStart s)

def trimBy (p : Char → Bool) (s : Text) : Text := dropEndWhile p (s.dropWhile p)

def isBlank (s : Text) : Bool := s.all isWhite

def lowerAscii (s : Text) : Text := s.map Char.toLower

/-- Equal up to the case of ASCII letters. -/
def sameName (a b : Text) : Bool := lowerAscii a == lowerAscii b

def startsWith (s p : Text) : Bool := p.isPrefixOf s
def endsWith (s p : Text) : Bool := p.isSuffixOf s

def stripPrefix? (s p : Text) : Option Text := p.isPrefixOf? s

def stripSuffix? (s p : Text) : Option Text := p.isSuffixOf? s

def splitFirst (p : Char → Bool) (s : Text) : Option (Text × Text) :=
  match s.dropWhile (fun c => !p c) with
  | [] => none
  | _ :: rest => some (s.takeWhile (fun c => !p c), rest)

def splitLast (p : Char → Bool) (s : Text) : Option (Text × Text) :=
  (splitFirst p s.reverse).map fun (a, b) => (b.reverse, a.reverse)

/-- The parts between the occurrences of a character: one more than there are occurrences. -/
def splitOn (sep : Char) : Text → List Text
  | [] => [[]]
  | c :: rest =>
    if c = sep then [] :: splitOn sep rest
    else match splitOn sep rest with
      | [] => [[c]]
      | part :: parts => (c :: part) :: parts

/-- The lines of a text. A line ends at a newline, together with one carriage return just before it;
a newline at the very end opens no further line. -/
def lines : Text → List Text
  | [] => []
  | '\n' :: rest => [] :: lines rest
  | '\r' :: '\n' :: rest => [] :: lines rest
  | c :: rest =>
    match lines rest with
    | [] => [[c]]
    | line :: more => (c :: line) :: more

def unlines (ls : List Text) : Text := List.intercalate ['\n'] ls

def words : Text → List Text
  | [] => []
  | c :: rest =>
    if isWhite c then words rest
    else match rest with
      | [] => [[c]]
      | d :: _ =>
        if isWhite d then [c] :: words rest
        else match words rest with
          | [] => [[c]]
          | word :: more => (c :: word) :: more

def firstWord (s : Text) : Text := (trimStart s).takeWhile (fun c => !isWhite c)

def contains (s part : Text) : Bool :=
  match s with
  | [] => part.isEmpty
  | _ :: rest => part.isPrefixOf s || contains rest part

def cut (sep : Text) : Text → Option (Text × Text)
  | [] => if sep.isEmpty then some ([], []) else none
  | c :: rest =>
    match sep.isPrefixOf? (c :: rest) with
    | some after => some ([], after)
    | none => (cut sep rest).map fun (a, b) => (c :: a, b)

def byteLength (s : Text) : Nat := s.foldl (fun n c => n + c.utf8Size) 0

def toString (s : Text) : String := String.ofList s

def ofNat (n : Nat) : Text := Nat.toDigits 10 n

end Text

def joinTrimmed (ls : List Text) : Text :=
  Text.unlines (dropEndWhile Text.isBlank (ls.dropWhile Text.isBlank))

end ModuleDocs
