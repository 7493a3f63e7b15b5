namespace ArrowGraph.Text

/-- White space is what Unicode calls so, and the four information separators
U+001C to U+001F. -/
def isBlank (c : Char) : Bool :=
  let n := c.toNat
  (9 ≤ n && n ≤ 13) || (0x1C ≤ n && n ≤ 0x20) || n == 0x85 || n == 0xA0 || n == 0x1680 ||
  (0x2000 ≤ n && n ≤ 0x200A) || n == 0x2028 || n == 0x2029 || n == 0x202F || n == 0x205F ||
  n == 0x3000

def trimEnd (cs : List Char) : List Char :=
  (cs.reverse.dropWhile isBlank).reverse

def trim (cs : List Char) : List Char :=
  trimEnd (cs.dropWhile isBlank)

def strip (line : String) : String :=
  String.ofList (trim line.toList)

def stripEnd (line : String) : String :=
  String.ofList (trimEnd line.toList)

def firstWord (line : String) : String :=
  String.ofList (line.toList.takeWhile fun c => !isBlank c)

theorem not_isBlank_of_getLast?_trimEnd {cs : List Char} {c : Char}
    (last : (trimEnd cs).getLast? = some c) : isBlank c = false := by
  rw [trimEnd, List.getLast?_reverse] at last
  have h := List.head?_dropWhile_not isBlank cs.reverse
  rw [last] at h
  simpa using h

/-- The characters that end a line: line feed, vertical tab, form feed, carriage return, the file,
group and record separators, next line, and the line and paragraph separators. -/
def isLineBreak (c : Char) : Bool :=
  let n := c.toNat
  (10 ≤ n && n ≤ 13) || (0x1C ≤ n && n ≤ 0x1E) || n == 0x85 || n == 0x2028 || n == 0x2029

/-- The lines of a text, without their ends. A carriage return and a line feed after it end one
line; what follows the last end is a line only when it is not empty. -/
def splitLines : List Char → List (List Char)
  | [] => []
  | '\r' :: '\n' :: cs => [] :: splitLines cs
  | c :: cs =>
    if isLineBreak c then [] :: splitLines cs
    else
      match splitLines cs with
      | [] => [[c]]
      | line :: lines => (c :: line) :: lines

def lines (text : String) : List String :=
  (splitLines text.toList).map String.ofList

/-- A carriage return becomes a line feed, together with a line feed right after it. -/
def unifyBreaks : List Char → List Char
  | [] => []
  | '\r' :: '\n' :: cs => '\n' :: unifyBreaks cs
  | '\r' :: cs => '\n' :: unifyBreaks cs
  | c :: cs => c :: unifyBreaks cs

def feedPieces (text : String) : List String :=
  (text.toList.splitOn '\n').map String.ofList

/-- The lines of an input; a line feed at the very end opens no further one. -/
def feedLines (text : String) : List String :=
  let pieces := feedPieces text
  if pieces.getLast? = some "" then pieces.dropLast else pieces

theorem splitLines_unbroken (cs : List Char) :
    ∀ line ∈ splitLines cs, ∀ c ∈ line, isLineBreak c = false := by
  fun_induction splitLines cs with
  | case1 => simp
  | case2 cs ih => simpa using ih
  | case3 c cs _ _ ih => simpa using ih
  | case4 c cs _ unbroken empty ih => simpa using unbroken
  | case5 c cs _ unbroken line lines rest ih =>
    intro l hl d hd
    rw [rest] at ih
    rcases List.mem_cons.mp hl with rfl | hl
    · rcases List.mem_cons.mp hd with rfl | hd
      · simpa using unbroken
      · exact ih line (List.mem_cons_self ..) d hd
    · exact ih l (List.mem_cons_of_mem _ hl) d hd

inductive WordError where
  | openQuote
  | openEscape
  deriving DecidableEq, Repr

def WordError.message : WordError → String
  | .openQuote => "No closing quotation"
  | .openEscape => "No escaped character"

inductive Surrounding where
  | plain
  | single
  | double
  | escape
  | doubleEscape
  deriving DecidableEq, Repr

def partsWords (c : Char) : Bool :=
  c = ' ' || c = '\t' || c = '\n' || c = '\r'

def closeWord (word : Option (List Char)) (others : List (List Char)) : List (List Char) :=
  match word with
  | some w => w :: others
  | none => others

/-- The words of the rest of a text. `word` is what has been read of the present word; a pair of
quotes begins a word even when nothing stands between them. Within double quotes a backslash is
dropped only before a double quote or a backslash; elsewhere it is always dropped, and the character
after it is taken as it is. -/
def wordsFrom (around : Surrounding) (word : Option (List Char)) :
    List Char → Except WordError (List (List Char))
  | [] =>
    match around with
    | .plain => .ok (closeWord word [])
    | .single | .double => .error .openQuote
    | .escape | .doubleEscape => .error .openEscape
  | c :: cs =>
    let read := word.getD []
    match around with
    | .plain =>
      if partsWords c then (closeWord word ·) <$> wordsFrom .plain none cs
      else if c = '\'' then wordsFrom .single (some read) cs
      else if c = '"' then wordsFrom .double (some read) cs
      else if c = '\\' then wordsFrom .escape (some read) cs
      else wordsFrom .plain (some (read ++ [c])) cs
    | .single =>
      if c = '\'' then wordsFrom .plain (some read) cs
      else wordsFrom .single (some (read ++ [c])) cs
    | .double =>
      if c = '"' then wordsFrom .plain (some read) cs
      else if c = '\\' then wordsFrom .doubleEscape (some read) cs
      else wordsFrom .double (some (read ++ [c])) cs
    | .escape => wordsFrom .plain (some (read ++ [c])) cs
    | .doubleEscape =>
      if c = '"' || c = '\\' then wordsFrom .double (some (read ++ [c])) cs
      else wordsFrom .double (some (read ++ ['\\', c])) cs

def commandWords (text : String) : Except WordError (List String) :=
  (·.map String.ofList) <$> wordsFrom .plain none text.toList

end ArrowGraph.Text
