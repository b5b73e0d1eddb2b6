import MinuteBook.Json.Reader
import MinuteBook.Yaml.Plain

/-!
# Reading YAML scalars

A cursor is a place in a document. Scalars are plain, quoted, or blocks of lines; each reader
answers with the text of the scalar and what follows it. A line break inside a plain or quoted
scalar is read as a blank, and further breaks behind it as themselves.
-/

namespace MinuteBook.Yaml

def isBreak (c : Char) : Bool := c == '\n' || c == '\u2028' || c == '\u2029'

/-- A blank, a tab or a line break. -/
def isSpace (c : Char) : Bool := c == ' ' || c == '\t' || isBreak c

/-- Says whether a text begins with a space or is at its end. -/
def atSpace (s : List Char) : Bool := s.head?.all isSpace

/-- A place in a document between two tokens. -/
structure Cursor where
  rest : List Char
  /-- The column, as long as the cursor is fresh. -/
  column : Nat
  /-- On the line there are only blanks and the dashes of sequences before the cursor. -/
  fresh : Bool

/-- Passes over blanks, line breaks and comments. -/
def skipFrom (comment : Bool) : List Char → Nat → Bool → Cursor
  | [], column, fresh => ⟨[], column, fresh⟩
  | c :: r, column, fresh =>
    if isBreak c then skipFrom false r 0 true
    else if comment || c == ' ' then skipFrom comment r (column + 1) fresh
    else if c == '#' then skipFrom true r (column + 1) fresh
    else ⟨c :: r, column, fresh⟩

/-- The next token behind one that ends where the text begins. -/
def afterToken (s : List Char) : Cursor := skipFrom false s 0 false

/-- Says whether a text begins with a mark between documents; it only is one at the beginning of
a line. -/
def isMark : List Char → Bool
  | '-' :: '-' :: '-' :: r => atSpace r
  | '.' :: '.' :: '.' :: r => atSpace r
  | _ => false

/-- Says whether the cursor is at the end of the document. -/
def Cursor.atEnd (c : Cursor) : Bool :=
  c.rest.isEmpty || (c.fresh && c.column == 0 && isMark c.rest)

/-- A scalar that has been read. -/
structure Scalar where
  text : List Char
  /-- The scalar stands on one line, so that it may be a key. -/
  oneLine : Bool
  next : Cursor

/-! ## Line breaks inside scalars -/

/-- Passes over blanks and further line breaks, up to a mark between documents. The breaks are
collected; the column is that of the rest. -/
def blankLines (isBlank : Char → Bool) : List Char → Nat → List Char × List Char × Nat
  | [], column => ([], [], column)
  | c :: r, column =>
    if column == 0 && isMark (c :: r) then ([], c :: r, column)
    else if isBreak c then
      let (breaks, rest, column) := blankLines isBlank r 0
      (c :: breaks, rest, column)
    else if isBlank c then blankLines isBlank r (column + 1)
    else ([], c :: r, column)

/-- What a line break and the breaks behind it stand for inside a scalar. -/
def folded (first : Char) (breaks : List Char) : List Char :=
  (if first != '\n' then [first] else if breaks.isEmpty then [' '] else []) ++ breaks

/-! ## Plain scalars -/

def flowMarks : List Char := [',', '[', ']', '\x7b', '\x7d']

/-- Says whether a plain scalar ends before a character. A colon ends it before a space, and in
flow context before a mark. -/
def endsPlain (flow : Bool) (c : Char) (r : List Char) : Bool :=
  isSpace c || (c == ':' && (atSpace r || (flow && r.head?.any flowMarks.contains))) ||
    (flow && (c == '?' || flowMarks.contains c))

/-- The characters of a plain scalar up to the next blank, and the rest. -/
def plainRun (flow : Bool) : List Char → List Char × List Char
  | [] => ([], [])
  | c :: r =>
    if endsPlain flow c r then ([], c :: r)
    else
      let (run, rest) := plainRun flow r
      (c :: run, rest)

/-- Characters that begin no plain scalar, or only one of more than one character. -/
def indicators : List Char :=
  ['-', '?', ':', ',', '[', ']', '\x7b', '\x7d', '#', '&', '*', '!', '|', '>', '\x27', '"', '%',
    '@', '\x60']

/-- Says whether a plain scalar begins here. -/
def startsPlain (flow : Bool) : List Char → Bool
  | [] => false
  | c :: r =>
    if isSpace c then false
    else !indicators.contains c || (!atSpace r && (c == '-' || (!flow && (c == '?' || c == ':'))))

/-- The rest of a plain scalar behind the characters of `run`. In block context it goes on in the
following lines as long as they are indented by `indent`. -/
def plainFrom (flow : Bool) (indent : Nat) : Nat → List Char → Scalar
  | 0, s => ⟨[], true, afterToken s⟩
  | n + 1, s =>
    let (run, rest) := plainRun flow s
    let blanks := rest.takeWhile (· == ' ')
    match rest.dropWhile (· == ' ') with
    | [] => ⟨run, true, afterToken []⟩
    | c :: r =>
      if isBreak c then
        let (breaks, after, column) := blankLines (· == ' ') r 0
        let ended := after.isEmpty || (column == 0 && isMark after) || after.head? == some '#' ||
          (!flow && column < indent) || (plainRun flow after).1.isEmpty
        if ended then ⟨run, true, skipFrom false after column true⟩
        else
          let more := plainFrom flow indent n after
          ⟨run ++ folded c breaks ++ more.text, false, more.next⟩
      else if blanks.isEmpty || c == '#' || (plainRun flow (c :: r)).1.isEmpty then
        ⟨run, true, afterToken rest⟩
      else
        let more := plainFrom flow indent n (c :: r)
        ⟨run ++ blanks ++ more.text, more.oneLine, more.next⟩

/-- Reads a plain scalar. -/
def readPlain (flow : Bool) (indent : Nat) (s : List Char) : Scalar :=
  plainFrom flow indent (s.length + 1) s

/-! ## Quoted scalars -/

/-- The character that a letter stands for behind a backslash. -/
def escapeOf? : Char → Option Char
  | '0' => some '\x00'
  | 'a' => some '\x07'
  | 'b' => some '\x08'
  | 't' => some '\t'
  | '\t' => some '\t'
  | 'n' => some '\n'
  | 'v' => some '\x0b'
  | 'f' => some '\x0c'
  | 'r' => some '\r'
  | 'e' => some '\x1b'
  | ' ' => some ' '
  | '"' => some '"'
  | '\\' => some '\\'
  | '/' => some '/'
  | 'N' => some '\u0085'
  | '_' => some '\u00a0'
  | 'L' => some '\u2028'
  | 'P' => some '\u2029'
  | _ => none

/-- How many hexadecimal digits follow a letter behind a backslash. -/
def codeLength? : Char → Option Nat
  | 'x' => some 2
  | 'u' => some 4
  | 'U' => some 8
  | _ => none

/-- The code point that a number of hexadecimal digits at the front of a text spell, and the
rest. -/
def code? : Nat → Nat → List Char → Option (Nat × List Char)
  | 0, acc, s => some (acc, s)
  | _ + 1, _, [] => none
  | n + 1, acc, c :: r => do code? n (16 * acc + (← Json.hexDigit? c)) r

/-- The first number that is too large even to be asked for as a character. -/
def codeLimit : Nat := Nat.pow 2 31

/-- The character that an escape spells by its code point. Halves of pairs are not joined. -/
def characterOf (code : Nat) : Except Error Char :=
  if code ≤ 0x10ffff then .ok (Text.ofCodePoint code)
  else if code < codeLimit then .error .badScalar
  else .error .outOfRange

/-- What a backslash and the characters behind it stand for, and the rest. A line break is passed
over together with the blanks behind it. -/
def escape : List Char → Except Error (List Char × List Char)
  | [] => .error .malformed
  | c :: r =>
    match escapeOf? c, codeLength? c with
    | some e, _ => .ok ([e], r)
    | none, some n => match code? n 0 r with
      | some (code, rest) => do return ([← characterOf code], rest)
      | none => .error .malformed
    | none, none =>
      if isBreak c then
        let (breaks, rest, _) := blankLines (fun b => b == ' ' || b == '\t') r 0
        .ok (breaks, rest)
      else .error .malformed

/-- The text up to the closing quote, whether it is on one line, and the rest. -/
def quotedFrom (quote : Char) : Nat → List Char → Except Error (List Char × Bool × List Char)
  | 0, _ => .error .malformed
  | n + 1, s =>
    let isBlank := fun b => b == ' ' || b == '\t'
    match s with
    | [] => .error .malformed
    | '\x27' :: '\x27' :: r =>
      if quote = '\x27' then do
        let (text, oneLine, rest) ← quotedFrom quote n r
        return ('\x27' :: text, oneLine, rest)
      else do
        let (text, oneLine, rest) ← quotedFrom quote n ('\x27' :: r)
        return ('\x27' :: text, oneLine, rest)
    | c :: r =>
      if c = quote then .ok ([], true, r)
      else if c = '\\' && quote == '"' then do
        let (chars, r') ← escape r
        let (text, oneLine, rest) ← quotedFrom quote n r'
        return (chars ++ text, oneLine && !r.head?.any isBreak, rest)
      else if isSpace c then
        match s.dropWhile isBlank with
        | b :: r' =>
          if isBreak b then do
            let (breaks, after, column) := blankLines isBlank r' 0
            if column == 0 && isMark after then throw .malformed
            let (text, _, rest) ← quotedFrom quote n after
            return (folded b breaks ++ text, false, rest)
          else do
            let (text, oneLine, rest) ← quotedFrom quote n (b :: r')
            return (s.takeWhile isBlank ++ text, oneLine, rest)
        | [] => .error .malformed
      else do
        let (text, oneLine, rest) ← quotedFrom quote n r
        return (c :: text, oneLine, rest)

/-- Reads a quoted scalar whose opening quote has been read. -/
def readQuoted (quote : Char) (s : List Char) : Except Error Scalar := do
  let (text, oneLine, rest) ← quotedFrom quote (s.length + 1) s
  return ⟨text, oneLine, afterToken rest⟩

/-! ## Blocks of lines -/

/-- What becomes of the line breaks at the end of a block. -/
inductive Chomping where
  | strip
  | clip
  | keep
  deriving DecidableEq

/-- The marks behind the bar or the angle bracket of a block, in either order. -/
def blockMarks : List Char → Chomping × Option Nat × List Char
  | c :: r =>
    if c == '+' || c == '-' then
      let chomping := if c == '+' then Chomping.keep else .strip
      match r with
      | d :: r' => if '1' ≤ d && d ≤ '9' then (chomping, some (d.toNat - 48), r')
        else (chomping, none, r)
      | [] => (chomping, none, r)
    else if '1' ≤ c && c ≤ '9' then
      let indent := c.toNat - 48
      match r with
      | '+' :: r' => (.keep, some indent, r')
      | '-' :: r' => (.strip, some indent, r')
      | _ => (.clip, some indent, r)
    else (.clip, none, c :: r)
  | [] => (.clip, none, [])

/-- What follows the line of a block's marks. There may only be a comment behind them, after a
blank. -/
def blockStart? (s : List Char) : Option (List Char) :=
  if !atSpace s then none
  else match s.dropWhile (· == ' ') with
    | [] => some []
    | c :: r =>
      if isBreak c then some r
      else if c == '#' then some ((r.dropWhile fun c => !isBreak c).drop 1)
      else none

/-- The empty lines at the front of a block, the largest column in them, and what follows. -/
def leadingLines : List Char → Nat → Nat → List Char × Nat × List Char × Nat
  | [], column, most => ([], most, [], column)
  | c :: r, column, most =>
    if c == ' ' then leadingLines r (column + 1) (max most (column + 1))
    else if isBreak c then
      let (breaks, most, rest, column) := leadingLines r 0 most
      (c :: breaks, most, rest, column)
    else ([], most, c :: r, column)

/-- Passes over empty lines and the indentation of the next line. -/
def indentedLines (indent : Nat) : List Char → Nat → List Char × List Char × Nat
  | [], column => ([], [], column)
  | c :: r, column =>
    if c == ' ' && column < indent then indentedLines indent r (column + 1)
    else if isBreak c then
      let (breaks, rest, column) := indentedLines indent r 0
      (c :: breaks, rest, column)
    else ([], c :: r, column)

/-- A block of lines that has been read: its text, the break behind its last line, the breaks
behind that one, and what follows. -/
structure Block where
  text : List Char
  lastBreak : List Char
  breaks : List Char
  rest : List Char
  column : Nat

def startsBlank (s : List Char) : Bool := s.head?.any fun c => c == ' ' || c == '\t'

/-- The lines of a block from its first line on, which is at its indentation. -/
def blockLines (fold : Bool) (indent : Nat) : Nat → List Char → Block
  | 0, s => ⟨[], [], [], s, indent⟩
  | n + 1, s =>
    let line := s.takeWhile fun c => !isBreak c
    let after := s.dropWhile fun c => !isBreak c
    let lastBreak := after.take 1
    let (breaks, rest, column) := indentedLines indent (after.drop 1) 0
    if column == indent && !rest.isEmpty then
      let join :=
        if fold && lastBreak == ['\n'] && !startsBlank s && !startsBlank rest then
          if breaks.isEmpty then [' '] else []
        else lastBreak
      let more := blockLines fold indent n rest
      { more with text := line ++ join ++ breaks ++ more.text }
    else ⟨line, lastBreak, breaks, rest, column⟩

/-- Reads a block whose bar or angle bracket has been read. `least` is the least indentation that
its lines may have. -/
def readBlock (fold : Bool) (least : Nat) (s : List Char) : Except Error Scalar :=
  let (chomping, increment, r) := blockMarks s
  match blockStart? r with
  | none => .error .malformed
  | some r =>
    let (breaks, indent, rest, column) := match increment with
      | some k =>
        let indent := least + k - 1
        let (breaks, rest, column) := indentedLines indent r 0
        (breaks, indent, rest, column)
      | none =>
        let (breaks, most, rest, column) := leadingLines r 0 0
        (breaks, max least most, rest, column)
    let block :=
      if column == indent && !rest.isEmpty then
        let block := blockLines fold indent (rest.length + 1) rest
        { block with text := breaks ++ block.text }
      else ⟨[], [], breaks, rest, column⟩
    let tail := match chomping with
      | .strip => []
      | .clip => block.lastBreak
      | .keep => block.lastBreak ++ block.breaks
    .ok ⟨block.text ++ tail, false, skipFrom false block.rest block.column true⟩

end MinuteBook.Yaml
