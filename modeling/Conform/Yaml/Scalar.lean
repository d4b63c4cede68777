import Conform.Yaml.Cursor

/-!
# The text of scalars

The three ways of writing a scalar: plain, in quotes, and as a block of lines. Where a scalar goes
on over several lines, one line break between words becomes a space, and more of them lose the
first.
-/

namespace Conform.Yaml

/-- The text that folded line breaks stand for: the first one and those of the empty lines after it.
-/
def foldBreaks (first others : List Char) : List Char :=
  if first ≠ ['\n'] then first ++ others
  else if others.isEmpty then [' ']
  else others

/-! ## Plain scalars -/

/-- Whether a colon before this character is no part of a plain scalar. -/
def endsPlain (inFlow : Bool) (next : Option Char) : Bool :=
  endOr isGap next || (inFlow && next.any fun c => [',', '[', ']', '\x7b', '\x7d'].contains c)

/-- The characters that belong to a plain scalar, up to a gap or an indicator. -/
def plainWord (inFlow : Bool) : List Char → List Char
  | [] => []
  | c :: rest =>
    if isGap c || (c = ':' && endsPlain inFlow rest.head?) ||
        (inFlow && [',', '?', '[', ']', '\x7b', '\x7d'].contains c) then []
    else c :: plainWord inFlow rest

/-- What comes after a word of a plain scalar: the text between it and a next word, empty if there
can be none, and whether it goes over the end of a line. -/
structure PlainGap where
  text : List Char
  crossesLine : Bool
  cursor : Cursor

/-- Empty lines and indentation inside a plain scalar; no breaks at all if a document ends here. -/
def plainBreaks : Nat → List Char → Cursor → Option (List Char) × Cursor
  | 0, breaks, c => (some breaks, c)
  | fuel + 1, breaks, c =>
    if c.peek = some ' ' then plainBreaks fuel breaks c.forward
    else if c.peek.any isBreak then
      let (lineBreak, c) := c.lineBreak
      if c.atDocumentBoundary then (none, c) else plainBreaks fuel (breaks ++ lineBreak) c
    else (some breaks, c)

def plainGap (c : Cursor) : PlainGap :=
  let spaces := c.rest.takeWhile (· = ' ')
  let c := c.skipWhile (· = ' ')
  if c.peek.any isBreak then
    let (first, c) := c.lineBreak
    if c.atDocumentBoundary then ⟨[], true, c⟩
    else
      match plainBreaks c.rest.length [] c with
      | (some breaks, c) => ⟨foldBreaks first breaks, true, c⟩
      | (none, c) => ⟨[], true, c⟩
  else ⟨spaces, false, c⟩

/-- A scalar's text, where it ends, and for a plain one whether its end is on a later line than its
last word. -/
structure Scanned where
  text : List Char
  crossesLine : Bool
  cursor : Cursor

/-- The words of a plain scalar from a gap on; `text` is reversed. -/
def plainFrom (inFlow : Bool) (indent : Nat) : Nat → List Char → PlainGap → Scanned
  | 0, text, gap => ⟨text.reverse, gap.crossesLine, gap.cursor⟩
  | fuel + 1, text, gap =>
    let c := gap.cursor
    let word := plainWord inFlow c.rest
    if c.peek = some '#' ∨ word.isEmpty then ⟨text.reverse, gap.crossesLine, c⟩
    else
      let text := word.reverse ++ (gap.text.reverse ++ text)
      let gap := plainGap (c.advance word.length)
      if gap.text.isEmpty || gap.cursor.peek = some '#' ||
          (!inFlow && gap.cursor.column < indent) then
        ⟨text.reverse, gap.crossesLine, gap.cursor⟩
      else plainFrom inFlow indent fuel text gap

/-- A plain scalar. Outside of brackets its lines are indented by at least `indent`. -/
def plainScalar (inFlow : Bool) (indent : Nat) (c : Cursor) : Scanned :=
  plainFrom inFlow indent (c.rest.length + 1) [] ⟨[], false, c⟩

/-! ## Quoted scalars -/

/-- The line breaks of empty lines, with blanks around them. A document may not end here. -/
def quotedBreaks : Nat → List Char → Cursor → Except Failure (List Char × Cursor)
  | 0, breaks, c => .ok (breaks, c)
  | fuel + 1, breaks, c =>
    if c.atDocumentBoundary then .error .malformed
    else
      let c := c.skipWhile isSpaceOrTab
      if c.peek.any isBreak then
        let (lineBreak, c) := c.lineBreak
        quotedBreaks fuel (breaks ++ lineBreak) c
      else .ok (breaks, c)

/-- The text that a gap inside quotes stands for. -/
def quotedGap (c : Cursor) : Except Failure (List Char × Cursor) :=
  let blanks := c.rest.takeWhile isSpaceOrTab
  let c := c.skipWhile isSpaceOrTab
  match c.peek with
  | none => .error .malformed
  | some ch =>
    if isBreak ch then do
      let (first, c) := c.lineBreak
      let (others, c) ← quotedBreaks (c.rest.length + 1) [] c
      .ok (foldBreaks first others, c)
    else .ok (blanks, c)

/-- The characters that stand for others after a backslash. -/
def escapes : List (Char × Char) :=
  [('0', '\x00'), ('a', '\x07'), ('b', '\x08'), ('t', '\t'), ('\t', '\t'), ('n', '\n'),
   ('v', '\x0b'), ('f', '\x0c'), ('r', '\r'), ('e', '\x1b'), (' ', ' '), ('"', '"'),
   ('\\', '\\'), ('/', '/'), ('N', '\x85'), ('_', '\xa0'), ('L', '\u2028'), ('P', '\u2029')]

/-- How many hexadecimal digits follow a letter after a backslash. -/
def escapeLength? (c : Char) : Option Nat :=
  if c = 'x' then some 2 else if c = 'u' then some 4 else if c = 'U' then some 8 else none

/-- The character of a number. That of a surrogate is no character, and gives U+0000. -/
def charOfCode (code : Nat) : Except Failure Char :=
  if code ≤ 0x10ffff then .ok (Char.ofNat code)
  else if code ≤ 0x7fffffff then .error (.fault .badValue)
  else .error (.fault .tooLarge)

/-- What an escape stands for, read after the backslash. -/
def escaped (c : Cursor) : Except Failure (List Char × Cursor) :=
  match c.peek with
  | none => .error .malformed
  | some ch =>
    match escapes.lookup ch with
    | some meant => .ok ([meant], c.forward)
    | none =>
      match escapeLength? ch with
      | some length =>
        let digits := (c.forward.rest.take length).takeWhile isHexDigit
        if digits.length < length then .error .malformed
        else do
          let meant ← charOfCode (hexValue digits)
          .ok ([meant], c.forward.advance length)
      | none =>
        if isBreak ch then
          let (_, c) := c.lineBreak
          quotedBreaks (c.rest.length + 1) [] c
        else .error .malformed

/-- The characters up to a gap, the closing quote or the end; `text` is reversed. -/
def quotedWord (double : Bool) : Nat → List Char → Cursor → Except Failure (List Char × Cursor)
  | 0, text, c => .ok (text, c)
  | fuel + 1, text, c =>
    match c.peek with
    | none => .ok (text, c)
    | some ch =>
      if isGap ch then .ok (text, c)
      else if double then
        if ch = '"' then .ok (text, c)
        else if ch = '\\' then do
          let (meant, c) ← escaped c.forward
          quotedWord double fuel (meant.reverse ++ text) c
        else quotedWord double fuel (ch :: text) c.forward
      else if ch = '\'' then
        if c.peekAt 1 = some '\'' then quotedWord double fuel ('\'' :: text) (c.advance 2)
        else .ok (text, c)
      else quotedWord double fuel (ch :: text) c.forward

/-- Words and gaps up to the closing quote. -/
def quotedFrom (double : Bool) (quote : Char) :
    Nat → List Char → Cursor → Except Failure (List Char × Cursor)
  | 0, _, _ => .error .malformed
  | fuel + 1, text, c => do
    let (text, c) ← quotedWord double (c.rest.length + 1) text c
    if c.peek = some quote then .ok (text.reverse, c.forward)
    else do
      let (gap, c) ← quotedGap c
      quotedFrom double quote fuel (gap.reverse ++ text) c

/-- A scalar in single or double quotes, read from its opening quote. -/
def quotedScalar (double : Bool) (c : Cursor) : Except Failure Scanned := do
  let (text, c) ←
    quotedFrom double (if double then '"' else '\'') (c.rest.length + 1) [] c.forward
  .ok ⟨text, false, c⟩

/-! ## Blocks -/

/-- What becomes of the line breaks at the end of a block. -/
inductive Chomping where
  | strip
  | clip
  | keep
deriving DecidableEq

def chomping? (c : Option Char) : Option Chomping :=
  if c = some '+' then some .keep else if c = some '-' then some .strip else none

/-- A digit that says how far a block is indented; zero is not allowed. -/
def indentDigit (c : Cursor) : Except Failure (Option Nat × Cursor) :=
  match c.peek with
  | some ch =>
    if isAsciiDigit ch then
      if ch = '0' then .error .malformed else .ok (some (ch.toNat - 48), c.forward)
    else .ok (none, c)
  | none => .ok (none, c)

/-- The indicators of a block, in either order, and the end of their line. -/
def blockHeader (c : Cursor) : Except Failure (Chomping × Option Nat × Cursor) := do
  let (chomping, indent, c) ←
    match chomping? c.peek with
    | some chomping => do
      let (indent, c) ← indentDigit c.forward
      pure (chomping, indent, c)
    | none => do
      let (indent, c) ← indentDigit c
      match indent, chomping? c.peek with
      | some _, some chomping => pure (chomping, indent, c.forward)
      | _, _ => pure (Chomping.clip, indent, c)
  if endOr (fun ch => ch = ' ' || isBreak ch) c.peek then do
    let c ← c.endOfLine
    .ok (chomping, indent, c)
  else .error .malformed

/-- Past the spaces up to a column. -/
def skipIndent (indent : Nat) (c : Cursor) : Cursor :=
  c.advance ((c.rest.takeWhile (· = ' ')).take (indent - c.column)).length

/-- The empty lines at the start of a block whose indentation is still to be found, and the largest
column of spaces there. -/
def blockIndentation : Nat → List Char → Nat → Cursor → List Char × Nat × Cursor
  | 0, breaks, most, c => (breaks, most, c)
  | fuel + 1, breaks, most, c =>
    if c.peek = some ' ' then
      let c := c.forward
      blockIndentation fuel breaks (max most c.column) c
    else if c.peek.any isBreak then
      let (lineBreak, c) := c.lineBreak
      blockIndentation fuel (breaks ++ lineBreak) most c
    else (breaks, most, c)

/-- Empty lines inside a block, up to the indentation of the next line. -/
def blockBreaks (indent : Nat) : Nat → List Char → Cursor → List Char × Cursor
  | 0, breaks, c => (breaks, c)
  | fuel + 1, breaks, c =>
    let c := skipIndent indent c
    if c.peek.any isBreak then
      let (lineBreak, c) := c.lineBreak
      blockBreaks indent fuel (breaks ++ lineBreak) c
    else (breaks, c)

/-- Whether a line of the block begins here. -/
def atBlockLine (indent : Nat) (c : Cursor) : Bool := c.column = indent && c.peek.isSome

/-- The lines of a block; `text` is reversed. The last line break and the empty lines after it are
returned apart. -/
def blockLines (folded : Bool) (indent : Nat) :
    Nat → List Char → List Char → Cursor → List Char × List Char × List Char × Cursor
  | 0, text, breaks, c => (text, [], breaks, c)
  | fuel + 1, text, breaks, c =>
    let text := breaks.reverse ++ text
    let startsWithText := !(c.peek.any isSpaceOrTab)
    let line := c.rest.takeWhile fun ch => !isBreak ch
    let text := line.reverse ++ text
    let (lineBreak, c) := (c.advance line.length).lineBreak
    let (breaks, c) := blockBreaks indent (c.rest.length + 1) [] c
    if atBlockLine indent c then
      let joint :=
        if folded && lineBreak = ['\n'] && startsWithText && !(c.peek.any isSpaceOrTab) then
          if breaks.isEmpty then [' '] else []
        else lineBreak
      blockLines folded indent fuel (joint.reverse ++ text) breaks c
    else (text, lineBreak, breaks, c)

/-- A block scalar, read from its indicator, inside a collection indented to a column. -/
def blockScalar (folded : Bool) (outer : Int) (c : Cursor) : Except Failure Scanned := do
  let (chomping, increment, c) ← blockHeader c.forward
  let least := max 1 (outer + 1).toNat
  let (indent, breaks, c) :=
    match increment with
    | some n =>
      let indent := least + n - 1
      let (breaks, c) := blockBreaks indent (c.rest.length + 1) [] c
      (indent, breaks, c)
    | none =>
      let (breaks, most, c) := blockIndentation (c.rest.length + 1) [] 0 c
      (max least most, breaks, c)
  let (text, last, breaks, c) :=
    if atBlockLine indent c then blockLines folded indent (c.rest.length + 1) [] breaks c
    else ([], [], breaks, c)
  let tail :=
    match chomping with
    | .strip => []
    | .clip => last
    | .keep => last ++ breaks
  .ok ⟨text.reverse ++ tail, false, c⟩

end Conform.Yaml
