import Conform.Yaml.Token

/-!
# Tokens from text

Block collections are shown by indentation, and a key by the colon after it. So tokens that open and
close collections are put in where a line is indented more or less than the one before, and the
place of everything that might turn out to be a key is remembered until a colon comes, the line
ends, or too much text has passed. Such a place is a candidate; at the indentation of a block it
must be a key.
-/

namespace Conform.Yaml

/-- A place where a key may have begun: the number of its first token, where it is, and whether it
must be a key. -/
structure Candidate where
  token : Nat
  index : Nat
  mark : Mark
  required : Bool

structure Layout where
  cursor : Cursor
  tokens : Array Token
  /-- How many brackets are open. -/
  depth : Nat
  /-- The column of the innermost block collection, -1 outside of all. -/
  indent : Int
  outerIndents : List Int
  /-- Whether a key may begin here without an indicator. -/
  keyAllowed : Bool
  /-- Candidates by the number of brackets that were open, at most one for each. -/
  candidates : List (Nat × Candidate)

namespace Layout

def ofText (text : List Char) : Layout where
  cursor := .ofText text
  tokens := #[]
  depth := 0
  indent := -1
  outerIndents := []
  keyAllowed := true
  candidates := []

/-! ## Candidates -/

/-- Whether a candidate can no longer be a key: its line is over, or it is too far back. -/
def isStale (s : Layout) (candidate : Candidate) : Bool :=
  candidate.mark.line ≠ s.cursor.line || candidate.index + 1024 < s.cursor.index

def dropStale (s : Layout) : Except Failure Layout :=
  let (stale, others) := s.candidates.partition fun entry => s.isStale entry.2
  if stale.any fun entry => entry.2.required then .error .malformed
  else .ok { s with candidates := others }

/-- Give up the candidate of the current depth. -/
def dropCandidate (s : Layout) : Except Failure Layout :=
  match s.candidates.lookup s.depth with
  | some candidate =>
    if candidate.required then .error .malformed
    else .ok { s with candidates := s.candidates.filter fun entry => entry.1 ≠ s.depth }
  | none => .ok s

/-- Remember that a key may begin here. -/
def saveCandidate (s : Layout) : Except Failure Layout :=
  if s.keyAllowed then do
    let s ← s.dropCandidate
    let candidate : Candidate := {
      token := s.tokens.size
      index := s.cursor.index
      mark := s.cursor.mark
      required := s.depth = 0 && s.indent = s.cursor.column }
    .ok { s with candidates := (s.depth, candidate) :: s.candidates }
  else .ok s

/-! ## Indentation -/

/-- Close the blocks that are indented by more than a column. -/
def closeBlocks (column : Int) (mark : Mark) : Int → List Int → Array Token →
    Int × List Int × Array Token
  | indent, [], tokens => (indent, [], tokens)
  | indent, outer :: rest, tokens =>
    if column < indent then closeBlocks column mark outer rest (tokens.push ⟨.blockEnd, mark, mark⟩)
    else (indent, outer :: rest, tokens)

def unwind (s : Layout) (column : Int) : Layout :=
  if s.depth ≠ 0 then s
  else
    let (indent, outerIndents, tokens) :=
      closeBlocks column s.cursor.mark s.indent s.outerIndents s.tokens
    { s with indent, outerIndents, tokens }

/-- Open a block at a mark if it is indented by more than the current one; its token is put in at
a place among the tokens. -/
def openBlock (s : Layout) (kind : TokenKind) (mark : Mark) (place : Nat) : Layout :=
  if s.indent < mark.column then
    { s with
      indent := mark.column
      outerIndents := s.indent :: s.outerIndents
      tokens := s.tokens.insertIdxIfInBounds place ⟨kind, mark, mark⟩ }
  else s

/-! ## Steps -/

/-- Add a token of some characters. -/
def take (s : Layout) (kind : TokenKind) (length : Nat) : Layout :=
  let cursor := s.cursor.advance length
  { s with cursor, tokens := s.tokens.push ⟨kind, s.cursor.mark, cursor.mark⟩ }

/-- Add a token that ends at a cursor. -/
def takeTo (s : Layout) (kind : TokenKind) (cursor : Cursor) : Layout :=
  { s with cursor, tokens := s.tokens.push ⟨kind, s.cursor.mark, cursor.mark⟩ }

/-- Past blanks, comments and line ends; a new line outside of brackets may begin with a key. -/
def skipToToken : Nat → Layout → Layout
  | 0, s => s
  | fuel + 1, s =>
    let cursor := s.cursor.skipComment
    if cursor.peek.any isBreak then
      skipToToken fuel
        { s with cursor := cursor.lineBreak.2, keyAllowed := s.keyAllowed || s.depth = 0 }
    else { s with cursor }

/-- Close all blocks; no key may come next. -/
def endBlocks (s : Layout) : Except Failure Layout := do
  let s ← (s.unwind (-1)).dropCandidate
  .ok { s with keyAllowed := false }

def directive (s : Layout) : Except Failure Layout := do
  let s ← s.endBlocks
  let (kind, finish, cursor) ← Yaml.directive s.cursor
  .ok { s with cursor, tokens := s.tokens.push ⟨kind, s.cursor.mark, finish⟩ }

def boundary (s : Layout) (kind : TokenKind) : Except Failure Layout := do
  let s ← s.endBlocks
  .ok (s.take kind 3)

def openBracket (s : Layout) (kind : TokenKind) : Except Failure Layout := do
  let s ← s.saveCandidate
  .ok ({ s with depth := s.depth + 1, keyAllowed := true }.take kind 1)

def closeBracket (s : Layout) (kind : TokenKind) : Except Failure Layout := do
  let s ← s.dropCandidate
  if s.depth = 0 then .error .malformed
  else .ok ({ s with depth := s.depth - 1, keyAllowed := false }.take kind 1)

def flowEntry (s : Layout) : Except Failure Layout := do
  let s ← { s with keyAllowed := true }.dropCandidate
  .ok (s.take .flowEntry 1)

/-- Outside of brackets, an indicator may only stand where a key may begin; it opens a block. -/
def indicator (s : Layout) (block : TokenKind) : Except Failure Layout :=
  if s.depth ≠ 0 then .ok s
  else if !s.keyAllowed then .error .malformed
  else .ok (s.openBlock block s.cursor.mark s.tokens.size)

def blockEntry (s : Layout) : Except Failure Layout := do
  let s ← s.indicator .blockSequenceStart
  let s ← { s with keyAllowed := true }.dropCandidate
  .ok (s.take .blockEntry 1)

def key (s : Layout) : Except Failure Layout := do
  let s ← s.indicator .blockMappingStart
  let s ← { s with keyAllowed := s.depth = 0 }.dropCandidate
  .ok (s.take .key 1)

/-- A colon makes a key of the candidate of its depth, if there is one. -/
def value (s : Layout) : Except Failure Layout :=
  match s.candidates.lookup s.depth with
  | some candidate =>
    let mark := candidate.mark
    let s := { s with
      candidates := s.candidates.filter fun entry => entry.1 ≠ s.depth
      tokens := s.tokens.insertIdxIfInBounds candidate.token ⟨.key, mark, mark⟩ }
    let s := if s.depth = 0 then s.openBlock .blockMappingStart mark candidate.token else s
    .ok ({ s with keyAllowed := false }.take .value 1)
  | none => do
    let s ← s.indicator .blockMappingStart
    let s ← { s with keyAllowed := s.depth = 0 }.dropCandidate
    .ok (s.take .value 1)

/-- A property, a reference or a scalar on one line: it may begin a key, and none follows it. -/
def word (s : Layout) (scan : Cursor → Except Failure (TokenKind × Cursor)) :
    Except Failure Layout := do
  let s ← s.saveCandidate
  let (kind, cursor) ← scan s.cursor
  .ok ({ s with keyAllowed := false }.takeTo kind cursor)

def reference (s : Layout) : Except Failure Layout :=
  s.word fun c => do
    let (name, c) ← anchorName c
    .ok (.reference name, c)

def anchor (s : Layout) : Except Failure Layout :=
  s.word fun c => do
    let (name, c) ← anchorName c
    .ok (.anchor name, c)

def quoted (s : Layout) (double : Bool) : Except Failure Layout :=
  s.word fun c => do
    let scanned ← quotedScalar double c
    .ok (.scalar (String.ofList scanned.text) false, scanned.cursor)

/-- A plain scalar; after one that ends on a later line a key may begin. -/
def plain (s : Layout) : Except Failure Layout := do
  let s ← s.saveCandidate
  let scanned := plainScalar (s.depth ≠ 0) (s.indent + 1).toNat s.cursor
  .ok ({ s with keyAllowed := scanned.crossesLine }.takeTo
    (.scalar (String.ofList scanned.text) true) scanned.cursor)

def block (s : Layout) (folded : Bool) : Except Failure Layout := do
  let s ← { s with keyAllowed := true }.dropCandidate
  let scanned ← blockScalar folded s.indent s.cursor
  .ok (s.takeTo (.scalar (String.ofList scanned.text) false) scanned.cursor)

/-- Whether a plain scalar begins with this character, given the next one. -/
def startsPlain (inFlow : Bool) (c : Char) (next : Option Char) : Bool :=
  let indicators := ['-', '?', ':', ',', '[', ']', '\x7b', '\x7d', '#', '&', '*', '!', '|', '>',
    '\'', '"', '%', '@', '\x60']
  (!isGap c && !indicators.contains c) ||
    (!endOr isGap next && (c = '-' || (!inFlow && (c = '?' || c = ':'))))

/-- The step that a character calls for. -/
def dispatch (s : Layout) (c : Char) (next : Option Char) : Except Failure Layout :=
  let inFlow := s.depth ≠ 0
  let alone := endOr isGap next
  let atLineStart := s.cursor.column = 0
  if c = '%' && atLineStart then s.directive
  else if atLineStart && s.cursor.atSeparator '-' then s.boundary .documentStart
  else if atLineStart && s.cursor.atSeparator '.' then s.boundary .documentEnd
  else if c = '[' then s.openBracket .flowSequenceStart
  else if c = '\x7b' then s.openBracket .flowMappingStart
  else if c = ']' then s.closeBracket .flowSequenceEnd
  else if c = '\x7d' then s.closeBracket .flowMappingEnd
  else if c = ',' then s.flowEntry
  else if c = '-' && alone then s.blockEntry
  else if c = '?' && (inFlow || alone) then s.key
  else if c = ':' && (inFlow || alone) then s.value
  else if c = '*' then s.reference
  else if c = '&' then s.anchor
  else if c = '!' then s.word tag
  else if c = '|' && !inFlow then s.block false
  else if c = '>' && !inFlow then s.block true
  else if c = '\'' then s.quoted false
  else if c = '"' then s.quoted true
  else if startsPlain inFlow c next then s.plain
  else .error .malformed

/-- Add the next tokens; after the last ones the flag is set. -/
def step (s : Layout) : Except Failure (Layout × Bool) := do
  let s ← s.dropStale
  let s ← (skipToToken (s.cursor.rest.length + 1) s).dropStale
  let s := s.unwind s.cursor.column
  match s.cursor.rest with
  | [] => do
    let s ← s.endBlocks
    .ok (s.take .streamEnd 0, true)
  | c :: rest => do
    let s ← s.dispatch c rest.head?
    .ok (s, false)

/-- The tokens that are certain: those before the first candidate that is not stale. -/
def certain (s : Layout) : List Token :=
  let waiting := s.candidates.filter fun entry => !s.isStale entry.2
  let first := waiting.foldl (fun least entry => min least entry.2.token) s.tokens.size
  s.tokens.toList.take first

end Layout

/-- The tokens of a text, and why there are no more of them if they end early. -/
structure Tokens where
  tokens : List Token
  failure : Option Failure

/-- The tokens from a state on. Each step but the last consumes a character. -/
def Layout.run : Nat → Layout → Tokens
  | 0, s => ⟨s.certain, some .malformed⟩
  | fuel + 1, s =>
    match s.step with
    | .error failure => ⟨s.certain, some failure⟩
    | .ok (s, true) => ⟨s.tokens.toList, none⟩
    | .ok (s, false) => Layout.run fuel s

/-- The tokens of a text. A byte order mark at its start is passed over. -/
def Tokens.ofText (text : List Char) : Tokens :=
  if !text.all isAllowed then ⟨[], some .malformed⟩
  else
    let s := Layout.ofText text
    let start := if text.head? = some '\ufeff' then { s with cursor := s.cursor.forward } else s
    start.run (text.length + 2)

end Conform.Yaml
