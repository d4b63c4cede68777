import Conform.Number.Numeral
import Conform.Pattern.Choice
import Conform.Pattern.Error
import Conform.Unicode.Identifier
import Conform.Unicode.Letter
import Conform.Unicode.Name

/-!
# Reading patterns

Recursive descent over the text of a pattern. The text is taken in tokens: a character, or a
backslash with the character after it. The token ahead is always known, so a backslash that ends the
text is refused as soon as the token before it is taken. Each step of the descent takes a token or
opens a level of nesting, so the fuel, twice the length of the text, is never used up.
-/

namespace Conform.Pattern

inductive Token where
  | plain (c : Char)
  | escape (c : Char)
deriving DecidableEq

namespace Token

def chars : Token → List Char
  | .plain c => [c]
  | .escape c => ['\\', c]

def text (t : Token) : String := String.ofList t.chars

def length : Token → Nat
  | .plain _ => 1
  | .escape _ => 2

def isPlain (p : Char → Bool) : Token → Bool
  | .plain c => p c
  | .escape _ => false

end Token

/-- Where the reader is, and what it knows of flags and groups so far. -/
structure Progress where
  position : Nat
  rest : List Char
  flags : Flags
  names : List (String × Nat)
  /-- Widths by group number, the whole pattern being number 0; `none` while a group is open. -/
  groups : List (Option Width)
  /-- How many groups were there when the outermost look-behind was opened. -/
  lookBehind : Option Nat
  /-- Numbers that conditions refer to, with the position of the first reference. -/
  conditions : List (Nat × Nat)

abbrev Reader := StateT Progress (Except Failure)

def fail {α : Type} (cause : Cause) (position : Nat) : Reader α :=
  throw (.invalid ⟨cause, some position⟩)

def position : Reader Nat := do return (← get).position

/-- Fail at a distance before the token ahead. -/
def failBack {α : Type} (cause : Cause) (distance : Nat) : Reader α := do
  fail cause ((← position) - distance)

/-- The token ahead; `none` at the end. -/
def peek : Reader (Option Token) := do
  match (← get).rest with
  | [] => return none
  | ['\\'] => return none
  | '\\' :: c :: _ => return some (.escape c)
  | c :: _ => return some (.plain c)

/-- Refuse a backslash with nothing after it. -/
def checkBackslash : Reader Unit := do
  let s ← get
  if s.rest = ['\\'] then fail .danglingBackslash s.position

/-- Take the token ahead. -/
def next : Reader (Option Token) := do
  let ahead ← peek
  match ahead with
  | none => return none
  | some t =>
    modify fun s => { s with position := s.position + t.length, rest := s.rest.drop t.length }
    checkBackslash
    return some t

/-- Take the token ahead if it is the given character. -/
def accept (c : Char) : Reader Bool := do
  if (← peek) = some (.plain c) then
    let _ ← next
    return true
  else return false

/-- Take up to `limit` characters of a class. -/
def takeChars (p : Char → Bool) : Nat → Reader (List Char)
  | 0 => return []
  | limit + 1 => do
    match ← peek with
    | some (.plain c) =>
      if p c then
        let _ ← next
        return c :: (← takeChars p limit)
      else return []
    | _ => return []

/-- Take everything up to a terminator, which must come after at least one character. -/
def takeUntil (terminator : Char) (what : String) : Nat → List Char → Reader (List Char)
  | 0, taken => return taken
  | fuel + 1, taken => do
    match ← next with
    | none =>
      if taken.isEmpty then failBack (.missingName what) 0
      else failBack (.unterminatedName terminator) taken.length
    | some t =>
      if t = .plain terminator then
        if taken.isEmpty then failBack (.missingName what) 1 else return taken
      else takeUntil terminator what fuel (taken ++ t.chars)

def takeName (terminator : Char) (what : String) : Reader (List Char) := do
  takeUntil terminator what ((← get).rest.length + 1) []

/-! ## Escapes -/

def isOctal (c : Char) : Bool := '0' ≤ c && c ≤ '7'

def isDecimal (c : Char) : Bool := '0' ≤ c && c ≤ '9'

def isHex (c : Char) : Bool :=
  isDecimal c || ('a' ≤ c && c ≤ 'f') || ('A' ≤ c && c ≤ 'F')

def isAsciiLetter (c : Char) : Bool := ('a' ≤ c && c ≤ 'z') || ('A' ≤ c && c ≤ 'Z')

/-- The value of ASCII digits in a base. -/
def valueOf (base : Nat) (digits : List Char) : Nat :=
  digits.foldl (fun n c => n * base + (Numeral.digit? 16 c).getD 0) 0

def escapeText (c : Char) (more : List Char) : String := String.ofList ('\\' :: c :: more)

def badEscape {α : Type} (c : Char) (more : List Char) : Reader α :=
  failBack (.badEscape (escapeText c more)) (2 + more.length)

/-- A category letter such as `d` or `W`. -/
def category? : Char → Option SetItem
  | 'd' => some (.category .digit false)
  | 'D' => some (.category .digit true)
  | 's' => some (.category .space false)
  | 'S' => some (.category .space true)
  | 'w' => some (.category .word false)
  | 'W' => some (.category .word true)
  | _ => none

def control? : Char → Option Nat
  | 'a' => some 7
  | 'b' => some 8
  | 'f' => some 12
  | 'n' => some 10
  | 'r' => some 13
  | 't' => some 9
  | 'v' => some 11
  | '\\' => some 92
  | _ => none

/-- The number of hexadecimal digits after an escape letter. -/
def hexLength? : Char → Option Nat
  | 'x' => some 2
  | 'u' => some 4
  | 'U' => some 8
  | _ => none

/-- Codes from this one on are too large to be looked up. -/
def codeLimit : Nat := 0x80000000

/-- Escapes that mean one character, inside and outside of sets alike; the octal ones aside. -/
def characterEscape (c : Char) : Reader (Option Nat) := do
  match hexLength? c with
  | some length =>
    let digits ← takeChars isHex length
    if digits.length < length then
      failBack (.incompleteEscape (escapeText c digits)) (2 + digits.length)
    else
      let code := valueOf 16 digits
      if codeLimit ≤ code then throw (.excess .code)
      else if code < 0x110000 then return some code
      else badEscape c digits
  | none =>
    if c = 'N' then
      if ← accept '\x7b' then
        let name := String.ofList (← takeName '\x7d' "character name")
        match Unicode.named? name with
        | some code => return some code
        | none => failBack (.undefinedCharacter name) (name.length + 4)
      else failBack .missingBrace 0
    else return none

/-- An escape inside a set. -/
def setEscape (c : Char) : Reader SetItem := do
  match control? c, category? c with
  | some code, _ => return .char code
  | none, some item => return item
  | none, none =>
    match ← characterEscape c with
    | some code => return .char code
    | none =>
      if isOctal c then
        let digits := c :: (← takeChars isOctal 2)
        let code := valueOf 8 digits
        if 0o377 < code then
          failBack (.octalRange (String.ofList ('\\' :: digits))) (1 + digits.length)
        else return .char code
      else if isDecimal c ∨ isAsciiLetter c then badEscape c []
      else return .char c.toNat

/-- Refuse a reference to a group that is still open or, in a look-behind, was opened in it. -/
def checkReference (group distance : Nat) : Reader Unit := do
  let s ← get
  if (s.groups[group]?.join).isNone then failBack .openGroup distance

def checkLookBehind (group : Nat) : Reader Unit := do
  let s ← get
  match s.lookBehind with
  | none => return
  | some limit =>
    checkReference group 0
    if limit ≤ group then failBack .groupInLookBehind 0

/-- A reference to a group by number, of one or two digits, after its digits are taken. -/
def groupReference (digits : List Char) : Reader Node := do
  let group := valueOf 10 digits
  if group < (← get).groups.length then
    checkReference group (1 + digits.length)
    checkLookBehind group
    return .backReference group
  else failBack (.invalidGroup group) digits.length

/-- An escape that begins with a digit other than zero: three octal digits, or a group number. -/
def numberEscape (c : Char) : Reader Node := do
  match ← peek with
  | some (.plain d) =>
    if isDecimal d then
      let _ ← next
      match ← peek with
      | some (.plain e) =>
        if isOctal c ∧ isOctal d ∧ isOctal e then
          let _ ← next
          let code := valueOf 8 [c, d, e]
          if 0o377 < code then failBack (.octalRange (escapeText c [d, e])) 4
          else return .char code
        else groupReference [c, d]
      | _ => groupReference [c, d]
    else groupReference [c]
  | _ => groupReference [c]

def anchor? : Char → Option Anchor
  | 'A' => some .textStart
  | 'b' => some .boundary
  | 'B' => some .nonBoundary
  | 'Z' => some .textEnd
  | _ => none

/-- An escape outside of sets. -/
def nodeEscape (c : Char) : Reader Node := do
  match anchor? c, category? c, control? c with
  | some place, _, _ => return .anchor place
  | none, some item, _ => return .set false [item]
  | none, none, some code => return .char code
  | none, none, none =>
    match ← characterEscape c with
    | some code => return .char code
    | none =>
      if c = '0' then
        let digits := c :: (← takeChars isOctal 2)
        return .char (valueOf 8 digits)
      else if isDecimal c then numberEscape c
      else if isAsciiLetter c then badEscape c []
      else return .char c.toNat

/-! ## Sets -/

def setMember (t : Token) : Reader SetItem :=
  match t with
  | .escape c => setEscape c
  | .plain c => return .char c.toNat

/-- The members of a set up to its closing bracket; `start` is the position of the opening one. -/
def setMembers (start : Nat) : Nat → List SetItem → Reader (List SetItem)
  | 0, items => return items
  | fuel + 1, items => do
    match ← next with
    | none => fail .unterminatedSet start
    | some t =>
      if t = .plain ']' ∧ !items.isEmpty then return items
      else
        let first ← setMember t
        if ← accept '-' then
          match ← next with
          | none => fail .unterminatedSet start
          | some u =>
            if u = .plain ']' then return items ++ [first, .char '-'.toNat]
            else
              let last ← setMember u
              let bad : Reader (List SetItem) :=
                failBack (.badRange t.text u.text) (t.length + 1 + u.length)
              match first, last with
              | .char a, .char b =>
                if b < a then bad else setMembers start fuel (items ++ [.range a b])
              | _, _ => bad
        else setMembers start fuel (items ++ [first])

/-! ## Flags -/

/-- The flag of a token, if it is a flag letter. -/
def flag? : Option Token → Option Flags
  | some (.plain c) => Flags.ofLetter? c
  | _ => none

/-- The cause for a token where a flag was expected. -/
def notFlag (t : Token) (otherwise : Cause) : Cause :=
  match t with
  | .plain c => if Unicode.isLetter c then .unknownFlag else otherwise
  | .escape _ => otherwise

/-- Flags turned on, from a flag letter on; also the token that ends them. -/
def flagsOn : Nat → Flags → Flags → Reader (Flags × Char)
  | 0, on, _ => return (on, ')')
  | fuel + 1, on, flag => do
    if flag.locale then failBack .localeFlag 0
    let on := on.union flag
    if !flag.repertoire.isEmpty ∧ on.repertoire ≠ flag then failBack .incompatibleFlags 0
    match ← next with
    | none => failBack .missingFlagsEnd 0
    | some t =>
      if t = .plain ')' then return (on, ')')
      else if t = .plain '-' then return (on, '-')
      else if t = .plain ':' then return (on, ':')
      else
        match flag? (some t) with
        | some flag => flagsOn fuel on flag
        | none => failBack (notFlag t .missingFlagsEnd) t.length

/-- Flags turned off, up to the colon. -/
def flagsOff : Nat → Flags → Flags → Reader Flags
  | 0, off, _ => return off
  | fuel + 1, off, flag => do
    if !flag.repertoire.isEmpty then failBack .repertoireOff 0
    let off := off.union flag
    match ← next with
    | none => failBack .missingColon 0
    | some t =>
      if t = .plain ':' then return off
      else
        match flag? (some t) with
        | some flag => flagsOff fuel off flag
        | none => failBack (notFlag t .missingColon) t.length

/-- Flags after `(?`, from their first token on. `none` if they are for the whole pattern; otherwise
those that the group turns on and off. -/
def readFlags (first : Token) : Reader (Option (Flags × Flags)) := do
  let fuel := (← get).rest.length + 1
  let (on, ending) ←
    match flag? (some first) with
    | some flag => flagsOn fuel {} flag
    | none => pure ({}, '-')
  if ending = ')' then
    modify fun s => { s with flags := s.flags.union on }
    return none
  if on.template then failBack .globalOn 1
  let off ←
    if ending = '-' then
      match ← next with
      | none => failBack .missingFlag 0
      | some t =>
        match flag? (some t) with
        | some flag => flagsOff fuel {} flag
        | none => failBack (notFlag t .missingFlag) t.length
    else pure {}
  if off.template then failBack .globalOff 1
  if !(on.without (on.without off)).isEmpty then failBack .onAndOff 1
  return some (on, off)

/-! ## Repetitions -/

/-- Repetition counts from this one on are refused. -/
def repeatLimit : Nat := 0xffffffff

def checkedCount (digits : List Char) : Reader Nat :=
  if Numeral.digitLimit < digits.length then throw (.excess .digits)
  else
    let n := valueOf 10 digits
    if repeatLimit ≤ n then throw (.excess .count) else return n

/-- Counts in braces after the opening one. `none` if this is no repetition, and nothing is taken.
-/
def braceCounts : Reader (Option (Nat × Option Nat)) := do
  let before ← get
  if (← peek) = some (.plain '\x7d') then return none
  let fuel := before.rest.length
  let low ← takeChars isDecimal fuel
  let high ← if ← accept ',' then takeChars isDecimal fuel else pure low
  if !(← accept '\x7d') then
    set before
    return none
  let least ← if low.isEmpty then pure 0 else checkedCount low
  if high.isEmpty then return some (least, none)
  let most ← checkedCount high
  if most < least then fail .repeatBounds before.position
  return some (least, some most)

/-- The counts of a repetition sign; `none` if a brace is only a brace. -/
def repeatCounts (sign : Char) : Reader (Option (Nat × Option Nat)) := do
  if sign = '?' then return some (0, some 1)
  else if sign = '*' then return some (0, none)
  else if sign = '+' then return some (1, none)
  else braceCounts

/-- The mark after a quantifier that says how greedy it is. -/
def greedMark : Reader Greed := do
  if ← accept '?' then return .lazy
  else if ← accept '+' then return .possessive
  else return .greedy

/-- Replace the last of the nodes by its repetition. -/
def repeatLast (signStart : Nat) (least : Nat) (most : Option Nat) (done : List Node) :
    Reader (List Node) := do
  match done with
  | [] => fail .nothingToRepeat signStart
  | .anchor _ :: _ => fail .nothingToRepeat signStart
  | .repeated _ _ _ _ :: _ => fail .multipleRepeat signStart
  | node :: before =>
    let greed ← greedMark
    return .repeated greed least most node.opened :: before

/-! ## Groups -/

def openGroup (name : Option String) : Reader Nat := do
  let s ← get
  let number := s.groups.length
  match name with
  | none => set { s with groups := s.groups ++ [none] }
  | some name =>
    match s.names.lookup name with
    | some first => failBack (.redefinedGroup name number first) (name.length + 1)
    | none =>
      set { s with groups := s.groups ++ [none], names := (name, number) :: s.names }
  return number

def closeGroup (number : Nat) (body : List Node) : Reader Unit :=
  modify fun s => { s with groups := s.groups.set number (some (widthOf s.groups body)) }

/-- The closing parenthesis of what was opened at `start`. -/
def expectClose (start : Nat) : Reader Unit := do
  if !(← accept ')') then fail .unterminatedGroup start

def checkName (name : List Char) : Reader Unit := do
  if !Unicode.isIdentifier name then
    failBack (.badGroupName (String.ofList name)) (name.length + 1)

/-- A reference to a group by name. -/
def namedReference : Reader Node := do
  let name ← takeName ')' "group name"
  checkName name
  match (← get).names.lookup (String.ofList name) with
  | none => failBack (.unknownGroupName (String.ofList name)) (name.length + 1)
  | some group =>
    checkReference group (name.length + 1)
    checkLookBehind group
    return .backReference group

/-- Group numbers from this one on are refused. -/
def groupLimit : Nat := 0x7fffffff

/-- The group that a condition asks about. -/
def conditionGroup : Reader Nat := do
  let name ← takeName ')' "group name"
  let text := String.ofList name
  if Unicode.isIdentifier name then
    match (← get).names.lookup text with
    | some group => return group
    | none => failBack (.unknownGroupName text) (name.length + 1)
  else
    match Numeral.integer? 10 name with
    | none => failBack (.badGroupName text) (name.length + 1)
    | some n =>
      if n < 0 then failBack (.badGroupName text) (name.length + 1)
      if n = 0 then failBack .badGroupNumber (name.length + 1)
      let group := n.toNat
      if groupLimit ≤ group then failBack (.invalidGroup group) (name.length + 1)
      modify fun s =>
        if (s.conditions.lookup group).isSome then s
        else { s with conditions := s.conditions ++ [(group, s.position - name.length - 1)] }
      return group

/-- Skip a comment that was opened at `start`. -/
def skipComment (start : Nat) : Nat → Reader Unit
  | 0 => return
  | fuel + 1 => do
    match ← next with
    | none => fail .unterminatedComment start
    | some t => if t = .plain ')' then return else skipComment start fuel

/-- Skip the rest of a line, in verbose patterns. -/
def skipLine : Nat → Reader Unit
  | 0 => return
  | fuel + 1 => do
    match ← next with
    | none => return
    | some t => if t = .plain '\n' then return else skipLine fuel

/-- What the characters after `(?` announce. -/
inductive Opening where
  | capture (name : Option String)
  | plain (added removed : Flags)
  | atomic
  | look (behind negated : Bool)
  | condition
  | reference (node : Node)
  | nothing

/-- Read an opening parenthesis with what belongs to it; `start` is its position and `fresh` says
that nothing but global flags came before it. -/
def opening (start : Nat) (fresh : Bool) : Reader Opening := do
  if !(← accept '?') then return .capture none
  match ← next with
  | none => failBack .unexpectedEnd 0
  | some (.plain 'P') =>
    if ← accept '<' then
      let name ← takeName '>' "group name"
      checkName name
      return .capture (some (String.ofList name))
    else if ← accept '=' then return .reference (← namedReference)
    else
      match ← next with
      | none => failBack .unexpectedEnd 0
      | some t => failBack (.unknownExtension ("P" ++ t.text)) (t.length + 2)
  | some (.plain ':') => return .plain {} {}
  | some (.plain '#') =>
    skipComment start ((← get).rest.length + 1)
    return .nothing
  | some (.plain '=') => return .look false false
  | some (.plain '!') => return .look false true
  | some (.plain '<') =>
    match ← next with
    | none => failBack .unexpectedEnd 0
    | some (.plain '=') => return .look true false
    | some (.plain '!') => return .look true true
    | some t => failBack (.unknownExtension ("<" ++ t.text)) (t.length + 2)
  | some (.plain '(') => return .condition
  | some (.plain '>') => return .atomic
  | some t =>
    if (flag? (some t)).isSome ∨ t = .plain '-' then
      match ← readFlags t with
      | some (added, removed) => return .plain added removed
      | none =>
        if fresh then return .nothing else fail .misplacedFlags start
    else failBack (.unknownExtension t.text) (t.length + 1)

/-! ## Sequences and choices -/

def isVerboseBlank (c : Char) : Bool := c = ' ' || (9 ≤ c.toNat && c.toNat ≤ 13)

mutual

/-- A choice between sequences. `top` says that this is the whole pattern. -/
def choice (fuel : Nat) (verbose top : Bool) : Reader (List Node) := do
  match fuel with
  | 0 => return []
  | fuel + 1 =>
    let first ← sequence fuel verbose top []
    let others ← branches fuel verbose top
    return choose first others

/-- The sequences after the first one of a choice. -/
def branches (fuel : Nat) (verbose top : Bool) : Reader (List (List Node)) := do
  match fuel with
  | 0 => return []
  | fuel + 1 =>
    if ← accept '|' then
      let flags := (← get).flags
      let verbose := if top then flags.verbose else verbose
      let branch ← sequence fuel verbose false []
      let others ← branches fuel verbose top
      return branch :: others
    else return []

/-- A sequence of nodes; those read so far are in `done`, the last one first. `first` says that
global flags may still come. Groups that only group are opened at the end. -/
def sequence (fuel : Nat) (verbose first : Bool) (done : List Node) : Reader (List Node) := do
  match fuel with
  | 0 => return done.reverse.flatMap Node.opened
  | fuel + 1 =>
    match ← peek with
    | none => return done.reverse.flatMap Node.opened
    | some t =>
      if t = .plain '|' ∨ t = .plain ')' then return done.reverse.flatMap Node.opened
      let start ← position
      let _ ← next
      match t with
      | .escape c => sequence fuel verbose first ((← nodeEscape c) :: done)
      | .plain c =>
        if verbose ∧ isVerboseBlank c then sequence fuel verbose first done
        else if verbose ∧ c = '#' then
          skipLine ((← get).rest.length + 1)
          sequence fuel verbose first done
        else if c = '[' then
          let negated ← accept '^'
          let items ← setMembers start ((← get).rest.length + 1) []
          sequence fuel verbose first (.ofSet negated items :: done)
        else if c = '*' ∨ c = '+' ∨ c = '?' ∨ c = '\x7b' then
          match ← repeatCounts c with
          | none => sequence fuel verbose first (.char c.toNat :: done)
          | some (least, most) =>
            let repeated ← repeatLast start least most done
            sequence fuel verbose first repeated
        else if c = '.' then sequence fuel verbose first (.any :: done)
        else if c = '^' then sequence fuel verbose first (.anchor .lineStart :: done)
        else if c = '$' then sequence fuel verbose first (.anchor .lineEnd :: done)
        else if c = '(' then
          match ← opening start (first && done.isEmpty) with
          | .nothing =>
            let flags := (← get).flags
            let verbose := verbose || (first && done.isEmpty && flags.verbose)
            sequence fuel verbose first done
          | .reference node => sequence fuel verbose first (node :: done)
          | .look behind negated =>
            let outer := (← get).lookBehind
            if behind ∧ outer.isNone then
              modify fun s => { s with lookBehind := some s.groups.length }
            let body ← choice fuel verbose false
            if behind then modify fun s => { s with lookBehind := outer }
            expectClose start
            let width := widthOf (← get).groups body
            sequence fuel verbose first (.look behind negated width body :: done)
          | .condition =>
            let group ← conditionGroup
            checkLookBehind group
            let yes ← sequence fuel verbose false []
            let no ←
              if ← accept '|' then
                let no ← sequence fuel verbose false []
                if (← peek) = some (.plain '|') then failBack .tooManyBranches 0
                pure no
              else pure []
            expectClose start
            sequence fuel verbose first (.conditional group yes no :: done)
          | .capture name =>
            let number ← openGroup name
            let body ← choice fuel verbose false
            expectClose start
            closeGroup number body
            sequence fuel verbose first (.group (some number) {} {} body :: done)
          | .atomic =>
            let body ← choice fuel verbose false
            expectClose start
            sequence fuel verbose first (.atomic body :: done)
          | .plain added removed =>
            let inner := (verbose || added.verbose) && !removed.verbose
            let body ← choice fuel inner false
            expectClose start
            sequence fuel verbose first (.group none added removed body :: done)
        else sequence fuel verbose first (.char c.toNat :: done)

end

/-! ## Whole patterns -/

/-- A pattern that can be matched. -/
structure Program where
  nodes : List Node
  /-- The flags for all of it. -/
  flags : Flags
  /-- How many groups there are, the whole pattern being one. -/
  groups : Nat
  /-- The least number of characters in a match. -/
  least : Nat

mutual

/-- Refuse what can be read but not matched: look-behind of unknown width, and repetitions in
templates. -/
def checkNode (template : Bool) : Node → Except Failure Unit
  | .group _ _ _ body => checkNodes template body
  | .atomic body => checkNodes template body
  | .repeated greed _ _ body => do
    if template then throw (.invalid ⟨.templateRepeat greed, none⟩)
    checkNodes template body
  | .alternatives branches => checkBranches template branches
  | .conditional _ yes no => do
    checkNodes template yes
    checkNodes template no
  | .look behind _ width body => do
    if behind ∧ 0x100000000 ≤ width.least then throw (.invalid ⟨.lookBehindDistance, none⟩)
    if behind ∧ width.least ≠ width.greatest then throw (.invalid ⟨.lookBehindWidth, none⟩)
    checkNodes template body
  | _ => .ok ()

def checkNodes (template : Bool) : List Node → Except Failure Unit
  | [] => .ok ()
  | node :: rest => do
    checkNode template node
    checkNodes template rest

def checkBranches (template : Bool) : List (List Node) → Except Failure Unit
  | [] => .ok ()
  | branch :: rest => do
    checkNodes template branch
    checkBranches template rest

end

/-- Read a whole pattern. -/
def whole (length : Nat) : Reader (List Node) := do
  checkBackslash
  let nodes ← choice (2 * length + 4) false true
  let flags := (← get).flags
  if flags.ascii ∧ flags.unicode then throw (.excess .repertoires)
  if (← peek).isSome then failBack .unbalancedParenthesis 0
  let s ← get
  match s.conditions.find? fun (group, _) => s.groups.length ≤ group with
  | some (group, place) => fail (.invalidGroup group) place
  | none => return nodes

/-- The program of a pattern. -/
def compile (pattern : String) : Except Failure Program := do
  let chars := pattern.toList
  let start : Progress := {
    position := 0, rest := chars, flags := {}, names := [], groups := [none],
    lookBehind := none, conditions := [] }
  let (nodes, s) ← (whole chars.length).run start
  checkNodes s.flags.template nodes
  let least := (widthOf s.groups nodes).least
  return { nodes, flags := s.flags, groups := s.groups.length, least }

end Conform.Pattern
