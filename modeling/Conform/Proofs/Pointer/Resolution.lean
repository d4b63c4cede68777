import Conform.Proofs.Pointer
import Conform.Value.Equality

/-!
# Resolving pointers

A pointer is resolved in a value by taking its tokens one after the other: in a mapping a token is a
key, in a sequence the decimal text of an index. Tokens are unescaped before, `~1` first: the other
way round, `~01` would become a slash.

Escaping and unescaping cancel out, so the pointer of a path has the texts of the path as its tokens
(`tokens?_join`), and to resolve it is to go down the path (`resolve_join`).
-/

namespace Conform

namespace Value

/-- The item with the index that the token is the decimal text of. -/
def itemNamed? (items : List Value) (token : String) : Option Value :=
  ((List.range items.length).find? fun index => toString index = token).bind (items[·]?)

/-- The part of a mapping or a sequence that a token stands for. -/
def child? (v : Value) (token : String) : Option Value :=
  match v with
  | .map entries => lookup (.str token) entries
  | .list items => itemNamed? items token
  | .tuple items => itemNamed? items token
  | _ => none

end Value

namespace Pointer

/-- Every `~` with the given digit behind it becomes the character. -/
def restore (digit char : Char) : List Char → List Char
  | [] => []
  | [c] => [c]
  | c :: d :: rest =>
    if c = '~' ∧ d = digit then char :: restore digit char rest
    else c :: restore digit char (d :: rest)

def unescapeToken (token : List Char) : List Char := restore '0' '~' (restore '1' '/' token)

/-- The tokens of a pointer, which is empty or begins with a slash. -/
def tokens? (pointer : String) : Option (List String) :=
  match Text.fields '/' pointer.toList with
  | [] :: tokens => some (tokens.map fun token => String.ofList (unescapeToken token))
  | _ => none

/-- Go down a value token by token. -/
def follow : List String → Value → Option Value
  | [], v => some v
  | token :: tokens, v => (v.child? token).bind (follow tokens)

/-- What a pointer stands for in a value. -/
def resolve (pointer : String) (v : Value) : Option Value :=
  (tokens? pointer).bind fun tokens => follow tokens v

/-! ## Tokens -/

theorem restore_cons_of_ne {digit char c : Char} (h : c ≠ '~') (rest : List Char) :
    restore digit char (c :: rest) = c :: restore digit char rest := by
  cases rest with
  | nil => rfl
  | cons d rest => rw [restore, if_neg fun hc => h hc.1]

theorem restore_escape (digit char : Char) (rest : List Char) :
    restore digit char ('~' :: digit :: rest) = char :: restore digit char rest := by
  rw [restore, if_pos ⟨rfl, rfl⟩]

/-- Another digit behind the `~` is left alone, as long as it is no `~` itself. -/
theorem restore_other {digit char other : Char} (h : other ≠ digit) (hother : other ≠ '~')
    (rest : List Char) :
    restore digit char ('~' :: other :: rest) = '~' :: other :: restore digit char rest := by
  rw [restore, if_neg fun hc => h hc.2, restore_cons_of_ne hother]

/-- A token in which only `~` is escaped. -/
def escapeTildes (token : List Char) : List Char :=
  token.flatMap fun c => if c = '~' then ['~', '0'] else [c]

theorem restore_escapeToken (token : List Char) :
    restore '1' '/' (escapeToken token) = escapeTildes token := by
  induction token with
  | nil => rfl
  | cons c token ih =>
    rw [escapeToken_cons]
    rcases escapeChar_cases c with ⟨rfl, hc⟩ | ⟨rfl, hc⟩ | ⟨htilde, -, hc⟩ <;>
      simp only [hc, List.cons_append, List.nil_append, escapeTildes, List.flatMap_cons]
    · rw [restore_other (by decide) (by decide), ih]
      rfl
    · rw [restore_escape, ih]
      rfl
    · rw [restore_cons_of_ne htilde, ih, if_neg htilde]
      rfl

theorem restore_escapeTildes (token : List Char) :
    restore '0' '~' (escapeTildes token) = token := by
  induction token with
  | nil => rfl
  | cons c token ih =>
    simp only [escapeTildes, List.flatMap_cons]
    by_cases hc : c = '~'
    · rw [if_pos hc, List.cons_append, List.singleton_append, restore_escape, hc]
      exact congrArg _ ih
    · rw [if_neg hc, List.singleton_append, restore_cons_of_ne hc]
      exact congrArg _ ih

theorem unescapeToken_escapeToken (token : List Char) :
    unescapeToken (escapeToken token) = token := by
  rw [unescapeToken, restore_escapeToken, restore_escapeTildes]

/-- The tokens of a path's pointer are the texts of its segments. -/
theorem tokens?_join (path : Path) : tokens? (join path) = some (path.map Value.text) := by
  have htext (segment : Value) : String.ofList (unescapeToken
      (escapeToken segment.text.toList)) = segment.text := by
    rw [unescapeToken_escapeToken, String.ofList_toList]
  simp only [tokens?, join, String.toList_ofList, fields_joinTokens, List.map_map]
  exact congrArg some (List.map_congr_left fun segment _ => htext segment)

theorem resolve_join (path : Path) (v : Value) :
    resolve (join path) v = follow (path.map Value.text) v := by
  rw [resolve, tokens?_join, Option.bind_some]

/-! ## Steps -/

theorem follow_cons (token : String) (tokens : List String) (v : Value) :
    follow (token :: tokens) v = (v.child? token).bind (follow tokens) := rfl

@[simp] theorem child?_map (entries : List (Value × Value)) (token : String) :
    (Value.map entries).child? token = Value.lookup (.str token) entries := rfl

theorem follow_key {entries : List (Value × Value)} {name : String} {v : Value}
    (h : Value.lookup (.str name) entries = some v) (tokens : List String) :
    follow (name :: tokens) (.map entries) = follow tokens v := by
  rw [follow_cons, child?_map, h, Option.bind_some]

/-- The text of an index beyond the items stands for none of them. -/
theorem itemNamed?_text (items : List Value) (index : Nat) :
    Value.itemNamed? items (Value.int index).text = items[index]? := by
  unfold Value.itemNamed?
  by_cases h : index < items.length
  · have hfind : (List.range items.length).find?
        (fun other => toString other = (Value.int index).text) = some index := by
      rw [List.find?_range_eq_some]
      refine ⟨decide_eq_true rfl, List.mem_range.2 h, fun other hother => ?_⟩
      rw [Bool.not_eq_true', decide_eq_false_iff_not]
      exact fun heq => absurd (index_inj heq) (Nat.ne_of_lt hother)
    rw [hfind, Option.bind_some]
  · have hfind : (List.range items.length).find?
        (fun other => toString other = (Value.int index).text) = none := by
      rw [List.find?_range_eq_none]
      intro other hother
      rw [Bool.not_eq_true', decide_eq_false_iff_not]
      exact fun heq => h (index_inj heq ▸ hother)
    rw [hfind, List.getElem?_eq_none (Nat.not_lt.1 h), Option.bind_none]

theorem child?_items {v : Value} {items : List Value} (h : v.items? = some items) (index : Nat) :
    v.child? (Value.int index).text = items[index]? := by
  cases v with
  | list | tuple =>
    obtain rfl := Option.some.inj h
    exact itemNamed?_text _ index
  | _ => cases h

theorem follow_item {v w : Value} {items : List Value} {index : Nat} (h : v.items? = some items)
    (hw : items[index]? = some w) (tokens : List String) :
    follow ((Value.int index).text :: tokens) v = follow tokens w := by
  rw [follow_cons, child?_items h, hw, Option.bind_some]

end Pointer

end Conform
