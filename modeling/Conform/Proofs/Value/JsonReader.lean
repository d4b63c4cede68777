import Conform.Proofs.Value.Json
import Conform.Proofs.Value.JsonReader.Scalar
import Conform.Proofs.Value.Lookup

/-!
# Reading JSON text back

JSON text reads back as the value it was written for, whatever stands after it
(`Value.reads_jsonAt`), and so does the text of a document with a line end
(`Value.ofJson?_of_json?`). Doubles are left aside, since their text is no subject here. What begins
like no value is no document (`Value.ofJson?_eq_none`).

A text of `n` characters needs at most `2 n` steps of the reader.
-/

namespace Conform

namespace JsonReader

/-! ## Values -/

theorem skipSpace_append {blanks : List Char} (h : ∀ c ∈ blanks, isSpace c = true)
    (s : List Char) : skipSpace (blanks ++ s) = skipSpace s :=
  List.dropWhile_append_of_pos h

theorem skipSpace_cons {c : Char} (h : isSpace c = false) (s : List Char) :
    skipSpace (c :: s) = c :: s := by
  rw [skipSpace, List.dropWhile_cons_of_neg (by simp [h])]

/-- Blanks before a value are passed over. -/
theorem value?_blanks {blanks : List Char} (h : ∀ c ∈ blanks, isSpace c = true) (fuel : Nat)
    (s : List Char) : value? fuel (blanks ++ s) = value? fuel s := by
  cases fuel with
  | zero => rfl
  | succ fuel =>
    unfold value?
    rw [skipSpace_append h]

/-- Where neither a string, a list, a mapping nor a word begins, a number is read. -/
theorem value?_other {first : Char} (hblank : isSpace first = false)
    (h : first ∉ ['"', '[', '\x7b', 't', 'f', 'n']) (fuel : Nat) (s : List Char) :
    value? (fuel + 1) (first :: s) = number? (first :: s) := by
  have hfirst {c : Char} {t : List Char} (hc : c ∈ ['"', '[', '\x7b', 't', 'f', 'n'])
      (heq : first :: s = c :: t) : False :=
    h ((List.cons.inj heq).1 ▸ hc)
  unfold value?
  rw [skipSpace_cons hblank]
  split
  case h_7 => rfl
  all_goals
    rename_i heq
    exact (hfirst (by decide) heq).elim

theorem value?_number {first : Char} (h : IsNumeric first) (fuel : Nat) (s : List Char) :
    value? (fuel + 1) (first :: s) = number? (first :: s) := by
  have hother : (['"', '[', '\x7b', 't', 'f', 'n'].all fun c => !decide (IsNumeric c)) = true := by
    decide
  refine value?_other h.isSpace (fun hmem => ?_) fuel s
  have hfirst := List.all_eq_true.1 hother first hmem
  simp [h] at hfirst

theorem number?_eq_none {first : Char} (h : ¬ IsNumeric first) (s : List Char) :
    number? (first :: s) = none := by
  have hdigit : isDigit first = false := by
    cases hfirst : isDigit first with
    | false => rfl
    | true => exact absurd (.inl hfirst) h
  have hplain : number? (first :: s) = magnitude? false (first :: s) := by
    unfold number?
    split
    · rename_i heq
      exact absurd (.inr (List.cons.inj heq).1) h
    · rfl
  have hdigits : digits? (first :: s) = none := by
    rw [digits?, List.takeWhile_cons_of_neg (by simp [hdigit])]
    rfl
  rw [hplain, magnitude?, whole?, hdigits]
  rfl

/-- A text that reads as a value, whatever ends it, in twice as many steps as it has characters. It
begins with neither a blank nor a closing bracket. -/
structure Reads (s : List Char) (v : Value) : Prop where
  head : ∃ first tail, s = first :: tail ∧ isSpace first = false ∧ first ≠ ']'
  value : ∀ fuel rest, 2 * s.length ≤ fuel → Ends rest → value? fuel (s ++ rest) = some (v, rest)

/-- A first step is taken, so that one can be. -/
theorem Reads.of_step {first : Char} {tail : List Char} {v : Value} (hblank : isSpace first = false)
    (hbracket : first ≠ ']')
    (h : ∀ fuel rest, 2 * (tail.length + 1) ≤ fuel + 1 → Ends rest →
      value? (fuel + 1) (first :: (tail ++ rest)) = some (v, rest)) :
    Reads (first :: tail) v where
  head := ⟨first, tail, rfl, hblank, hbracket⟩
  value fuel rest hfuel hrest := by
    rw [List.length_cons] at hfuel
    cases fuel with
    | zero => omega
    | succ fuel => exact h fuel rest hfuel hrest

theorem reads_null : Reads "null".toList .null :=
  Reads.of_step (by decide) (by decide) fun _ _ _ _ => rfl

theorem reads_bool (b : Bool) : Reads (if b then "true" else "false").toList (.bool b) := by
  cases b with
  | false => exact Reads.of_step (by decide) (by decide) fun _ _ _ _ => rfl
  | true => exact Reads.of_step (by decide) (by decide) fun _ _ _ _ => rfl

theorem reads_int (n : Int) : Reads (toString n).toList (.int n) := by
  obtain ⟨first, tail, htext, hfirst, hnumber⟩ := toList_int n
  have hbracket : first ≠ ']' := fun h => absurd (h ▸ hfirst) (by decide)
  rw [htext]
  refine Reads.of_step hfirst.isSpace hbracket fun fuel rest _ hrest => ?_
  rw [value?_number hfirst]
  exact hnumber rest hrest

theorem reads_str (s : String) : Reads (Text.jsonQuoted s).toList (.str s) := by
  rw [toList_jsonQuoted]
  refine Reads.of_step (by decide) (by decide) fun fuel rest _ _ => ?_
  rw [List.append_assoc]
  show (string? (s.toList.flatMap Text.jsonEscaped ++ '"' :: rest)).map _ = _
  rw [string?_jsonQuoted, Option.map_some]

/-! ## Lists -/

theorem items?_blanks {blanks : List Char} (h : ∀ c ∈ blanks, isSpace c = true) (fuel : Nat)
    (s : List Char) : items? fuel (blanks ++ s) = items? fuel s := by
  cases fuel with
  | zero => rfl
  | succ fuel =>
    unfold items?
    rw [value?_blanks h]

theorem ends_blanks {blanks : List Char} (h : ∀ c ∈ blanks, isSpace c = true) {rest : List Char}
    (hrest : Ends rest) : Ends (blanks ++ rest) := by
  cases blanks with
  | nil => exact hrest
  | cons c others =>
    intro d tail heq
    exact .inl ((List.cons.inj heq).1 ▸ h c List.mem_cons_self)

theorem ends_comma (rest : List Char) : Ends (',' :: rest) := fun _ _ heq =>
  .inr (.inl (List.cons.inj heq).1.symm)

theorem ends_bracket (rest : List Char) : Ends (']' :: rest) := fun _ _ heq =>
  .inr (.inr (.inl (List.cons.inj heq).1.symm))

theorem ends_brace (rest : List Char) : Ends ('\x7d' :: rest) := fun _ _ heq =>
  .inr (.inr (.inr (List.cons.inj heq).1.symm))

theorem items?_step (fuel : Nat) (s : List Char) : items? (fuel + 1) s =
    (value? fuel s).bind fun (first, rest) =>
      match skipSpace rest with
      | ']' :: rest => some ([first], rest)
      | ',' :: rest => (items? fuel rest).map fun (others, rest) => (first :: others, rest)
      | _ => none := rfl

section
variable {fuel : Nat} {s rest rest' : List Char} {v : Value}
  (hvalue : value? fuel s = some (v, rest))
include hvalue

theorem items?_last (hrest : skipSpace rest = ']' :: rest') :
    items? (fuel + 1) s = some ([v], rest') := by
  simp only [items?_step, hvalue, Option.bind_some, hrest]

theorem items?_more (hrest : skipSpace rest = ',' :: rest') : items? (fuel + 1) s =
    (items? fuel rest').map fun others => (v :: others.1, others.2) := by
  simp only [items?_step, hvalue, Option.bind_some, hrest]

end

section
variable {gap blanks : List Char} (hgap : ∀ c ∈ gap, isSpace c = true)
  (hblanks : ∀ c ∈ blanks, isSpace c = true)
include hgap hblanks

/-- Items with commas between them read back up to the bracket that closes them. -/
theorem items?_intercalate (rest : List Char) : ∀ {texts : List (List Char)} {values : List Value},
    List.Forall₂ Reads texts values → texts ≠ [] → ∀ fuel,
      2 * (List.intercalate (',' :: gap) texts).length + 1 ≤ fuel →
        items? fuel (List.intercalate (',' :: gap) texts ++ (blanks ++ ']' :: rest)) =
          some (values, rest)
  | [text], [v], .cons htext .nil, _, fuel + 1, hfuel => by
    rw [List.intercalate_singleton] at hfuel ⊢
    have hvalue := htext.value fuel (blanks ++ ']' :: rest) (by omega)
      (ends_blanks hblanks (ends_bracket rest))
    refine items?_last hvalue ?_
    rw [skipSpace_append hblanks, skipSpace_cons (by decide)]
  | text :: next :: texts, v :: w :: values, .cons htext hothers, _, fuel + 1, hfuel => by
    rw [List.intercalate_cons_cons] at hfuel ⊢
    simp only [List.length_append, List.length_cons] at hfuel
    simp only [List.append_assoc, List.cons_append]
    have hvalue := htext.value fuel (',' :: (gap ++ (List.intercalate (',' :: gap)
      (next :: texts) ++ (blanks ++ ']' :: rest)))) (by omega) (ends_comma _)
    rw [items?_more hvalue (skipSpace_cons (by decide) _), items?_blanks hgap,
      items?_intercalate rest hothers nofun fuel (by omega), Option.map_some]

end

/-! ## Members -/

/-- The text of a member, a name and a value, with the member. -/
def ReadsMember (s : List Char) (member : Value × Value) : Prop :=
  ∃ name text, s = (Text.jsonQuoted name).toList ++ ':' :: ' ' :: text ∧ member.1 = .str name ∧
    Reads text member.2

theorem ReadsMember.head {s : List Char} {member : Value × Value} (h : ReadsMember s member) :
    ∃ tail, s = '"' :: tail := by
  obtain ⟨name, text, rfl, -⟩ := h
  rw [toList_jsonQuoted]
  exact ⟨_, rfl⟩

theorem members?_blanks {blanks : List Char} (h : ∀ c ∈ blanks, isSpace c = true) (fuel : Nat)
    (s : List Char) : members? fuel (blanks ++ s) = members? fuel s := by
  cases fuel with
  | zero => rfl
  | succ fuel =>
    unfold members?
    rw [skipSpace_append h]

theorem members?_step (fuel : Nat) (s : List Char) : members? (fuel + 1) s =
    match skipSpace s with
    | '"' :: rest =>
      (string? rest).bind fun (name, rest) =>
        match skipSpace rest with
        | ':' :: rest =>
          (value? fuel rest).bind fun (first, rest) =>
            match skipSpace rest with
            | '\x7d' :: rest => some ([(.str name, first)], rest)
            | ',' :: rest =>
              (members? fuel rest).map fun (others, rest) => ((.str name, first) :: others, rest)
            | _ => none
        | _ => none
    | _ => none := rfl

/-- A member is read, and after it there are others or the end. -/
theorem members?_member {fuel : Nat} {s rest : List Char} {member : Value × Value}
    (hmember : ReadsMember s member) (hfuel : 2 * s.length ≤ fuel) (hends : Ends rest) :
    members? (fuel + 1) (s ++ rest) =
      match skipSpace rest with
      | '\x7d' :: rest => some ([member], rest)
      | ',' :: rest =>
        (members? fuel rest).map fun (others, rest) => (member :: others, rest)
      | _ => none := by
  obtain ⟨key, v⟩ := member
  obtain ⟨name, text, rfl, rfl, htext⟩ := hmember
  rw [List.length_append, List.length_cons, List.length_cons] at hfuel
  have hvalue : value? fuel (' ' :: (text ++ rest)) = some (v, rest) := by
    rw [show ' ' :: (text ++ rest) = [' '] ++ (text ++ rest) from rfl,
      value?_blanks (List.forall_mem_singleton.2 (by decide)),
      htext.value fuel rest (by omega) hends]
  have htext : (Text.jsonQuoted name).toList ++ ':' :: ' ' :: text ++ rest =
      '"' :: (name.toList.flatMap Text.jsonEscaped ++ '"' :: ':' :: ' ' :: (text ++ rest)) := by
    simp [toList_jsonQuoted]
  have hcolon : isSpace ':' = false := by decide
  rw [htext, members?_step, skipSpace_cons (by decide)]
  simp only [string?_jsonQuoted, Option.bind_some, skipSpace_cons hcolon, hvalue]

section
variable {gap blanks : List Char} (hgap : ∀ c ∈ gap, isSpace c = true)
  (hblanks : ∀ c ∈ blanks, isSpace c = true)
include hgap hblanks

/-- Members with commas between them read back up to the brace that closes them. -/
theorem members?_intercalate (rest : List Char) :
    ∀ {texts : List (List Char)} {members : List (Value × Value)},
      List.Forall₂ ReadsMember texts members → texts ≠ [] → ∀ fuel,
        2 * (List.intercalate (',' :: gap) texts).length + 1 ≤ fuel →
          members? fuel (List.intercalate (',' :: gap) texts ++ (blanks ++ '\x7d' :: rest)) =
            some (members, rest)
  | [text], [member], .cons htext .nil, _, fuel + 1, hfuel => by
    rw [List.intercalate_singleton] at hfuel ⊢
    rw [members?_member htext (by omega) (ends_blanks hblanks (ends_brace rest)),
      skipSpace_append hblanks, skipSpace_cons (by decide)]
    rfl
  | text :: next :: texts, member :: other :: members, .cons htext hothers, _, fuel + 1, hfuel => by
    rw [List.intercalate_cons_cons] at hfuel ⊢
    simp only [List.length_append, List.length_cons] at hfuel
    simp only [List.append_assoc, List.cons_append]
    rw [members?_member htext (by omega) (ends_comma _), skipSpace_cons (by decide)]
    simp only [members?_blanks hgap,
      members?_intercalate rest hothers nofun fuel (by omega), Option.map_some]

end

/-! ## Enclosed parts -/

theorem blanks_newline (layout : JsonLayout) (depth : Nat) :
    ∀ c ∈ (layout.newline depth).toList, isSpace c = true := by
  unfold JsonLayout.newline
  cases layout.indent with
  | none => exact nofun
  | some width =>
    intro c hc
    rw [String.toList_append] at hc
    rcases List.mem_append.1 hc with hc | hc
    · obtain rfl : c = '\n' := List.mem_singleton.1 hc
      rfl
    · rw [String.toList_ofList] at hc
      rw [(List.mem_replicate.1 hc).2]
      rfl

/-- The parts of a list or a mapping as they are laid out: blanks, parts with commas and blanks
between them, and blanks again. -/
theorem toList_enclose (layout : JsonLayout) (depth : Nat) {left right : String}
    {first last : Char} (hleft : left.toList = [first]) (hright : right.toList = [last])
    (items : List String) : ∃ before gap after : List Char,
      (∀ c ∈ before, isSpace c = true) ∧ (∀ c ∈ gap, isSpace c = true) ∧
      (∀ c ∈ after, isSpace c = true) ∧ (layout.enclose depth left right items).toList =
        first :: (before ++ (List.intercalate (',' :: gap) (items.map String.toList) ++
          (after ++ [last]))) := by
  unfold JsonLayout.enclose
  cases items with
  | nil => exact ⟨[], [], [], nofun, nofun, nofun, by simp [List.intercalate, hleft, hright]⟩
  | cons item items =>
    have hseparator : ∃ gap : List Char, (∀ c ∈ gap, isSpace c = true) ∧
        (if layout.indent.isSome then "," ++ layout.newline (depth + 1) else ", ").toList =
          ',' :: gap := by
      split
      · exact ⟨_, blanks_newline layout (depth + 1), by rw [String.toList_append]; rfl⟩
      · exact ⟨[' '], List.forall_mem_singleton.2 rfl, rfl⟩
    obtain ⟨gap, hgap, hseparator⟩ := hseparator
    refine ⟨_, gap, _, blanks_newline layout (depth + 1), hgap, blanks_newline layout depth, ?_⟩
    simp only [List.isEmpty_cons, Bool.false_eq_true, if_false, String.toList_append,
      String.toList_intercalate, hseparator, hleft, hright, List.append_assoc, List.cons_append,
      List.nil_append]

theorem value?_list {s : List Char} {c : Char} {tail : List Char} (hs : skipSpace s = c :: tail)
    (hc : c ≠ ']') (fuel : Nat) : value? (fuel + 1) ('[' :: s) =
      (items? fuel (c :: tail)).map fun items => (Value.list items.1, items.2) := by
  have hskip : skipSpace ('[' :: s) = '[' :: s := skipSpace_cons (by decide) s
  simp only [value?, hskip, hs]
  split
  · rename_i heq
    exact absurd (List.cons.inj heq).1 hc
  · rfl

theorem value?_map {s : List Char} {c : Char} {tail : List Char} (hs : skipSpace s = c :: tail)
    (hc : c ≠ '\x7d') (fuel : Nat) : value? (fuel + 1) ('\x7b' :: s) =
      (members? fuel (c :: tail)).map fun members =>
        (Value.map (Value.ofAssignments members.1), members.2) := by
  have hskip : skipSpace ('\x7b' :: s) = '\x7b' :: s := skipSpace_cons (by decide) s
  simp only [value?, hskip, hs]
  split
  · rename_i heq
    exact absurd (List.cons.inj heq).1 hc
  · rfl

theorem intercalate_head (separator : List Char) (first : Char) (tail : List Char)
    (texts : List (List Char)) :
    ∃ others, List.intercalate separator ((first :: tail) :: texts) = first :: others := by
  cases texts with
  | nil => exact ⟨tail, List.intercalate_singleton⟩
  | cons next texts => exact ⟨_, List.intercalate_cons_cons⟩

/-- An enclosed text reads as a value if it does so where there are no parts and where there are
some, whichever blanks are around them. -/
theorem reads_enclose (layout : JsonLayout) (depth : Nat) {left right : String}
    {opening closing : Char} (hleft : left.toList = [opening]) (hright : right.toList = [closing])
    (hblank : isSpace opening = false) (hbracket : opening ≠ ']')
    (hclosing : isSpace closing = false)
    {texts : List String} {v : Value}
    (hnone : texts = [] → ∀ fuel s rest, skipSpace s = closing :: rest →
      value? (fuel + 1) (opening :: s) = some (v, rest))
    (hsome : texts ≠ [] → ∀ gap after : List Char, (∀ c ∈ gap, isSpace c = true) →
      (∀ c ∈ after, isSpace c = true) → ∀ fuel s rest,
        2 * (List.intercalate (',' :: gap) (texts.map String.toList)).length + 1 ≤ fuel →
        skipSpace s = skipSpace (List.intercalate (',' :: gap) (texts.map String.toList) ++
          (after ++ closing :: rest)) →
        value? (fuel + 1) (opening :: s) = some (v, rest)) :
    Reads (layout.enclose depth left right texts).toList v := by
  obtain ⟨before, gap, after, hbefore, hgap, hafter, htext⟩ :=
    toList_enclose layout depth hleft hright texts
  rw [htext]
  refine Reads.of_step hblank hbracket fun fuel rest hfuel _ => ?_
  simp only [List.length_append, List.length_singleton] at hfuel
  simp only [List.append_assoc, List.singleton_append]
  by_cases htexts : texts = []
  · refine hnone htexts fuel _ rest ?_
    rw [htexts, skipSpace_append hbefore]
    show skipSpace (after ++ closing :: rest) = _
    rw [skipSpace_append hafter, skipSpace_cons hclosing]
  · exact hsome htexts gap after hgap hafter fuel _ rest (by omega) (skipSpace_append hbefore _)

theorem reads_list (layout : JsonLayout) (depth : Nat) {texts : List String} {values : List Value}
    (h : List.Forall₂ Reads (texts.map String.toList) values) :
    Reads (layout.enclose depth "[" "]" texts).toList (.list values) := by
  refine reads_enclose layout depth (show "[".toList = ['['] from rfl)
    (show "]".toList = [']'] from rfl) (by decide) (by decide) (by decide)
    (fun htexts fuel s rest hs => ?_) fun htexts gap after hgap hafter fuel s rest hfuel hs => ?_
  · rw [htexts] at h
    cases h
    have hskip : skipSpace ('[' :: s) = '[' :: s := skipSpace_cons (by decide) s
    simp only [value?, hskip, hs]
  · have hlists : texts.map String.toList ≠ [] := fun hnil => htexts (List.map_eq_nil_iff.1 hnil)
    generalize texts.map String.toList = lists at h hlists hfuel hs
    have hitems := items?_intercalate hgap hafter rest h hlists fuel hfuel
    cases h with
    | nil => exact absurd rfl hlists
    | cons hfirst hothers =>
      obtain ⟨first, tail, rfl, hblank, hbracket⟩ := hfirst.head
      obtain ⟨others, hjoined⟩ := intercalate_head (',' :: gap) first tail _
      rw [hjoined, List.cons_append] at hitems hs
      rw [value?_list (hs.trans (skipSpace_cons hblank _)) hbracket, hitems,
        Option.map_some]

theorem reads_map (layout : JsonLayout) (depth : Nat) {texts : List String}
    {entries : List (Value × Value)} {names : List String}
    (hnames : entries.map (·.1) = names.map .str) (hnodup : names.Nodup)
    (h : List.Forall₂ ReadsMember (texts.map String.toList) entries) :
    Reads (layout.enclose depth "\x7b" "\x7d" texts).toList (.map entries) := by
  refine reads_enclose layout depth (show "\x7b".toList = ['\x7b'] from rfl)
    (show "\x7d".toList = ['\x7d'] from rfl) (by decide) (by decide) (by decide)
    (fun htexts fuel s rest hs => ?_) fun htexts gap after hgap hafter fuel s rest hfuel hs => ?_
  · rw [htexts] at h
    cases h
    have hskip : skipSpace ('\x7b' :: s) = '\x7b' :: s := skipSpace_cons (by decide) s
    simp only [value?, hskip, hs]
  · have hlists : texts.map String.toList ≠ [] := fun hnil => htexts (List.map_eq_nil_iff.1 hnil)
    generalize texts.map String.toList = lists at h hlists hfuel hs
    have hmembers := members?_intercalate hgap hafter rest h hlists fuel hfuel
    cases h with
    | nil => exact absurd rfl hlists
    | cons hfirst hothers =>
      obtain ⟨tail, rfl⟩ := hfirst.head
      obtain ⟨others, hjoined⟩ := intercalate_head (',' :: gap) '"' tail _
      rw [hjoined, List.cons_append] at hmembers hs
      rw [value?_map (hs.trans (skipSpace_cons (by decide) _)) (by decide), hmembers,
        Option.map_some, Value.ofAssignments_eq hnames hnodup]

end JsonReader

namespace Value

open JsonReader

/-! ## Text -/

theorem reads_jsonItems {layout : JsonLayout} {depth : Nat} :
    ∀ {items : List Value} {texts : List String},
      (∀ v ∈ items, ∀ text, v.jsonAt layout depth = some text → Reads text.toList v) →
      jsonItems layout depth items = some texts →
        List.Forall₂ Reads (texts.map String.toList) items
  | [], _, _, h => by
    obtain rfl := Option.some.inj h
    exact .nil
  | v :: items, _, hreads, h => by
    obtain ⟨first, hfirst, h⟩ := Option.bind_eq_some_iff.1 h
    obtain ⟨others, hothers, h⟩ := Option.bind_eq_some_iff.1 h
    obtain rfl := Option.some.inj h
    obtain ⟨hv, hitems⟩ := List.forall_mem_cons.1 hreads
    exact .cons (hv first hfirst) (reads_jsonItems hitems hothers)

theorem reads_jsonEntries {layout : JsonLayout} {depth : Nat} :
    ∀ {entries : List (Value × Value)} {names : List String} {written : List (Value × String)},
      entries.map (·.1) = names.map .str →
      (∀ entry ∈ entries, ∀ text, entry.2.jsonAt layout depth = some text →
        Reads text.toList entry.2) →
      jsonEntries layout depth entries = some written →
        List.Forall₂ ReadsMember ((written.map (·.2)).map String.toList) entries
  | [], _, _, _, _, h => by
    obtain rfl := Option.some.inj h
    exact .nil
  | (key, v) :: entries, names, _, hnames, hreads, h => by
    obtain ⟨name, rest, rfl, rfl, hrest⟩ := List.map_eq_cons_iff.1 hnames.symm
    obtain ⟨text, htext, h⟩ := Option.bind_eq_some_iff.1 h
    obtain ⟨others, hothers, h⟩ := Option.bind_eq_some_iff.1 h
    obtain rfl := Option.some.inj h
    obtain ⟨hv, hentries⟩ := List.forall_mem_cons.1 hreads
    refine .cons ⟨name, text.toList, ?_, rfl, hv text htext⟩
      (reads_jsonEntries hrest.symm hentries hothers)
    simp [String.toList_append]

/-- JSON text without sorted keys reads back as what it was written for. -/
theorem reads_jsonAt {layout : JsonLayout} (hkeys : layout.sortKeys = false) {v : Value}
    (hv : v.IsExact) {depth : Nat} {text : String} (h : v.jsonAt layout depth = some text) :
    Reads text.toList v := by
  induction hv generalizing depth text with
  | null =>
    obtain rfl := Option.some.inj h
    exact reads_null
  | bool b =>
    obtain rfl := Option.some.inj h
    exact reads_bool b
  | int n =>
    obtain rfl := Option.some.inj h
    exact reads_int n
  | str s =>
    obtain rfl := Option.some.inj h
    exact reads_str s
  | list _ ih =>
    obtain ⟨texts, htexts, rfl⟩ := Option.map_eq_some_iff.1 h
    exact reads_list layout depth (reads_jsonItems (fun v hv _ => ih v hv) htexts)
  | map hnames hnodup _ ih =>
    rw [jsonAt_map, hkeys] at h
    obtain ⟨written, hwritten, h⟩ := Option.bind_eq_some_iff.1 h
    obtain rfl := Option.some.inj h
    exact reads_map layout depth hnames hnodup
      (reads_jsonEntries hnames (fun entry hentry _ => ih entry hentry) hwritten)

/-- The text of a document is the document's again, with a line end after it or without one. -/
theorem ofJson?_of_json? {layout : JsonLayout} (hkeys : layout.sortKeys = false) {v : Value}
    (hv : v.IsExact) {text : String} (h : v.json? layout = some text) :
    ofJson? (text ++ "\n") = some v := by
  have hends : Ends ['\n'] := fun _ _ heq => .inl ((List.cons.inj heq).1 ▸ rfl)
  have hvalue := (reads_jsonAt hkeys hv h).value (2 * (text.toList ++ ['\n']).length + 2) ['\n']
    (by rw [List.length_append]; omega) hends
  have htext : (text ++ "\n").toList = text.toList ++ ['\n'] := String.toList_append
  rw [← htext] at hvalue
  unfold ofJson?
  simp only [hvalue]
  rfl

/-- A text whose first character begins no value is no document. -/
theorem ofJson?_eq_none {text : String} {first : Char} {tail : List Char}
    (htext : text.toList = first :: tail) (hblank : isSpace first = false)
    (h : first ∉ ['"', '[', '\x7b', 't', 'f', 'n']) (hnumber : ¬ IsNumeric first) :
    ofJson? text = none := by
  have hvalue : value? (2 * text.toList.length + 1 + 1) text.toList = none := by
    rw [htext, value?_other hblank h, number?_eq_none hnumber]
  unfold ofJson?
  simp only [hvalue]

end Value

end Conform
